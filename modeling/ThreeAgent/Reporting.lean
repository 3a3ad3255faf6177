/-
The reporting slot of one day (`report_orchestrator.py`, `nas_archive.py`,
`receipts.py`, `ReportRunLock` and `write_report_bundle` of `reporting.py`,
`report_state.py`): `run_reporting_cycle` and `retry_pending_archive` as sequences
of their effects on the spool directory, the NAS and the receipt tables, one
effect a step, so that a process can stop between any two of them.

A directory is its files and their bytes. What is left to the environment of a
step: the report that the monitoring store gives, the clock, whether the NAS is
mounted and whether a copy fails. The temporary directories that a stopped
process leaves behind are not kept: a later one deletes a directory of its own
name and reads no other. `recorded` and `built` are histories that no code reads.
-/
import ThreeAgent.HourlyRuns
import ThreeAgent.Lib.Dict
import ThreeAgent.Lib.Lines

namespace ThreeAgent.SecurityMonitoring

open PyText Outcome

/-! ## Periods and receipts -/

/-- `PERIOD_KINDS`. -/
inductive PeriodKind where
  | daily
  | weekly
  | monthly
  deriving DecidableEq, Repr

def PeriodKind.text : PeriodKind → String
  | .daily => "daily"
  | .weekly => "weekly"
  | .monthly => "monthly"

/-- A kind and a key. -/
abbrev Period := PeriodKind × String

/-- The statuses of a report that a cycle writes. -/
inductive ReportStatus where
  | completed
  | pendingNas
  deriving DecidableEq, Repr

/-- The statuses of an archive that the archiving writes. -/
inductive ArchiveStatus where
  | archived
  | pendingNas
  deriving DecidableEq, Repr

/-- The text of a time with an offset, as `isoformat` writes it. -/
def IsoText [PyTime] := { t : String // ∀ fieldName, isoTimestamp t fieldName = .ok t }

/-- The texts that `strftime` and `isocalendar` make of a day. -/
structure ReportDay where
  /-- `%Y%m%d`. -/
  stamp : String
  /-- `%Y-%m-%d`. -/
  daily : String
  /-- `f"{iso_year}-W{iso_week:02d}"`, on a Sunday. -/
  weekly : Option String
  /-- `%Y-%m`, on the last day of a month. -/
  monthly : Option String
  plain : ∀ t ∈ stamp :: daily :: (weekly.toList ++ monthly.toList),
    t.toList.head?.any isAsciiAlnum = true ∧ t.toList.length ≤ 16 ∧ ∀ c ∈ t.toList, isAsciiAlnum c = true ∨ c = '-'

namespace ReportDay

variable (d : ReportDay)

/-- `report_id`. -/
def reportId : String := "report-" ++ d.stamp ++ "-1730"

/-- `_period_keys`. -/
def periods : List Period :=
  (.daily, d.daily) :: (d.weekly.toList.map fun k => (.weekly, k)) ++ d.monthly.toList.map fun k => (.monthly, k)

end ReportDay

structure ReportReceipt (F : Type) where
  reportId : String
  periodKind : PeriodKind
  periodKey : String
  cutoffAt : String
  status : ReportStatus
  coveragePct : F
  bundleRef : String
  manifestSha256 : String
  evidenceRefs : List String
  aiStatus : String
  archiveStatus : ArchiveStatus
  deriving DecidableEq, Repr

structure ArchiveReceipt where
  archiveId : String
  periodKind : PeriodKind
  periodKey : String
  status : ArchiveStatus
  bundleRef : String
  manifestSha256 : String
  attempt : Nat
  updatedAt : String
  failureCode : Option String
  deriving DecidableEq, Repr

section Receipts

variable {F : Type} [PyTime] [PyPercent F]

/-- `ReportReceipt.validate`; the kinds and the statuses are by their types. -/
def ReportReceipt.validate (r : ReportReceipt F) : Except Raised (ReportReceipt F) := do
  let reportId ← compact r.reportId "report_id" 128
  let periodKey ← compact r.periodKey "period_key" 128
  let cutoffAt ← isoTimestamp r.cutoffAt "cutoff_at"
  require (PyPercent.within r.coveragePct = true) (contractError "coverage_pct must be within [0,100]")
  let bundleRef ← compact r.bundleRef "bundle_ref" 256
  let manifestSha256 ← fingerprintText r.manifestSha256 "manifest_sha256 must be a SHA-256 fingerprint"
  let evidenceRefs ← r.evidenceRefs.mapM fun v => compact v "evidence_ref" 256
  require (r.aiStatus ∈ ["not_requested", "valid", "unavailable", "invalid", "fallback"])
    (contractError "unsupported ai_status")
  return { r with reportId, periodKey, cutoffAt, bundleRef, manifestSha256, evidenceRefs }

omit [PyPercent F] in
/-- `ArchiveReceipt.validate`. -/
def ArchiveReceipt.validate (a : ArchiveReceipt) : Except Raised ArchiveReceipt := do
  let archiveId ← compact a.archiveId "archive_id" 128
  let periodKey ← compact a.periodKey "period_key" 128
  let bundleRef ← compact a.bundleRef "bundle_ref" 256
  let manifestSha256 ← fingerprintText a.manifestSha256 "manifest_sha256 must be a SHA-256 fingerprint"
  require (1 ≤ a.attempt) (contractError "archive attempt must be >= 1")
  let updatedAt ← isoTimestamp a.updatedAt "updated_at"
  let failureCode ← a.failureCode.mapM fun v => compact v "failure_code" 96
  return { a with archiveId, periodKey, bundleRef, manifestSha256, updatedAt, failureCode }

end Receipts

/-! ## Bundles -/

/-- The files of a directory, by name. -/
abbrev Directory := PyDict.Dict (List Nat)

/-- `_sha256_file`. -/
def sha256File (content : List Nat) : String := "sha256:" ++ String.ofList (Sha256.digest content)

/-- How `report.json` is read: its evidence references and its average coverage, or an exception. -/
class ReportReader (F : Type) where
  read : List Nat → Except Raised (List String × Option F)

/-- A report and the files that are written of it; `report.json` reads back as what was written. -/
structure DayReport (F : Type) [ReportReader F] where
  markdown : List Nat
  json : List Nat
  metrics : List Nat
  findings : List Nat
  evidenceRefs : List String
  averageCoveragePct : Option F
  readable : ReportReader.read json = .ok (evidenceRefs, averageCoveragePct)

structure ReportBundle (F : Type) where
  reportId : String
  manifestSha256 : String
  evidenceRefs : List String
  coveragePct : F

/-- A line of the manifest: the digest and the name. -/
def manifestLine (entry : String × List Nat) : List Char :=
  Sha256.digest entry.2 ++ [' ', ' '] ++ entry.1.toList

/-- The text of `manifest.sha256`. -/
def manifestText (files : Directory) : List Char := files.flatMap fun e => manifestLine e ++ ['\n']

/-- The bytes of an ASCII text. -/
def asciiBytes (cs : List Char) : List Nat := cs.map Char.toNat

namespace DayReport

variable {F : Type} [ReportReader F] [PyPercent F] (r : DayReport F)

/-- The four files, in the order of the manifest. -/
def files : Directory :=
  [("report.md", r.markdown), ("report.json", r.json), ("metrics-summary.csv", r.metrics),
   ("findings.jsonl.gz", r.findings)]

/-- The directory that `write_report_bundle` puts in place. -/
def directory : Directory := r.files ++ [("manifest.sha256", asciiBytes (manifestText r.files))]

/-- The bundle that `write_report_bundle` returns. -/
def bundle (reportId : String) : ReportBundle F where
  reportId := reportId
  manifestSha256 := sha256File (asciiBytes (manifestText r.files))
  evidenceRefs := r.evidenceRefs
  coveragePct := r.averageCoveragePct.getD PyPercent.zero

end DayReport

/-- `load_existing_bundle`. -/
def loadExistingBundle {F : Type} [ReportReader F] [PyPercent F] (reportId : String) (path : Option Directory) :
    Except Raised (ReportBundle F) := do
  let (manifest, json) ← orRaise
    (do let dir ← path
        let manifest ← PyDict.get? dir "manifest.sha256"
        let json ← PyDict.get? dir "report.json"
        return (manifest, json))
    (contractError "existing report bundle is incomplete")
  let (evidenceRefs, coverage) ← ReportReader.read json
  return { reportId, manifestSha256 := sha256File manifest, evidenceRefs, coveragePct := coverage.getD PyPercent.zero }

/-- `line.split("  ", 1)`, when the separator is there. -/
def splitEntry : List Char → Option (List Char × List Char)
  | ' ' :: ' ' :: rest => some ([], rest)
  | c :: cs => (splitEntry cs).map fun p => (c :: p.1, p.2)
  | [] => none

/-- One line of the manifest: the file's name and its fingerprint. -/
def manifestEntry (line : List Char) : Except Raised (String × String) := do
  let (digest, name) ← orRaise ((splitEntry line).filter (·.1.length = 64))
    (contractError "invalid report manifest entry")
  require ((lower (String.ofList digest)).toList.all Sha256.isHexDigit = true)
    (contractError "invalid report manifest digest")
  require (name ≠ [] ∧ '/' ∉ name ∧ name.head? ≠ some '.') (contractError "unsafe report manifest path")
  return (String.ofList name, "sha256:" ++ lower (String.ofList digest))

/-- `_manifest_entries`. -/
def manifestEntries (dir : Directory) : Except Raised (List (String × String)) := do
  let content ← orRaise (PyDict.get? dir "manifest.sha256") (contractError "report manifest is missing or unsafe")
  require (∀ b ∈ content, b < 128) ⟨.unicodeError, "'ascii' codec can't decode byte"⟩
  (splitlines (content.map Char.ofNat)).mapM manifestEntry

/-- `max_files_per_archive` and `max_bundle_bytes`. -/
def maxFilesPerArchive : Nat := 16
def maxBundleBytes : Nat := 128 * 1024 * 1024

/-- `FileNotFoundError`. -/
def fileMissing (name : String) : Raised := ⟨.osError, "No such file or directory: " ++ name⟩

/-- One file of a bundle: there, within what is left of the byte budget, and with its fingerprint. -/
def verifyFile (dir : Directory) (totalBytes : Nat) (entry : String × String) : Except Raised Nat := do
  let content ← orRaise (PyDict.get? dir entry.1) (contractError "report bundle contains missing/unsafe file")
  require (totalBytes + content.length ≤ maxBundleBytes) (contractError "report bundle exceeds archive byte budget")
  require (sha256File content = entry.2) (contractError "report bundle hash verification failed")
  return totalBytes + content.length

/-- `verify_report_bundle`. -/
def verifyReportBundle {F : Type} (bundle : ReportBundle F) (path : Option Directory) :
    Except Raised (List (String × String)) := do
  let dir ← orRaise path (contractError "report bundle path is missing or unsafe")
  let entries ← manifestEntries dir
  require (entries ≠ [] ∧ entries.length ≤ maxFilesPerArchive)
    (contractError "report bundle file count exceeds archive policy")
  let _ ← entries.foldlM (verifyFile dir) 0
  let manifest ← orRaise (PyDict.get? dir "manifest.sha256") (fileMissing "manifest.sha256")
  require (sha256File manifest = bundle.manifestSha256) (contractError "manifest digest mismatch")
  return entries

/-- The check of an archive that is there already. -/
def checkArchive {F : Type} (bundle : ReportBundle F) (entries : List (String × String)) (archive : Directory) :
    Except Raised Unit := do
  require (∀ e ∈ entries, (PyDict.get? archive e.1).map sha256File = some e.2)
    (contractError "existing NAS archive does not match validated bundle")
  let manifest ← orRaise (PyDict.get? archive "manifest.sha256") (fileMissing "manifest.sha256")
  require (sha256File manifest = bundle.manifestSha256)
    (contractError "existing NAS manifest does not match validated bundle")

/-! ## The slot of a day -/

/-- What the calls of one day read and write, and the histories of what was recorded and built. -/
structure ReportState (F : Type) where
  /-- `.locks/daily-….lock` exists. -/
  lock : Bool := false
  /-- `spool_root / report_id`. -/
  bundle : Option Directory := none
  /-- `nas_root / period_kind / period_key / report_id`. -/
  nas : Period → Option Directory := fun _ => none
  archives : List ArchiveReceipt := []
  reports : List (ReportReceipt F) := []
  recorded : List ArchiveReceipt := []
  built : List Directory := []

section Store

variable {F : Type} [PyTime] [PyPercent F]

/-- The columns that `put_report` sets in a row that is there. -/
def ReportReceipt.updated (row r : ReportReceipt F) : ReportReceipt F :=
  { row with status := r.status, coveragePct := r.coveragePct, bundleRef := r.bundleRef
             manifestSha256 := r.manifestSha256, evidenceRefs := r.evidenceRefs, aiStatus := r.aiStatus
             archiveStatus := r.archiveStatus }

/-- The columns that `put_archive` sets in a row that is there. -/
def ArchiveReceipt.updated (row a : ArchiveReceipt) : ArchiveReceipt :=
  { row with status := a.status, bundleRef := a.bundleRef, manifestSha256 := a.manifestSha256
             updatedAt := a.updatedAt }

namespace ReportState

variable (s : ReportState F)

/-- `put_report`. -/
def putReport (receipt : ReportReceipt F) : Except Raised (ReportState F) := do
  let r ← receipt.validate
  if ∃ row ∈ s.reports, row.reportId = r.reportId then
    return { s with reports := s.reports.map fun row => if row.reportId = r.reportId then row.updated r else row }
  else return { s with reports := s.reports ++ [r] }

omit [PyPercent F] in
/-- `put_archive`. -/
def putArchive (receipt : ArchiveReceipt) : Except Raised (ReportState F) := do
  let a ← receipt.validate
  let s := { s with recorded := s.recorded ++ [a] }
  if ∃ row ∈ s.archives, row.archiveId = a.archiveId then
    return { s with archives := s.archives.map fun row => if row.archiveId = a.archiveId then row.updated a else row }
  else do
    require (∀ row ∈ s.archives, ¬ (row.periodKind = a.periodKind ∧ row.periodKey = a.periodKey ∧ row.attempt = a.attempt))
      ⟨.integrityError, "UNIQUE constraint failed: archive_receipts.period_kind, archive_receipts.period_key, " ++
        "archive_receipts.attempt"⟩
    return { s with archives := s.archives ++ [a] }

end ReportState

end Store

/-! ## The calls -/

/-- `cutoff`, in Tokyo. -/
structure Cutoff [PyTime] where
  text : IsoText
  hour : Nat
  minute : Nat

inductive ReportRequest [PyTime] where
  /-- `run_reporting_cycle`. -/
  | cycle (cutoff : Cutoff)
  /-- `retry_pending_archive`. -/
  | retry (period : Period) (attempt : Nat)

/-- What a call returns. -/
inductive ReportResult (F : Type) where
  | receipts (receipts : List (ReportReceipt F))
  | archive (archive : ArchiveReceipt)

/-- The archiving of the first of the periods that are left: the bundle, the attempt and the receipts so far. -/
structure ArchiveJob (F : Type) where
  bundle : ReportBundle F
  period : Period
  later : List Period
  attempt : Nat
  receipts : List (ReportReceipt F)

inductive ReportPhase (F : Type) where
  | ready
  /-- The lock file is there. -/
  | locked
  | archiving (job : ArchiveJob F)
  /-- The files still to copy, and the temporary directory. -/
  | copying (job : ArchiveJob F) (entries : List (String × String)) (temp : Directory)
  /-- The manifest is copied: `os.replace` is next. -/
  | replacing (job : ArchiveJob F) (temp : Directory)
  /-- The archive receipt is there, but not stored. -/
  | archived (job : ArchiveJob F) (archive : ArchiveReceipt)
  /-- It is stored: the report receipt is next. -/
  | reporting (job : ArchiveJob F) (archive : ArchiveReceipt)
  /-- `__exit__`. -/
  | unlocking (result : Except Raised (ReportResult F))
  | done (result : Except Raised (ReportResult F))

/-- What a step takes from its environment. -/
structure ReportMoment (F : Type) [PyTime] [ReportReader F] where
  /-- `build_deterministic_report`, written out. -/
  report : Except Raised (DayReport F)
  now : IsoText
  /-- `_nas_mount_ready`. -/
  mounted : Bool
  /-- A failure of the file system under the NAS. -/
  failure : Option Raised

/-- `ReportingConfig`, as far as a call reads it. -/
structure ReportingConfig where
  enabled : Bool := true
  maxArchiveAttemptsPerRun : Nat := 4

/-- `ReportAlreadyLocked`, a `RuntimeError`. -/
def slotAlreadyLocked : Raised := ⟨.runtimeError, "REPORT_SLOT_ALREADY_LOCKED"⟩

section Calls

variable {F : Type} [PyTime] [PyPercent F] [ReportReader F]

/-- The archive receipt of a job. -/
def archiveReceipt (day : ReportDay) (job : ArchiveJob F) (now : IsoText) (status : ArchiveStatus) :
    Except Raised ArchiveReceipt :=
  ArchiveReceipt.validate
    { archiveId := "archive-" ++ job.period.1.text ++ "-" ++ job.period.2 ++ "-" ++ toString job.attempt
      periodKind := job.period.1
      periodKey := job.period.2
      status := status
      bundleRef := match status with
        | .archived => "nas/" ++ job.period.1.text ++ "/" ++ job.period.2 ++ "/" ++ day.reportId
        | .pendingNas => "spool/" ++ day.reportId
      manifestSha256 := job.bundle.manifestSha256
      attempt := job.attempt
      updatedAt := now.1
      failureCode := match status with
        | .archived => none
        | .pendingNas => some "NAS_UNAVAILABLE" }

/-- The report receipt of a cycle's job. -/
def reportReceipt (day : ReportDay) (job : ArchiveJob F) (cutoff : Cutoff) (archive : ArchiveReceipt) :
    Except Raised (ReportReceipt F) :=
  ReportReceipt.validate
    { reportId := day.reportId ++ "-" ++ job.period.1.text
      periodKind := job.period.1
      periodKey := job.period.2
      cutoffAt := cutoff.text.1
      status := match archive.status with
        | .archived => .completed
        | .pendingNas => .pendingNas
      coveragePct := job.bundle.coveragePct
      bundleRef := "spool/" ++ day.reportId
      manifestSha256 := job.bundle.manifestSha256
      evidenceRefs := job.bundle.evidenceRefs
      aiStatus := "not_requested"
      archiveStatus := archive.status }

/-- A raise: through `__exit__` in a cycle that has its lock. -/
def raiseFrom (request : ReportRequest) (e : Raised) : ReportPhase F :=
  match request with
  | .cycle _ => .unlocking (.error e)
  | .retry _ _ => .done (.error e)

/-- The next phase of a computation without effect, or the raise. -/
def orRaiseFrom {α : Type} (request : ReportRequest) (x : Except Raised α) (next : α → ReportPhase F) : ReportPhase F :=
  match x with
  | .ok a => next a
  | .error e => raiseFrom request e

/-- The next period of a cycle, or the return. -/
def nextPeriod (bundle : ReportBundle F) (receipts : List (ReportReceipt F)) : List Period → ReportPhase F
  | [] => .unlocking (.ok (.receipts receipts))
  | period :: later => .archiving ⟨bundle, period, later, 1, receipts⟩

/-- The start of `run_reporting_cycle`, up to the lock. -/
def beginCycle (config : ReportingConfig) (cutoff : Cutoff) (s : ReportState F) : ReportState F × ReportPhase F :=
  if config.enabled = false then (s, .done (.error ⟨.runtimeError, "REPORTING_DISABLED"⟩))
  else if ¬ (cutoff.hour = 17 ∧ cutoff.minute = 30) then
    (s, .done (.error (contractError "report cutoff must be the configured 17:30 slot")))
  else if s.lock = true then (s, .done (.error slotAlreadyLocked))
  else ({ s with lock := true }, .locked)

/-- The start of `retry_pending_archive`. -/
def beginRetry (config : ReportingConfig) (day : ReportDay) (period : Period) (attempt : Nat) (s : ReportState F) :
    Except Raised (ArchiveJob F) := do
  require (1 ≤ attempt ∧ attempt ≤ config.maxArchiveAttemptsPerRun)
    (contractError "archive retry attempt exceeds configured bound")
  let bundle ← loadExistingBundle day.reportId s.bundle
  return ⟨bundle, period, [], attempt, []⟩

/-- The bundle of a cycle: the one that is there, else one built, written and put in place. -/
def obtainBundle (day : ReportDay) (moment : ReportMoment F) (s : ReportState F) :
    Except Raised (ReportState F × ReportBundle F) :=
  match s.bundle with
  | some _ => do
    let bundle ← loadExistingBundle day.reportId s.bundle
    return (s, bundle)
  | none => do
    let report ← moment.report
    return ({ s with bundle := some report.directory, built := s.built ++ [report.directory] }, report.bundle day.reportId)

/-- `archive_existing_bundle` up to the copy. -/
def beginArchive (day : ReportDay) (moment : ReportMoment F) (s : ReportState F) (job : ArchiveJob F) :
    Except Raised (ReportPhase F) := do
  let entries ← verifyReportBundle job.bundle s.bundle
  if moment.mounted = false then
    let receipt ← archiveReceipt day job moment.now .pendingNas
    return .archived job receipt
  else
    match s.nas job.period with
    | some archive =>
      checkArchive job.bundle entries archive
      let receipt ← archiveReceipt day job moment.now .archived
      return .archived job receipt
    | none =>
      match moment.failure with
      | some e => throw e
      | none => return .copying job entries []

/-- `shutil.copyfile` of one file and the check of the copy. -/
def copyFile (moment : ReportMoment F) (s : ReportState F) (temp : Directory) (entry : String × String)
    (mismatch : String) : Except Raised Directory :=
  match moment.failure with
  | some e => .error e
  | none => do
    let content ← orRaise (s.bundle.bind fun dir => PyDict.get? dir entry.1) (fileMissing entry.1)
    require (sha256File content = entry.2) (contractError mismatch)
    return PyDict.set temp entry.1 content

/-- The next effect of a call. -/
def reportAct (config : ReportingConfig) (day : ReportDay) (moment : ReportMoment F) (s : ReportState F)
    (request : ReportRequest) : ReportPhase F → ReportState F × ReportPhase F
  | .ready =>
    match request with
    | .cycle cutoff => beginCycle config cutoff s
    | .retry period attempt => (s, orRaiseFrom request (beginRetry config day period attempt s) .archiving)
  | .locked =>
    match obtainBundle day moment s with
    | .ok (s', bundle) => (s', nextPeriod bundle [] day.periods)
    | .error e => (s, raiseFrom request e)
  | .archiving job => (s, orRaiseFrom request (beginArchive day moment s job) id)
  | .copying job [] temp =>
    (s, orRaiseFrom request
      (copyFile moment s temp ("manifest.sha256", job.bundle.manifestSha256) "NAS manifest copy hash mismatch")
      fun temp' => .replacing job temp')
  | .copying job (entry :: entries) temp =>
    (s, orRaiseFrom request (copyFile moment s temp entry "NAS copied file hash mismatch")
      fun temp' => .copying job entries temp')
  | .replacing job temp =>
    match moment.failure with
    | some e => (s, raiseFrom request e)
    | none =>
      ({ s with nas := Function.update s.nas job.period (some temp) },
        orRaiseFrom request (archiveReceipt day job moment.now .archived) fun archive => .archived job archive)
  | .archived job archive =>
    match s.putArchive archive with
    | .error e => (s, raiseFrom request e)
    | .ok s' =>
      match request with
      | .cycle _ => (s', .reporting job archive)
      | .retry _ _ => (s', .done (.ok (.archive archive)))
  | .reporting job archive =>
    match request with
    | .retry _ _ => (s, .done (.ok (.archive archive)))
    | .cycle cutoff =>
      match (do let receipt ← reportReceipt day job cutoff archive
                let s' ← s.putReport receipt
                return (s', receipt) : Except Raised (ReportState F × ReportReceipt F)) with
      | .ok (s', receipt) => (s', nextPeriod job.bundle (job.receipts ++ [receipt]) job.later)
      | .error e => (s, raiseFrom request e)
  | .unlocking result => ({ s with lock := false }, .done result)
  | .done result => (s, .done result)

/-- The state and the call in progress, if there is one. -/
structure ReportWorld (F : Type) [PyTime] where
  state : ReportState F := {}
  call : Option (ReportRequest × ReportPhase F) := none

inductive ReportEvent (F : Type) [PyTime] [ReportReader F] where
  | call (request : ReportRequest)
  | step (moment : ReportMoment F)
  /-- The process stops. -/
  | stop

/-- A call is over when it has returned or raised. -/
def ReportWorld.Idle (w : ReportWorld F) : Prop := ∀ c ∈ w.call, ∃ result, c.2 = .done result

/-- The calls come one after another: a call in progress runs on. -/
def ReportWorld.after (config : ReportingConfig) (day : ReportDay) (w : ReportWorld F) : ReportEvent F → ReportWorld F
  | .call request =>
    match w.call with
    | some (_, .done _) => { w with call := some (request, .ready) }
    | none => { w with call := some (request, .ready) }
    | some c => { w with call := some c }
  | .step moment =>
    match w.call with
    | none => w
    | some (request, phase) =>
      let (s, phase') := reportAct config day moment w.state request phase
      ⟨s, some (request, phase')⟩
  | .stop => { w with call := none }

end Calls

end ThreeAgent.SecurityMonitoring
