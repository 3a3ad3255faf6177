/-
When the receipts of a report slot tell the truth (`report_orchestrator.py`).

Most of it holds of every run: the bundle is built once and kept, an archive on
the NAS is complete, and a cycle whose lock file is free returns. What it takes
beyond that is the condition: no process stops while a cycle has the lock file,
no cycle records a pending archive of a period that is archived, and no retry
records the archive of a period whose report receipt waits for it.
-/
import ThreeAgent.Reporting
import ThreeAgent.HourlyRunsFacts

namespace ThreeAgent

variable {c : Char} {entry : String × List Nat}
  {periodKey bundleRef manifestSha256 : String} {e : Raised} {content : List Nat}

namespace SecurityMonitoring

open PyText Outcome PyDict Sha256

variable {dir archive : Directory} {p : Period}

variable {reportId : String} {entries : List (String × String)} {a a' : ArchiveReceipt} {periods : List Period}
  {temp : Directory}

/-! ## Texts -/

/-- A character of the identifiers of a report: neither white space nor a colon. -/
def isSlotChar (c : Char) : Bool := isAsciiAlnum c || c == '-' || c == '/' || c == '_'

theorem isAsciiAlnum_range (h : isAsciiAlnum c = true) : 48 ≤ c.toNat ∧ c.toNat ≤ 122 ∧ c ≠ ':' := by
  simp only [isAsciiAlnum, Bool.or_eq_true, Bool.and_eq_true, decide_eq_true_eq] at h
  have hn : c.toNat ≠ 58 → c ≠ ':' := by
    intro hne heq
    subst heq
    exact hne (by decide)
  rcases h with (⟨hlo, hhi⟩ | ⟨hlo, hhi⟩) | ⟨hlo, hhi⟩
  · have hlo' : 65 ≤ c.toNat := hlo
    have hhi' : c.toNat ≤ 90 := hhi
    exact ⟨by omega, by omega, hn (by omega)⟩
  · have hlo' : 97 ≤ c.toNat := hlo
    have hhi' : c.toNat ≤ 122 := hhi
    exact ⟨by omega, by omega, hn (by omega)⟩
  · have hlo' : 48 ≤ c.toNat := hlo
    have hhi' : c.toNat ≤ 57 := hhi
    exact ⟨by omega, by omega, hn (by omega)⟩

theorem isSlotChar_range (h : isSlotChar c = true) : 45 ≤ c.toNat ∧ c.toNat ≤ 122 ∧ c ≠ ':' := by
  simp only [isSlotChar, Bool.or_eq_true, beq_iff_eq] at h
  rcases h with ((h | rfl) | rfl) | rfl
  · obtain ⟨hlo, hhi, hne⟩ := isAsciiAlnum_range h
    exact ⟨by omega, hhi, hne⟩
  · decide
  · decide
  · decide

theorem strip_of_slotChars {t : String} (h : ∀ c ∈ t.toList, isSlotChar c = true) : strip t = t := by
  refine strip_eq_self fun c hc => isSpace_of_range ?_
  have := isSlotChar_range (h c hc)
  omega

theorem compact_of_slotChars {t fieldName : String} {maxLen : Nat} (h : ∀ c ∈ t.toList, isSlotChar c = true)
    (hhead : ∃ c cs, t.toList = c :: cs ∧ isAsciiAlnum c = true ∧ cs.length ≤ 255) (hlen : t.toList.length ≤ maxLen) :
    compact t fieldName maxLen = .ok t := by
  obtain ⟨c, cs, hlist, hc, hcs⟩ := hhead
  rw [compact_ok, strip_of_slotChars h]
  refine ⟨⟨?_, hlen, ?_⟩, ?_, rfl⟩
  · intro hempty
    rw [hempty] at hlist
    simp at hlist
  · rw [hlist]
    simp only [refRe, hc, Bool.true_and, Bool.and_eq_true, List.all_eq_true, decide_eq_true_eq]
    refine ⟨fun x hx => ?_, hcs⟩
    have hx' := h x (by rw [hlist]; simp [hx])
    simp only [isSlotChar, Bool.or_eq_true, beq_iff_eq] at hx'
    rcases hx' with ((hx' | rfl) | rfl) | rfl
    · rw [hx', Bool.true_or]
    · decide
    · decide
    · decide
  · rw [Bool.eq_false_iff]
    intro hurl
    have hcolon : ':' ∈ t.toList := (contains_iff.mp hurl).subset (by decide)
    exact (isSlotChar_range (h _ hcolon)).2.2 rfl

theorem PeriodKind.text_slotChars (k : PeriodKind) : ∀ c ∈ k.text.toList, isSlotChar c = true := by
  cases k with
  | daily => exact forall_mem_of_all (by decide)
  | weekly => exact forall_mem_of_all (by decide)
  | monthly => exact forall_mem_of_all (by decide)

theorem PeriodKind.text_length (k : PeriodKind) : k.text.toList.length ≤ 7 := by
  cases k <;> decide

theorem PeriodKind.text_injective {k k' : PeriodKind} (h : k.text = k'.text) : k = k' := by
  cases k <;> cases k' <;> first | rfl | exact absurd h (by decide)

theorem toString_slotChars (n : Nat) : ∀ c ∈ (toString n).toList, isSlotChar c = true := by
  intro c hc
  rw [show toString n = Nat.repr n from rfl, Nat.toList_repr] at hc
  have hdigit := Nat.isDigit_of_mem_toDigits (by decide) (by decide) hc
  simp only [Char.isDigit, Bool.and_eq_true, decide_eq_true_eq] at hdigit
  simp only [isSlotChar, isAsciiAlnum, Bool.or_eq_true, Bool.and_eq_true, decide_eq_true_eq]
  exact .inl (.inl (.inl (.inr hdigit)))

/-! ## The manifest -/

theorem lower_digest (content : List Nat) :
    lower (String.ofList (digest content)) = String.ofList (digest content) := by
  refine lower_eq_self fun c hc => ?_
  rw [String.toList_ofList] at hc
  have := isHexDigit_range (digest_isHexDigit content c hc)
  omega

theorem splitEntry_digest {digest name : List Char} (h : ∀ c ∈ digest, c ≠ ' ') :
    splitEntry (digest ++ [' ', ' '] ++ name) = some (digest, name) := by
  induction digest with
  | nil => rfl
  | cons c digest ih =>
    have hc : c ≠ ' ' := h c (by simp)
    rw [List.cons_append, List.cons_append, splitEntry]
    · rw [ih fun x hx => h x (by simp [hx])]
      rfl
    · intro rest heq
      exact absurd heq hc

/-- A name that the manifest accepts. -/
def SafeName (name : String) : Prop :=
  name ≠ "" ∧ '/' ∉ name.toList ∧ name.toList.head? ≠ some '.' ∧ ∀ c ∈ name.toList, 32 ≤ c.toNat ∧ c.toNat ≤ 126

theorem manifestEntry_manifestLine (h : SafeName entry.1) :
    manifestEntry (manifestLine entry) = .ok (entry.1, sha256File entry.2) := by
  have hspace : ∀ c ∈ digest entry.2, c ≠ ' ' := by
    intro c hc heq
    have := isHexDigit_range (digest_isHexDigit entry.2 c hc)
    subst heq
    exact absurd this (by decide)
  obtain ⟨hne, hslash, hdot, -⟩ := h
  have hne' : entry.1.toList ≠ [] := by
    intro hnil
    exact hne (String.toList_inj.mp hnil)
  simp only [manifestEntry, manifestLine, splitEntry_digest hspace, bind_ok, orRaise_ok, require_ok, pure_ok,
    exists_const]
  refine ⟨(digest entry.2, entry.1.toList), ?_, ?_, ⟨hne', hslash, hdot⟩, ?_⟩
  · simp [digest_length]
  · show (lower (String.ofList (digest entry.2))).toList.all isHexDigit = true
    rw [lower_digest, String.toList_ofList, List.all_eq_true]
    exact digest_isHexDigit entry.2
  · show (String.ofList entry.1.toList, "sha256:" ++ lower (String.ofList (digest entry.2))) = _
    rw [lower_digest, String.ofList_toList, sha256File]

theorem isLineBreak_of_range (h : 32 ≤ c.toNat ∧ c.toNat ≤ 126) : isLineBreak c = false := by
  simp only [isLineBreak, Bool.or_eq_false_iff, Bool.and_eq_false_iff, decide_eq_false_iff_not, beq_eq_false_iff_ne]
  omega

theorem manifestLine_range (h : SafeName entry.1) :
    ∀ c ∈ manifestLine entry, 32 ≤ c.toNat ∧ c.toNat ≤ 126 := by
  intro c hc
  simp only [manifestLine, List.mem_append, List.mem_cons, List.not_mem_nil, or_false, or_self] at hc
  rcases hc with (hc | rfl) | hc
  · have := isHexDigit_range (digest_isHexDigit entry.2 c hc)
    omega
  · decide
  · exact h.2.2.2 c hc

theorem asciiBytes_chars (cs : List Char) : (asciiBytes cs).map Char.ofNat = cs := by
  simp [asciiBytes, Function.comp_def]

theorem manifestEntries_manifestText {files : Directory} (hsafe : ∀ e ∈ files, SafeName e.1)
    (hdir : get? dir "manifest.sha256" = some (asciiBytes (manifestText files))) :
    manifestEntries dir = .ok (files.map fun e => (e.1, sha256File e.2)) := by
  simp only [manifestEntries, bind_ok, orRaise_ok, require_ok]
  refine ⟨_, hdir, ⟨⟩, ?_, ?_⟩
  · intro b hb
    simp only [asciiBytes, manifestText, List.mem_map, List.mem_flatMap, List.mem_append, List.mem_singleton] at hb
    obtain ⟨c, ⟨entry, he, hc | rfl⟩, rfl⟩ := hb
    · have := manifestLine_range (hsafe entry he) c hc
      omega
    · decide
  · have hlines : manifestText files = (files.map manifestLine).flatMap (· ++ ['\n']) := by
      rw [manifestText, List.flatMap_map]
    rw [asciiBytes_chars, hlines, splitlines_flatMap, mapM_ok, List.forall₂_map_left_iff, List.forall₂_map_right_iff,
      List.forall₂_same]
    · intro entry he
      exact manifestEntry_manifestLine (hsafe entry he)
    · intro line hline c hc
      obtain ⟨entry, he, rfl⟩ := List.mem_map.mp hline
      exact isLineBreak_of_range (manifestLine_range (hsafe entry he) c hc)

/-! ## The bundle -/

/-- A directory that holds the files of another, by their digests. -/
def Holds (dir archive : Directory) : Prop :=
  ∀ e ∈ dir, (PyDict.get? archive e.1).map sha256File = some (sha256File e.2)

/-- What the report receipt asks of a bundle. -/
def ReportBundle.Receivable {F : Type} [PyPercent F] (b : ReportBundle F) : Prop :=
  (∀ v ∈ b.evidenceRefs, ∃ v', compact v "evidence_ref" 256 = .ok v') ∧ PyPercent.within b.coveragePct = true

namespace DayReport

variable {F : Type} [ReportReader F] [PyPercent F] (r : DayReport F)

omit [PyPercent F] in
theorem files_safe : ∀ e ∈ r.files, SafeName e.1 := by
  intro e he
  have hname : e.1 ∈ ["report.md", "report.json", "metrics-summary.csv", "findings.jsonl.gz"] := by
    simp only [files, List.mem_cons, List.not_mem_nil, or_false] at he
    rcases he with rfl | rfl | rfl | rfl <;> simp
  revert hname
  generalize e.1 = name
  intro hname
  have hall : ∀ name ∈ ["report.md", "report.json", "metrics-summary.csv", "findings.jsonl.gz"],
      name ≠ "" ∧ '/' ∉ name.toList ∧ name.toList.head? ≠ some '.' ∧
        (name.toList.all fun c => decide (32 ≤ c.toNat ∧ c.toNat ≤ 126)) = true := by
    decide
  obtain ⟨hne, hslash, hdot, hrange⟩ := hall name hname
  rw [List.all_eq_true] at hrange
  exact ⟨hne, hslash, hdot, fun c hc => by simpa using hrange c hc⟩

omit [PyPercent F] in
theorem directory_manifest : get? r.directory "manifest.sha256" = some (asciiBytes (manifestText r.files)) := rfl

omit [PyPercent F] in
theorem directory_file : ∀ e ∈ r.files, get? r.directory e.1 = some e.2 := by
  intro e he
  simp only [files, List.mem_cons, List.not_mem_nil, or_false] at he
  rcases he with rfl | rfl | rfl | rfl <;> rfl

omit [PyPercent F] in
theorem manifestEntries_directory :
    manifestEntries r.directory = .ok (r.files.map fun e => (e.1, sha256File e.2)) :=
  manifestEntries_manifestText r.files_safe r.directory_manifest

theorem loadExistingBundle_directory (reportId : String) :
    loadExistingBundle reportId (some r.directory) = .ok (r.bundle reportId) := by
  simp only [loadExistingBundle, bind_ok, orRaise_ok, pure_ok]
  exact ⟨(asciiBytes (manifestText r.files), r.json), rfl, _, r.readable, rfl⟩

def size : Nat := r.markdown.length + r.json.length + r.metrics.length + r.findings.length

/-- A report that a cycle can receipt and archive. -/
structure Reportable (reportId : String) : Prop where
  receivable : (r.bundle reportId).Receivable
  small : r.size ≤ maxBundleBytes

theorem verifyReportBundle_directory (reportId : String) (h : r.size ≤ maxBundleBytes) :
    verifyReportBundle (r.bundle reportId) (some r.directory) = .ok (r.files.map fun e => (e.1, sha256File e.2)) := by
  have hfile : ∀ (total : Nat), ∀ e ∈ r.files, total + e.2.length ≤ maxBundleBytes →
      verifyFile r.directory total (e.1, sha256File e.2) = .ok (total + e.2.length) := by
    intro total e he hle
    simp only [verifyFile, r.directory_file e he, bind_ok, orRaise_ok, require_ok, pure_ok, exists_const,
      Option.some.injEq, exists_eq_left', and_true]
    exact hle
  rw [size] at h
  simp only [verifyReportBundle, bind_ok, orRaise_ok, require_ok, pure_ok, exists_const]
  refine ⟨r.directory, rfl, _, r.manifestEntries_directory, by simp [files, maxFilesPerArchive], r.size, ?_, _,
    r.directory_manifest, rfl, rfl⟩
  simp only [files, List.map_cons, List.map_nil, List.foldlM_cons, List.foldlM_nil, bind_ok, pure_ok]
  refine ⟨_, hfile 0 ("report.md", r.markdown) (by simp [files]) (by dsimp only; omega), _,
    hfile _ ("report.json", r.json) (by simp [files]) (by dsimp only; omega), _,
    hfile _ ("metrics-summary.csv", r.metrics) (by simp [files]) (by dsimp only; omega), _,
    hfile _ ("findings.jsonl.gz", r.findings) (by simp [files]) (by dsimp only; omega), ?_⟩
  simp [size]

theorem verifyReportBundle_entries
    (h : verifyReportBundle (r.bundle reportId) (some r.directory) = .ok entries) :
    entries = r.files.map fun e => (e.1, sha256File e.2) := by
  simp only [verifyReportBundle, bind_ok, orRaise_ok, require_ok, pure_ok, exists_const] at h
  obtain ⟨_, hdir, entries', hentries, _, _, _, _, _, _, rfl⟩ := h
  cases hdir
  rw [r.manifestEntries_directory] at hentries
  exact (Except.ok.inj hentries).symm

omit [PyPercent F] in
theorem holds_directory
    (hfiles : ∀ e ∈ r.files, (get? archive e.1).map sha256File = some (sha256File e.2))
    (hmanifest : (get? archive "manifest.sha256").map sha256File =
      some (sha256File (asciiBytes (manifestText r.files)))) : Holds r.directory archive := by
  intro e he
  rcases List.mem_append.mp he with he | he
  · exact hfiles e he
  · rw [List.mem_singleton.mp he]
    exact hmanifest

theorem checkArchive_directory (h : Holds r.directory archive) :
    checkArchive (r.bundle reportId) (r.files.map fun e => (e.1, sha256File e.2)) archive = .ok ⟨⟩ := by
  have hmanifest := h ("manifest.sha256", asciiBytes (manifestText r.files)) (by simp [directory])
  obtain ⟨manifest, hget, hsha⟩ := Option.map_eq_some_iff.mp hmanifest
  simp only [checkArchive, bind_ok, orRaise_ok, require_ok]
  refine ⟨⟨⟩, ?_, manifest, hget, hsha⟩
  intro entry hentry
  obtain ⟨e, he, rfl⟩ := List.mem_map.mp hentry
  exact h e (by simp [directory, he])

end DayReport

/-! ## The receipts -/

section Receipts

variable {F : Type} [PyTime] [PyPercent F]

omit [PyPercent F] in
theorem ArchiveReceipt.validate_ok : a.validate = .ok a' ↔
    compact a.archiveId "archive_id" 128 = .ok a'.archiveId ∧ compact a.periodKey "period_key" 128 = .ok a'.periodKey ∧
      compact a.bundleRef "bundle_ref" 256 = .ok a'.bundleRef ∧
      fingerprintText a.manifestSha256 "manifest_sha256 must be a SHA-256 fingerprint" = .ok a'.manifestSha256 ∧
      1 ≤ a.attempt ∧ isoTimestamp a.updatedAt "updated_at" = .ok a'.updatedAt ∧
      a.failureCode.mapM (fun v => compact v "failure_code" 96) = .ok a'.failureCode ∧
      a' = { a with archiveId := a'.archiveId, periodKey := a'.periodKey, bundleRef := a'.bundleRef
                    manifestSha256 := a'.manifestSha256, updatedAt := a'.updatedAt, failureCode := a'.failureCode } := by
  simp only [validate, bind_ok, require_ok, pure_ok, exists_const]
  constructor
  · rintro ⟨archiveId, h1, periodKey, h2, bundleRef, h3, sha, h4, h5, updatedAt, h6, code, h7, h8⟩
    subst h8
    exact ⟨h1, h2, h3, h4, h5, h6, h7, rfl⟩
  · rintro ⟨h1, h2, h3, h4, h5, h6, h7, h8⟩
    exact ⟨_, h1, _, h2, _, h3, _, h4, h5, _, h6, _, h7, h8.symm⟩

omit [PyPercent F] in
theorem ArchiveReceipt.validate_returns {archiveId updatedAt : String}
    {failureCode : Option String} (h1 : compact a.archiveId "archive_id" 128 = .ok archiveId)
    (h2 : compact a.periodKey "period_key" 128 = .ok periodKey) (h3 : compact a.bundleRef "bundle_ref" 256 = .ok bundleRef)
    (h4 : fingerprintText a.manifestSha256 "manifest_sha256 must be a SHA-256 fingerprint" = .ok manifestSha256)
    (h5 : 1 ≤ a.attempt) (h6 : isoTimestamp a.updatedAt "updated_at" = .ok updatedAt)
    (h7 : a.failureCode.mapM (fun v => compact v "failure_code" 96) = .ok failureCode) : ∃ a', a.validate = .ok a' :=
  ⟨{ a with archiveId, periodKey, bundleRef, manifestSha256, updatedAt, failureCode },
    validate_ok.mpr ⟨h1, h2, h3, h4, h5, h6, h7, rfl⟩⟩

omit [PyPercent F] in
theorem ArchiveReceipt.validate_validate (h : a.validate = .ok a') : a'.validate = .ok a' := by
  obtain ⟨h1, h2, h3, h4, h5, h6, h7, h8⟩ := validate_ok.mp h
  rw [validate_ok]
  refine ⟨compact_compact h1, compact_compact h2, compact_compact h3, fingerprintText_fingerprintText h4, ?_,
    isoTimestamp_isoTimestamp h6 _, optionMapM_optionMapM (fun _ _ hxy => compact_compact hxy) h7, rfl⟩
  rw [h8]
  exact h5

variable {r' r : ReportReceipt F}

theorem ReportReceipt.validate_ok : r.validate = .ok r' ↔
    compact r.reportId "report_id" 128 = .ok r'.reportId ∧ compact r.periodKey "period_key" 128 = .ok r'.periodKey ∧
      isoTimestamp r.cutoffAt "cutoff_at" = .ok r'.cutoffAt ∧ PyPercent.within r.coveragePct = true ∧
      compact r.bundleRef "bundle_ref" 256 = .ok r'.bundleRef ∧
      fingerprintText r.manifestSha256 "manifest_sha256 must be a SHA-256 fingerprint" = .ok r'.manifestSha256 ∧
      r.evidenceRefs.mapM (fun v => compact v "evidence_ref" 256) = .ok r'.evidenceRefs ∧
      r.aiStatus ∈ ["not_requested", "valid", "unavailable", "invalid", "fallback"] ∧
      r' = { r with reportId := r'.reportId, periodKey := r'.periodKey, cutoffAt := r'.cutoffAt
                    bundleRef := r'.bundleRef, manifestSha256 := r'.manifestSha256
                    evidenceRefs := r'.evidenceRefs } := by
  simp only [validate, bind_ok, require_ok, pure_ok, exists_const]
  constructor
  · rintro ⟨reportId, h1, periodKey, h2, cutoffAt, h3, h4, bundleRef, h5, sha, h6, refs, h7, h8, h9⟩
    subst h9
    exact ⟨h1, h2, h3, h4, h5, h6, h7, h8, rfl⟩
  · rintro ⟨h1, h2, h3, h4, h5, h6, h7, h8, h9⟩
    exact ⟨_, h1, _, h2, _, h3, h4, _, h5, _, h6, _, h7, h8, h9.symm⟩

theorem ReportReceipt.validate_returns {cutoffAt : String}
    {evidenceRefs : List String} (h1 : compact r.reportId "report_id" 128 = .ok reportId)
    (h2 : compact r.periodKey "period_key" 128 = .ok periodKey) (h3 : isoTimestamp r.cutoffAt "cutoff_at" = .ok cutoffAt)
    (h4 : PyPercent.within r.coveragePct = true) (h5 : compact r.bundleRef "bundle_ref" 256 = .ok bundleRef)
    (h6 : fingerprintText r.manifestSha256 "manifest_sha256 must be a SHA-256 fingerprint" = .ok manifestSha256)
    (h7 : r.evidenceRefs.mapM (fun v => compact v "evidence_ref" 256) = .ok evidenceRefs)
    (h8 : r.aiStatus ∈ ["not_requested", "valid", "unavailable", "invalid", "fallback"]) :
    ∃ r', r.validate = .ok r' :=
  ⟨{ r with reportId, periodKey, cutoffAt, bundleRef, manifestSha256, evidenceRefs },
    validate_ok.mpr ⟨h1, h2, h3, h4, h5, h6, h7, h8, rfl⟩⟩

theorem ReportReceipt.validate_validate (h : r.validate = .ok r') : r'.validate = .ok r' := by
  obtain ⟨h1, h2, h3, h4, h5, h6, h7, h8, h9⟩ := validate_ok.mp h
  rw [validate_ok]
  refine ⟨compact_compact h1, compact_compact h2, isoTimestamp_isoTimestamp h3 _, ?_, compact_compact h5,
    fingerprintText_fingerprintText h6, mapM_mapM (fun _ _ hxy => compact_compact hxy) h7, ?_, rfl⟩
  · rw [h9]
    exact h4
  · rw [h9]
    exact h8

end Receipts

/-! ## The texts of a day -/

theorem slotChars_dash : ∀ c ∈ "-".toList, isSlotChar c = true := forall_mem_of_all (by decide)

theorem slotChars_append {s t : String} (hs : ∀ c ∈ s.toList, isSlotChar c = true) (ht : ∀ c ∈ t.toList, isSlotChar c = true) :
    ∀ c ∈ (s ++ t).toList, isSlotChar c = true := by
  intro c hc
  rw [String.toList_append, List.mem_append] at hc
  rcases hc with hc | hc
  · exact hs c hc
  · exact ht c hc

namespace ReportDay

variable {day : ReportDay}

theorem slotChars_of_plain {t : String} (h : ∀ c ∈ t.toList, isAsciiAlnum c = true ∨ c = '-') :
    ∀ c ∈ t.toList, isSlotChar c = true := by
  intro c hc
  simp only [isSlotChar, Bool.or_eq_true, beq_iff_eq]
  exact .inl (.inl (h c hc))

theorem key_plain (h : p ∈ day.periods) :
    p.2.toList.head?.any isAsciiAlnum = true ∧ p.2.toList.length ≤ 16 ∧ ∀ c ∈ p.2.toList, isSlotChar c = true := by
  have hmem : p.2 ∈ day.stamp :: day.daily :: (day.weekly.toList ++ day.monthly.toList) := by
    simp only [periods, List.mem_append, List.mem_cons, List.mem_map] at h ⊢
    rcases h with (rfl | ⟨k, hk, rfl⟩) | ⟨k, hk, rfl⟩
    · exact .inr (.inl rfl)
    · exact .inr (.inr (.inl hk))
    · exact .inr (.inr (.inr hk))
  obtain ⟨hhead, hlen, hchars⟩ := day.plain p.2 hmem
  exact ⟨hhead, hlen, slotChars_of_plain hchars⟩

theorem reportId_slotChars : ∀ c ∈ day.reportId.toList, isSlotChar c = true := by
  obtain ⟨-, -, hchars⟩ := day.plain day.stamp (by simp)
  exact slotChars_append (slotChars_append (forall_mem_of_all (by decide)) (slotChars_of_plain hchars))
    (forall_mem_of_all (by decide))

theorem reportId_length : day.reportId.toList.length ≤ 28 := by
  obtain ⟨-, hlen, -⟩ := day.plain day.stamp (by simp)
  have h1 : "report-".toList.length = 7 := by decide
  have h2 : "-1730".toList.length = 5 := by decide
  simp only [reportId, String.toList_append, List.length_append, h1, h2]
  omega

theorem period_eq {p' : Period} (h : p ∈ day.periods) (h' : p' ∈ day.periods) (hkind : p.1 = p'.1) : p = p' := by
  simp only [periods, List.mem_append, List.mem_cons, List.mem_map, Option.mem_toList] at h h'
  rcases h with (rfl | ⟨k, hk, rfl⟩) | ⟨k, hk, rfl⟩
  · rcases h' with (rfl | ⟨k', hk', rfl⟩) | ⟨k', hk', rfl⟩
    · rfl
    · cases hkind
    · cases hkind
  · rcases h' with (rfl | ⟨k', hk', rfl⟩) | ⟨k', hk', rfl⟩
    · cases hkind
    · rw [Option.some.inj (hk.symm.trans hk')]
    · cases hkind
  · rcases h' with (rfl | ⟨k', hk', rfl⟩) | ⟨k', hk', rfl⟩
    · cases hkind
    · cases hkind
    · rw [Option.some.inj (hk.symm.trans hk')]

end ReportDay

theorem compact_of_word {w t fieldName : String} {maxLen : Nat} (hw : w.toList.head?.any isAsciiAlnum = true)
    (hchars : ∀ c ∈ (w ++ t).toList, isSlotChar c = true) (hlen : (w ++ t).toList.length ≤ maxLen) (hmax : maxLen ≤ 256) :
    compact (w ++ t) fieldName maxLen = .ok (w ++ t) := by
  refine compact_of_slotChars hchars ?_ hlen
  rw [String.toList_append] at hlen ⊢
  cases hlist : w.toList with
  | nil =>
    rw [hlist] at hw
    cases hw
  | cons c cs =>
    rw [hlist] at hw hlen
    refine ⟨c, cs ++ t.toList, rfl, hw, ?_⟩
    rw [List.cons_append, List.length_cons] at hlen
    omega

theorem compact_slotChars {t t' fieldName : String} {maxLen : Nat} (hchars : ∀ c ∈ t.toList, isSlotChar c = true)
    (h : compact t fieldName maxLen = .ok t') : t' = t := by
  obtain ⟨-, -, h⟩ := compact_ok.mp h
  rw [← h, strip_of_slotChars hchars]

theorem compact_key {day : ReportDay} (h : p ∈ day.periods) :
    compact p.2 "period_key" 128 = .ok p.2 := by
  obtain ⟨hhead, hlen, hchars⟩ := ReportDay.key_plain h
  have := @compact_of_word p.2 "" "period_key" 128 hhead
  rw [String.append_empty] at this
  exact this hchars (by omega) (by decide)

theorem compact_spool {day : ReportDay} :
    compact ("spool/" ++ day.reportId) "bundle_ref" 256 = .ok ("spool/" ++ day.reportId) := by
  have hday := day.reportId_length
  have h1 : "spool/".toList.length = 6 := by decide
  refine compact_of_word (by decide) (slotChars_append (forall_mem_of_all (by decide)) day.reportId_slotChars) ?_
    (by decide)
  simp only [String.toList_append, List.length_append, h1]
  omega

theorem fingerprint_sha256File (content : List Nat) (message : String) :
    fingerprintText (sha256File content) message = .ok (sha256File content) := by
  have hre : sha256Re (sha256File content) = true := sha256Re_digest content
  rw [fingerprintText_ok, strip_of_sha256Re hre]
  exact ⟨hre, rfl⟩

/-! ## The receipts of a job -/

/-- The id of an archive receipt says its period and its attempt. -/
def ArchiveReceipt.Named (a : ArchiveReceipt) : Prop :=
  a.archiveId = "archive-" ++ a.periodKind.text ++ "-" ++ a.periodKey ++ "-" ++ toString a.attempt

def ArchiveReceipt.period (a : ArchiveReceipt) : Period := (a.periodKind, a.periodKey)

def ReportReceipt.period {F : Type} (r : ReportReceipt F) : Period := (r.periodKind, r.periodKey)

section Receipts

variable {F : Type} [PyTime] [PyPercent F] [ReportReader F] {day : ReportDay} {job : ArchiveJob F} {r : DayReport F}

omit [PyTime] [PyPercent F] [ReportReader F] in
theorem archiveId_slotChars (h : p ∈ day.periods) (attempt : Nat) :
    ∀ c ∈ ("archive-" ++ p.1.text ++ "-" ++ p.2 ++ "-" ++ toString attempt).toList, isSlotChar c = true := by
  have hword : ∀ c ∈ "archive-".toList, isSlotChar c = true := forall_mem_of_all (by decide)
  exact slotChars_append (slotChars_append (slotChars_append (slotChars_append (slotChars_append hword p.1.text_slotChars)
    slotChars_dash) (ReportDay.key_plain h).2.2) slotChars_dash) (toString_slotChars attempt)

theorem archiveReceipt_spec (hp : job.period ∈ day.periods) (hbundle : job.bundle = r.bundle day.reportId) {now : IsoText}
    {status : ArchiveStatus} (h : archiveReceipt day job now status = .ok a) :
    a.validate = .ok a ∧ a.Named ∧ a.period = job.period ∧ a.status = status ∧
      a.manifestSha256 = (r.bundle day.reportId).manifestSha256 := by
  refine ⟨ArchiveReceipt.validate_validate h, ?_⟩
  obtain ⟨h1, h2, -, h4, -, -, -, h8⟩ := ArchiveReceipt.validate_ok.mp h
  have hid := compact_slotChars (archiveId_slotChars hp job.attempt) h1
  have hkey := compact_slotChars (ReportDay.key_plain hp).2.2 h2
  have hsha : a.manifestSha256 = (r.bundle day.reportId).manifestSha256 := by
    rw [hbundle] at h4
    exact (Except.ok.inj ((fingerprint_sha256File _ _).symm.trans h4)).symm
  have hkind : a.periodKind = job.period.1 := by rw [h8]
  have hattempt : a.attempt = job.attempt := by rw [h8]
  have hstatus : a.status = status := by rw [h8]
  refine ⟨?_, ?_, hstatus, hsha⟩
  · rw [ArchiveReceipt.Named, hkind, hattempt, hkey]
    exact hid
  · rw [ArchiveReceipt.period, hkind, hkey]

omit [PyTime] in
theorem fingerprint_manifest (hbundle : job.bundle = r.bundle day.reportId) (message : String) :
    fingerprintText job.bundle.manifestSha256 message = .ok (r.bundle day.reportId).manifestSha256 := by
  rw [hbundle]
  exact fingerprint_sha256File _ _

omit [PyPercent F] [ReportReader F] in
theorem IsoText.iso (t : IsoText) (fieldName : String) : isoTimestamp t.1 fieldName = .ok t.1 := t.2 fieldName

section

variable (hp : job.period ∈ day.periods)
include hp

theorem archiveReceipt_returns (hbundle : job.bundle = r.bundle day.reportId)
    (hattempt : job.attempt = 1) (now : IsoText) (status : ArchiveStatus) :
    ∃ a, archiveReceipt day job now status = .ok a := by
  obtain ⟨hhead, hlen, hchars⟩ := ReportDay.key_plain hp
  have hkind := job.period.1.text_length
  have hday := day.reportId_length
  have hslash : ∀ c ∈ "/".toList, isSlotChar c = true := forall_mem_of_all (by decide)
  have hid : compact ("archive-" ++ job.period.1.text ++ "-" ++ job.period.2 ++ "-" ++ toString job.attempt) "archive_id"
      128 = .ok ("archive-" ++ job.period.1.text ++ "-" ++ job.period.2 ++ "-" ++ toString job.attempt) := by
    have hslot := archiveId_slotChars hp job.attempt
    simp only [String.append_assoc] at hslot ⊢
    refine compact_of_word (by decide) hslot ?_ (by decide)
    rw [hattempt]
    have h1 : "archive-".toList.length = 8 := by decide
    have h2 : "-".toList.length = 1 := by decide
    have h3 : (toString 1).toList.length = 1 := by decide
    simp only [String.toList_append, List.length_append, h1, h2, h3]
    omega
  have hnas : compact ("nas/" ++ job.period.1.text ++ "/" ++ job.period.2 ++ "/" ++ day.reportId) "bundle_ref" 256 =
      .ok ("nas/" ++ job.period.1.text ++ "/" ++ job.period.2 ++ "/" ++ day.reportId) := by
    have hslot := slotChars_append (slotChars_append (slotChars_append (slotChars_append (slotChars_append
      (forall_mem_of_all (by decide) : ∀ c ∈ "nas/".toList, isSlotChar c = true) job.period.1.text_slotChars) hslash)
      hchars) hslash) day.reportId_slotChars
    simp only [String.append_assoc] at hslot ⊢
    refine compact_of_word (by decide) hslot ?_ (by decide)
    have h1 : "nas/".toList.length = 4 := by decide
    have h2 : "/".toList.length = 1 := by decide
    simp only [String.toList_append, List.length_append, h1, h2]
    omega
  have hcode : compact "NAS_UNAVAILABLE" "failure_code" 96 = .ok "NAS_UNAVAILABLE" := by
    have := @compact_of_word "NAS_UNAVAILABLE" "" "failure_code" 96 (by decide) (forall_mem_of_all (by decide))
      (by decide) (by decide)
    rwa [String.append_empty] at this
  cases status with
  | archived =>
    exact ArchiveReceipt.validate_returns hid (compact_key hp) hnas (fingerprint_manifest hbundle _) hattempt.ge (now.iso _) rfl
  | pendingNas =>
    exact ArchiveReceipt.validate_returns hid (compact_key hp) compact_spool (fingerprint_manifest hbundle _) hattempt.ge (now.iso _)
      (optionMapM_ok.mpr (.some hcode))

theorem reportReceipt_spec (hbundle : job.bundle = r.bundle day.reportId) {cutoff : Cutoff}
    {receipt : ReportReceipt F} (h : reportReceipt day job cutoff a = .ok receipt) :
    receipt.validate = .ok receipt ∧ receipt.reportId = day.reportId ++ "-" ++ job.period.1.text ∧
      receipt.period = job.period ∧ (receipt.status = .completed ↔ a.status = .archived) ∧
      receipt.archiveStatus = a.status ∧ (r.bundle day.reportId).Receivable := by
  refine ⟨ReportReceipt.validate_validate h, ?_⟩
  obtain ⟨h1, h2, -, h4, -, -, h7, -, h9⟩ := ReportReceipt.validate_ok.mp h
  have hid := compact_slotChars (slotChars_append (slotChars_append day.reportId_slotChars slotChars_dash)
    job.period.1.text_slotChars) h1
  have hkey := compact_slotChars (ReportDay.key_plain hp).2.2 h2
  have hkind : receipt.periodKind = job.period.1 := by rw [h9]
  have hstatus := congrArg ReportReceipt.status h9
  refine ⟨hid, ?_, ?_, by rw [h9], ?_, ?_⟩
  · rw [ReportReceipt.period, hkind, hkey]
  · rw [hstatus]
    cases a.status <;> simp
  · intro v hv
    rw [hbundle] at h7
    obtain ⟨v', -, hv'⟩ := forall₂_mem_left (mapM_ok.mp h7) hv
    exact ⟨v', hv'⟩
  · rw [hbundle] at h4
    exact h4

theorem reportReceipt_returns (hbundle : job.bundle = r.bundle day.reportId)
    (hr : (r.bundle day.reportId).Receivable) (cutoff : Cutoff) (a : ArchiveReceipt) :
    ∃ receipt, reportReceipt day job cutoff a = .ok receipt := by
  have hkind := job.period.1.text_length
  have hday := day.reportId_length
  have hid : compact (day.reportId ++ "-" ++ job.period.1.text) "report_id" 128 =
      .ok (day.reportId ++ "-" ++ job.period.1.text) := by
    have hslot := slotChars_append (slotChars_append day.reportId_slotChars slotChars_dash) job.period.1.text_slotChars
    have hlen : (day.reportId ++ "-" ++ job.period.1.text).toList.length ≤ 128 := by
      have h1 : "-".toList.length = 1 := by decide
      simp only [String.toList_append, List.length_append, h1]
      omega
    simp only [ReportDay.reportId, String.append_assoc] at hslot hlen ⊢
    exact compact_of_word (by decide) hslot hlen (by decide)
  obtain ⟨refs, hrefs⟩ := mapM_returns hr.1
  have hcoverage : PyPercent.within job.bundle.coveragePct = true := by
    rw [hbundle]
    exact hr.2
  have hevidence : job.bundle.evidenceRefs.mapM (fun v => compact v "evidence_ref" 256) = .ok refs := by
    rw [hbundle]
    exact hrefs
  exact ReportReceipt.validate_returns hid (compact_key hp) (cutoff.text.iso _) hcoverage compact_spool (fingerprint_manifest hbundle _) hevidence
    (by simp)

end

end Receipts

/-! ## The store -/

/-- A row of the report receipts: its id says its kind, and it is completed when it says that the archive is there. -/
structure ReportReceipt.Filed {F : Type} (day : ReportDay) (row : ReportReceipt F) : Prop where
  period : row.period ∈ day.periods
  id : row.reportId = day.reportId ++ "-" ++ row.periodKind.text
  status : row.status = .completed ↔ row.archiveStatus = .archived

def ReportState.Archived {F : Type} (s : ReportState F) (p : Period) : Prop :=
  ∃ a ∈ s.recorded, a.status = .archived ∧ a.period = p

section Store

variable {F : Type} [PyTime] [PyPercent F] {s s' : ReportState F}

variable {row : ReportReceipt F}

omit [PyTime] [PyPercent F] in
theorem ReportReceipt.Filed.id_iff {day : ReportDay} {row' : ReportReceipt F} (h : row.Filed day) (h' : row'.Filed day) :
    row.reportId = row'.reportId ↔ row.period = row'.period := by
  constructor
  · intro hid
    rw [h.id, h'.id] at hid
    exact ReportDay.period_eq h.period h'.period (PeriodKind.text_injective (String.append_right_inj _ |>.mp hid))
  · intro hp
    have hkind : row.periodKind = row'.periodKind := congrArg Prod.fst hp
    rw [h.id, h'.id, hkind]

omit [PyPercent F] in
theorem putArchive_spec (hvalid : a.validate = .ok a) (hnamed : ∀ row ∈ s.archives, row.Named)
    (ha : a.Named) (h : s.putArchive a = .ok s') :
    ∃ archives, s' = { s with recorded := s.recorded ++ [a], archives := archives } ∧ ∀ row ∈ archives, row.Named := by
  rw [ReportState.putArchive, hvalid] at h
  change (if _ then _ else _) = _ at h
  split at h
  · refine ⟨_, (Except.ok.inj h).symm, ?_⟩
    intro row hrow
    obtain ⟨row₀, hrow₀, rfl⟩ := List.mem_map.mp hrow
    split
    · exact hnamed row₀ hrow₀
    · exact hnamed row₀ hrow₀
  · simp only [bind_ok, require_ok, pure_ok, exists_const] at h
    refine ⟨_, h.2.symm, ?_⟩
    intro row hrow
    rcases List.mem_append.mp hrow with hrow | hrow
    · exact hnamed row hrow
    · rw [List.mem_singleton.mp hrow]
      exact ha

omit [PyPercent F] in
theorem putArchive_returns (hvalid : a.validate = .ok a) (hnamed : ∀ row ∈ s.archives, row.Named)
    (ha : a.Named) : ∃ s', s.putArchive a = .ok s' := by
  rw [ReportState.putArchive, hvalid]
  dsimp only [bind, Except.bind]
  split
  · exact ⟨_, rfl⟩
  · rename_i hnone
    have hunique : ∀ row ∈ s.archives,
        ¬ (row.periodKind = a.periodKind ∧ row.periodKey = a.periodKey ∧ row.attempt = a.attempt) := by
      rintro row hrow ⟨hkind, hkey, hattempt⟩
      refine hnone ⟨row, hrow, ?_⟩
      rw [hnamed row hrow, ha, hkind, hkey, hattempt]
    rw [(require_ok (u := ⟨⟩)).mpr hunique]
    exact ⟨_, rfl⟩

omit [PyTime] [PyPercent F] in
theorem ReportReceipt.Filed.updated {day : ReportDay} (h : row.Filed day)
    (hr : r.status = .completed ↔ r.archiveStatus = .archived) : (row.updated r).Filed day :=
  ⟨h.period, h.id, hr⟩

theorem putReport_spec {day : ReportDay} (hvalid : r.validate = .ok r)
    (hfiled : ∀ row ∈ s.reports, row.Filed day) (hr : r.Filed day) (h : s.putReport r = .ok s') :
    ∃ reports, s' = { s with reports := reports } ∧ (∀ row ∈ reports, row.Filed day) ∧
      (∀ row ∈ reports, (row.period = r.period ∧ row.status = r.status) ∨ (row.period ≠ r.period ∧ row ∈ s.reports)) ∧
      (∃ row ∈ reports, row.period = r.period) ∧ ∀ row ∈ s.reports, row.period ≠ r.period → row ∈ reports := by
  rw [ReportState.putReport, hvalid] at h
  change (if _ then _ else _) = _ at h
  split at h
  · rename_i hrow
    obtain ⟨row₁, hrow₁, hid⟩ := hrow
    refine ⟨_, (Except.ok.inj h).symm, ?_, ?_, ?_, ?_⟩
    · intro row hmem
      obtain ⟨row₀, hrow₀, rfl⟩ := List.mem_map.mp hmem
      split
      · exact (hfiled row₀ hrow₀).updated hr.status
      · exact hfiled row₀ hrow₀
    · intro row hmem
      obtain ⟨row₀, hrow₀, rfl⟩ := List.mem_map.mp hmem
      split
      · rename_i hid₀
        exact .inl ⟨((hfiled row₀ hrow₀).id_iff hr).mp hid₀, rfl⟩
      · rename_i hid₀
        exact .inr ⟨fun hp => hid₀ (((hfiled row₀ hrow₀).id_iff hr).mpr hp), hrow₀⟩
    · refine ⟨_, List.mem_map.mpr ⟨row₁, hrow₁, rfl⟩, ?_⟩
      rw [if_pos hid]
      exact ((hfiled row₁ hrow₁).id_iff hr).mp hid
    · intro row hmem hne
      refine List.mem_map.mpr ⟨row, hmem, ?_⟩
      rw [if_neg fun hid₀ => hne (((hfiled row hmem).id_iff hr).mp hid₀)]
  · rename_i hnone
    refine ⟨_, (Except.ok.inj h).symm, ?_, ?_, ⟨r, by simp, rfl⟩, fun row hmem _ => by simp [hmem]⟩
    · intro row hmem
      rcases List.mem_append.mp hmem with hmem | hmem
      · exact hfiled row hmem
      · rw [List.mem_singleton.mp hmem]
        exact hr
    · intro row hmem
      rcases List.mem_append.mp hmem with hmem | hmem
      · exact .inr ⟨fun hp => hnone ⟨row, hmem, ((hfiled row hmem).id_iff hr).mpr hp⟩, hmem⟩
      · rw [List.mem_singleton.mp hmem]
        exact .inl ⟨rfl, rfl⟩

theorem putReport_returns (hvalid : r.validate = .ok r) : ∃ s', s.putReport r = .ok s' := by
  rw [ReportState.putReport, hvalid]
  dsimp only [bind, Except.bind]
  split
  · exact ⟨_, rfl⟩
  · exact ⟨_, rfl⟩

end Store

/-! ## What holds at each point of a call -/

section Moves

variable {F : Type} [PyTime] [PyPercent F] [ReportReader F]

/-- The call has the lock file. -/
def HoldsLock : ReportRequest → ReportPhase F → Prop
  | .retry _ _, _ => False
  | .cycle _, .ready => False
  | .cycle _, .done _ => False
  | .cycle _, _ => True

/-- The job of a phase works on the bundle that is there, for periods of the day. -/
structure JobOK (day : ReportDay) (s : ReportState F) (r : DayReport F) (job : ArchiveJob F) : Prop where
  there : s.bundle = some r.directory
  bundle : job.bundle = r.bundle day.reportId
  period : job.period ∈ day.periods
  later : ∀ p ∈ job.later, p ∈ day.periods

/-- The archive receipt of a job, which says archived only of an archive that is there. -/
structure ArchiveOK (day : ReportDay) (s : ReportState F) (r : DayReport F) (job : ArchiveJob F) (a : ArchiveReceipt) :
    Prop where
  fits : JobOK day s r job
  valid : a.validate = .ok a
  named : a.Named
  period : a.period = job.period
  manifest : a.manifestSha256 = (r.bundle day.reportId).manifestSha256
  there : a.status = .archived → ∃ archive, s.nas job.period = some archive

/-- What holds of a call at each of its phases; a retry has no lock file and writes no report receipt. -/
def ReportCallOK (day : ReportDay) (s : ReportState F) (request : ReportRequest) : ReportPhase F → Prop
  | .ready => ∀ period attempt, request = .retry period attempt → period ∈ day.periods
  | .locked => ∃ cutoff, request = .cycle cutoff
  | .archiving job => ∃ r, JobOK day s r job
  | .copying job entries temp => ∃ r copied rest, JobOK day s r job ∧ r.files = copied ++ rest ∧
      entries = rest.map (fun e => (e.1, sha256File e.2)) ∧ ∀ e ∈ copied, PyDict.get? temp e.1 = some e.2
  | .replacing job temp => ∃ r, JobOK day s r job ∧ Holds r.directory temp
  | .archived job a => ∃ r, ArchiveOK day s r job a
  | .reporting job a => (∃ r, ArchiveOK day s r job a) ∧ ∃ cutoff, request = .cycle cutoff
  | .unlocking _ => ∃ cutoff, request = .cycle cutoff
  | .done _ => True

/-- What holds of the slot in every run. -/
structure SlotOK (day : ReportDay) (s : ReportState F) : Prop where
  built : s.built = s.bundle.toList
  written : ∀ dir, s.bundle = some dir → ∃ r : DayReport F, dir = r.directory
  stored : ∀ p archive, s.nas p = some archive → ∃ r : DayReport F, s.bundle = some r.directory ∧ Holds r.directory archive
  named : ∀ a ∈ s.archives, a.Named
  filed : ∀ row ∈ s.reports, row.Filed day
  receivable : s.reports ≠ [] → ∃ r : DayReport F, s.bundle = some r.directory ∧ (r.bundle day.reportId).Receivable
  recorded : ∀ a ∈ s.recorded, a.status = .archived → (∃ archive, s.nas a.period = some archive) ∧
    ∃ r : DayReport F, s.bundle = some r.directory ∧ a.manifestSha256 = (r.bundle day.reportId).manifestSha256

/-- What one step of a call does. -/
inductive SlotMove (day : ReportDay) (request : ReportRequest) (s : ReportState F) (phase : ReportPhase F) :
    ReportState F → ReportPhase F → Prop
  /-- Nothing is written; a report receipt that cannot be made is the first of its table. -/
  | quiet {phase'} (ok : ReportCallOK day s request phase') (lock : HoldsLock request phase' ↔ HoldsLock request phase)
      (unreported : ∀ job a, phase = .reporting job a → s.reports = []) (next : ∀ job a, phase' ≠ .reporting job a) :
      SlotMove day request s phase s phase'
  | locked (start : phase = .ready) (cycle : ∃ cutoff, request = .cycle cutoff) (free : s.lock = false) :
      SlotMove day request s phase { s with lock := true } .locked
  | built {phase'} (r : DayReport F) (start : phase = .locked) (cycle : ∃ cutoff, request = .cycle cutoff)
      (none : s.bundle = none)
      (ok : ReportCallOK day { s with bundle := some r.directory, built := s.built ++ [r.directory] } request phase')
      (lock : HoldsLock request phase') (next : ∀ job a, phase' ≠ .reporting job a) :
      SlotMove day request s phase { s with bundle := some r.directory, built := s.built ++ [r.directory] } phase'
  | replaced {phase'} (job : ArchiveJob F) (temp : Directory) (r : DayReport F) (start : phase = .replacing job temp)
      (fits : JobOK day s r job)
      (holds : Holds r.directory temp)
      (ok : ReportCallOK day { s with nas := Function.update s.nas job.period (some temp) } request phase')
      (lock : HoldsLock request phase' ↔ HoldsLock request phase) (next : ∀ job a, phase' ≠ .reporting job a) :
      SlotMove day request s phase { s with nas := Function.update s.nas job.period (some temp) } phase'
  | recorded {s' phase'} (job : ArchiveJob F) (a : ArchiveReceipt) (start : phase = .archived job a)
      (put : s.putArchive a = .ok s')
      (next : phase' = match request with
        | .cycle _ => .reporting job a
        | .retry _ _ => .done (.ok (.archive a))) :
      SlotMove day request s phase s' phase'
  | reported {s' phase'} (job : ArchiveJob F) (a : ArchiveReceipt) (receipt : ReportReceipt F)
      (start : phase = .reporting job a) (valid : receipt.validate = .ok receipt)
      (filed : receipt.Filed day) (period : receipt.period = job.period)
      (status : receipt.status = .completed ↔ a.status = .archived) (put : s.putReport receipt = .ok s')
      (receivable : ∃ r : DayReport F, s.bundle = some r.directory ∧ (r.bundle day.reportId).Receivable)
      (ok : ReportCallOK day s' request phase') (lock : HoldsLock request phase') (next : ∀ job a, phase' ≠ .reporting job a) :
      SlotMove day request s phase s' phase'
  | unlocked {result} (start : phase = .unlocking result) :
      SlotMove day request s phase { s with lock := false } (.done result)

variable {config : ReportingConfig} {day : ReportDay} {s s' : ReportState F} {request : ReportRequest}
  {phase phase' : ReportPhase F} {moment : ReportMoment F}

/-! ### Raising -/

theorem callOK_raiseFrom {request : ReportRequest} : ReportCallOK day s request (raiseFrom request e) := by
  cases request with
  | cycle cutoff => exact ⟨cutoff, rfl⟩
  | retry period attempt => exact trivial

omit [PyPercent F] [ReportReader F] in
theorem holdsLock_raiseFrom (h : ∀ cutoff, request = .cycle cutoff → HoldsLock request phase) :
    HoldsLock request (raiseFrom request e : ReportPhase F) ↔ HoldsLock request phase := by
  cases request with
  | cycle cutoff => exact iff_of_true trivial (h cutoff rfl)
  | retry period attempt => exact Iff.rfl

omit [PyPercent F] [ReportReader F] in
theorem holdsLock_iff (h : ∀ cutoff, HoldsLock (.cycle cutoff) phase) (h' : ∀ cutoff, HoldsLock (.cycle cutoff) phase') :
    HoldsLock request phase' ↔ HoldsLock request phase := by
  cases request with
  | cycle cutoff => exact iff_of_true (h' cutoff) (h cutoff)
  | retry period attempt => exact Iff.rfl

omit [PyPercent F] [ReportReader F] in
theorem raiseFrom_ne_reporting : ∀ job a, (raiseFrom request e : ReportPhase F) ≠ .reporting job a := by
  intro job a h
  cases request with
  | cycle cutoff => cases h
  | retry period attempt => cases h

theorem SlotMove.raised (h : ∀ cutoff, request = .cycle cutoff → HoldsLock request phase)
    (hreporting : ∀ job a, phase = .reporting job a → s.reports = []) : SlotMove day request s phase s (raiseFrom request e) :=
  .quiet callOK_raiseFrom (holdsLock_raiseFrom h) hreporting raiseFrom_ne_reporting

/-! ### One phase at a time -/

omit [PyTime] in
theorem loadExistingBundle_spec (hs : SlotOK day s) {b : ReportBundle F} (h : loadExistingBundle day.reportId s.bundle = .ok b) :
    ∃ r : DayReport F, s.bundle = some r.directory ∧ b = r.bundle day.reportId := by
  cases hb : s.bundle with
  | none =>
    rw [hb] at h
    cases h
  | some dir =>
    obtain ⟨r, rfl⟩ := hs.written dir hb
    rw [hb, r.loadExistingBundle_directory] at h
    exact ⟨r, rfl, (Except.ok.inj h).symm⟩

variable {receipts : List (ReportReceipt F)}

variable {job : ArchiveJob F} {r : DayReport F} {cutoff : Cutoff}

theorem callOK_nextPeriod
    (hthere : s.bundle = some r.directory) (hperiods : ∀ p ∈ periods, p ∈ day.periods)
    (hcycle : ∃ cutoff, request = .cycle cutoff) :
    ReportCallOK day s request (nextPeriod (r.bundle day.reportId) receipts periods) := by
  cases periods with
  | nil => exact hcycle
  | cons p periods => exact ⟨r, hthere, rfl, hperiods p (by simp), fun q hq => hperiods q (by simp [hq])⟩

omit [PyPercent F] [ReportReader F] in
theorem holdsLock_nextPeriod {bundle : ReportBundle F}
    (hcycle : ∃ cutoff, request = .cycle cutoff) : HoldsLock request (nextPeriod bundle receipts periods) := by
  obtain ⟨cutoff, rfl⟩ := hcycle
  cases periods with
  | nil => exact trivial
  | cons p periods => exact trivial

omit [PyTime] [PyPercent F] [ReportReader F] in
theorem nextPeriod_ne_reporting {bundle : ReportBundle F} :
    ∀ job a, nextPeriod bundle receipts periods ≠ .reporting job a := by
  intro job a h
  cases periods with
  | nil => cases h
  | cons p periods => cases h

theorem move_ready (hs : SlotOK day s) (hcall : ReportCallOK day s request .ready) :
    SlotMove day request s .ready (reportAct config day moment s request .ready).1
      (reportAct config day moment s request .ready).2 := by
  cases request with
  | cycle cutoff =>
    have hdone : ∀ e : Raised, SlotMove day (.cycle cutoff) s .ready s (.done (.error e)) := fun e =>
      .quiet trivial Iff.rfl (fun _ _ h => by cases h) (fun _ _ h => by cases h)
    show SlotMove day _ s .ready (beginCycle config cutoff s).1 (beginCycle config cutoff s).2
    unfold beginCycle
    split
    · exact hdone _
    · split
      · exact hdone _
      · split
        · exact hdone _
        · rename_i hfree
          exact .locked rfl ⟨cutoff, rfl⟩ (Bool.eq_false_iff.mpr hfree)
  | retry period attempt =>
    show SlotMove day _ s .ready s (orRaiseFrom _ (beginRetry config day period attempt s) .archiving)
    cases hbegin : beginRetry config day period attempt s with
    | error e => exact .raised (fun _ h => by cases h) (fun _ _ h => by cases h)
    | ok job =>
      simp only [beginRetry, bind_ok, require_ok, pure_ok, exists_const] at hbegin
      obtain ⟨-, b, hload, rfl⟩ := hbegin
      obtain ⟨r, hthere, rfl⟩ := loadExistingBundle_spec hs hload
      have hjob : JobOK day s r ⟨r.bundle day.reportId, period, [], attempt, []⟩ :=
        ⟨hthere, rfl, hcall period attempt rfl, fun p hp => by cases hp⟩
      show SlotMove day _ s .ready s (.archiving ⟨r.bundle day.reportId, period, [], attempt, []⟩)
      exact .quiet ⟨r, hjob⟩ Iff.rfl (fun _ _ h => by cases h) (fun _ _ h => by cases h)

theorem reportAct_locked : reportAct config day moment s request .locked = match obtainBundle day moment s with
    | .ok (s', bundle) => (s', nextPeriod bundle [] day.periods)
    | .error e => (s, raiseFrom request e) := rfl

theorem move_locked (hs : SlotOK day s) (hcycle : ∃ cutoff, request = .cycle cutoff) :
    SlotMove day request s .locked (reportAct config day moment s request .locked).1
      (reportAct config day moment s request .locked).2 := by
  have hlock : HoldsLock request (.locked : ReportPhase F) := by
    obtain ⟨cutoff, rfl⟩ := hcycle
    exact trivial
  cases hobtain : obtainBundle day moment s with
  | error e =>
    rw [reportAct_locked, hobtain]
    exact .raised (fun _ _ => hlock) (fun _ _ h => by cases h)
  | ok p =>
    obtain ⟨s', b⟩ := p
    rw [reportAct_locked, hobtain]
    dsimp only
    cases hb : s.bundle with
    | some dir =>
      simp only [obtainBundle, hb, bind_ok, pure_ok, Prod.mk.injEq] at hobtain
      obtain ⟨b', hload, rfl, rfl⟩ := hobtain
      rw [← hb] at hload
      obtain ⟨r, hthere, rfl⟩ := loadExistingBundle_spec hs hload
      exact .quiet (callOK_nextPeriod hthere (fun _ h => h) hcycle) (iff_of_true (holdsLock_nextPeriod hcycle) hlock)
        (fun _ _ h => by cases h) nextPeriod_ne_reporting
    | none =>
      simp only [obtainBundle, hb, bind_ok, pure_ok, Prod.mk.injEq] at hobtain
      obtain ⟨r, -, rfl, rfl⟩ := hobtain
      have hok : ReportCallOK day { s with bundle := some r.directory, built := s.built ++ [r.directory] } request
          (nextPeriod (r.bundle day.reportId) [] day.periods) := callOK_nextPeriod rfl (fun _ h => h) hcycle
      exact .built r rfl hcycle hb hok (holdsLock_nextPeriod hcycle) nextPeriod_ne_reporting

theorem move_archiving (hjob : JobOK day s r job) :
    SlotMove day request s (.archiving job) s (orRaiseFrom request (beginArchive day moment s job) id) := by
  have harchived : ∀ {status : ArchiveStatus} {a : ArchiveReceipt}, archiveReceipt day job moment.now status = .ok a →
      (status = .archived → ∃ archive, s.nas job.period = some archive) →
        SlotMove day request s (.archiving job) s (.archived job a) := by
    intro status a ha hthere
    obtain ⟨hvalid, hnamed, hperiod, hstatus, hmanifest⟩ := archiveReceipt_spec hjob.period hjob.bundle ha
    have haok : ArchiveOK day s r job a :=
      ⟨hjob, hvalid, hnamed, hperiod, hmanifest, fun h => hthere (hstatus.symm.trans h)⟩
    exact .quiet ⟨r, haok⟩ (holdsLock_iff (fun _ => trivial) fun _ => trivial) (fun _ _ h => by cases h)
      (fun _ _ h => by cases h)
  cases hbegin : beginArchive day moment s job with
  | error e => exact .raised (fun _ h => by rw [h]; exact trivial) (fun _ _ h => by cases h)
  | ok phase' =>
    show SlotMove day request s (.archiving job) s phase'
    simp only [beginArchive, bind_ok] at hbegin
    obtain ⟨entries, hverify, h⟩ := hbegin
    split at h
    · simp only [bind_ok, pure_ok] at h
      obtain ⟨a, ha, rfl⟩ := h
      exact harchived ha (fun h => by cases h)
    · split at h
      · rename_i archive hthere
        simp only [bind_ok, pure_ok] at h
        obtain ⟨-, -, a, ha, rfl⟩ := h
        exact harchived ha (fun _ => ⟨archive, hthere⟩)
      · split at h
        · cases h
        · cases h
          rw [hjob.bundle, hjob.there] at hverify
          refine .quiet ⟨r, [], r.files, hjob, rfl, r.verifyReportBundle_entries hverify, ?_⟩
            (holdsLock_iff (fun _ => trivial) fun _ => trivial) (fun _ _ h => by cases h) (fun _ _ h => by cases h)
          intro e he
          cases he

omit [PyPercent F] in
theorem copyFile_ok {temp' : Directory} {entry : String × String} {mismatch : String}
    (h : copyFile moment s temp entry mismatch = .ok temp') :
    ∃ dir content, s.bundle = some dir ∧ get? dir entry.1 = some content ∧ temp' = set temp entry.1 content := by
  unfold copyFile at h
  split at h
  · cases h
  · simp only [bind_ok, orRaise_ok, require_ok, pure_ok, exists_const, Option.bind_eq_some_iff] at h
    obtain ⟨content, ⟨dir, hdir, hget⟩, -, rfl⟩ := h
    exact ⟨dir, content, hdir, hget, rfl⟩

omit [PyTime] [PyPercent F] in
theorem copied_set {name : String} {copied : Directory}
    (hcopied : ∀ e ∈ copied, get? temp e.1 = some e.2) (hin : ∀ e ∈ copied, get? r.directory e.1 = some e.2)
    (hget : get? r.directory name = some content) :
    ∀ e ∈ copied, get? (set temp name content) e.1 = some e.2 := by
  intro e he
  by_cases hname : name = e.1
  · rw [← hname, get?_set_self, ← hget, hname, hin e he]
  · rw [get?_set_ne hname]
    exact hcopied e he

theorem move_copying (hcall : ReportCallOK day s request (.copying job entries temp)) :
    SlotMove day request s (.copying job entries temp) (reportAct config day moment s request (.copying job entries temp)).1
      (reportAct config day moment s request (.copying job entries temp)).2 := by
  obtain ⟨r, copied, rest, hjob, hfiles, rfl, hcopied⟩ := hcall
  have hin : ∀ e ∈ copied, get? r.directory e.1 = some e.2 := fun e he =>
    r.directory_file e (by rw [hfiles]; simp [he])
  have hraise : ∀ e : Raised, SlotMove day request s (.copying job (rest.map fun e => (e.1, sha256File e.2)) temp) s
      (raiseFrom request e) := fun e => .raised (fun _ h => by rw [h]; exact trivial) (fun _ _ h => by cases h)
  cases rest with
  | nil =>
    rw [List.append_nil] at hfiles
    show SlotMove day request s (.copying job [] temp) s (orRaiseFrom request
      (copyFile moment s temp ("manifest.sha256", job.bundle.manifestSha256) "NAS manifest copy hash mismatch")
      fun temp' => .replacing job temp')
    cases hcopy : copyFile moment s temp ("manifest.sha256", job.bundle.manifestSha256) "NAS manifest copy hash mismatch" with
    | error e => exact hraise e
    | ok temp' =>
      obtain ⟨dir, content, hdir, hget, rfl⟩ := copyFile_ok hcopy
      rw [hjob.there] at hdir
      cases hdir
      have hset := copied_set hcopied hin hget
      refine .quiet ⟨r, hjob, r.holds_directory ?_ ?_⟩ (holdsLock_iff (fun _ => trivial) fun _ => trivial)
        (fun _ _ h => by cases h)
        (fun _ _ h => by cases h)
      · intro e he
        rw [hset e (by rw [← hfiles]; exact he)]
        rfl
      · rw [get?_set_self, r.directory_manifest.symm.trans hget |> Option.some.inj]
        rfl
  | cons e rest =>
    show SlotMove day request s (.copying job ((e.1, sha256File e.2) :: rest.map fun e => (e.1, sha256File e.2)) temp) s
      (orRaiseFrom request (copyFile moment s temp (e.1, sha256File e.2) "NAS copied file hash mismatch")
        fun temp' => .copying job (rest.map fun e => (e.1, sha256File e.2)) temp')
    cases hcopy : copyFile moment s temp (e.1, sha256File e.2) "NAS copied file hash mismatch" with
    | error e' => exact hraise e'
    | ok temp' =>
      obtain ⟨dir, content, hdir, hget, rfl⟩ := copyFile_ok hcopy
      rw [hjob.there] at hdir
      cases hdir
      refine .quiet ⟨r, copied ++ [e], rest, hjob, ?_, rfl, ?_⟩ (holdsLock_iff (fun _ => trivial) fun _ => trivial)
        (fun _ _ h => by cases h) (fun _ _ h => by cases h)
      · rw [hfiles, List.append_assoc, List.singleton_append]
      · intro e' he'
        rcases List.mem_append.mp he' with he' | he'
        · exact copied_set hcopied hin hget e' he'
        · rw [List.mem_singleton.mp he', get?_set_self, ← hget]
          exact r.directory_file e (by rw [hfiles]; simp)

theorem move_replacing (hcall : ReportCallOK day s request (.replacing job temp)) :
    SlotMove day request s (.replacing job temp) (reportAct config day moment s request (.replacing job temp)).1
      (reportAct config day moment s request (.replacing job temp)).2 := by
  obtain ⟨r, hjob, hholds⟩ := hcall
  unfold reportAct
  dsimp only
  split
  · exact .raised (fun _ h => by rw [h]; exact trivial) (fun _ _ h => by cases h)
  · dsimp only
    cases ha : archiveReceipt day job moment.now .archived with
    | error e =>
      exact .replaced job temp r rfl hjob hholds callOK_raiseFrom (holdsLock_raiseFrom fun _ h => by rw [h]; exact trivial)
        raiseFrom_ne_reporting
    | ok a =>
      obtain ⟨hvalid, hnamed, hperiod, -, hmanifest⟩ := archiveReceipt_spec hjob.period hjob.bundle ha
      have hjob' : JobOK day { s with nas := Function.update s.nas job.period (some temp) } r job :=
        ⟨hjob.there, hjob.bundle, hjob.period, hjob.later⟩
      have ha' : ArchiveOK day { s with nas := Function.update s.nas job.period (some temp) } r job a :=
        ⟨hjob', hvalid, hnamed, hperiod, hmanifest, fun _ => ⟨temp, Function.update_self ..⟩⟩
      exact .replaced job temp r rfl hjob hholds ⟨r, ha'⟩ (holdsLock_iff (fun _ => trivial) fun _ => trivial)
        (fun _ _ h => by cases h)

theorem move_archived :
    SlotMove day request s (.archived job a) (reportAct config day moment s request (.archived job a)).1
      (reportAct config day moment s request (.archived job a)).2 := by
  unfold reportAct
  dsimp only
  cases hput : s.putArchive a with
  | error e => exact .raised (fun _ h => by rw [h]; exact trivial) (fun _ _ h => by cases h)
  | ok s' =>
    cases request with
    | cycle cutoff => exact .recorded job a rfl hput rfl
    | retry period attempt => exact .recorded job a rfl hput rfl

omit [PyTime] in
theorem bundle_eq_of_directory {r' : DayReport F} (h : r.directory = r'.directory) (reportId : String) :
    r.bundle reportId = r'.bundle reportId := by
  have hload := r.loadExistingBundle_directory reportId
  rw [h, r'.loadExistingBundle_directory] at hload
  exact (Except.ok.inj hload).symm

omit [PyTime] in
theorem SlotOK.bundle_receivable (hs : SlotOK day s) (hthere : s.bundle = some r.directory)
    (hne : s.reports ≠ []) : (r.bundle day.reportId).Receivable := by
  obtain ⟨r', hthere', hreceivable⟩ := hs.receivable hne
  rw [hthere] at hthere'
  rw [bundle_eq_of_directory (Option.some.inj hthere')]
  exact hreceivable

theorem reportAct_unreported (h : reportReceipt day job cutoff a = .error e) :
    reportAct config day moment s (.cycle cutoff) (.reporting job a) = (s, raiseFrom (.cycle cutoff) e) := by
  unfold reportAct
  simp only [h]
  rfl

variable {receipt : ReportReceipt F}

theorem reportAct_reporting (h : reportReceipt day job cutoff a = .ok receipt) (hput : s.putReport receipt = .ok s') :
    reportAct config day moment s (.cycle cutoff) (.reporting job a) =
      (s', nextPeriod job.bundle (job.receipts ++ [receipt]) job.later) := by
  unfold reportAct
  simp only [h]
  dsimp only [bind, Except.bind]
  rw [hput]
  rfl

theorem reportReceipt_filed (hjob : JobOK day s r job) (h : reportReceipt day job cutoff a = .ok receipt) :
    receipt.Filed day := by
  obtain ⟨-, hid, hperiod, hstatus, harchive, -⟩ := reportReceipt_spec hjob.period hjob.bundle h
  refine ⟨?_, ?_, by rw [hstatus, harchive]⟩
  · rw [hperiod]
    exact hjob.period
  · rw [hid, ← hperiod]
    rfl

theorem move_reporting (hs : SlotOK day s) (hcall : ReportCallOK day s request (.reporting job a)) :
    SlotMove day request s (.reporting job a) (reportAct config day moment s request (.reporting job a)).1
      (reportAct config day moment s request (.reporting job a)).2 := by
  obtain ⟨⟨r, ha⟩, cutoff, rfl⟩ := hcall
  cases hreceipt : reportReceipt day job cutoff a with
  | error e =>
    rw [reportAct_unreported hreceipt]
    refine .raised (fun _ _ => trivial) fun _ _ _ => ?_
    by_contra hne
    obtain ⟨receipt, hok⟩ := reportReceipt_returns ha.fits.period ha.fits.bundle
      (hs.bundle_receivable ha.fits.there hne) cutoff a
    rw [hreceipt] at hok
    cases hok
  | ok receipt =>
    obtain ⟨hvalid, -, hperiod, hstatus, -, hreceivable⟩ := reportReceipt_spec ha.fits.period ha.fits.bundle hreceipt
    have hfiled := reportReceipt_filed ha.fits hreceipt
    obtain ⟨s', hput⟩ := putReport_returns (s := s) hvalid
    rw [reportAct_reporting hreceipt hput, ha.fits.bundle]
    obtain ⟨reports, hs', -⟩ := putReport_spec hvalid hs.filed hfiled hput
    have hthere : s'.bundle = some r.directory := by
      rw [hs']
      exact ha.fits.there
    exact .reported job a receipt rfl hvalid hfiled hperiod hstatus hput ⟨r, ha.fits.there, hreceivable⟩
      (callOK_nextPeriod hthere ha.fits.later ⟨cutoff, rfl⟩) (holdsLock_nextPeriod ⟨cutoff, rfl⟩) nextPeriod_ne_reporting

variable (config) in
theorem reportAct_move (moment : ReportMoment F) (hs : SlotOK day s) (hcall : ReportCallOK day s request phase) :
    SlotMove day request s phase (reportAct config day moment s request phase).1
      (reportAct config day moment s request phase).2 := by
  cases phase with
  | ready => exact move_ready hs hcall
  | locked => exact move_locked hs hcall
  | archiving job =>
    obtain ⟨r, hjob⟩ := hcall
    exact move_archiving hjob
  | copying job entries temp => exact move_copying hcall
  | replacing job temp => exact move_replacing hcall
  | archived job a => exact move_archived
  | reporting job a => exact move_reporting hs hcall
  | unlocking result => exact .unlocked rfl
  | done result => exact .quiet trivial Iff.rfl (fun _ _ h => by cases h) (fun _ _ h => by cases h)

/-! ## What every run keeps -/

theorem SlotMove.ok (h : SlotMove day request s phase s' phase') (hs : SlotOK day s)
    (hcall : ReportCallOK day s request phase) : SlotOK day s' ∧ ReportCallOK day s' request phase' := by
  cases h with
  | quiet ok _ _ _ => exact ⟨hs, ok⟩
  | locked _ cycle _ =>
    exact ⟨⟨hs.built, hs.written, hs.stored, hs.named, hs.filed, hs.receivable, hs.recorded⟩, cycle⟩
  | built r _ _ hnone ok _ _ =>
    refine ⟨⟨?_, ?_, ?_, hs.named, hs.filed, ?_, ?_⟩, ok⟩
    · show s.built ++ [r.directory] = [r.directory]
      rw [hs.built, hnone]
      rfl
    · exact fun dir hdir => ⟨r, (Option.some.inj hdir).symm⟩
    · intro p archive hp
      obtain ⟨r', hthere, -⟩ := hs.stored p archive hp
      rw [hnone] at hthere
      cases hthere
    · intro hne
      obtain ⟨r', hthere, -⟩ := hs.receivable hne
      rw [hnone] at hthere
      cases hthere
    · intro a ha hstatus
      obtain ⟨-, r', hthere, -⟩ := hs.recorded a ha hstatus
      rw [hnone] at hthere
      cases hthere
  | replaced job temp r _ fits holds ok _ _ =>
    refine ⟨⟨hs.built, hs.written, ?_, hs.named, hs.filed, hs.receivable, ?_⟩, ok⟩
    · intro p archive hp
      change Function.update s.nas job.period (some temp) p = some archive at hp
      by_cases hperiod : p = job.period
      · rw [hperiod, Function.update_self] at hp
        cases hp
        exact ⟨r, fits.there, holds⟩
      · rw [Function.update_of_ne hperiod] at hp
        exact hs.stored p archive hp
    · intro a ha hstatus
      obtain ⟨⟨archive, harchive⟩, hmanifest⟩ := hs.recorded a ha hstatus
      refine ⟨?_, hmanifest⟩
      change ∃ archive, Function.update s.nas job.period (some temp) a.period = some archive
      by_cases hperiod : a.period = job.period
      · exact ⟨temp, by rw [hperiod, Function.update_self]⟩
      · exact ⟨archive, by rw [Function.update_of_ne hperiod]; exact harchive⟩
  | recorded job a start put next =>
    subst start
    obtain ⟨r, ha⟩ := hcall
    obtain ⟨archives, rfl, hnamed⟩ := putArchive_spec ha.valid hs.named ha.named put
    refine ⟨⟨hs.built, hs.written, hs.stored, hnamed, hs.filed, hs.receivable, ?_⟩, ?_⟩
    · intro a' ha' hstatus
      rcases List.mem_append.mp ha' with ha' | ha'
      · exact hs.recorded a' ha' hstatus
      · rw [List.mem_singleton.mp ha'] at hstatus ⊢
        obtain ⟨archive, harchive⟩ := ha.there hstatus
        exact ⟨⟨archive, by rw [ha.period]; exact harchive⟩, r, ha.fits.there, ha.manifest⟩
    · subst next
      have hfits : JobOK day { s with recorded := s.recorded ++ [a], archives := archives } r job :=
        ⟨ha.fits.there, ha.fits.bundle, ha.fits.period, ha.fits.later⟩
      cases request with
      | cycle cutoff => exact ⟨⟨r, hfits, ha.valid, ha.named, ha.period, ha.manifest, ha.there⟩, cutoff, rfl⟩
      | retry period attempt => exact trivial
  | reported job a receipt _ valid filed _ _ put receivable ok _ _ =>
    obtain ⟨reports, rfl, hfiled, -⟩ := putReport_spec valid hs.filed filed put
    exact ⟨⟨hs.built, hs.written, hs.stored, hs.named, hfiled, fun _ => receivable, hs.recorded⟩, ok⟩
  | unlocked _ =>
    exact ⟨⟨hs.built, hs.written, hs.stored, hs.named, hs.filed, hs.receivable, hs.recorded⟩, trivial⟩

theorem SlotMove.bundle (h : SlotMove day request s phase s' phase') (hs : SlotOK day s)
    (hcall : ReportCallOK day s request phase) (hdir : s.bundle = some dir) : s'.bundle = some dir := by
  cases h with
  | quiet _ _ _ _ => exact hdir
  | locked _ _ _ => exact hdir
  | built r _ _ hnone _ _ _ =>
    rw [hnone] at hdir
    cases hdir
  | replaced job temp r _ _ _ _ _ _ => exact hdir
  | recorded job a start put _ =>
    subst start
    obtain ⟨r, ha⟩ := hcall
    obtain ⟨archives, rfl, -⟩ := putArchive_spec ha.valid hs.named ha.named put
    exact hdir
  | reported job a receipt _ valid filed _ _ put _ _ _ _ =>
    obtain ⟨reports, rfl, -⟩ := putReport_spec valid hs.filed filed put
    exact hdir
  | unlocked _ => exact hdir

/-- What holds of the slot and of the call in progress, in every run. -/
structure ReportWorldOK (day : ReportDay) (w : ReportWorld F) : Prop where
  slot : SlotOK day w.state
  call : ∀ c ∈ w.call, ReportCallOK day w.state c.1 c.2

/-- A retry is for a period of the day. -/
def InDay (day : ReportDay) : ReportEvent F → Prop
  | .call (.retry period _) => period ∈ day.periods
  | _ => True

omit [PyTime] in
theorem SlotOK.empty [PyTime] : SlotOK day ({} : ReportState F) := by
  refine ⟨rfl, ?_, ?_, ?_, ?_, fun h => absurd rfl h, ?_⟩
  · exact fun _ h => by cases h
  · exact fun _ _ h => by cases h
  · exact fun _ h => by cases h
  · exact fun _ h => by cases h
  · exact fun _ h => by cases h

variable {w : ReportWorld F}

variable (config day w) in
theorem after_call (request : ReportRequest) : w.after config day (.call request) = w ∨
    (w.Idle ∧ w.after config day (.call request) = { w with call := some (request, .ready) }) := by
  obtain ⟨s, call⟩ := w
  cases call with
  | none => exact .inr ⟨fun _ hc => (by cases hc), rfl⟩
  | some c =>
    obtain ⟨request', phase⟩ := c
    cases phase with
    | done result =>
      refine .inr ⟨fun c hc => ?_, rfl⟩
      cases hc
      exact ⟨result, rfl⟩
    | _ => exact .inl rfl

variable (config day) in
theorem after_step (moment : ReportMoment F) (h : w.call = some (request, phase)) : w.after config day (.step moment) =
    ⟨(reportAct config day moment w.state request phase).1,
      some (request, (reportAct config day moment w.state request phase).2)⟩ := by
  obtain ⟨s, call⟩ := w
  cases h
  rfl

variable (config) in
theorem ReportWorldOK.after (h : ReportWorldOK day w) (e : ReportEvent F) (hday : InDay day e) :
    ReportWorldOK day (w.after config day e) := by
  cases e with
  | call request =>
    rcases after_call config day w request with hw | ⟨-, hw⟩
    · rw [hw]
      exact h
    · rw [hw]
      refine ⟨h.slot, fun c hc => ?_⟩
      cases hc
      intro period attempt heq
      cases heq
      exact hday
  | step moment =>
    cases hc : w.call with
    | none =>
      have hw : w.after config day (.step moment) = w := by rw [ReportWorld.after, hc]
      rw [hw]
      exact h
    | some c =>
      obtain ⟨request, phase⟩ := c
      have hcall := h.call _ hc
      rw [after_step config day moment hc]
      obtain ⟨hslot, hcall'⟩ := (reportAct_move config moment h.slot hcall).ok h.slot hcall
      refine ⟨hslot, fun c hc => ?_⟩
      cases hc
      exact hcall'
  | stop => exact ⟨h.slot, fun c hc => by cases hc⟩

/-! ## When the receipts tell the truth -/

/-- The report receipts of a period, which there are, are completed. -/
def ReportState.Completed (s : ReportState F) (p : Period) : Prop :=
  (∃ row ∈ s.reports, row.period = p) ∧ ∀ row ∈ s.reports, row.period = p → row.status = .completed

/-- No process stops while a cycle has the lock file; no cycle records a pending archive of a period that is archived;
no retry records the archive of a period whose report receipt is not completed. -/
def Careful (w : ReportWorld F) : ReportEvent F → Prop
  | .call _ => True
  | .stop => ∀ c ∈ w.call, ¬ HoldsLock c.1 c.2
  | .step _ => ∀ job a,
      (∀ cutoff, w.call = some (.cycle cutoff, .archived job a) → a.status = .pendingNas → ¬ w.state.Archived job.period) ∧
      ∀ period attempt, w.call = some (.retry period attempt, .archived job a) → a.status = .archived →
        ∀ row ∈ w.state.reports, row.period = job.period → row.status = .completed

/-- The lock file is a cycle's, and the report receipts say what is archived; the receipt that a cycle is about to write is
the one that can be behind. -/
structure Truth (s : ReportState F) (call : Option (ReportRequest × ReportPhase F)) : Prop where
  lock : s.lock = true ↔ ∃ c ∈ call, HoldsLock c.1 c.2
  completed : ∀ row ∈ s.reports, row.status = .completed → s.Archived row.period
  told : ∀ row ∈ s.reports, s.Archived row.period → row.status = .completed ∨
    ∃ c ∈ call, ∃ job a, c.2 = .reporting job a ∧ job.period = row.period
  pending : ∀ c ∈ call, ∀ job a, c.2 = .reporting job a → (a.status = .archived ↔ s.Archived job.period)

omit [PyPercent F] [ReportReader F] in
theorem exists_holdsLock : (∃ c ∈ some (request, phase), HoldsLock c.1 c.2) ↔ HoldsLock request phase := by
  constructor
  · intro ⟨c, hc, h⟩
    cases hc
    exact h
  · exact fun h => ⟨_, rfl, h⟩

omit [PyPercent F] [ReportReader F] in
theorem Truth.settled (h : Truth s (some (request, phase))) (hphase : ∀ job a, phase ≠ .reporting job a) :
    ∀ row ∈ s.reports, s.Archived row.period → row.status = .completed := by
  intro row hrow harchived
  rcases h.told row hrow harchived with hdone | ⟨c, hc, job, a, hreporting, -⟩
  · exact hdone
  · cases hc
    exact absurd hreporting (hphase job a)

omit [PyPercent F] [ReportReader F] in
theorem Truth.of_settled (hlock : s.lock = true ↔ HoldsLock request phase)
    (hcompleted : ∀ row ∈ s.reports, row.status = .completed → s.Archived row.period)
    (htold : ∀ row ∈ s.reports, s.Archived row.period → row.status = .completed)
    (hphase : ∀ job a, phase ≠ .reporting job a) : Truth s (some (request, phase)) := by
  refine ⟨hlock.trans exists_holdsLock.symm, hcompleted, fun row hrow h => .inl (htold row hrow h), ?_⟩
  intro c hc job a h
  cases hc
  exact absurd h (hphase job a)

theorem SlotMove.truth (h : SlotMove day request s phase s' phase') (hs : SlotOK day s)
    (hcall : ReportCallOK day s request phase) (ht : Truth s (some (request, phase)))
    (hcareful : ∀ moment : ReportMoment F, Careful ⟨s, some (request, phase)⟩ (.step moment)) (moment : ReportMoment F) :
    Truth s' (some (request, phase')) := by
  have hlock := ht.lock.trans exists_holdsLock
  cases h with
  | quiet _ lock unreported next =>
    refine .of_settled (hlock.trans lock.symm) ht.completed ?_ next
    intro row hrow harchived
    rcases ht.told row hrow harchived with hdone | ⟨c, hc, job, a, hreporting, -⟩
    · exact hdone
    · cases hc
      rw [unreported job a hreporting] at hrow
      cases hrow
  | locked start cycle _ =>
    subst start
    obtain ⟨cutoff, rfl⟩ := cycle
    exact .of_settled (iff_of_true rfl trivial) ht.completed (ht.settled fun _ _ h => by cases h) (fun _ _ h => by cases h)
  | built r start cycle _ _ lock next =>
    subst start
    obtain ⟨cutoff, rfl⟩ := cycle
    exact .of_settled (iff_of_true (hlock.mpr trivial) lock) ht.completed (ht.settled fun _ _ h => by cases h) next
  | replaced job temp r start _ _ _ lock next =>
    subst start
    exact .of_settled (hlock.trans lock.symm) ht.completed (ht.settled fun _ _ h => by cases h) next
  | recorded job a start put next =>
    subst start
    obtain ⟨r, ha⟩ := hcall
    obtain ⟨archives, rfl, -⟩ := putArchive_spec ha.valid hs.named ha.named put
    have hsettled := ht.settled fun _ _ h => by cases h
    have hold : ∀ p, s.Archived p → ({ s with recorded := s.recorded ++ [a], archives } : ReportState F).Archived p :=
      fun p ⟨a', ha', h⟩ => ⟨a', List.mem_append_left _ ha', h⟩
    have hnew : ∀ p, ({ s with recorded := s.recorded ++ [a], archives } : ReportState F).Archived p →
        s.Archived p ∨ (a.status = .archived ∧ job.period = p) := by
      intro p ⟨a', ha', hstatus, hp⟩
      rcases List.mem_append.mp ha' with ha' | ha'
      · exact .inl ⟨a', ha', hstatus, hp⟩
      · rw [List.mem_singleton.mp ha'] at hstatus hp
        exact .inr ⟨hstatus, ha.period.symm.trans hp⟩
    obtain ⟨hcycle, hretry⟩ := hcareful moment job a
    cases request with
    | cycle cutoff =>
      subst next
      refine ⟨hlock.trans (iff_of_true trivial ⟨_, rfl, trivial⟩),
        fun row hrow hdone => hold _ (ht.completed row hrow hdone), ?_, ?_⟩
      · intro row hrow harchived
        rcases hnew _ harchived with harchived | ⟨-, hp⟩
        · exact .inl (hsettled row hrow harchived)
        · exact .inr ⟨_, rfl, job, a, rfl, hp⟩
      · intro c hc job' a' hreporting
        cases hc
        cases hreporting
        constructor
        · exact fun hstatus => ⟨a, by simp, hstatus, ha.period⟩
        · intro harchived
          rcases hnew _ harchived with harchived | ⟨hstatus, -⟩
          · cases hstatus : a.status with
            | archived => rfl
            | pendingNas => exact absurd harchived (hcycle cutoff rfl hstatus)
          · exact hstatus
    | retry period attempt =>
      subst next
      refine .of_settled hlock (fun row hrow hdone => hold _ (ht.completed row hrow hdone)) ?_ (fun _ _ h => by cases h)
      intro row hrow harchived
      rcases hnew _ harchived with harchived | ⟨hstatus, hp⟩
      · exact hsettled row hrow harchived
      · exact hretry period attempt rfl hstatus row hrow hp.symm
  | reported job a receipt start valid filed period status put _ _ lock next =>
    subst start
    obtain ⟨-, cutoff, rfl⟩ := hcall
    obtain ⟨reports, rfl, -, hrows, -, -⟩ := putReport_spec valid hs.filed filed put
    have hpending := ht.pending _ rfl job a rfl
    refine .of_settled (iff_of_true (hlock.mpr trivial) lock) ?_ ?_ next
    · intro row hrow hdone
      rcases hrows row hrow with ⟨hp, hstatus⟩ | ⟨-, hrow⟩
      · rw [hp, period]
        exact hpending.mp (status.mp (hstatus.symm.trans hdone))
      · exact ht.completed row hrow hdone
    · intro row hrow harchived
      rcases hrows row hrow with ⟨hp, hstatus⟩ | ⟨hp, hrow⟩
      · rw [hp, period] at harchived
        rw [hstatus]
        exact status.mpr (hpending.mpr harchived)
      · rcases ht.told row hrow harchived with hdone | ⟨c, hc, job', a', hreporting, hp'⟩
        · exact hdone
        · cases hc
          cases hreporting
          exact absurd (hp'.symm.trans period.symm) hp
  | unlocked start =>
    subst start
    refine .of_settled ?_ ht.completed (ht.settled fun _ _ h => by cases h) (fun _ _ h => by cases h)
    obtain ⟨cutoff, rfl⟩ := hcall
    exact iff_of_false (by simp) id

theorem SlotMove.stays_completed (h : SlotMove day request s phase s' phase') (hs : SlotOK day s)
    (hcall : ReportCallOK day s request phase) (ht : Truth s (some (request, phase))) (hp : s.Completed p) :
    s'.Completed p := by
  cases h with
  | quiet _ _ _ _ => exact hp
  | locked _ _ _ => exact hp
  | built r _ _ _ _ _ _ => exact hp
  | replaced job temp r _ _ _ _ _ _ => exact hp
  | recorded job a start put _ =>
    subst start
    obtain ⟨r, ha⟩ := hcall
    obtain ⟨archives, rfl, -⟩ := putArchive_spec ha.valid hs.named ha.named put
    exact hp
  | reported job a receipt start valid filed period status put _ _ _ _ =>
    subst start
    obtain ⟨⟨row₀, hrow₀, hp₀⟩, hall⟩ := hp
    obtain ⟨reports, rfl, -, hrows, ⟨row₁, hrow₁, hp₁⟩, hkept⟩ := putReport_spec valid hs.filed filed put
    by_cases hperiod : p = receipt.period
    · have harchived : s.Archived job.period := by
        rw [← period, ← hperiod, ← hp₀]
        exact ht.completed row₀ hrow₀ (hall row₀ hrow₀ hp₀)
      have hreceipt : receipt.status = .completed := status.mpr ((ht.pending _ rfl job a rfl).mpr harchived)
      refine ⟨⟨row₁, hrow₁, hp₁.trans hperiod.symm⟩, fun row hrow hrp => ?_⟩
      rcases hrows row hrow with ⟨-, hstatus⟩ | ⟨hne, -⟩
      · exact hstatus.trans hreceipt
      · exact absurd (hrp.trans hperiod) hne
    · have hne : row₀.period ≠ receipt.period := by
        rw [hp₀]
        exact hperiod
      refine ⟨⟨row₀, hkept row₀ hrow₀ hne, hp₀⟩, fun row hrow hrp => ?_⟩
      rcases hrows row hrow with ⟨hrp', -⟩ | ⟨-, hrow⟩
      · exact absurd (hrp.symm.trans hrp') hperiod
      · exact hall row hrow hrp
  | unlocked _ => exact hp

/-! ## Runs -/

theorem Truth.after (hw : ReportWorldOK day w) (ht : Truth w.state w.call) {e : ReportEvent F} (hcareful : Careful w e) :
    Truth (w.after config day e).state (w.after config day e).call := by
  cases e with
  | call request =>
    rcases after_call config day w request with hw' | ⟨hidle, hw'⟩
    · rw [hw']
      exact ht
    · rw [hw']
      have hnone : ∀ c ∈ w.call, ¬ HoldsLock c.1 c.2 ∧ ∀ job a, c.2 ≠ .reporting job a := by
        intro c hc
        obtain ⟨result, hdone⟩ := hidle c hc
        rw [hdone]
        refine ⟨?_, fun _ _ h => by cases h⟩
        cases c.1 <;> exact id
      refine .of_settled ?_ ht.completed ?_ (fun _ _ h => by cases h)
      · rw [ht.lock]
        refine iff_of_false (fun ⟨c, hc, h⟩ => (hnone c hc).1 h) ?_
        cases request <;> exact id
      · intro row hrow harchived
        rcases ht.told row hrow harchived with hdone | ⟨c, hc, job, a, hreporting, -⟩
        · exact hdone
        · exact absurd hreporting ((hnone c hc).2 job a)
  | step moment =>
    cases hc : w.call with
    | none =>
      have hw' : w.after config day (.step moment) = w := by rw [ReportWorld.after, hc]
      rw [hw']
      exact ht
    | some c =>
      obtain ⟨request, phase⟩ := c
      have hcall := hw.call _ hc
      rw [after_step config day moment hc]
      rw [hc] at ht
      refine (reportAct_move config moment hw.slot hcall).truth hw.slot hcall ht ?_ moment
      intro _ job a
      rw [← hc]
      exact hcareful job a
  | stop =>
    have hfree : ∀ c ∈ w.call, ¬ HoldsLock c.1 c.2 := hcareful
    refine ⟨?_, ht.completed, ?_, fun c hc => by cases hc⟩
    · rw [show (w.after config day .stop).state.lock = w.state.lock from rfl, ht.lock]
      exact iff_of_false (fun ⟨c, hc, h⟩ => hfree c hc h) (fun ⟨c, hc, _⟩ => by cases hc)
    · intro row hrow harchived
      rcases ht.told row hrow harchived with hdone | ⟨c, hc, job, a, hreporting, -⟩
      · exact .inl hdone
      · have hcall := hw.call c hc
        have hheld := hfree c hc
        rw [hreporting] at hcall hheld
        obtain ⟨-, cutoff, hcycle⟩ := hcall
        rw [hcycle] at hheld
        exact absurd trivial hheld

/-- What a run keeps: the bundle that is there, and the periods that are completed. -/
structure Keeps (s s' : ReportState F) : Prop where
  bundle : ∀ dir, s.bundle = some dir → s'.bundle = some dir
  completed : ∀ p, s.Completed p → s'.Completed p

omit [PyTime] [PyPercent F] [ReportReader F] in
theorem Keeps.refl (s : ReportState F) : Keeps s s := ⟨fun _ h => h, fun _ h => h⟩

omit [PyTime] [PyPercent F] [ReportReader F] in
theorem Keeps.trans {s₁ s₂ s₃ : ReportState F} (h : Keeps s₁ s₂) (h' : Keeps s₂ s₃) : Keeps s₁ s₃ :=
  ⟨fun dir hdir => h'.bundle dir (h.bundle dir hdir), fun p hp => h'.completed p (h.completed p hp)⟩

theorem keeps_after (hw : ReportWorldOK day w) (ht : Truth w.state w.call) (e : ReportEvent F) :
    Keeps w.state (w.after config day e).state := by
  cases e with
  | call request =>
    rcases after_call config day w request with hw' | ⟨-, hw'⟩
    · rw [hw']
      exact .refl _
    · rw [hw']
      exact .refl _
  | step moment =>
    cases hc : w.call with
    | none =>
      have hw' : w.after config day (.step moment) = w := by rw [ReportWorld.after, hc]
      rw [hw']
      exact .refl _
    | some c =>
      obtain ⟨request, phase⟩ := c
      have hcall := hw.call _ hc
      rw [hc] at ht
      rw [after_step config day moment hc]
      have hmove := reportAct_move config moment hw.slot hcall
      exact ⟨fun dir hdir => hmove.bundle hw.slot hcall hdir, fun p hp => hmove.stays_completed hw.slot hcall ht hp⟩
  | stop => exact .refl _

def ReportWorld.run (config : ReportingConfig) (day : ReportDay) (w : ReportWorld F) (events : List (ReportEvent F)) :
    ReportWorld F := events.foldl (ReportWorld.after config day) w

/-- Every event of a run is of the day and careful. -/
def CarefulRun (config : ReportingConfig) (day : ReportDay) : ReportWorld F → List (ReportEvent F) → Prop
  | _, [] => True
  | w, e :: events => InDay day e ∧ Careful w e ∧ CarefulRun config day (w.after config day e) events

variable {events : List (ReportEvent F)}

theorem careful_run (hw : ReportWorldOK day w) (ht : Truth w.state w.call)
    (h : CarefulRun config day w events) : ReportWorldOK day (w.run config day events) ∧
      Truth (w.run config day events).state (w.run config day events).call ∧ Keeps w.state (w.run config day events).state := by
  induction events generalizing w with
  | nil => exact ⟨hw, ht, .refl _⟩
  | cons e events ih =>
    obtain ⟨hday, hcareful, hrest⟩ := h
    obtain ⟨hw', ht', hkeeps⟩ := ih (hw.after _ _ hday) (ht.after hw hcareful) hrest
    exact ⟨hw', ht', (keeps_after hw ht e).trans hkeeps⟩

theorem carefulRun_append {events' : List (ReportEvent F)} : CarefulRun config day w (events ++ events') ↔
    CarefulRun config day w events ∧ CarefulRun config day (w.run config day events) events' := by
  induction events generalizing w with
  | nil => exact (and_iff_right trivial).symm
  | cons e events ih =>
    rw [List.cons_append, CarefulRun, ih, CarefulRun, and_assoc, and_assoc]
    exact Iff.rfl

/-! ## A cycle returns -/

/-- What the environment of a cycle gives when nothing fails. -/
structure ReportMoment.Favourable (day : ReportDay) (moment : ReportMoment F) : Prop where
  report : ∃ r : DayReport F, moment.report = .ok r ∧ r.Reportable day.reportId
  failure : moment.failure = none

/-- The bundle that is there can be receipted and archived. -/
def BundleFits (day : ReportDay) (s : ReportState F) : Prop :=
  ∀ r : DayReport F, s.bundle = some r.directory → r.Reportable day.reportId

/-- The receipts so far and the periods that are left are the periods of the day. -/
def ArchiveJob.OnCourse (day : ReportDay) (job : ArchiveJob F) : Prop :=
  job.attempt = 1 ∧ job.receipts.map ReportReceipt.period ++ job.period :: job.later = day.periods

/-- A cycle on its way to its return. -/
def Going (day : ReportDay) (s : ReportState F) : ReportPhase F → Prop
  | .ready => s.lock = false ∧ BundleFits day s
  | .locked => BundleFits day s
  | .archiving job => BundleFits day s ∧ job.OnCourse day
  | .copying job _ _ => BundleFits day s ∧ job.OnCourse day
  | .replacing job _ => BundleFits day s ∧ job.OnCourse day
  | .archived job _ => BundleFits day s ∧ job.OnCourse day
  | .reporting job _ => BundleFits day s ∧ job.OnCourse day
  | .unlocking result => ∃ receipts, result = .ok (.receipts receipts) ∧ receipts.map ReportReceipt.period = day.periods
  | .done result => ∃ receipts, result = .ok (.receipts receipts) ∧ receipts.map ReportReceipt.period = day.periods

/-- A bound on the steps that are left. -/
def stepsLeft (day : ReportDay) : ReportPhase F → Nat
  | .ready => 10 * day.periods.length + 4
  | .locked => 10 * day.periods.length + 3
  | .archiving job => 10 * job.later.length + 10
  | .copying job entries _ => 10 * job.later.length + 5 + entries.length
  | .replacing job _ => 10 * job.later.length + 4
  | .archived job _ => 10 * job.later.length + 3
  | .reporting job _ => 10 * job.later.length + 2
  | .unlocking _ => 1
  | .done _ => 0

/-- The step leaves the cycle on its way, nearer to its return. -/
def Advances (day : ReportDay) (phase : ReportPhase F) (next : ReportState F × ReportPhase F) : Prop :=
  Going day next.1 next.2 ∧ stepsLeft day next.2 < stepsLeft day phase

omit [PyTime] in
theorem advances_nextPeriod
    (hfits : BundleFits day s) (h : receipts.map ReportReceipt.period ++ periods = day.periods)
    (hsteps : 10 * periods.length + 1 < stepsLeft day phase) :
    Advances day phase (s, nextPeriod (r.bundle day.reportId) receipts periods) := by
  cases periods with
  | nil =>
    rw [List.append_nil] at h
    exact ⟨⟨receipts, rfl, h⟩, hsteps⟩
  | cons p periods =>
    refine ⟨⟨hfits, rfl, h⟩, ?_⟩
    have hleft : stepsLeft day (nextPeriod (r.bundle day.reportId) receipts (p :: periods)) = 10 * periods.length + 10 := rfl
    rw [List.length_cons] at hsteps
    show stepsLeft day (nextPeriod (r.bundle day.reportId) receipts (p :: periods)) < _
    omega

omit [PyTime] in
theorem DayReport.Reportable.of_directory {r' : DayReport F} (h : r.Reportable reportId)
    (hdir : r.directory = r'.directory) : r'.Reportable reportId := by
  refine ⟨?_, ?_⟩
  · rw [← bundle_eq_of_directory hdir]
    exact h.receivable
  · have hsize : r.size = r'.size := by
      simp only [DayReport.directory, DayReport.files, List.cons_append, List.nil_append, List.cons.injEq, Prod.mk.injEq,
        true_and] at hdir
      simp only [DayReport.size, hdir]
    rw [← hsize]
    exact h.small

theorem advances_ready (henabled : config.enabled = true) (hour : cutoff.hour = 17)
    (hminute : cutoff.minute = 30) (h : Going day s .ready) :
    Advances day .ready (reportAct config day moment s (.cycle cutoff) .ready) := by
  have hact : reportAct config day moment s (.cycle cutoff) .ready = ({ s with lock := true }, .locked) := by
    show beginCycle config cutoff s = _
    simp [beginCycle, henabled, hour, hminute, h.1]
  rw [hact]
  exact ⟨h.2, by simp [stepsLeft]⟩

theorem advances_locked (hs : SlotOK day s) (hmoment : moment.Favourable day) (h : BundleFits day s) :
    Advances day .locked (reportAct config day moment s (.cycle cutoff) .locked) := by
  rw [reportAct_locked]
  cases hb : s.bundle with
  | some dir =>
    obtain ⟨r, rfl⟩ := hs.written dir hb
    have hobtain : obtainBundle day moment s = .ok (s, r.bundle day.reportId) := by
      simp only [obtainBundle, hb, bind_ok, pure_ok]
      exact ⟨_, r.loadExistingBundle_directory _, rfl⟩
    rw [hobtain]
    exact advances_nextPeriod h rfl (by simp [stepsLeft])
  | none =>
    obtain ⟨⟨r, hr, hreportable⟩, -⟩ := hmoment
    have hobtain : obtainBundle day moment s = .ok
        ({ s with bundle := some r.directory, built := s.built ++ [r.directory] }, r.bundle day.reportId) := by
      simp only [obtainBundle, hb, hr, bind_ok, pure_ok]
      exact ⟨_, rfl, rfl⟩
    rw [hobtain]
    exact advances_nextPeriod (fun r' hr' => hreportable.of_directory (Option.some.inj hr')) rfl (by simp [stepsLeft])

theorem advances_archiving (hs : SlotOK day s)
    (hjob : JobOK day s r job) (hmoment : moment.Favourable day) (h : Going day s (.archiving job)) :
    Advances day (.archiving job) (reportAct config day moment s (.cycle cutoff) (.archiving job)) := by
  obtain ⟨hfits, hcourse⟩ := h
  have hsmall := (hfits r hjob.there).small
  have hverify : verifyReportBundle job.bundle s.bundle = .ok (r.files.map fun e => (e.1, sha256File e.2)) := by
    rw [hjob.bundle, hjob.there]
    exact r.verifyReportBundle_directory day.reportId hsmall
  have hreceipt := archiveReceipt_returns hjob.period hjob.bundle hcourse.1 moment.now
  have hact : ∀ {phase : ReportPhase F}, beginArchive day moment s job = .ok phase →
      reportAct config day moment s (.cycle cutoff) (.archiving job) = (s, phase) := by
    intro phase h
    show (s, orRaiseFrom _ (beginArchive day moment s job) id) = _
    rw [h]
    rfl
  by_cases hmounted : moment.mounted = false
  · obtain ⟨a, ha⟩ := hreceipt .pendingNas
    have hbegin : beginArchive day moment s job = .ok (.archived job a) := by
      simp only [beginArchive, bind_ok]
      refine ⟨_, hverify, ?_⟩
      rw [if_pos hmounted]
      exact bind_ok.mpr ⟨a, ha, rfl⟩
    rw [hact hbegin]
    exact ⟨⟨hfits, hcourse⟩, by simp [stepsLeft]⟩
  · cases hnas : s.nas job.period with
    | some archive =>
      obtain ⟨r', hthere, hholds⟩ := hs.stored _ _ hnas
      rw [hjob.there] at hthere
      rw [← Option.some.inj hthere] at hholds
      obtain ⟨a, ha⟩ := hreceipt .archived
      have hbegin : beginArchive day moment s job = .ok (.archived job a) := by
        simp only [beginArchive, bind_ok]
        refine ⟨_, hverify, ?_⟩
        rw [if_neg hmounted, hnas]
        refine bind_ok.mpr ⟨⟨⟩, ?_, bind_ok.mpr ⟨a, ha, rfl⟩⟩
        rw [hjob.bundle]
        exact r.checkArchive_directory hholds
      rw [hact hbegin]
      exact ⟨⟨hfits, hcourse⟩, by simp [stepsLeft]⟩
    | none =>
      have hbegin : beginArchive day moment s job =
          .ok (.copying job (r.files.map fun e => (e.1, sha256File e.2)) []) := by
        simp only [beginArchive, bind_ok]
        refine ⟨_, hverify, ?_⟩
        rw [if_neg hmounted, hnas, hmoment.failure]
        rfl
      rw [hact hbegin]
      exact ⟨⟨hfits, hcourse⟩, by simp [stepsLeft, DayReport.files]⟩

omit [PyPercent F] in
theorem copyFile_returns (temp : Directory) (entry : String × String) (mismatch : String)
    (hfailure : moment.failure = none) (hdir : s.bundle = some dir)
    (hget : get? dir entry.1 = some content) (hsha : sha256File content = entry.2) :
    copyFile moment s temp entry mismatch = .ok (set temp entry.1 content) := by
  simp only [copyFile, hfailure, hdir, Option.bind_some, hget, bind_ok, orRaise_ok, require_ok, pure_ok, exists_const,
    Option.some.injEq, exists_eq_left', and_true]
  exact hsha

theorem advances_copying
    (hcall : ReportCallOK day s (.cycle cutoff) (.copying job entries temp)) (hmoment : moment.Favourable day)
    (h : Going day s (.copying job entries temp)) : Advances day (.copying job entries temp)
      (reportAct config day moment s (.cycle cutoff) (.copying job entries temp)) := by
  obtain ⟨r, copied, rest, hjob, hfiles, rfl, -⟩ := hcall
  cases rest with
  | nil =>
    have hsha : sha256File (asciiBytes (manifestText r.files)) = job.bundle.manifestSha256 := by
      rw [hjob.bundle]
      rfl
    have hcopy := copyFile_returns temp ("manifest.sha256", job.bundle.manifestSha256)
      "NAS manifest copy hash mismatch" hmoment.failure hjob.there r.directory_manifest hsha
    have hact : reportAct config day moment s (.cycle cutoff) (.copying job [] temp) =
        (s, .replacing job (set temp "manifest.sha256" (asciiBytes (manifestText r.files)))) := by
      show (s, orRaiseFrom _ (copyFile moment s temp ("manifest.sha256", job.bundle.manifestSha256)
        "NAS manifest copy hash mismatch") fun temp' => .replacing job temp') = _
      rw [hcopy]
      rfl
    rw [List.map_nil, hact]
    exact ⟨h, by simp [stepsLeft]⟩
  | cons e rest =>
    have hget : get? r.directory e.1 = some e.2 := r.directory_file e (by rw [hfiles]; simp)
    have hcopy := copyFile_returns temp (e.1, sha256File e.2)
      "NAS copied file hash mismatch" hmoment.failure hjob.there hget rfl
    have hact : reportAct config day moment s (.cycle cutoff)
        (.copying job ((e.1, sha256File e.2) :: rest.map fun e => (e.1, sha256File e.2)) temp) =
        (s, .copying job (rest.map fun e => (e.1, sha256File e.2)) (set temp e.1 e.2)) := by
      show (s, orRaiseFrom _ (copyFile moment s temp (e.1, sha256File e.2) "NAS copied file hash mismatch")
        fun temp' => .copying job (rest.map fun e => (e.1, sha256File e.2)) temp') = _
      rw [hcopy]
      rfl
    rw [List.map_cons, hact]
    exact ⟨h, by simp [stepsLeft]⟩

theorem advances_replacing
    (hcall : ReportCallOK day s (.cycle cutoff) (.replacing job temp)) (hmoment : moment.Favourable day)
    (h : Going day s (.replacing job temp)) : Advances day (.replacing job temp)
      (reportAct config day moment s (.cycle cutoff) (.replacing job temp)) := by
  obtain ⟨r, hjob, -⟩ := hcall
  obtain ⟨a, ha⟩ := archiveReceipt_returns hjob.period hjob.bundle h.2.1 moment.now .archived
  have hact : reportAct config day moment s (.cycle cutoff) (.replacing job temp) =
      ({ s with nas := Function.update s.nas job.period (some temp) }, .archived job a) := by
    unfold reportAct
    simp only [hmoment.failure, ha]
    rfl
  rw [hact]
  exact ⟨h, by simp [stepsLeft]⟩

theorem advances_archived (hs : SlotOK day s)
    (hcall : ReportCallOK day s (.cycle cutoff) (.archived job a)) (h : Going day s (.archived job a)) :
    Advances day (.archived job a) (reportAct config day moment s (.cycle cutoff) (.archived job a)) := by
  obtain ⟨r, ha⟩ := hcall
  obtain ⟨s', hput⟩ := putArchive_returns ha.valid hs.named ha.named
  have hact : reportAct config day moment s (.cycle cutoff) (.archived job a) = (s', .reporting job a) := by
    unfold reportAct
    simp only [hput]
  rw [hact]
  obtain ⟨archives, rfl, -⟩ := putArchive_spec ha.valid hs.named ha.named hput
  exact ⟨h, by simp [stepsLeft]⟩

theorem advances_reporting (hs : SlotOK day s)
    (hcall : ReportCallOK day s (.cycle cutoff) (.reporting job a)) (h : Going day s (.reporting job a)) :
    Advances day (.reporting job a) (reportAct config day moment s (.cycle cutoff) (.reporting job a)) := by
  obtain ⟨⟨r, ha⟩, -⟩ := hcall
  obtain ⟨hfits, -, hcourse⟩ := h
  obtain ⟨receipt, hreceipt⟩ := reportReceipt_returns ha.fits.period ha.fits.bundle (hfits r ha.fits.there).receivable cutoff a
  obtain ⟨hvalid, -, hperiod, -⟩ := reportReceipt_spec ha.fits.period ha.fits.bundle hreceipt
  have hfiled := reportReceipt_filed ha.fits hreceipt
  obtain ⟨s', hput⟩ := putReport_returns (s := s) hvalid
  rw [reportAct_reporting hreceipt hput, ha.fits.bundle]
  obtain ⟨reports, rfl, -⟩ := putReport_spec hvalid hs.filed hfiled hput
  refine advances_nextPeriod hfits ?_ (by simp [stepsLeft])
  rw [List.map_append, List.map_singleton, hperiod, List.append_assoc]
  exact hcourse

theorem advances (hs : SlotOK day s) (hcall : ReportCallOK day s (.cycle cutoff) phase)
    (henabled : config.enabled = true) (hour : cutoff.hour = 17) (hminute : cutoff.minute = 30)
    (hmoment : moment.Favourable day) (h : Going day s phase) (hleft : stepsLeft day phase ≠ 0) :
    Advances day phase (reportAct config day moment s (.cycle cutoff) phase) := by
  cases phase with
  | ready => exact advances_ready henabled hour hminute h
  | locked => exact advances_locked hs hmoment h
  | archiving job =>
    obtain ⟨r, hjob⟩ := hcall
    exact advances_archiving hs hjob hmoment h
  | copying job entries temp => exact advances_copying hcall hmoment h
  | replacing job temp => exact advances_replacing hcall hmoment h
  | archived job a => exact advances_archived hs hcall h
  | reporting job a => exact advances_reporting hs hcall h
  | unlocking result => exact ⟨h, Nat.zero_lt_one⟩
  | done result => exact absurd rfl hleft

/-- The call has returned a receipt for each period of the day. -/
def Returned (day : ReportDay) (w : ReportWorld F) (cutoff : Cutoff) : Prop :=
  ∃ receipts, w.call = some (.cycle cutoff, .done (.ok (.receipts receipts))) ∧ receipts.map ReportReceipt.period = day.periods

theorem cycle_returns (henabled : config.enabled = true) (hour : cutoff.hour = 17)
    (hminute : cutoff.minute = 30) {moments : Nat → ReportMoment F} (hmoments : ∀ i, (moments i).Favourable day)
    (hw : ReportWorldOK day w) (hc : w.call = some (.cycle cutoff, phase)) (hgoing : Going day w.state phase) :
    ∃ n, Returned day (w.run config day ((List.range n).map fun i => .step (moments i))) cutoff := by
  -- The steps that are left bound the induction.
  obtain ⟨left, hleft⟩ : ∃ left, stepsLeft day phase = left := ⟨_, rfl⟩
  induction left using Nat.strong_induction_on generalizing w phase moments with
  | _ left ih =>
    by_cases hzero : left = 0
    · subst hleft
      cases phase with
      | done result =>
        obtain ⟨receipts, rfl, hperiods⟩ := hgoing
        exact ⟨0, receipts, hc, hperiods⟩
      | _ =>
        simp only [stepsLeft] at hzero
        omega
    · have hcall : ReportCallOK day w.state (.cycle cutoff) phase := hw.call _ hc
      obtain ⟨hgoing', hless⟩ := advances hw.slot hcall henabled hour hminute (hmoments 0) hgoing
        (by rw [hleft]; exact hzero)
      rw [hleft] at hless
      have hafter := after_step config day (moments 0) hc
      have hw' := hw.after config (.step (moments 0)) trivial
      rw [hafter] at hw'
      obtain ⟨n, hn⟩ := ih _ hless (fun i => hmoments (i + 1)) hw' rfl hgoing' rfl
      refine ⟨n + 1, ?_⟩
      rw [List.range_succ_eq_map, List.map_cons, List.map_map, ReportWorld.run, List.foldl_cons, hafter]
      exact hn

/-- From here a cycle of the day returns: where nothing fails and the bundle that is there can be archived, the NAS mounted
or not. -/
def CanComplete (config : ReportingConfig) (day : ReportDay) (w : ReportWorld F) : Prop :=
  config.enabled = true → ∀ cutoff : Cutoff, cutoff.hour = 17 → cutoff.minute = 30 → ∀ moments : Nat → ReportMoment F,
    (∀ i, (moments i).Favourable day) → BundleFits day w.state →
      ∃ n, Returned day (w.run config day (.call (.cycle cutoff) :: (List.range n).map fun i => .step (moments i))) cutoff

theorem canComplete_of_unlocked (hw : ReportWorldOK day w) (hidle : w.Idle) (hfree : w.state.lock = false) :
    CanComplete config day w := by
  intro henabled cutoff hour hminute moments hmoments hfits
  have hstart : w.after config day (.call (.cycle cutoff)) = { w with call := some (.cycle cutoff, .ready) } := by
    obtain ⟨s, call⟩ := w
    cases call with
    | none => rfl
    | some c =>
      obtain ⟨request, phase⟩ := c
      obtain ⟨result, hdone⟩ := hidle _ rfl
      cases hdone
      rfl
  have hw' := hw.after config (.call (.cycle cutoff)) trivial
  rw [hstart] at hw'
  obtain ⟨n, hn⟩ := cycle_returns henabled hour hminute hmoments hw' rfl ⟨hfree, hfits⟩
  refine ⟨n, ?_⟩
  rw [ReportWorld.run, List.foldl_cons, hstart]
  exact hn

/-! ## The slot of a day -/

/-- What the receipts and the directories of a slot say. -/
structure TruthfulSlot (s : ReportState F) : Prop where
  /-- The bundle that is there is the one that was built, if one was. -/
  once : s.built = s.bundle.toList
  receipts : ∀ row ∈ s.reports, (row.status = .completed ∧ row.archiveStatus = .archived) ↔ s.Archived row.period
  archives : ∀ a ∈ s.recorded, a.status = .archived → ∃ dir archive, s.bundle = some dir ∧ s.nas a.period = some archive ∧
    Holds dir archive ∧ (PyDict.get? dir "manifest.sha256").map sha256File = some a.manifestSha256

omit [PyTime] in
theorem truthfulSlot_of_settled (hs : SlotOK day s)
    (hcompleted : ∀ row ∈ s.reports, row.status = .completed → s.Archived row.period)
    (htold : ∀ row ∈ s.reports, s.Archived row.period → row.status = .completed) : TruthfulSlot s := by
  refine ⟨hs.built, fun row hrow => ?_, fun a ha hstatus => ?_⟩
  · constructor
    · exact fun ⟨hdone, _⟩ => hcompleted row hrow hdone
    · intro harchived
      have hdone := htold row hrow harchived
      exact ⟨hdone, (hs.filed row hrow).status.mp hdone⟩
  · obtain ⟨⟨archive, hnas⟩, r, hthere, hmanifest⟩ := hs.recorded a ha hstatus
    obtain ⟨r', hthere', hholds⟩ := hs.stored _ _ hnas
    rw [hthere] at hthere'
    rw [← Option.some.inj hthere'] at hholds
    refine ⟨r.directory, archive, hthere, hnas, hholds, ?_⟩
    rw [r.directory_manifest, hmanifest]
    rfl

/-- Between the calls of a careful run the receipts tell the truth and the next cycle returns; the bundle that was built and
the periods that were completed stay so. -/
theorem report_slot_truthful (config : ReportingConfig) (day : ReportDay) (events : List (ReportEvent F))
    (h : CarefulRun config day {} events) :
    ((({} : ReportWorld F).run config day events).Idle →
      TruthfulSlot (({} : ReportWorld F).run config day events).state ∧
        CanComplete config day (({} : ReportWorld F).run config day events)) ∧
    ∀ earlier later, events = earlier ++ later →
      Keeps (({} : ReportWorld F).run config day earlier).state (({} : ReportWorld F).run config day events).state := by
  have hw : ReportWorldOK day ({} : ReportWorld F) := ⟨.empty, fun c hc => by cases hc⟩
  have ht : Truth ({} : ReportWorld F).state ({} : ReportWorld F).call := by
    refine ⟨iff_of_false (by simp) ?_, ?_, ?_, ?_⟩
    · intro ⟨c, hc, _⟩
      cases hc
    · exact fun row hrow => by cases hrow
    · exact fun row hrow => by cases hrow
    · exact fun c hc => by cases hc
  constructor
  · intro hidle
    obtain ⟨hw', ht', -⟩ := careful_run hw ht h
    have hdone : ∀ c ∈ (({} : ReportWorld F).run config day events).call, ∀ job a, c.2 ≠ .reporting job a := by
      intro c hc job a hreporting
      obtain ⟨result, hdone⟩ := hidle c hc
      rw [hdone] at hreporting
      cases hreporting
    refine ⟨truthfulSlot_of_settled hw'.slot ht'.completed ?_, canComplete_of_unlocked hw' hidle ?_⟩
    · intro row hrow harchived
      rcases ht'.told row hrow harchived with hdone' | ⟨c, hc, job, a, hreporting, -⟩
      · exact hdone'
      · exact absurd hreporting (hdone c hc job a)
    · rw [Bool.eq_false_iff]
      intro hlock
      obtain ⟨c, hc, hheld⟩ := ht'.lock.mp hlock
      obtain ⟨result, hdone'⟩ := hidle c hc
      obtain ⟨request, phase⟩ := c
      cases hdone'
      cases request <;> exact hheld
  · intro earlier later hsplit
    subst hsplit
    obtain ⟨hleft, hright⟩ := carefulRun_append.mp h
    obtain ⟨hw', ht', -⟩ := careful_run hw ht hleft
    obtain ⟨-, -, hkeeps⟩ := careful_run hw' ht' hright
    rw [ReportWorld.run, ReportWorld.run, List.foldl_append]
    exact hkeeps

/-! ## Steps with the NAS mounted -/

/-- With the NAS mounted no step of a cycle makes a pending archive receipt. -/
theorem archived_of_mounted {a : ArchiveReceipt} (hmounted : moment.mounted = true)
    (h : (reportAct config day moment s (.cycle cutoff) phase).2 = .archived job a) : a.status = .archived := by
  have hnext : ∀ (b : ReportBundle F) receipts periods, nextPeriod b receipts periods ≠ .archived job a := by
    intro b receipts periods h
    cases periods with
    | nil => cases h
    | cons p periods => cases h
  have hreceipt : ∀ {job' : ArchiveJob F} {now}, archiveReceipt day job' now .archived = .ok a →
      a.status = .archived := by
    intro job' now ha
    obtain ⟨-, -, -, -, -, -, -, h8⟩ := ArchiveReceipt.validate_ok.mp ha
    rw [h8]
  cases phase with
  | ready =>
    replace h : (beginCycle config cutoff s).2 = .archived job a := h
    unfold beginCycle at h
    split_ifs at h
  | locked =>
    rw [reportAct_locked] at h
    split at h
    · rename_i s' bundle hobtain
      exact (hnext bundle [] day.periods h).elim
    · cases h
  | archiving job' =>
    replace h : orRaiseFrom (.cycle cutoff) (beginArchive day moment s job') id = .archived job a := h
    cases hbegin : beginArchive day moment s job' with
    | error e =>
      rw [hbegin] at h
      cases h
    | ok phase' =>
      rw [hbegin] at h
      obtain rfl : phase' = .archived job a := h
      simp only [beginArchive, bind_ok, hmounted, Bool.true_eq_false, if_false] at hbegin
      obtain ⟨entries, -, hbegin⟩ := hbegin
      split at hbegin
      · simp only [bind_ok, pure_ok, ReportPhase.archived.injEq] at hbegin
        obtain ⟨_, -, _, ha, -, rfl⟩ := hbegin
        exact hreceipt ha
      · split at hbegin
        · cases hbegin
        · cases hbegin
  | copying job' entries temp =>
    cases entries with
    | nil =>
      unfold reportAct orRaiseFrom at h
      dsimp only at h
      split at h <;> cases h
    | cons entry entries =>
      unfold reportAct orRaiseFrom at h
      dsimp only at h
      split at h <;> cases h
  | replacing job' temp =>
    unfold reportAct at h
    dsimp only at h
    split at h
    · cases h
    · cases ha : archiveReceipt day job' moment.now .archived with
      | error e =>
        rw [ha] at h
        cases h
      | ok a' =>
        rw [ha] at h
        cases h
        exact hreceipt ha
  | archived job' a' =>
    unfold reportAct at h
    dsimp only at h
    split at h <;> cases h
  | reporting job' a' =>
    unfold reportAct at h
    dsimp only at h
    split at h
    · exact (hnext _ _ _ h).elim
    · cases h
  | unlocking result => cases h
  | done result => cases h

theorem carefulRun_mounted {moments : Nat → ReportMoment F} (hmounted : ∀ i, (moments i).mounted = true)
    (hc : w.call = some (.cycle cutoff, phase)) (hphase : ∀ job a, phase = .archived job a → a.status = .archived)
    (n : Nat) :
    CarefulRun config day w ((List.range n).map fun i => .step (moments i)) := by
  induction n generalizing w phase moments with
  | zero => exact trivial
  | succ n ih =>
    rw [List.range_succ_eq_map, List.map_cons, List.map_map]
    refine ⟨trivial, ?_, ?_⟩
    · intro job a
      constructor
      · intro cutoff' hcall hpending
        rw [hc] at hcall
        cases hcall
        rw [hphase job a rfl] at hpending
        cases hpending
      · intro period attempt hcall
        rw [hc] at hcall
        cases hcall
    · rw [after_step config day (moments 0) hc]
      exact ih (fun i => hmounted (i + 1)) rfl fun job a => archived_of_mounted (hmounted 0)

end Moves

/-! ## A cycle that fails and one that is stopped -/

namespace SlotSample

/-- An interpreter, as far as it reads one time. -/
local instance sampleClock : PyTime where
  read s := if s = "2026-01-05T17:30:00+09:00" then some ⟨1767634200000000, some 32400000000⟩ else none
  write _ := none
  read_write _ _ h := by cases h
  strip_write _ _ h := by cases h

local instance samplePercent : PyPercent Nat where
  zero := 0
  share a b := a * 100 / b
  within x := decide (x ≤ 100)

local instance sampleReader : ReportReader Nat := ⟨fun _ => .ok ([], none)⟩

def day : ReportDay where
  stamp := "20260105"
  daily := "2026-01-05"
  weekly := none
  monthly := none
  plain t ht :=
    have hshort := (forall_mem_of_all (by decide) : ∀ t ∈ ["20260105", "2026-01-05"],
      t.toList.head?.any isAsciiAlnum = true ∧ t.toList.length ≤ 16) t ht
    ⟨hshort.1, hshort.2, (forall_char_of_all (by decide) : ∀ t ∈ ["20260105", "2026-01-05"],
      ∀ c ∈ t.toList, isAsciiAlnum c = true ∨ c = '-') t ht⟩

def now : IsoText :=
  ⟨"2026-01-05T17:30:00+09:00", fun _ => isoTimestamp_ok.mpr
    ⟨⟨⟨1767634200000000, some 32400000000⟩, by decide, by simp⟩, by decide⟩⟩

def cutoff : Cutoff := ⟨now, 17, 30⟩

def report : DayReport Nat := ⟨[], [], [], [], [], none, rfl⟩

def calm : ReportMoment Nat := ⟨.ok report, now, true, none⟩

/-- A moment at which the monitoring store cannot be read. -/
def unreadable : ReportMoment Nat := ⟨.error (contractError "REPORT_QUERY_LIMIT_EXCEEDED"), now, true, none⟩

/-- A cycle that raises while it builds, and a retry that finds no bundle. -/
def failedCycle : List (ReportEvent Nat) :=
  [.call (.cycle cutoff), .step calm, .step unreadable, .step calm, .call (.retry (.daily, "2026-01-05") 1), .step calm]

/-- A cycle whose process stops after it has made the lock file. -/
def stoppedCycle : List (ReportEvent Nat) := [.call (.cycle cutoff), .step calm, .stop]

theorem failedCycle_careful : CarefulRun {} day ({} : ReportWorld Nat) failedCycle := by
  have hready : ∀ (s : ReportState Nat) (request : ReportRequest) (phase : ReportPhase Nat),
      (∀ job a, phase ≠ .archived job a) → Careful ⟨s, some (request, phase)⟩ (.step calm) := by
    intro s request phase hphase job a
    constructor
    · intro cutoff h
      cases h
      exact absurd rfl (hphase job a)
    · intro period attempt h
      cases h
      exact absurd rfl (hphase job a)
  refine ⟨trivial, trivial, trivial, hready _ _ .ready (fun _ _ h => by cases h), trivial,
    hready _ _ .locked (fun _ _ h => by cases h), trivial, hready _ _ (.unlocking _) (fun _ _ h => by cases h), ?_, trivial,
    trivial, hready _ _ .ready (fun _ _ h => by cases h), trivial⟩
  exact List.mem_cons_self

theorem calm_favourable : calm.Favourable day := by
  refine ⟨⟨report, rfl, ⟨?_, rfl⟩, by decide⟩, rfl⟩
  intro v hv
  cases hv

/-- After the failures a cycle returns, and the receipts tell the truth. -/
theorem failedCycle_truthful : ∃ events w,
    w = ({} : ReportWorld Nat).run {} day (failedCycle ++ .call (.cycle cutoff) :: events) ∧
    Returned day w cutoff ∧ TruthfulSlot w.state ∧ CanComplete {} day w ∧
    ∀ earlier later, failedCycle ++ .call (.cycle cutoff) :: events = earlier ++ later →
      Keeps (({} : ReportWorld Nat).run {} day earlier).state w.state := by
  have hidle : (({} : ReportWorld Nat).run {} day failedCycle).Idle := by
    intro c hc
    cases hc
    exact ⟨_, rfl⟩
  obtain ⟨-, hcomplete⟩ := (report_slot_truthful {} day failedCycle failedCycle_careful).1 hidle
  obtain ⟨n, hreturned⟩ := hcomplete rfl cutoff rfl rfl (fun _ => calm) (fun _ => calm_favourable) (fun r hr => by cases hr)
  have hcareful : CarefulRun {} day ({} : ReportWorld Nat)
      (failedCycle ++ .call (.cycle cutoff) :: (List.range n).map fun _ => .step calm) :=
    carefulRun_append.mpr ⟨failedCycle_careful, trivial, trivial,
      carefulRun_mounted (fun _ => rfl) rfl (fun _ _ h => by cases h) n⟩
  obtain ⟨htruthful, hkeeps⟩ := report_slot_truthful {} day _ hcareful
  rw [ReportWorld.run, ReportWorld.run, ← List.foldl_append, ← ReportWorld.run] at hreturned
  have hdone : (({} : ReportWorld Nat).run {} day
      (failedCycle ++ .call (.cycle cutoff) :: (List.range n).map fun _ => .step calm)).Idle := by
    obtain ⟨receipts, hcall, -⟩ := hreturned
    intro c hc
    rw [hcall] at hc
    cases hc
    exact ⟨_, rfl⟩
  exact ⟨_, _, rfl, hreturned, (htruthful hdone).1, (htruthful hdone).2, hkeeps⟩

theorem run_done (s : ReportState Nat) (request : ReportRequest) (result : Except Raised (ReportResult Nat)) (n : Nat) :
    (⟨s, some (request, .done result)⟩ : ReportWorld Nat).run {} day ((List.range n).map fun _ => .step calm) =
      ⟨s, some (request, .done result)⟩ := by
  induction n with
  | zero => rfl
  | succ n ih =>
    rw [List.range_succ_eq_map, List.map_cons, List.map_map, ReportWorld.run, List.foldl_cons]
    exact ih

/-- A stopped cycle keeps every later one from completing. -/
theorem stopped_cycle_wedges_slot : (({} : ReportWorld Nat).run {} day stoppedCycle).Idle ∧
    ¬ CanComplete {} day (({} : ReportWorld Nat).run {} day stoppedCycle) := by
  constructor
  · intro c hc
    cases hc
  · intro h
    obtain ⟨n, receipts, hcall, -⟩ := h rfl cutoff rfl rfl (fun _ => calm) (fun _ => calm_favourable) (fun r hr => by cases hr)
    cases n with
    | zero => cases hcall
    | succ n =>
      rw [List.range_succ_eq_map, List.map_cons, List.map_map, ReportWorld.run, List.foldl_cons, List.foldl_cons] at hcall
      have hlocked := run_done { lock := true } (.cycle cutoff) (.error slotAlreadyLocked) n
      have hcall' := (congrArg ReportWorld.call hlocked).symm.trans hcall
      cases hcall'

end SlotSample

end SecurityMonitoring

end ThreeAgent
