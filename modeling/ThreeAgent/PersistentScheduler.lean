/-
The persistent wall-clock scheduler (`persistent_scheduler.py`): the three
tables behind it, the next-run computations for intervals and cron
expressions, and its operations. Each operation is one IMMEDIATE
transaction: it returns the tables it commits, or the exception that rolls
it back.

A column that holds the ISO text of an instant holds the instant here, and
the text comparisons and orderings of the queries are those of instants. A
zone's existence and its local time are given by `Zones`.
-/
import ThreeAgent.Errors
import ThreeAgent.Lib.Clock
import ThreeAgent.Lib.Json
import ThreeAgent.Lib.Sha256

namespace ThreeAgent.PersistentScheduler

open PyText Outcome PyJson

/-! ## Bounds and identifiers -/

def maxDuePerTick : Nat := 32
def maxIntervalSeconds : Int := 366 * 24 * 60 * 60
def minIntervalSeconds : Int := 60
def maxClaimLeaseSeconds : Int := 24 * 60 * 60
def maxCronSearchMinutes : Nat := 370 * 24 * 60

/-- A `PersistentSchedulerError`. -/
def fail (code : String) : Raised := ⟨.persistentSchedulerError, code⟩

/-- The `OverflowError` of a date out of range. -/
def dateOverflow : Raised := ⟨.overflowError, "date value out of range"⟩

/-- `_ID_RE.fullmatch`. -/
def idRe (cs : List Char) : Bool :=
  match cs with
  | [] => false
  | c :: rest =>
    isAsciiAlnum c && (rest.all fun c => isAsciiAlnum c || c ∈ ['.', '_', ':', '-']) &&
      decide (rest.length ≤ 127)

/-- `_SHA256_RE.fullmatch`. -/
def sha256Re (s : String) : Bool :=
  startsWith s "sha256:" && decide ((s.toList.drop 7).length = 64) &&
    (s.toList.drop 7).all Sha256.isHexDigit

/-- `_schedule_id`. -/
def scheduleIdOf (value : String) : Except Raised String := do
  require (idRe (strip value).toList = true) (fail "SCHEDULE_ID_INVALID")
  return strip value

/-- `_task_id`. -/
def taskIdOf (value : String) : Except Raised String := do
  require (idRe (strip value).toList = true) (fail "SCHEDULE_TASK_ID_INVALID")
  return strip value

/-- `_canonical_json`. -/
def canonicalJson {F : Type} [PyFloat F] (value : Json F) : Except Raised String :=
  match dumps value with
  | some text => return text
  | none => throw (fail "SCHEDULE_STATE_NOT_CANONICAL_JSON")

/-- `_digest`. -/
def digest {F : Type} [PyFloat F] (value : Json F) : Except Raised String := do
  let text ← canonicalJson value
  return "sha256:" ++ Sha256.hexdigest text

/-- `digest.split(":", 1)[1][:32]`. -/
def shortDigest (digest : String) : String := String.ofList ((digest.toList.drop 7).take 32)

/-! ## Recurrence -/

/-- A local time as the matcher reads it; `weekday` counts from Monday. -/
structure LocalTime where
  minute : Nat
  hour : Nat
  day : Nat
  month : Nat
  weekday : Nat

/-- The time zone database: the keys it refuses to look up, the zones it has, and the local time of
an instant in one of them. -/
structure Zones where
  malformed : String → Bool
  known : String → Bool
  localTime : String → Int → LocalTime

/-- `_timezone`, the key of the zone. -/
def timezone (zones : Zones) (value : String) : Except Raised String := do
  require (strip value ≠ "" ∧ (strip value).toList.length ≤ 128) (fail "SCHEDULE_TIMEZONE_INVALID")
  require (zones.malformed (strip value) = false) ⟨.valueError, "ZoneInfo keys must be normalized relative paths"⟩
  require (zones.known (strip value) = true) (fail "SCHEDULE_TIMEZONE_INVALID")
  return strip value

/-- `int(text)` of a text that `isdigit` accepted; some digits are not decimal. -/
def intOf (text : String) : Except Raised Nat :=
  match int? text with
  | some n => return n.toNat
  | none => throw ⟨.valueError, "invalid literal for int() with base 10: '" ++ text ++ "'"⟩

/-- The bounds of a cron field; day-of-week alone reads 7 as Sunday. -/
structure CronField where
  minimum : Nat
  maximum : Nat
  sundayAlias : Bool := false

/-- `normalize`. -/
def CronField.normalize (f : CronField) (n : Nat) : Except Raised Nat :=
  if f.sundayAlias ∧ n = 7 then return 0
  else do
    require (f.minimum ≤ n ∧ n ≤ f.maximum) (fail "CRON_FIELD_OUT_OF_RANGE")
    return n

/-- The step after a slash, 1 without one. -/
def CronField.step (f : CronField) (slash : Bool) (text : String) : Except Raised Nat :=
  if slash then do
    require (isDigitText text = true) (fail "CRON_STEP_INVALID")
    let step ← intOf text
    require (1 ≤ step) (fail "CRON_STEP_INVALID")
    require (step ≤ f.maximum + 1 - f.minimum) (fail "CRON_STEP_INVALID")
    return step
  else return 1

/-- The values `range(start, end + 1, step)`, each normalised. -/
def CronField.values (f : CronField) (start stop step : Nat) : Except Raised (List Nat) :=
  ((List.range' start (stop + 1 - start)).filter fun n => (n - start) % step = 0).mapM f.normalize

/-- One comma-separated item of a field. -/
def CronField.item (f : CronField) (part : String) : Except Raised (List Nat) := do
  let part := strip part
  require (part ≠ "") (fail "CRON_FIELD_INVALID")
  let (base, slash, stepText) := partition '/' part
  let step ← f.step slash stepText
  if base = "*" then f.values f.minimum f.maximum step
  else if contains base "-" then do
    let (left, _, right) := partition '-' base
    require (isDigitText left = true ∧ isDigitText right = true) (fail "CRON_RANGE_INVALID")
    let start ← intOf left
    let stop ← intOf right
    require (start ≤ stop) (fail "CRON_RANGE_INVALID")
    let _ ← f.normalize start
    let _ ← f.normalize stop
    f.values start stop step
  else do
    require (slash = false ∧ isDigitText base = true) (fail "CRON_FIELD_INVALID")
    let n ← intOf base
    let v ← f.normalize n
    return [v]

/-- `_parse_cron_field`: the values a field admits. -/
def parseCronField (f : CronField) (expression : String) : Except Raised (List Nat) := do
  let text := strip expression
  require (text ≠ "") (fail "CRON_FIELD_EMPTY")
  let items ← (split ',' text).mapM f.item
  require (items.flatten ≠ []) (fail "CRON_FIELD_EMPTY")
  return items.flatten

/-- `_CronMatcher`. -/
structure CronMatcher where
  expression : String
  minutes : List Nat
  hours : List Nat
  days : List Nat
  months : List Nat
  weekdays : List Nat
  dayAny : Bool
  weekdayAny : Bool
  deriving DecidableEq

namespace CronMatcher

/-- `_CronMatcher.parse`. -/
def parse (expression : String) : Except Raised CronMatcher := do
  let canonical := join ' ' (splitWs (strip expression))
  match (if canonical = "" then [] else split ' ' canonical) with
  | [minute, hour, day, month, weekday] => do
    let minutes ← parseCronField ⟨0, 59, false⟩ minute
    let hours ← parseCronField ⟨0, 23, false⟩ hour
    let days ← parseCronField ⟨1, 31, false⟩ day
    let months ← parseCronField ⟨1, 12, false⟩ month
    let weekdays ← parseCronField ⟨0, 6, true⟩ weekday
    return { expression := canonical, minutes, hours, days, months, weekdays
             dayAny := day = "*", weekdayAny := weekday = "*" }
  | _ => throw (fail "CRON_EXPRESSION_REQUIRES_FIVE_FIELDS")

/-- `matches`: day of month and day of week are alternatives when both are restricted. -/
def isMatch (m : CronMatcher) (t : LocalTime) : Bool :=
  let dayMatch := decide (t.day ∈ m.days)
  let weekdayMatch := decide ((t.weekday + 1) % 7 ∈ m.weekdays)
  let calendarDayMatch :=
    if m.dayAny && m.weekdayAny then true
    else if m.dayAny then weekdayMatch
    else if m.weekdayAny then dayMatch
    else dayMatch || weekdayMatch
  decide (t.minute ∈ m.minutes) && decide (t.hour ∈ m.hours) && decide (t.month ∈ m.months) &&
    calendarDayMatch

end CronMatcher

/-- The minute-by-minute search of `_next_cron` from a cursor. -/
def searchCron (zones : Zones) (m : CronMatcher) (tz : String) : Nat → Int → Except Raised Int
  | 0, _ => throw (fail "CRON_NEXT_RUN_OUTSIDE_SEARCH_HORIZON")
  | n + 1, cursor =>
    if m.isMatch (zones.localTime tz cursor) then return cursor
    else do
      let next ← Clock.plus dateOverflow cursor Clock.minute
      searchCron zones m tz n next

/-- `_next_cron`. -/
def nextCron (zones : Zones) (expression tzName : String) (after : Int) : Except Raised Int := do
  let matcher ← CronMatcher.parse expression
  let tz ← timezone zones tzName
  let cursor ← Clock.plus dateOverflow (Clock.floorMinute after) Clock.minute
  searchCron zones matcher tz maxCronSearchMinutes cursor

/-- `_next_interval`. -/
def nextInterval (intervalSeconds : Int) (scheduledFor now : Int) : Except Raised Int :=
  if scheduledFor > now then return scheduledFor
  else
    let jumps := Clock.secondsFloorDiv (now - scheduledFor).toNat intervalSeconds.toNat + 1
    Clock.plus dateOverflow scheduledFor (jumps * intervalSeconds * 1000000)

/-! ## Tables -/

inductive JobKind where
  | interval
  | cron
  /-- Any other text, which no operation writes. -/
  | other (text : String)
  deriving DecidableEq, Repr

/-- The column text of a kind. -/
def JobKind.text : JobKind → String
  | .interval => "interval"
  | .cron => "cron"
  | .other text => text

/-- A row of `scheduled_jobs`. -/
structure Job where
  scheduleId : String
  taskId : String
  kind : JobKind
  scheduleValue : String
  timezoneName : String
  contractSha256 : String
  nextRunAt : Int
  enabled : Bool
  createdAt : Int
  updatedAt : Int
  lastError : Option String
  deriving DecidableEq, Repr

inductive ClaimStatus where
  | claimed
  | recoveryRequired
  | succeeded
  | failed
  | cancelled
  deriving DecidableEq, Repr

namespace ClaimStatus

/-- `_UNRESOLVED_CLAIM_STATUSES`. -/
def unresolved : ClaimStatus → Bool
  | .claimed | .recoveryRequired => true
  | _ => false

/-- `_TERMINAL_CLAIM_STATUSES`. -/
def terminal : ClaimStatus → Bool
  | .succeeded | .failed | .cancelled => true
  | _ => false

def text : ClaimStatus → String
  | .claimed => "CLAIMED"
  | .recoveryRequired => "RECOVERY_REQUIRED"
  | .succeeded => "SUCCEEDED"
  | .failed => "FAILED"
  | .cancelled => "CANCELLED"

/-- The terminal status a text names. -/
def ofTerminalText (s : String) : Option ClaimStatus :=
  [succeeded, failed, cancelled].find? fun st => st.text = s

end ClaimStatus

/-- A row of `schedule_claims`. -/
structure Claim where
  claimId : String
  scheduleId : String
  taskId : String
  scheduledFor : Int
  claimedAt : Int
  leaseUntil : Int
  contractSha256 : String
  status : ClaimStatus
  completedAt : Option Int
  resultDetails : String
  deriving DecidableEq, Repr

/-- A row of `schedule_events`. -/
structure Event where
  eventId : String
  prevHash : String
  eventHash : String
  scheduleId : String
  action : String
  timestamp : Int
  detailsJson : String
  deriving DecidableEq, Repr

/-- The database: the tasks and their contract digests, which others write, and the scheduler's
tables in insertion order. -/
structure Db where
  tasks : List String
  contracts : List (String × String)
  jobs : List Job
  claims : List Claim
  events : List Event

namespace Db

/-- `UPDATE scheduled_jobs SET ... WHERE schedule_id=?`. -/
def updateJob (db : Db) (scheduleId : String) (f : Job → Job) : Db :=
  { db with jobs := db.jobs.map fun j => if j.scheduleId = scheduleId then f j else j }

/-- `UPDATE schedule_claims SET ... WHERE claim_id=?`. -/
def updateClaim (db : Db) (claimId : String) (f : Claim → Claim) : Db :=
  { db with claims := db.claims.map fun c => if c.claimId = claimId then f c else c }

/-- `_contract_digest`. -/
def contractDigest (db : Db) (taskId : String) : Except Raised String :=
  match db.contracts.lookup taskId with
  | none => throw (fail "SCHEDULE_TASK_CONTRACT_REQUIRED")
  | some digest => do
    require (sha256Re digest = true) (fail "SCHEDULE_TASK_CONTRACT_DIGEST_INVALID")
    return digest

/-- `_task_exists`. -/
def taskExists (db : Db) (taskId : String) : Except Raised Unit :=
  require (taskId ∈ db.tasks) (fail "SCHEDULE_TASK_NOT_FOUND")

/-- `_has_unresolved_claim`. -/
def hasUnresolvedClaim (db : Db) (scheduleId : String) : Bool :=
  db.claims.any fun c => c.scheduleId == scheduleId && c.status.unresolved

/-- `_append_event`: one more link of the event chain; the event id is unique. -/
def appendEvent {F : Type} [PyFloat F] (db : Db) (scheduleId action : String) (timestamp : Int)
    (details : Json F) : Except Raised Db := do
  let prevHash := (db.events.getLast?.map Event.eventHash).getD "GENESIS"
  let eventHash ← digest (Json.dict
    [("schedule_id", .str scheduleId), ("action", .str action), ("timestamp", .str (Clock.iso timestamp)),
     ("details", details), ("prev_hash", .str prevHash)])
  let eventId := "sev_" ++ shortDigest eventHash
  let detailsJson ← canonicalJson details
  require (∀ e ∈ db.events, e.eventId ≠ eventId) ⟨.integrityError, "schedule_events.event_id"⟩
  return { db with
    events := db.events ++ [{ eventId, prevHash, eventHash, scheduleId, action, timestamp, detailsJson }] }

/-- `INSERT INTO schedule_claims`: the claim id and the occurrence are unique. -/
def insertClaim (db : Db) (c : Claim) : Except Raised Db := do
  require (∀ d ∈ db.claims, d.claimId ≠ c.claimId ∧
      ¬ (d.scheduleId = c.scheduleId ∧ d.scheduledFor = c.scheduledFor))
    (fail "SCHEDULE_OCCURRENCE_ALREADY_CLAIMED")
  return { db with claims := db.claims ++ [c] }

/-- The row of one schedule, or the `KeyError`. -/
def job (db : Db) (scheduleId : String) : Except Raised Job :=
  match db.jobs.find? (·.scheduleId = scheduleId) with
  | some j => return j
  | none => throw ⟨.keyError, scheduleId⟩

end Db

/-- The text of a JSON value without floats, for the events. -/
abbrev Details := Json Unit

/-! ## Operations -/

/-- `_register`. -/
def register (db : Db) (scheduleId taskId : String) (kind : JobKind) (scheduleValue timezoneName : String)
    (nextRunAt now : Int) : Except Raised Db := do
  db.taskExists taskId
  let contractSha256 ← db.contractDigest taskId
  require (∀ j ∈ db.jobs, j.scheduleId ≠ scheduleId) (fail "SCHEDULE_ALREADY_EXISTS")
  let job : Job :=
    { scheduleId, taskId, kind, scheduleValue, timezoneName, contractSha256, nextRunAt
      enabled := true, createdAt := now, updatedAt := now, lastError := none }
  let details : Details := Json.dict
    [("task_id", .str taskId), ("kind", .str kind.text), ("schedule_value", .str scheduleValue),
     ("timezone", .str timezoneName), ("contract_sha256", .str contractSha256),
     ("next_run_at", .str (Clock.iso nextRunAt))]
  { db with jobs := db.jobs ++ [job] }.appendEvent scheduleId "REGISTER" now details

/-- The first run of a new interval schedule: a start in the past is moved beyond `now`. -/
def firstIntervalRun (intervalSeconds : Int) (startAt : Option Int) (now : Int) : Except Raised Int := do
  let nextRun ←
    match startAt with
    | some t => pure t
    | none => Clock.plus dateOverflow now (intervalSeconds * 1000000)
  if nextRun < now then nextInterval intervalSeconds nextRun now else return nextRun

/-- `register_interval`. -/
def registerInterval (db : Db) (scheduleId taskId : String) (intervalSeconds : Int) (startAt : Option Int)
    (now : Int) : Except Raised Db := do
  let scheduleId ← scheduleIdOf scheduleId
  let taskId ← taskIdOf taskId
  require (minIntervalSeconds ≤ intervalSeconds ∧ intervalSeconds ≤ maxIntervalSeconds)
    (fail "SCHEDULE_INTERVAL_INVALID")
  let nextRun ← firstIntervalRun intervalSeconds startAt now
  register db scheduleId taskId .interval (String.ofList (intText intervalSeconds)) "UTC" nextRun now

/-- `register_cron`. -/
def registerCron (zones : Zones) (db : Db) (scheduleId taskId expression timezoneName : String)
    (now : Int) : Except Raised Db := do
  let scheduleId ← scheduleIdOf scheduleId
  let taskId ← taskIdOf taskId
  let matcher ← CronMatcher.parse expression
  let tz ← timezone zones timezoneName
  let nextRun ← nextCron zones matcher.expression tz now
  register db scheduleId taskId .cron matcher.expression tz nextRun now

/-- `disable`. -/
def disable (db : Db) (scheduleId : String) (now : Int) : Except Raised Db := do
  let scheduleId ← scheduleIdOf scheduleId
  let _ ← db.job scheduleId
  let details : Details := .obj []
  (db.updateJob scheduleId fun j => { j with enabled := false, updatedAt := now }).appendEvent
    scheduleId "DISABLE" now details

/-- `_next_after_row`. -/
def nextAfterRow (zones : Zones) (row : Job) (now : Int) : Except Raised Int :=
  match row.kind with
  | .interval =>
    match int? row.scheduleValue with
    | none => throw (fail "SCHEDULE_INTERVAL_CORRUPT")
    | some interval => do
      require (minIntervalSeconds ≤ interval ∧ interval ≤ maxIntervalSeconds)
        (fail "SCHEDULE_INTERVAL_CORRUPT")
      nextInterval interval row.nextRunAt now
  | .cron => nextCron zones row.scheduleValue row.timezoneName now
  | .other _ => throw (fail "SCHEDULE_KIND_CORRUPT")

/-- `enable`. -/
def enable (zones : Zones) (db : Db) (scheduleId : String) (now : Int) : Except Raised Db := do
  let scheduleId ← scheduleIdOf scheduleId
  let row ← db.job scheduleId
  let currentContract ← db.contractDigest row.taskId
  require (currentContract = row.contractSha256) (fail "SCHEDULE_TASK_CONTRACT_CHANGED")
  let nextRun ← nextAfterRow zones row now
  let details : Details := Json.dict [("next_run_at", .str (Clock.iso nextRun))]
  (db.updateJob scheduleId fun j =>
    { j with enabled := true, nextRunAt := nextRun, updatedAt := now, lastError := none }).appendEvent
    scheduleId "ENABLE" now details

/-- One occurrence of a schedule, as the identity of its claim. -/
structure Occurrence where
  scheduleId : String
  taskId : String
  scheduledFor : Int
  contractSha256 : String
  deriving DecidableEq, Repr

/-- The claim id of an occurrence: the digest of its identity, cut to 32 characters. -/
def Occurrence.claimId (o : Occurrence) : String :=
  let identity : Details := Json.dict
    [("schedule_id", .str o.scheduleId), ("task_id", .str o.taskId),
     ("scheduled_for", .str (Clock.iso o.scheduledFor)), ("contract_sha256", .str o.contractSha256)]
  "scl_" ++ shortDigest ("sha256:" ++ Sha256.hexdigest (String.ofList (text identity)))

/-- The occurrence a row is due for. -/
def Job.occurrence (j : Job) : Occurrence := ⟨j.scheduleId, j.taskId, j.nextRunAt, j.contractSha256⟩

/-- A schedule whose contract is gone or has changed is disabled within the tick. -/
def autoDisable (db : Db) (row : Job) (current : Int) (reason : String) : Except Raised Db :=
  let details : Details := Json.dict [("reason_code", .str reason)]
  (db.updateJob row.scheduleId fun j =>
    { j with enabled := false, updatedAt := current, lastError := some reason }).appendEvent
    row.scheduleId "AUTO_DISABLE" current details

/-- The claim of one due row whose contract is unchanged. -/
def claimRow (zones : Zones) (db : Db) (row : Job) (current leaseSeconds : Int) :
    Except Raised (Db × Claim) := do
  let scheduledFor := row.nextRunAt
  let nextRun ← nextAfterRow zones row current
  let claimId := row.occurrence.claimId
  let leaseUntil ← Clock.plus dateOverflow current (leaseSeconds * 1000000)
  let claim : Claim :=
    { claimId, scheduleId := row.scheduleId, taskId := row.taskId, scheduledFor, claimedAt := current
      leaseUntil, contractSha256 := row.contractSha256, status := .claimed
      completedAt := none, resultDetails := "\x7b\x7d" }
  let db ← db.insertClaim claim
  let details : Details := Json.dict
    [("claim_id", .str claimId), ("scheduled_for", .str (Clock.iso scheduledFor)),
     ("lease_until", .str (Clock.iso leaseUntil)), ("next_run_at", .str (Clock.iso nextRun)),
     ("contract_sha256", .str row.contractSha256)]
  let db ← (db.updateJob row.scheduleId fun j =>
    { j with nextRunAt := nextRun, updatedAt := current, lastError := none }).appendEvent
    row.scheduleId "CLAIM" current details
  return (db, claim)

/-- One row of the tick: skipped while unresolved, disabled when its contract is no longer the one
it was registered with, else claimed. -/
def tickRow (zones : Zones) (row : Job) (current leaseSeconds : Int) (st : Db × List Claim) :
    Except Raised (Db × List Claim) :=
  if st.1.hasUnresolvedClaim row.scheduleId then return st
  else
    match st.1.contractDigest row.taskId with
    | .error e => do
      let db ← autoDisable st.1 row current e.code
      return (db, st.2)
    | .ok currentContract =>
      if currentContract ≠ row.contractSha256 then do
        let db ← autoDisable st.1 row current "SCHEDULE_TASK_CONTRACT_CHANGED"
        return (db, st.2)
      else do
        let (db, claim) ← claimRow zones st.1 row current leaseSeconds
        return (db, st.2 ++ [claim])

/-- The loop over the due rows, left once `limit` claims are made. -/
def tickRows (zones : Zones) (current leaseSeconds : Int) (limit : Nat) :
    List Job → Db × List Claim → Except Raised (Db × List Claim)
  | [], st => return st
  | row :: rows, st =>
    if limit ≤ st.2.length then return st
    else do
      let st ← tickRow zones row current leaseSeconds st
      tickRows zones current leaseSeconds limit rows st

/-- `ORDER BY next_run_at, schedule_id`. -/
def Job.before (a b : Job) : Prop :=
  a.nextRunAt < b.nextRunAt ∨ (a.nextRunAt = b.nextRunAt ∧ a.scheduleId ≤ b.scheduleId)

instance : DecidableRel Job.before := fun _ _ => inferInstanceAs (Decidable (_ ∨ _))

/-- The due rows a tick reads. -/
def Db.dueRows (db : Db) (current : Int) : List Job :=
  ((db.jobs.filter fun j => j.enabled && decide (j.nextRunAt ≤ current)).insertionSort Job.before).take
    maxDuePerTick

/-- `claim_due`. -/
def claimDue (zones : Zones) (db : Db) (now limit leaseSeconds : Int) : Except Raised (Db × List Claim) := do
  require (1 ≤ limit ∧ limit ≤ maxDuePerTick) (fail "SCHEDULE_DUE_LIMIT_INVALID")
  require (1 ≤ leaseSeconds ∧ leaseSeconds ≤ maxClaimLeaseSeconds) (fail "SCHEDULE_LEASE_INVALID")
  tickRows zones now leaseSeconds limit.toNat (db.dueRows now) (db, [])

/-- `ORDER BY lease_until, claim_id`. -/
def Claim.before (a b : Claim) : Prop :=
  a.leaseUntil < b.leaseUntil ∨ (a.leaseUntil = b.leaseUntil ∧ a.claimId ≤ b.claimId)

instance : DecidableRel Claim.before := fun _ _ => inferInstanceAs (Decidable (_ ∨ _))

/-- The loop of `mark_expired_claims_recovery_required` over the expired rows. -/
def markRows (current : Int) : List Claim → Db → Except Raised Db
  | [], db => return db
  | row :: rows, db => do
    let details : Details := Json.dict [("claim_id", .str row.claimId)]
    let db ← (db.updateClaim row.claimId fun c => { c with status := .recoveryRequired }).appendEvent
      row.scheduleId "RECOVERY_REQUIRED" current details
    markRows current rows db

/-- The claims whose lease has run out. -/
def Db.expiredRows (db : Db) (current : Int) (limit : Nat) : List Claim :=
  ((db.claims.filter fun c => decide (c.status = .claimed) && decide (c.leaseUntil ≤ current)).insertionSort
    Claim.before).take limit

/-- `mark_expired_claims_recovery_required`. -/
def markExpiredClaimsRecoveryRequired (db : Db) (now limit : Int) : Except Raised Db := do
  require (1 ≤ limit ∧ limit ≤ 128) (fail "SCHEDULE_RECOVERY_LIMIT_INVALID")
  markRows now (db.expiredRows now limit.toNat) db

/-- `complete_claim`. -/
def completeClaim {F : Type} [PyFloat F] (db : Db) (claimId status : String)
    (details : Option (List (String × Json F))) (now : Int) : Except Raised Db := do
  let claimId := strip claimId
  require (idRe claimId.toList = true) (fail "SCHEDULE_CLAIM_ID_INVALID")
  match ClaimStatus.ofTerminalText (upper (strip status)) with
  | none => throw (fail "SCHEDULE_CLAIM_TERMINAL_STATUS_INVALID")
  | some status => do
    let resultDetails : Json F := Json.dict (details.getD [])
    let resultText ← canonicalJson resultDetails
    match db.claims.find? (·.claimId = claimId) with
    | none => throw ⟨.keyError, claimId⟩
    | some row =>
      if row.status.terminal then do
        require (row.status = status) (fail "SCHEDULE_CLAIM_ALREADY_TERMINAL")
        return db
      else
        (db.updateClaim claimId fun c =>
          { c with status, completedAt := some now, resultDetails := resultText }).appendEvent
          row.scheduleId "COMPLETE" now
          (Json.dict [("claim_id", .str claimId), ("status", .str status.text), ("result", resultDetails)])

end ThreeAgent.PersistentScheduler
