/-
The hourly runner (`hourly.py`, `locking.py`, `put_hourly_receipt` of
`storage.py`): `HourlyMonitoringRunner.run` as a sequence of store
transactions, over the tables of receipts and of locks.

What is left to the environment of a step: the clock, the owner's uuid, the
inventory read before the lock, and what the collectors give back or raise.
Times written by the runner are instants in microseconds; the text of
`scheduled_at` is kept. Two fields of a call are not in the code: `late`,
that a completed attempt was there when the call obtained the lock, and
`collected`, that it went on to its collectors. Only the statements read them.
-/
import Mathlib.Data.List.MinMax
import ThreeAgent.Lib.Interleaving
import ThreeAgent.MonitoringContracts

namespace ThreeAgent.SecurityMonitoring

open PyText Outcome PyJson Interleaving

/-- The interpreter's `datetime.fromisoformat(t).astimezone(TOKYO).strftime('%Y-%m-%dT%H')`. -/
class TokyoHour where
  hour : String → Except Raised String
  hour_text : ∀ scheduledAt h, hour scheduledAt = .ok h → h ≠ "" ∧ ∀ c ∈ h.toList, isSpace c = false

/-- The floats of a coverage: `0.0`, `(a / b) * 100.0` and the test `0.0 <= x <= 100.0`. -/
class PyPercent (F : Type) where
  zero : F
  share : Nat → Nat → F
  within : F → Bool

/-- `RUN_STATUSES`. -/
inductive RunStatus where
  | scheduled
  | acquiringLock
  | collecting
  | normalizing
  | analyzingDeterministically
  | committing
  | completed
  | partial_
  | blockedByPolicy
  | dataGap
  | collectorTimeout
  | storageFailed
  | pendingNas
  | failed
  deriving DecidableEq, Repr

/-- `HourlyRunReceipt`, which is also a row of `hourly_runs`. -/
structure HourlyRunReceipt (F : Type) where
  runId : String
  slotKey : String
  attempt : Nat
  scheduledAt : String
  startedAt : Int
  completedAt : Option Int
  status : RunStatus
  inventoryFingerprint : String
  policyFingerprint : String
  expectedAssets : Nat
  observedAssets : Nat
  coveragePct : F
  failureCodes : List String := []
  deriving DecidableEq, Repr

/-- A row of `hourly_locks`. -/
structure HourlyRunLock where
  slotKey : String
  ownerId : String
  acquiredAt : Int
  deriving DecidableEq, Repr

/-- What the runner reads of an approved asset. -/
structure HourlyAsset where
  assetId : String
  fingerprint : String
  deriving DecidableEq, Repr

/-- What one work item gave: its asset, whether there are observations, its failure and the attempts used. -/
structure WorkResult where
  assetId : String
  observed : Bool
  failureCode : Option String
  attemptsUsed : Nat
  deriving DecidableEq, Repr

structure MonitoringStore (F : Type) where
  runs : List (HourlyRunReceipt F) := []
  locks : List HourlyRunLock := []

/-- `hourly_slot_key`. -/
def hourlySlotKey [TokyoHour] (profileId scheduledAt : String) : Except Raised String := do
  let hour ← TokyoHour.hour scheduledAt
  return "hourly:" ++ profileId ++ ":" ++ hour

section Receipts

variable {F : Type} [PyTime] [PyPercent F]

/-- `HourlyRunReceipt.validate`; the statuses are by their type, the times written by the runner by their text. -/
def HourlyRunReceipt.validate (r : HourlyRunReceipt F) : Except Raised (HourlyRunReceipt F) := do
  let runId ← compact r.runId "run_id" 128
  let slotKey ← compact r.slotKey "slot_key" 160
  require (1 ≤ r.attempt) (contractError "attempt must be >= 1")
  let scheduledAt ← isoTimestamp r.scheduledAt "scheduled_at"
  require (sha256Re r.inventoryFingerprint = true)
    (contractError "inventory_fingerprint must be a SHA-256 fingerprint")
  require (sha256Re r.policyFingerprint = true) (contractError "policy_fingerprint must be a SHA-256 fingerprint")
  require (r.observedAssets ≤ r.expectedAssets) (contractError "invalid asset coverage counts")
  require (PyPercent.within r.coveragePct = true) (contractError "coverage_pct must be within [0,100]")
  let failureCodes ← r.failureCodes.mapM fun v => compact v "failure_code" 96
  return { r with runId := runId, slotKey := slotKey, scheduledAt := scheduledAt, failureCodes := failureCodes }

/-- The columns that `put_hourly_receipt` sets in a row that is there. -/
def HourlyRunReceipt.updated (row r : HourlyRunReceipt F) : HourlyRunReceipt F :=
  { row with completedAt := r.completedAt, status := r.status, observedAssets := r.observedAssets,
             coveragePct := r.coveragePct, failureCodes := r.failureCodes }

namespace MonitoringStore

variable (s : MonitoringStore F)

def runsOf (slotKey : String) : List (HourlyRunReceipt F) := s.runs.filter (·.slotKey = slotKey)

/-- `_next_attempt`. -/
def nextAttempt (slotKey : String) : Nat := ((s.runsOf slotKey).map (·.attempt)).foldr max 0 + 1

/-- The row that `_latest_terminal_receipt` selects: the newest attempt. -/
def newest? (slotKey : String) : Option (HourlyRunReceipt F) := (s.runsOf slotKey).argmax (·.attempt)

/-- `_latest_terminal_receipt`. -/
def latestTerminalReceipt (slotKey : String) : Except Raised (Option (HourlyRunReceipt F)) :=
  match s.newest? slotKey with
  | none => .ok none
  | some row => if row.completedAt = none then .ok none else row.validate.map some

/-- `put_hourly_receipt`: the row with the run id is updated, otherwise one is inserted. -/
def putHourlyReceipt (receipt : HourlyRunReceipt F) : Except Raised (MonitoringStore F) := do
  let r ← receipt.validate
  if ∃ row ∈ s.runs, row.runId = r.runId then
    return { s with runs := s.runs.map fun row => if row.runId = r.runId then row.updated r else row }
  else
    require (∀ row ∈ s.runs, ¬ (row.slotKey = r.slotKey ∧ row.attempt = r.attempt))
      ⟨.integrityError, "UNIQUE constraint failed: hourly_runs.slot_key, hourly_runs.attempt"⟩
    return { s with runs := s.runs ++ [r] }

/-- `HOURLY_LOCK_STALE_AFTER_SECONDS`, in microseconds. -/
def hourlyLockStaleAfter : Int := 20 * 60 * 1000000

/-- `HOURLY_SLOT_ALREADY_LOCKED`. -/
def alreadyLocked : Raised := ⟨.monitoringRunAlreadyLocked, "HOURLY_SLOT_ALREADY_LOCKED"⟩

/-- `HourlyRunLockManager.acquire`: a lock that is too old is replaced. -/
def acquire (slotKey ownerId : String) (acquiredAt : Int) : Except Raised (MonitoringStore F) :=
  let lock : HourlyRunLock := ⟨slotKey, ownerId, acquiredAt⟩
  match s.locks.find? (·.slotKey = slotKey) with
  | none => .ok { s with locks := s.locks ++ [lock] }
  | some existing =>
    if acquiredAt - existing.acquiredAt ≤ hourlyLockStaleAfter then .error alreadyLocked
    else .ok { s with locks := s.locks.filter (· ≠ existing) ++ [lock] }

/-- `HourlyRunLockManager.release`. -/
def release (slotKey ownerId : String) : MonitoringStore F :=
  { s with locks := s.locks.filter fun l => ¬ (l.slotKey = slotKey ∧ l.ownerId = ownerId) }

end MonitoringStore

end Receipts

/-! ## The runs -/

structure HourlyRequest where
  profileId : String
  policyFingerprint : String
  scheduledAt : String
  deriving DecidableEq, Repr

/-- What a run knows once it has its lock. -/
structure HourlyContext where
  slotKey : String
  ownerId : String
  startedAt : Int
  assets : List HourlyAsset
  deriving DecidableEq, Repr

inductive HourlyPhase (F : Type) where
  | ready
  | acquired (ctx : HourlyContext)
  /-- No terminal receipt was found. -/
  | checked (ctx : HourlyContext)
  /-- The starting receipt is built. -/
  | starting (ctx : HourlyContext) (receipt : HourlyRunReceipt F)
  /-- The starting receipt is stored. -/
  | collecting (ctx : HourlyContext) (receipt : HourlyRunReceipt F)
  /-- The final receipt is built. -/
  | finishing (ctx : HourlyContext) (receipt : HourlyRunReceipt F)
  /-- `finally`. -/
  | releasing (ctx : HourlyContext) (result : Except Raised (HourlyRunReceipt F))
  | done (result : Except Raised (HourlyRunReceipt F))

structure HourlyCall (F : Type) where
  request : HourlyRequest
  phase : HourlyPhase F
  late : Bool := false
  collected : Bool := false

/-- What a step takes from its environment. -/
structure HourlyMoment where
  now : Int
  uuid : String
  assets : List HourlyAsset
  outcome : Except Raised (List WorkResult)

/-- `_inventory_fingerprint`. -/
def inventoryFingerprint (assets : List HourlyAsset) : String :=
  sha256Fingerprint (.arr (assets.map fun a => .str a.fingerprint))

/-- The run id of an attempt: 24 digits of a fingerprint. -/
def runIdOf (slotKey : String) (attempt : Nat) (ownerId : String) : String :=
  "run-" ++ digestPrefix (sha256Fingerprint (.arr [.str slotKey, .int attempt, .str ownerId])) 24

section Runner

variable {F : Type} [PyTime] [PyPercent F]

/-- The starting receipt. -/
def startingReceipt (request : HourlyRequest) (ctx : HourlyContext) (attempt : Nat) : HourlyRunReceipt F where
  runId := runIdOf ctx.slotKey attempt ctx.ownerId
  slotKey := ctx.slotKey
  attempt := attempt
  scheduledAt := request.scheduledAt
  startedAt := ctx.startedAt
  completedAt := none
  status := .collecting
  inventoryFingerprint := inventoryFingerprint ctx.assets
  policyFingerprint := request.policyFingerprint
  expectedAssets := ctx.assets.length
  observedAssets := 0
  coveragePct := PyPercent.zero

/-- The assets that gave observations, each once. -/
def coveredAssets (results : List WorkResult) : List String :=
  dedup ((results.filter (·.observed)).map (·.assetId))

/-- `"DATA_GAP_" + asset_id.upper().replace("-", "_")`. -/
def dataGap (assetId : String) : String := "DATA_GAP_" ++ replaceChar '-' '_' (upper assetId)

/-- `tuple(sorted(failure_codes))`. -/
def failureCodes (assets : List HourlyAsset) (results : List WorkResult) : List String :=
  sorted (dedup (
    results.flatMap (fun r =>
      ((r.failureCode.filter (· ≠ "")).toList ++ if r.attemptsUsed > 1 then ["COLLECTOR_RETRIED"] else [])) ++
    (assets.filter (fun a => a.assetId ∉ coveredAssets results)).map fun a => dataGap a.assetId))

/-- The final receipt, `now` being the time of its completion. -/
def finalReceipt (receipt : HourlyRunReceipt F) (assets : List HourlyAsset) (now : Int)
    (outcome : Except Raised (List WorkResult)) : Except Raised (HourlyRunReceipt F) :=
  if assets = [] then
    { receipt with completedAt := some now, status := .partial_, failureCodes := ["NO_APPROVED_ASSETS"] }.validate
  else do
    let results ← outcome
    let observed := (coveredAssets results).length
    { receipt with
      completedAt := some now
      status := if observed = assets.length then .completed else .partial_
      observedAssets := observed
      coveragePct := PyPercent.share observed assets.length
      failureCodes := failureCodes assets results }.validate

variable [TokyoHour]

/-- The first transaction: the inventory, the slot and the lock. -/
def obtainLock (moment : HourlyMoment) (s : MonitoringStore F) (request : HourlyRequest) :
    Except Raised (MonitoringStore F × HourlyContext) := do
  let slotKey ← hourlySlotKey request.profileId request.scheduledAt
  let ctx : HourlyContext := ⟨slotKey, "owner-" ++ moment.uuid, moment.now, moment.assets⟩
  return (← s.acquire slotKey ctx.ownerId moment.now, ctx)

/-- A completed attempt of the slot is there. -/
def MonitoringStore.Completed (s : MonitoringStore F) (slotKey : String) : Prop :=
  ∃ r ∈ s.runs, r.slotKey = slotKey ∧ r.completedAt ≠ none

instance (s : MonitoringStore F) (slotKey : String) : Decidable (s.Completed slotKey) :=
  inferInstanceAs (Decidable (∃ r ∈ s.runs, _))

/-- The next phase of a call, the rest kept. -/
def HourlyCall.to (c : HourlyCall F) (phase : HourlyPhase F) : HourlyCall F := { c with phase := phase }

/-- The next transaction of a run. A raise past the lock goes to `finally`. -/
def hourlyAct (moment : HourlyMoment) (s : MonitoringStore F) (c : HourlyCall F) : MonitoringStore F × HourlyCall F :=
  match c.phase with
  | .ready =>
    match obtainLock moment s c.request with
    | .ok (s', ctx) => (s', { c with phase := .acquired ctx, late := decide (s.Completed ctx.slotKey) })
    | .error e => (s, c.to (.done (.error e)))
  | .acquired ctx =>
    match s.latestTerminalReceipt ctx.slotKey with
    | .ok (some previous) => (s, c.to (.releasing ctx (.ok previous)))
    | .ok none => (s, c.to (.checked ctx))
    | .error e => (s, c.to (.releasing ctx (.error e)))
  | .checked ctx =>
    match (startingReceipt c.request ctx (s.nextAttempt ctx.slotKey)).validate with
    | .ok receipt => (s, c.to (.starting ctx receipt))
    | .error e => (s, c.to (.releasing ctx (.error e)))
  | .starting ctx receipt =>
    match s.putHourlyReceipt receipt with
    | .ok s' => (s', c.to (.collecting ctx receipt))
    | .error e => (s, c.to (.releasing ctx (.error e)))
  | .collecting ctx receipt =>
    let collected := c.collected || decide (ctx.assets ≠ [])
    match finalReceipt receipt ctx.assets moment.now moment.outcome with
    | .ok final => (s, { c with phase := .finishing ctx final, collected := collected })
    | .error e => (s, { c with phase := .releasing ctx (.error e), collected := collected })
  | .finishing ctx final =>
    match s.putHourlyReceipt final with
    | .ok s' => (s', c.to (.releasing ctx (.ok final)))
    | .error e => (s, c.to (.releasing ctx (.error e)))
  | .releasing ctx result => (s.release ctx.slotKey ctx.ownerId, c.to (.done result))
  | .done _ => (s, c)

/-- The runs on one store. -/
def hourlyProgram : Program (MonitoringStore F) (HourlyCall F) HourlyRequest HourlyMoment where
  init request := { request := request, phase := .ready }
  act := hourlyAct

end Runner

end ThreeAgent.SecurityMonitoring
