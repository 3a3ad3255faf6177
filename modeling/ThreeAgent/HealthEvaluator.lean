/-
The health of an asset (`health_evaluator.py`, `health_state.py`): the policy
and its thresholds, the observations in order, their trailing streaks, and the
next state with the transition to it.

A status and a state are of one of the names that `validate` allows.
-/
import ThreeAgent.Discovery
import ThreeAgent.Lib.Trailing

namespace ThreeAgent.SecurityMonitoring

open PyText Outcome PyJson Keyed

/-! ## Observations -/

/-- `OBSERVATION_STATUSES`. -/
inductive ObservationStatus where
  | ok
  | unreachable
  | timeout
  | unsupported
  | discontinuity
  | error
  deriving DecidableEq, Repr

/-- `_OK`. -/
def ObservationStatus.isOk (s : ObservationStatus) : Bool := s ∈ [.ok]

/-- `_FAILURE`. -/
def ObservationStatus.isFailure (s : ObservationStatus) : Bool := s ∈ [.unreachable, .timeout]

/-- `_DEGRADED`. -/
def ObservationStatus.isDegraded (s : ObservationStatus) : Bool := s ∈ [.error, .unsupported, .discontinuity]

structure ObservationRecord where
  runId : String
  assetId : String
  collector : String
  observedAt : String
  metric : String
  status : ObservationStatus
  unit : Option String := none
  evidenceRef : Option String := none
  deriving DecidableEq

/-- `ObservationRecord.validate`. -/
def ObservationRecord.validate [PyTime] (o : ObservationRecord) : Except Raised ObservationRecord := do
  let runId ← compact o.runId "run_id" 128
  let assetId ← compact o.assetId "asset_id" 128
  require (o.collector ∈ collectorCapabilityNames) (contractError ("unsupported collector: " ++ o.collector))
  let observedAt ← isoTimestamp o.observedAt "observed_at"
  let metric ← compact o.metric "metric" 128
  let unit ← o.unit.mapM (compact · "unit" 32)
  let evidenceRef ← o.evidenceRef.mapM (compact · "evidence_ref" 256)
  return { o with runId, assetId, observedAt, metric, unit, evidenceRef }

/-! ## Policies and states -/

/-- `_bounded_int`. -/
def healthBoundedInt (value : Int) (fieldName : String) (minimum maximum : Int) : Except Raised Int := do
  require (minimum ≤ value ∧ value ≤ maximum)
    (contractError (fieldName ++ " must be within " ++ toString minimum ++ ".." ++ toString maximum))
  return value

structure HealthPolicyConfig where
  failureSamplesToDegraded : Int := 2
  failureSamplesToUnreachable : Int := 3
  recoverySamplesToHealthy : Int := 2
  dataGapAfterSeconds : Int := 300
  deriving DecidableEq, Repr

namespace HealthPolicyConfig

/-- `validate`. -/
def validate (p : HealthPolicyConfig) : Except Raised HealthPolicyConfig := do
  let degraded ← healthBoundedInt p.failureSamplesToDegraded "failure_samples_to_degraded" 1 64
  let unreachable ← healthBoundedInt p.failureSamplesToUnreachable "failure_samples_to_unreachable" 2 128
  let recovery ← healthBoundedInt p.recoverySamplesToHealthy "recovery_samples_to_healthy" 1 64
  let gap ← healthBoundedInt p.dataGapAfterSeconds "data_gap_after_seconds" 1 86400
  require (degraded < unreachable) (contractError "failure_samples_to_unreachable must exceed failure_samples_to_degraded")
  return ⟨degraded, unreachable, recovery, gap⟩

/-- `to_dict`, its keys sorted. -/
def toDict (p : HealthPolicyConfig) : Json Unit :=
  .obj [("data_gap_after_seconds", .int p.dataGapAfterSeconds), ("failure_samples_to_degraded", .int p.failureSamplesToDegraded),
    ("failure_samples_to_unreachable", .int p.failureSamplesToUnreachable),
    ("recovery_samples_to_healthy", .int p.recoverySamplesToHealthy)]

def fingerprint (p : HealthPolicyConfig) : String := sha256Fingerprint p.toDict

end HealthPolicyConfig

/-- `HEALTH_STATES`. -/
inductive HealthState where
  | unknown
  | healthy
  | degraded
  | unreachable
  | maintenance
  | dataGap
  deriving DecidableEq, Repr

def healthStateSchema : String := "workspace-security-monitoring/health-state-v1"
def healthTransitionSchema : String := "workspace-security-monitoring/health-transition-v1"

/-- `_utc_timestamp` of `health_state.py`. -/
def healthTimestamp [PyTime] (value fieldName : String) : Except Raised String := do
  let parsed ← orRaise (PyTime.read (strip value)) (contractError (fieldName ++ " must be ISO-8601"))
  require (parsed.offset = some 0) (contractError (fieldName ++ " must be UTC"))
  orRaise (PyTime.write parsed.wall) dateOverflow

/-- `_evidence_refs`. -/
def healthEvidenceRefs (values : List String) : Except Raised (List String) := do
  let refs ← values.mapM (compact · "evidence_ref" 256)
  return dedup refs

structure HealthStateRecord where
  assetId : String
  state : HealthState
  evaluatedAt : String
  evidenceRefs : List String := []
  reasonCode : Option String := none
  schemaVersion : String := healthStateSchema
  deriving DecidableEq, Repr

/-- `HealthStateRecord.validate`. -/
def HealthStateRecord.validate [PyTime] (r : HealthStateRecord) : Except Raised HealthStateRecord := do
  let assetId ← compact r.assetId "asset_id" 128
  let evaluatedAt ← healthTimestamp r.evaluatedAt "evaluated_at"
  let evidenceRefs ← healthEvidenceRefs r.evidenceRefs
  let reasonCode ← r.reasonCode.mapM (compact · "reason_code" 128)
  require (r.schemaVersion = healthStateSchema) (contractError ("unsupported health state schema: " ++ r.schemaVersion))
  return { r with assetId, evaluatedAt, evidenceRefs, reasonCode }

structure HealthTransitionRecord where
  assetId : String
  previousState : HealthState
  currentState : HealthState
  transitionedAt : String
  evidenceRefs : List String
  reasonCode : String
  policyFingerprint : String
  schemaVersion : String := healthTransitionSchema
  deriving DecidableEq, Repr

/-- `HealthTransitionRecord.validate`. -/
def HealthTransitionRecord.validate [PyTime] (r : HealthTransitionRecord) : Except Raised HealthTransitionRecord := do
  let assetId ← compact r.assetId "asset_id" 128
  require (r.previousState ≠ r.currentState) (contractError "health transition must change state")
  let transitionedAt ← healthTimestamp r.transitionedAt "transitioned_at"
  let evidenceRefs ← healthEvidenceRefs r.evidenceRefs
  require (evidenceRefs ≠ []) (contractError "health transition requires evidence_refs")
  let reasonCode ← compact r.reasonCode "reason_code" 128
  let fingerprint := strip r.policyFingerprint
  require (startsWith fingerprint "sha256:" = true ∧ fingerprint.toList.length = 71)
    (contractError "policy_fingerprint must be a sha256 digest")
  require (r.schemaVersion = healthTransitionSchema)
    (contractError ("unsupported health transition schema: " ++ r.schemaVersion))
  return { r with assetId, transitionedAt, evidenceRefs, reasonCode, policyFingerprint := lower fingerprint }

/-! ## The evaluator -/

/-- The evidence that an evaluation starts from: `refs` with those of the samples and of the maintenance. -/
def addRef (refs : List String) (ref : String) : List String := if ref ∈ refs then refs else refs ++ [ref]

structure HealthEvaluation where
  state : HealthStateRecord
  transition : Option HealthTransitionRecord
  unhealthyStreak : Nat
  hardFailureStreak : Nat
  recoveryStreak : Nat
  deriving DecidableEq, Repr

structure DeterministicHealthEvaluator where
  policy : HealthPolicyConfig
  maxSamples : Int := 256

/-- The arguments of `evaluate`, apart from the previous state. -/
structure HealthCall where
  assetId : String
  observations : List ObservationRecord
  evaluatedAt : String
  evaluationEvidenceRef : String
  maintenance : Bool := false
  maintenanceEvidenceRef : Option String := none

/-- What an evaluation comes to: the state, its reason, and the streaks of unhealthy, of hard failing and of good samples. -/
structure Judgement where
  target : HealthState
  reason : String
  unhealthy : Nat := 0
  hard : Nat := 0
  recovery : Nat := 0
  deriving DecidableEq

namespace DeterministicHealthEvaluator

/-- `__init__`. -/
def init (policy : HealthPolicyConfig) (maxSamples : Int) : Except Raised DeterministicHealthEvaluator := do
  let policy ← policy.validate
  require (1 ≤ maxSamples ∧ maxSamples ≤ 4096) (contractError "max_samples must be an integer within 1..4096")
  require (max policy.failureSamplesToUnreachable policy.recoverySamplesToHealthy ≤ maxSamples)
    (contractError "max_samples cannot be smaller than hysteresis thresholds")
  return ⟨policy, maxSamples⟩

section Evaluate

variable [PyTime]

/-- `_dt` of a text that is the time of an instant. -/
def instantOf (text : String) : Int := (PyTime.instant? text).getD 0

/-- The check of one observation. -/
def checkObservation (asset : String) (now : Int) (o : ObservationRecord) : Except Raised ObservationRecord := do
  let o ← o.validate
  require (o.assetId = asset) (contractError "health observation asset_id mismatch")
  require (instantOf o.observedAt ≤ now) (contractError "health observation cannot be in the future")
  return o

/-- The key that the observations are sorted by. -/
def sampleKey (o : ObservationRecord) : Int ×ₗ String ×ₗ String ×ₗ String ×ₗ String :=
  toLex (instantOf o.observedAt, toLex (o.runId, toLex (o.collector, toLex (o.metric, o.evidenceRef.getD ""))))

variable (e : DeterministicHealthEvaluator)

/-- The chain of tests on the streaks. -/
def target (previous : HealthState) (unhealthy hard recovery : Nat) : HealthState × String :=
  match previous with
  | .unreachable =>
    if e.policy.recoverySamplesToHealthy ≤ recovery then (.healthy, "RECOVERY_THRESHOLD_MET")
    else (.unreachable, "RECOVERY_HYSTERESIS_PENDING")
  | .degraded =>
    if e.policy.recoverySamplesToHealthy ≤ recovery then (.healthy, "RECOVERY_THRESHOLD_MET")
    else if e.policy.failureSamplesToUnreachable ≤ hard then (.unreachable, "UNREACHABLE_THRESHOLD_MET")
    else (.degraded, "HYSTERESIS_PENDING")
  | .dataGap =>
    if e.policy.recoverySamplesToHealthy ≤ recovery then (.healthy, "RECOVERY_THRESHOLD_MET")
    else if e.policy.failureSamplesToUnreachable ≤ hard then (.unreachable, "UNREACHABLE_THRESHOLD_MET")
    else if e.policy.failureSamplesToDegraded ≤ unhealthy then (.degraded, "DEGRADED_THRESHOLD_MET")
    else (.dataGap, "HYSTERESIS_PENDING")
  | previous =>
    if e.policy.failureSamplesToUnreachable ≤ hard then (.unreachable, "UNREACHABLE_THRESHOLD_MET")
    else if e.policy.failureSamplesToDegraded ≤ unhealthy then (.degraded, "DEGRADED_THRESHOLD_MET")
    else if e.policy.recoverySamplesToHealthy ≤ recovery then (.healthy, "HEALTHY_THRESHOLD_MET")
    else (previous, "HYSTERESIS_PENDING")

/-- What the samples, in order, come to where no maintenance is going on. -/
def judge (now : Int) (previous : HealthState) (samples : List ObservationRecord) : Judgement :=
  match samples.getLast? with
  | none => { target := .dataGap, reason := "NO_DURABLE_OBSERVATION" }
  | some latest =>
    if e.policy.dataGapAfterSeconds * 1000000 < now - instantOf latest.observedAt then
      { target := .dataGap, reason := "OBSERVATION_DATA_GAP" }
    else
      let unhealthy := trailing (fun o => o.status.isFailure || o.status.isDegraded) samples
      let hard := trailing (fun o => o.status.isFailure) samples
      let recovery := trailing (fun o => o.status.isOk) samples
      let (target, reason) := e.target previous unhealthy hard recovery
      { target, reason, unhealthy, hard, recovery }

/-- The checked samples of a call, in order. -/
def samples (asset : String) (now : Int) (observations : List ObservationRecord) : Except Raised (List ObservationRecord) := do
  require ((observations.length : Int) ≤ e.maxSamples) (contractError "health observation window exceeds max_samples")
  let validated ← observations.mapM (checkObservation asset now)
  return sortedBy sampleKey validated

/-- The transition of a judgement, where it changes the state. -/
def transitionOf (asset nowText : String) (previous : HealthState) (refs : List String) (j : Judgement) :
    Except Raised (Option HealthTransitionRecord) :=
  if j.target ≠ previous then do
    let transition ← HealthTransitionRecord.validate {
      assetId := asset, previousState := previous, currentState := j.target, transitionedAt := nowText
      evidenceRefs := refs, reasonCode := j.reason, policyFingerprint := e.policy.fingerprint }
    return some transition
  else return none

/-- The records of a judgement. -/
def conclude (asset nowText : String) (previous : HealthState) (refs : List String) (j : Judgement) :
    Except Raised HealthEvaluation := do
  let state ← HealthStateRecord.validate {
    assetId := asset, state := j.target, evaluatedAt := nowText, evidenceRefs := refs, reasonCode := some j.reason }
  let transition ← e.transitionOf asset nowText previous refs j
  return ⟨state, transition, j.unhealthy, j.hard, j.recovery⟩

/-- `evaluate`. -/
def evaluate (previous : Option HealthStateRecord) (call : HealthCall) : Except Raised HealthEvaluation := do
  let asset ← compact call.assetId "asset_id" 128
  let nowText ← healthTimestamp call.evaluatedAt "evaluated_at"
  let now := instantOf nowText
  let evaluationRef ← compact call.evaluationEvidenceRef "evaluation_evidence_ref" 256
  require (¬ (call.maintenance = true ∧ call.maintenanceEvidenceRef = none))
    (contractError "maintenance requires maintenance_evidence_ref")
  let samples ← e.samples asset now call.observations
  let previous ← previous.mapM HealthStateRecord.validate
  require (previous.all fun r => r.assetId = asset) (contractError "previous health state asset_id mismatch")
  let previousState := (previous.map HealthStateRecord.state).getD .unknown
  let refs := (samples.filterMap ObservationRecord.evidenceRef).foldl addRef [evaluationRef]
  if call.maintenance = true then do
    let ref ← compact (call.maintenanceEvidenceRef.getD "") "maintenance_evidence_ref" 256
    e.conclude asset nowText previousState (addRef refs ref) { target := .maintenance, reason := "MAINTENANCE_ACTIVE" }
  else e.conclude asset nowText previousState refs (e.judge now previousState samples)

end Evaluate

end DeterministicHealthEvaluator

end ThreeAgent.SecurityMonitoring
