/-
Dispatch recovery bindings (`runtime_dispatch_recovery.py`): the budget and
revocation snapshots, the binding that carries them, and its codec. As with a
checkpoint, a record holds the values it is constructed with.
-/
import ThreeAgent.Capability
import ThreeAgent.RuntimeCheckpoint

namespace ThreeAgent.DispatchRecovery

open PyText Outcome PyJson

/-- `RUNTIME_DISPATCH_RECOVERY_BINDING_SCHEMA`. -/
def runtimeDispatchRecoveryBindingSchema : String := "workspace-runtime-dispatch-recovery-binding/v1"

/-- `RUNTIME_DISPATCH_RECOVERY_BINDING_ENVELOPE_SCHEMA`. -/
def runtimeDispatchRecoveryBindingEnvelopeSchema : String := "workspace-runtime-dispatch-recovery-binding-envelope/v1"

/-- `BUDGET_STATE_SCHEMA`. -/
def budgetStateSchema : String := "workspace-task-execution-budget-state/v2"

/-- `REVOCATION_SCHEMA`. -/
def revocationSchema : String := "workspace-capability-revocation/v1"

/-- `MAX_SCHEDULER_CONCURRENCY`. -/
def maxSchedulerConcurrency : Int := 24

/-- `RuntimeDispatchRecoveryError(code)`. -/
def dispatchRecoveryError (code : String) : Raised := ⟨.runtimeDispatchRecoveryError, code⟩

/-! ## Checks -/

section Checks

variable {F : Type}

/-- `_ID_RE.fullmatch`. -/
def compactIdRe (s : String) : Bool :=
  match s.toList with
  | [] => false
  | c :: rest => isAsciiAlnum c && rest.all isCompactChar && decide (rest.length ≤ 127)

/-- `_REASON_RE.fullmatch`. -/
def reasonRe (s : String) : Bool :=
  match s.toList with
  | [] => false
  | c :: rest =>
    decide ('A' ≤ c ∧ c ≤ 'Z') &&
      (rest.all fun c => decide ('A' ≤ c ∧ c ≤ 'Z') || decide ('0' ≤ c ∧ c ≤ '9') || c == '_') &&
      decide (1 ≤ rest.length) && decide (rest.length ≤ 127)

/-- `_compact`. -/
def compact (value : Json F) (fieldName : String) : Except Raised String :=
  textThat value compactIdRe (invalidField .runtimeDispatchRecoveryError fieldName)

/-- `_bounded_text`. -/
def boundedText (value : Json F) (fieldName : String) : Except Raised String :=
  textThat value
    (fun s => decide (s ≠ "") && decide (s = strip s) && decide (s.toList.length ≤ 256) && decide ('\n' ∉ s.toList) &&
      decide ('\r' ∉ s.toList))
    (invalidField .runtimeDispatchRecoveryError fieldName)

/-- `_sha256`. -/
def sha256 (value : Json F) (fieldName : String) : Except Raised String :=
  rawSha256 .runtimeDispatchRecoveryError value fieldName

/-- `_timestamp`: any spelling of an aware time. -/
def timestamp (F : Type) [PyRuntime F] (value : Json F) (fieldName : String) : Except Raised Unit := do
  let _ ← rawInstant F .runtimeDispatchRecoveryError value fieldName
  return ⟨⟩

/-- The integer that a value is, when it is no boolean. -/
def plainInt? : Json F → Option Int
  | .int n => some n
  | _ => none

/-- `_nonnegative_int`. -/
def nonnegativeInt (value : Json F) (fieldName : String) : Except Raised Int := do
  let n ← orRaise (plainInt? value) (invalidField .runtimeDispatchRecoveryError fieldName)
  require (0 ≤ n) (invalidField .runtimeDispatchRecoveryError fieldName)
  return n

/-- `_positive_int`. -/
def positiveInt (value : Json F) (fieldName : String) : Except Raised Int := do
  let n ← nonnegativeInt value fieldName
  require (1 ≤ n) (invalidField .runtimeDispatchRecoveryError fieldName)
  return n

/-- `_normalized_ids` and `_normalized_hashes`, by the check of their items. -/
def normalizedItems (check : Json F → String → Except Raised String) (values : List (Json F)) (fieldName : String) :
    Except Raised (List String) := do
  let items ← values.mapM (check · fieldName)
  require items.Nodup (dispatchRecoveryError ("DUPLICATE_" ++ upper fieldName))
  return sorted items

/-- `_normalized_ids`. -/
def normalizedIds (values : List (Json F)) (fieldName : String) : Except Raised (List String) :=
  normalizedItems compact values fieldName

/-- `_normalized_hashes`. -/
def normalizedHashes (values : List (Json F)) (fieldName : String) : Except Raised (List String) :=
  normalizedItems sha256 values fieldName

end Checks

/-- The error of `_canonical_json`. -/
def notCanonical : Raised := dispatchRecoveryError "DISPATCH_RECOVERY_NOT_CANONICAL_JSON"

/-! ## Budgets -/

structure RuntimeBudgetSnapshot (F : Type) where
  taskId : Json F
  maxSteps : Json F
  maxToolCalls : Json F
  maxModelRetries : Json F
  maxModelEscalations : Json F
  maxWallTimeMs : Json F
  stepsUsed : Json F
  toolCallsUsed : Json F
  modelRetriesUsed : Json F
  modelEscalationsUsed : Json F
  deadlineAt : Json F
  schemaVersion : Json F

namespace RuntimeBudgetSnapshot

variable {F : Type} [PyRuntime F]

/-- One turn of the loop of `validate` over the counters. -/
def checkUsed (value : Json F) (maximum : Int) (fieldName : String) : Except Raised Unit := do
  let used ← nonnegativeInt value fieldName
  require (used ≤ maximum) (dispatchRecoveryError (upper fieldName ++ "_EXCEEDS_LIMIT"))

def validate (b : RuntimeBudgetSnapshot F) : Except Raised Unit := do
  require (b.schemaVersion.isText budgetStateSchema = true)
    (dispatchRecoveryError "BUDGET_SNAPSHOT_SCHEMA_VERSION_MISMATCH")
  let _ ← compact b.taskId "budget_task_id"
  let maxSteps ← positiveInt b.maxSteps "max_steps"
  let maxToolCalls ← nonnegativeInt b.maxToolCalls "max_tool_calls"
  let maxModelRetries ← nonnegativeInt b.maxModelRetries "max_model_retries"
  let maxModelEscalations ← nonnegativeInt b.maxModelEscalations "max_model_escalations"
  let maxWallTimeMs ← nonnegativeInt b.maxWallTimeMs "max_wall_time_ms"
  require (100 ≤ maxWallTimeMs) (dispatchRecoveryError "INVALID_MAX_WALL_TIME_MS")
  checkUsed b.stepsUsed maxSteps "steps_used"
  checkUsed b.toolCallsUsed maxToolCalls "tool_calls_used"
  checkUsed b.modelRetriesUsed maxModelRetries "model_retries_used"
  checkUsed b.modelEscalationsUsed maxModelEscalations "model_escalations_used"
  timestamp F b.deadlineAt "budget_deadline_at"

/-- The entries of `canonical_dict`. -/
def entries (b : RuntimeBudgetSnapshot F) : List (String × Json F) :=
  [("schema_version", b.schemaVersion), ("task_id", b.taskId), ("max_steps", b.maxSteps),
   ("max_tool_calls", b.maxToolCalls), ("max_model_retries", b.maxModelRetries),
   ("max_model_escalations", b.maxModelEscalations), ("max_wall_time_ms", b.maxWallTimeMs),
   ("steps_used", b.stepsUsed), ("tool_calls_used", b.toolCallsUsed), ("model_retries_used", b.modelRetriesUsed),
   ("model_escalations_used", b.modelEscalationsUsed), ("deadline_at", b.deadlineAt)]

/-- `canonical_dict`. -/
def canonicalDict (b : RuntimeBudgetSnapshot F) : Except Raised (Json F) := do
  b.validate
  return Json.dict b.entries

/-- The keys of a budget snapshot. -/
def keys : List String :=
  ["schema_version", "task_id", "max_steps", "max_tool_calls", "max_model_retries", "max_model_escalations",
   "max_wall_time_ms", "steps_used", "tool_calls_used", "model_retries_used", "model_escalations_used", "deadline_at"]

/-- `from_mapping`. -/
def fromMapping (payload : Json F) : Except Raised (RuntimeBudgetSnapshot F) := do
  require (payload.isDict = true) (dispatchRecoveryError "BUDGET_SNAPSHOT_NOT_MAPPING")
  require (payload.hasKeys keys = true) (dispatchRecoveryError "BUDGET_SNAPSHOT_SHAPE_INVALID")
  let budget : RuntimeBudgetSnapshot F :=
    { taskId := payload.item "task_id"
      maxSteps := payload.item "max_steps"
      maxToolCalls := payload.item "max_tool_calls"
      maxModelRetries := payload.item "max_model_retries"
      maxModelEscalations := payload.item "max_model_escalations"
      maxWallTimeMs := payload.item "max_wall_time_ms"
      stepsUsed := payload.item "steps_used"
      toolCallsUsed := payload.item "tool_calls_used"
      modelRetriesUsed := payload.item "model_retries_used"
      modelEscalationsUsed := payload.item "model_escalations_used"
      deadlineAt := payload.item "deadline_at"
      schemaVersion := payload.item "schema_version" }
  budget.validate
  return budget

end RuntimeBudgetSnapshot

/-! ## Revocations -/

structure RuntimeRevocationSnapshot (F : Type) where
  taskId : Json F
  capability : Json F
  reasonCode : Json F
  revokedAt : Json F

namespace RuntimeRevocationSnapshot

variable {F : Type} [PyRuntime F]

def validate (r : RuntimeRevocationSnapshot F) : Except Raised Unit := do
  let _ ← compact r.taskId "revocation_task_id"
  let _ ← compact r.capability "revoked_capability"
  let _ ← textThat r.reasonCode reasonRe (dispatchRecoveryError "INVALID_REVOCATION_REASON_CODE")
  timestamp F r.revokedAt "revoked_at"

/-- The entries of `canonical_dict`. -/
def entries (r : RuntimeRevocationSnapshot F) : List (String × Json F) :=
  [("task_id", r.taskId), ("capability", r.capability), ("reason_code", r.reasonCode), ("revoked_at", r.revokedAt)]

/-- `canonical_dict`. -/
def canonicalDict (r : RuntimeRevocationSnapshot F) : Except Raised (Json F) := do
  r.validate
  return Json.dict r.entries

/-- `plain`. -/
def plain : List String := ["task_id", "capability", "reason_code", "revoked_at"]

/-- `from_revocation` of a mapping. -/
def fromRevocation (value : Json F) : Except Raised (RuntimeRevocationSnapshot F) := do
  require (value.isDict = true) (dispatchRecoveryError "INVALID_REVOCATION_SNAPSHOT")
  require (value.hasKeys plain = true ∨ value.hasKeys ("schema_version" :: plain) = true)
    (dispatchRecoveryError "REVOCATION_SNAPSHOT_SHAPE_INVALID")
  require ("schema_version" ∈ value.keys → (value.item "schema_version").isText revocationSchema = true)
    (dispatchRecoveryError "REVOCATION_SNAPSHOT_SCHEMA_VERSION_MISMATCH")
  let revocation : RuntimeRevocationSnapshot F :=
    { taskId := value.item "task_id"
      capability := value.item "capability"
      reasonCode := value.item "reason_code"
      revokedAt := value.item "revoked_at" }
  revocation.validate
  return revocation

end RuntimeRevocationSnapshot

/-! ## Bindings -/

structure RuntimeDispatchRecoveryBinding (F : Type) where
  bindingId : Json F
  runtimeCheckpointFingerprint : Json F
  taskId : Json F
  taskContextFingerprint : Json F
  planFingerprint : Json F
  parentAuthorityFingerprint : Json F
  schedulerStateFingerprint : Json F
  maxConcurrency : Json F
  cancelled : Json F
  cancellationReason : Json F
  dispatchSequence : Json F
  approvedNodeIds : List (Json F)
  inFlightTicketFingerprints : List (Json F)
  observationFingerprints : List (Json F)
  budget : RuntimeBudgetSnapshot F
  revocations : List (RuntimeRevocationSnapshot F)
  capturedAt : Json F
  schemaVersion : Json F

namespace RuntimeDispatchRecoveryBinding

variable {F : Type} [PyRuntime F]

/-- The entries of `_identity_dict`. -/
def identityEntries (b : RuntimeDispatchRecoveryBinding F) : Except Raised (List (String × Json F)) := do
  let budget ← b.budget.canonicalDict
  let revocations ← b.revocations.mapM RuntimeRevocationSnapshot.canonicalDict
  return [("schema_version", b.schemaVersion), ("runtime_checkpoint_fingerprint", b.runtimeCheckpointFingerprint),
    ("task_id", b.taskId), ("task_context_fingerprint", b.taskContextFingerprint),
    ("plan_fingerprint", b.planFingerprint), ("parent_authority_fingerprint", b.parentAuthorityFingerprint),
    ("scheduler_state_fingerprint", b.schedulerStateFingerprint), ("max_concurrency", b.maxConcurrency),
    ("cancelled", b.cancelled), ("cancellation_reason", b.cancellationReason),
    ("dispatch_sequence", b.dispatchSequence), ("approved_node_ids", .arr b.approvedNodeIds),
    ("in_flight_ticket_fingerprints", .arr b.inFlightTicketFingerprints),
    ("observation_fingerprints", .arr b.observationFingerprints), ("budget", budget),
    ("revocations", .arr revocations), ("captured_at", b.capturedAt)]

/-- `fingerprint`. -/
def fingerprint (b : RuntimeDispatchRecoveryBinding F) : Except Raised String := do
  let entries ← b.identityEntries
  digestOf notCanonical (Json.dict entries)

/-- The boolean that a value is. -/
def bool? : Json F → Option Bool
  | .bool b => some b
  | _ => none

/-- `value is None`. -/
def isNone : Json F → Bool
  | .null => true
  | _ => false

/-- A cancelled binding has a reason, and no other has. -/
def checkReason (b : RuntimeDispatchRecoveryBinding F) (cancelled : Bool) : Except Raised Unit :=
  if cancelled then do
    let _ ← boundedText b.cancellationReason "cancellation_reason"
    return ⟨⟩
  else require (isNone b.cancellationReason = true) (dispatchRecoveryError "UNEXPECTED_CANCELLATION_REASON")

/-- The loop of `validate` over the revocations, and the capabilities they name. -/
def checkRevocations (taskId : String) :
    List String → List (RuntimeRevocationSnapshot F) → Except Raised (List String)
  | seen, [] => return seen
  | seen, row :: rows => do
    row.validate
    require (text? row.taskId = some taskId) (dispatchRecoveryError "REVOCATION_TASK_MISMATCH")
    let capability := (text? row.capability).getD ""
    require (capability ∉ seen) (dispatchRecoveryError "DUPLICATE_REVOKED_CAPABILITY")
    checkRevocations taskId (seen ++ [capability]) rows

def validate (b : RuntimeDispatchRecoveryBinding F) : Except Raised Unit := do
  require (b.schemaVersion.isText runtimeDispatchRecoveryBindingSchema = true)
    (dispatchRecoveryError "DISPATCH_RECOVERY_BINDING_SCHEMA_VERSION_MISMATCH")
  let bindingId ← compact b.bindingId "binding_id"
  let taskId ← compact b.taskId "task_id"
  let _ ← sha256 b.runtimeCheckpointFingerprint "runtime_checkpoint_fingerprint"
  let _ ← sha256 b.taskContextFingerprint "task_context_fingerprint"
  let _ ← sha256 b.planFingerprint "plan_fingerprint"
  let _ ← sha256 b.parentAuthorityFingerprint "parent_authority_fingerprint"
  let _ ← sha256 b.schedulerStateFingerprint "scheduler_state_fingerprint"
  let cancelled ← orRaise (bool? b.cancelled) (dispatchRecoveryError "INVALID_CANCELLED_FLAG")
  let concurrency ← positiveInt b.maxConcurrency "max_concurrency"
  require (concurrency ≤ maxSchedulerConcurrency) (dispatchRecoveryError "MAX_CONCURRENCY_EXCEEDS_RUNTIME_LIMIT")
  let _ ← nonnegativeInt b.dispatchSequence "dispatch_sequence"
  b.checkReason cancelled
  let approved ← normalizedIds b.approvedNodeIds "approved_node_id"
  require (b.approvedNodeIds.map text? = approved.map some) (dispatchRecoveryError "APPROVED_NODE_IDS_NOT_NORMALIZED")
  let inFlight ← normalizedHashes b.inFlightTicketFingerprints "in_flight_ticket_fingerprint"
  require (b.inFlightTicketFingerprints.map text? = inFlight.map some)
    (dispatchRecoveryError "IN_FLIGHT_TICKET_FINGERPRINTS_NOT_NORMALIZED")
  let observed ← normalizedHashes b.observationFingerprints "observation_fingerprint"
  require (b.observationFingerprints.map text? = observed.map some)
    (dispatchRecoveryError "OBSERVATION_FINGERPRINTS_NOT_NORMALIZED")
  b.budget.validate
  require (text? b.budget.taskId = some taskId) (dispatchRecoveryError "BUDGET_TASK_MISMATCH")
  -- Rows with different capabilities are in the order of `sorted` when the capabilities are.
  let capabilities ← checkRevocations taskId [] b.revocations
  require (sorted capabilities = capabilities) (dispatchRecoveryError "REVOCATIONS_NOT_NORMALIZED")
  timestamp F b.capturedAt "captured_at"
  let fingerprint ← b.fingerprint
  require (bindingId = "dispatch-recovery:" ++ digestPrefix fingerprint 24)
    (dispatchRecoveryError "DISPATCH_RECOVERY_BINDING_IDENTITY_MISMATCH")

/-- `canonical_dict`. -/
def canonicalDict (b : RuntimeDispatchRecoveryBinding F) : Except Raised (Json F) := do
  b.validate
  let entries ← b.identityEntries
  return Json.dict (("binding_id", b.bindingId) :: entries)

end RuntimeDispatchRecoveryBinding

/-! ## The codec -/

namespace RuntimeDispatchRecoveryBindingCodec

variable {F : Type} [PyRuntime F]

/-- `_canonical_json`. -/
def canonicalJson (payload : Json F) : Except Raised String := canonicalText notCanonical payload

/-- The dictionary that `dumps` writes. -/
def envelope (record : Json F) (fingerprint : String) : Json F :=
  Json.dict [("schema_version", .str runtimeDispatchRecoveryBindingEnvelopeSchema), ("binding", record),
    ("binding_fingerprint", .str fingerprint)]

def dumps (binding : RuntimeDispatchRecoveryBinding F) : Except Raised String := do
  binding.validate
  let record ← binding.canonicalDict
  let fingerprint ← binding.fingerprint
  canonicalJson (envelope record fingerprint)

/-- The keys of an envelope. -/
def envelopeKeys : List String := ["schema_version", "binding", "binding_fingerprint"]

/-- The keys of a binding record. -/
def recordKeys : List String :=
  ["binding_id", "schema_version", "runtime_checkpoint_fingerprint", "task_id", "task_context_fingerprint",
   "plan_fingerprint", "parent_authority_fingerprint", "scheduler_state_fingerprint", "max_concurrency", "cancelled",
   "cancellation_reason", "dispatch_sequence", "approved_node_ids", "in_flight_ticket_fingerprints",
   "observation_fingerprints", "budget", "revocations", "captured_at"]

/-- The elements of a list. -/
def list? : Json F → Option (List (Json F))
  | .arr vs => some vs
  | _ => none

/-- `RECORD_SHAPE_INVALID`. -/
def shapeInvalid : Raised := dispatchRecoveryError "DISPATCH_RECOVERY_BINDING_RECORD_SHAPE_INVALID"

/-- The binding of a record with the right keys. -/
def ofRecord (raw : Json F) (rows : List (Json F)) : Except Raised (RuntimeDispatchRecoveryBinding F) := do
  let approvedNodeIds ← orRaise (tupleOf? (raw.item "approved_node_ids")) shapeInvalid
  let inFlightTicketFingerprints ← orRaise (tupleOf? (raw.item "in_flight_ticket_fingerprints")) shapeInvalid
  let observationFingerprints ← orRaise (tupleOf? (raw.item "observation_fingerprints")) shapeInvalid
  let budget ← RuntimeBudgetSnapshot.fromMapping (raw.item "budget")
  let revocations ← rows.mapM RuntimeRevocationSnapshot.fromRevocation
  let binding : RuntimeDispatchRecoveryBinding F :=
    { bindingId := raw.item "binding_id"
      runtimeCheckpointFingerprint := raw.item "runtime_checkpoint_fingerprint"
      taskId := raw.item "task_id"
      taskContextFingerprint := raw.item "task_context_fingerprint"
      planFingerprint := raw.item "plan_fingerprint"
      parentAuthorityFingerprint := raw.item "parent_authority_fingerprint"
      schedulerStateFingerprint := raw.item "scheduler_state_fingerprint"
      maxConcurrency := raw.item "max_concurrency"
      cancelled := raw.item "cancelled"
      cancellationReason := raw.item "cancellation_reason"
      dispatchSequence := raw.item "dispatch_sequence"
      approvedNodeIds
      inFlightTicketFingerprints
      observationFingerprints
      budget
      revocations
      capturedAt := raw.item "captured_at"
      schemaVersion := raw.item "schema_version" }
  binding.validate
  return binding

def loads (payload : String) : Except Raised (RuntimeDispatchRecoveryBinding F) := do
  require (payload ≠ "") (dispatchRecoveryError "INVALID_DISPATCH_RECOVERY_BINDING_PAYLOAD")
  let envelope ← orRaise (PyJson.loads payload) (dispatchRecoveryError "DISPATCH_RECOVERY_BINDING_JSON_INVALID")
  require (envelope.hasKeys envelopeKeys = true)
    (dispatchRecoveryError "DISPATCH_RECOVERY_BINDING_ENVELOPE_SHAPE_INVALID")
  require ((envelope.item "schema_version").isText runtimeDispatchRecoveryBindingEnvelopeSchema = true)
    (dispatchRecoveryError "DISPATCH_RECOVERY_BINDING_ENVELOPE_SCHEMA_MISMATCH")
  let raw := envelope.item "binding"
  require (raw.isDict = true) (dispatchRecoveryError "DISPATCH_RECOVERY_BINDING_RECORD_NOT_OBJECT")
  require (raw.hasKeys recordKeys = true ∧ (raw.item "budget").isDict = true) shapeInvalid
  let rows ← orRaise (list? (raw.item "revocations")) shapeInvalid
  let binding ← ofRecord raw rows
  let fingerprint ← binding.fingerprint
  require ((envelope.item "binding_fingerprint").isText fingerprint = true)
    (dispatchRecoveryError "DISPATCH_RECOVERY_BINDING_INTEGRITY_FAILED")
  let text ← canonicalJson envelope
  require (text = payload) (dispatchRecoveryError "DISPATCH_RECOVERY_BINDING_ENVELOPE_NOT_CANONICAL")
  return binding

end RuntimeDispatchRecoveryBindingCodec

end ThreeAgent.DispatchRecovery
