/-
Execution observations (`execution_observation.py`): what a runtime reports of
one node, bound to the plan by fingerprints, and its validation. The builder
is left out: the schedulers take any observation and validate it themselves.
-/
import ThreeAgent.ExecutionPlan

namespace ThreeAgent

open PyText Outcome PyJson

/-- `ExecutionObservationError(code)`. -/
def observationError (code : String) : Raised := ⟨.executionObservationError, code⟩

/-- `EXECUTION_OBSERVATION_SCHEMA`. -/
def executionObservationSchema : String := "workspace-execution-observation/v1"

/-- `EXECUTION_EVIDENCE_BINDING_SCHEMA`. -/
def executionEvidenceBindingSchema : String := "workspace-execution-evidence-binding/v1"

/-- `OBSERVATION_STATUSES`. -/
def observationStatuses : List String := ["SUCCEEDED", "FAILED", "PARTIAL", "CANCELLED"]

/-- `MAX_NORMALIZED_OUTPUT_BYTES`. -/
def maxNormalizedOutputBytes : Nat := 64 * 1024

/-- `MAX_EVIDENCE_BINDINGS`. -/
def maxEvidenceBindings : Nat := 32

/-- `_canonical_json`. -/
def observationText {F : Type} [PyFloat F] (payload : Json F) : Except Raised String :=
  canonicalText (observationError "OBSERVATION_NOT_CANONICAL_JSON") payload

/-- `_digest`. -/
def observationDigest {F : Type} [PyFloat F] (payload : Json F) : Except Raised String :=
  digestOf (observationError "OBSERVATION_NOT_CANONICAL_JSON") payload

/-! ## Costs -/

structure ObservationCost (F : Type) where
  wallTimeS : Num F
  modelTokens : Int
  toolCalls : Int
  costUsd : Option (Num F)
  deriving DecidableEq

namespace ObservationCost

variable {F : Type} [PyFloat F]

def validate (c : ObservationCost F) : Except Raised Unit := do
  require (Num.lt c.wallTimeS (.int 0) = false) (observationError "INVALID_OBSERVATION_WALL_TIME")
  require (0 ≤ c.modelTokens) (observationError "INVALID_OBSERVATION_MODEL_TOKENS")
  require (0 ≤ c.toolCalls) (observationError "INVALID_OBSERVATION_TOOL_CALLS")
  require (∀ usd ∈ c.costUsd, Num.lt usd (.int 0) = false) (observationError "INVALID_OBSERVATION_COST_USD")

/-- `float(self.cost_usd)`, when there is a cost. -/
def costFloat (c : ObservationCost F) : Except Raised (Option F) :=
  match c.costUsd with
  | none => return none
  | some usd => do
    let x ← orRaise usd.toFloat intTooLarge
    return some x

/-- `canonical_dict`: the two measured amounts are written as floats. -/
def canonicalDict (c : ObservationCost F) : Except Raised (Json F) := do
  c.validate
  let wall ← orRaise c.wallTimeS.toFloat intTooLarge
  let cost ← c.costFloat
  return Json.dict
    [("wall_time_s", .float wall), ("model_tokens", .int c.modelTokens), ("tool_calls", .int c.toolCalls),
     ("cost_usd", Json.ofOption .float cost)]

/-- `type(value).__name__`. -/
def typeName : Num F → String
  | .int _ => "int"
  | .float _ => "float"

/-- The `TypeError` of a comparison with an absent bound. -/
def unbounded (value : Num F) : Raised :=
  ⟨.typeError, "'>' not supported between instances of '" ++ typeName value ++ "' and 'NoneType'"⟩

/-- A cost in dollars needs a bound. -/
def checkCostBound (usd : Num F) (bound : Option (Num F)) : Except Raised Unit :=
  require (∃ b ∈ bound, Num.lt b usd = false) (observationError "OBSERVATION_COST_EXCEEDS_NODE_BUDGET")

/-- The last check of `validate_against`. -/
def checkCost (c : ObservationCost F) (budget : TaskResourceBudget F) : Except Raised Unit :=
  match c.costUsd with
  | none => return ⟨⟩
  | some usd => checkCostBound usd budget.costUsd

/-- `validate_against`. -/
def validateAgainst (c : ObservationCost F) (budget : TaskResourceBudget F) : Except Raised Unit := do
  c.validate
  let wall ← orRaise budget.wallTimeS (unbounded c.wallTimeS)
  require (Num.lt (.int wall) c.wallTimeS = false) (observationError "OBSERVATION_WALL_TIME_EXCEEDS_NODE_BUDGET")
  let tokens ← orRaise budget.modelTokens (unbounded (.int c.modelTokens : Num F))
  require (c.modelTokens ≤ tokens) (observationError "OBSERVATION_MODEL_TOKENS_EXCEED_NODE_BUDGET")
  let calls ← orRaise budget.toolCalls (unbounded (.int c.toolCalls : Num F))
  require (c.toolCalls ≤ calls) (observationError "OBSERVATION_TOOL_CALLS_EXCEED_NODE_BUDGET")
  c.checkCost budget

end ObservationCost

/-! ## Evidence -/

structure EvidenceBinding where
  evidenceRef : String
  evidenceFingerprint : String
  requirement : Option String := none
  schemaVersion : String := executionEvidenceBindingSchema
  deriving DecidableEq, Repr

namespace EvidenceBinding

/-- `_single_line(self.requirement)`, when there is one. -/
def checkRequirement (requirement : Option String) : Except Raised Unit :=
  match requirement with
  | none => return ⟨⟩
  | some r => checkSingleLine .executionObservationError r "evidence_requirement" 256

def validate (b : EvidenceBinding) : Except Raised Unit := do
  require (b.schemaVersion = executionEvidenceBindingSchema)
    (observationError "EVIDENCE_BINDING_SCHEMA_VERSION_MISMATCH")
  checkReference .executionObservationError b.evidenceRef "evidence_ref"
  checkSha256 .executionObservationError b.evidenceFingerprint "evidence_fingerprint"
  checkRequirement b.requirement

/-- `canonical_dict`. -/
def canonicalDict {F : Type} (b : EvidenceBinding) : Except Raised (Json F) := do
  b.validate
  return Json.dict
    [("schema_version", .str b.schemaVersion), ("requirement", Json.ofOption .str b.requirement),
     ("evidence_ref", .str b.evidenceRef), ("evidence_fingerprint", .str b.evidenceFingerprint)]

/-- The row that makes a repeated binding redundant. -/
def row (b : EvidenceBinding) : Option String × String × String :=
  (b.requirement, b.evidenceRef, b.evidenceFingerprint)

/-- The order of the sort key `(requirement or "", evidence_ref, evidence_fingerprint)`. -/
def before (a b : EvidenceBinding) : Prop :=
  a.requirement.getD "" < b.requirement.getD "" ∨
    (a.requirement.getD "" = b.requirement.getD "" ∧
      (a.evidenceRef < b.evidenceRef ∨
        (a.evidenceRef = b.evidenceRef ∧ a.evidenceFingerprint ≤ b.evidenceFingerprint)))

instance : DecidableRel before := fun _ _ => inferInstanceAs (Decidable (_ ∨ _))

end EvidenceBinding

/-- The loop of `_normalize_evidence_bindings`. -/
def collectBindings (rows : List (Option String × String × String)) (requirements : List String) :
    List EvidenceBinding → Except Raised (List EvidenceBinding)
  | [] => return []
  | b :: bs => do
    b.validate
    if b.row ∈ rows then collectBindings rows requirements bs
    else
      match b.requirement with
      | none => do
        let rest ← collectBindings (b.row :: rows) requirements bs
        return b :: rest
      | some r => do
        require (r ∉ requirements) (observationError ("DUPLICATE_EVIDENCE_REQUIREMENT:" ++ r))
        let rest ← collectBindings (b.row :: rows) (r :: requirements) bs
        return b :: rest

/-- `_normalize_evidence_bindings`. -/
def normalizeEvidenceBindings (bindings : List EvidenceBinding) : Except Raised (List EvidenceBinding) := do
  require (bindings.length ≤ maxEvidenceBindings) (observationError "EVIDENCE_BINDING_BOUND_EXCEEDED")
  let normalized ← collectBindings [] [] bindings
  return normalized.insertionSort EvidenceBinding.before

/-- `_validate_evidence_requirements`. -/
def validateEvidenceRequirements (declared : List String) (status : String) (bindings : List EvidenceBinding) :
    Except Raised Unit := do
  let satisfied := dedup (bindings.filterMap EvidenceBinding.requirement)
  let unknown := sorted (satisfied.filter (· ∉ declared))
  require (unknown = [])
    (observationError ("OBSERVATION_UNDECLARED_EVIDENCE_REQUIREMENT:" ++ join ',' unknown))
  let missing := sorted ((dedup declared).filter (· ∉ satisfied))
  require (status = "SUCCEEDED" → missing = [])
    (observationError ("OBSERVATION_REQUIRED_EVIDENCE_MISSING:" ++ join ',' missing))

/-! ## Observations -/

structure ExecutionObservation (F : Type) where
  observationId : String
  taskId : String
  taskContextFingerprint : String
  planFingerprint : String
  nodeId : String
  nodeFingerprint : String
  authorityFingerprint : String
  status : String
  startedAt : String
  finishedAt : String
  normalizedOutputJson : Option String
  errorClass : Option String
  evidenceBindings : List EvidenceBinding
  cost : Option (ObservationCost F) := none
  schemaVersion : String := executionObservationSchema
  deriving DecidableEq

namespace ExecutionObservation

variable {F : Type} [PyRuntime F]

/-- `_timestamp`: the normalized text of an aware time. -/
def timestamp (F : Type) [PyRuntime F] (value field : String) : Except Raised String := do
  require (strip value ≠ "") (invalidField .executionObservationError field)
  let parsed ← orRaise (PyRuntime.fromIso F (replace (strip value) "Z" "+00:00"))
    (invalidField .executionObservationError field)
  let instant ← orRaise parsed.instant? (invalidField .executionObservationError field)
  require (Clock.minInstant ≤ instant ∧ instant ≤ Clock.maxInstant) ⟨.overflowError, "date value out of range"⟩
  return replace (Clock.iso instant) "+00:00" "Z"

/-- `datetime.fromisoformat(text.replace("Z", "+00:00"))` of a normalized text. -/
def instantOf (F : Type) [PyRuntime F] (text : String) : Except Raised Int := do
  let parsed ← orRaise (PyRuntime.fromIso F (replace text "Z" "+00:00"))
    ⟨.valueError, "Invalid isoformat string: " ++ text⟩
  orRaise parsed.instant? ⟨.typeError, "can't compare offset-naive and offset-aware datetimes"⟩

/-- `_normalized_output_json` of a loaded value: the text of an object, none for `null`. -/
def normalizedOutputText (value : Json F) : Except Raised (Option String) :=
  match value with
  | .null => return none
  | .obj kvs => do
    let canonical ← observationText (.obj kvs)
    require (canonical.utf8ByteSize ≤ maxNormalizedOutputBytes) (observationError "NORMALIZED_OUTPUT_BOUND_EXCEEDED")
    return some canonical
  | _ => throw (observationError "NORMALIZED_OUTPUT_MUST_BE_OBJECT")

/-- The output is the canonical text of an object. -/
def checkOutput (o : ExecutionObservation F) : Except Raised Unit :=
  match o.normalizedOutputJson with
  | none => return ⟨⟩
  | some text => do
    let value : Json F ← orRaise (loads text) (observationError "INVALID_NORMALIZED_OUTPUT_JSON")
    let canonical ← normalizedOutputText value
    require (canonical = some text) (observationError "NORMALIZED_OUTPUT_NOT_CANONICAL")

/-- `normalized_output`. -/
def normalizedOutput (o : ExecutionObservation F) : Except Raised (Json F) :=
  match o.normalizedOutputJson with
  | none => return .null
  | some text =>
    match (loads text : Option (Json F)) with
    | some (.obj kvs) => return .obj kvs
    | some _ => throw (observationError "NORMALIZED_OUTPUT_MUST_BE_OBJECT")
    | none => throw ⟨.valueError, "Expecting value"⟩

/-- `_reference(self.error_class)`, when there is one. -/
def checkErrorClass (errorClass : Option String) : Except Raised Unit :=
  match errorClass with
  | none => return ⟨⟩
  | some e => checkReference .executionObservationError e "error_class"

/-- `self.cost.validate()`, when there is a cost. -/
def checkCost (o : ExecutionObservation F) : Except Raised Unit :=
  match o.cost with
  | none => return ⟨⟩
  | some c => c.validate

/-- `self.cost.canonical_dict()`, when there is a cost. -/
def costDict (o : ExecutionObservation F) : Except Raised (Json F) :=
  match o.cost with
  | none => return .null
  | some c => c.canonicalDict

/-- The entries of `_identity_dict`. -/
def identityEntries (o : ExecutionObservation F) : Except Raised (List (String × Json F)) := do
  let output ← o.normalizedOutput
  let bindings ← o.evidenceBindings.mapM EvidenceBinding.canonicalDict
  let cost ← o.costDict
  return [("schema_version", .str o.schemaVersion), ("task_id", .str o.taskId),
    ("task_context_fingerprint", .str o.taskContextFingerprint), ("plan_fingerprint", .str o.planFingerprint),
    ("node_id", .str o.nodeId), ("node_fingerprint", .str o.nodeFingerprint),
    ("authority_fingerprint", .str o.authorityFingerprint), ("status", .str o.status),
    ("started_at", .str o.startedAt), ("finished_at", .str o.finishedAt), ("normalized_output", output),
    ("normalized_output_sha256", Json.ofOption (fun text => .str (hashText text)) o.normalizedOutputJson),
    ("error_class", Json.ofOption .str o.errorClass), ("evidence_bindings", .arr bindings), ("cost", cost)]

/-- The part of `validate` that reads the observation alone. -/
def checkFields (o : ExecutionObservation F) : Except Raised Unit := do
  require (o.schemaVersion = executionObservationSchema) (observationError "OBSERVATION_SCHEMA_VERSION_MISMATCH")
  checkReference .executionObservationError o.taskId "task_id"
  checkSha256 .executionObservationError o.taskContextFingerprint "task_context_fingerprint"
  checkSha256 .executionObservationError o.planFingerprint "plan_fingerprint"
  checkReference .executionObservationError o.nodeId "node_id"
  checkSha256 .executionObservationError o.nodeFingerprint "node_fingerprint"
  checkSha256 .executionObservationError o.authorityFingerprint "authority_fingerprint"
  require (o.status ∈ observationStatuses) (observationError "INVALID_OBSERVATION_STATUS")
  let started ← timestamp F o.startedAt "started_at"
  let finished ← timestamp F o.finishedAt "finished_at"
  require (o.startedAt = started ∧ o.finishedAt = finished)
    (observationError "OBSERVATION_TIMESTAMPS_NOT_NORMALIZED")
  let finishedInstant ← instantOf F finished
  let startedInstant ← instantOf F started
  require (startedInstant ≤ finishedInstant) (observationError "OBSERVATION_FINISHED_BEFORE_STARTED")
  o.checkOutput
  checkErrorClass o.errorClass
  require (o.status = "SUCCEEDED" → o.errorClass = none)
    (observationError "SUCCEEDED_OBSERVATION_CANNOT_HAVE_ERROR")
  require (o.status = "FAILED" → o.errorClass ≠ none) (observationError "FAILED_OBSERVATION_REQUIRES_ERROR_CLASS")
  let bindings ← normalizeEvidenceBindings o.evidenceBindings
  require (bindings = o.evidenceBindings) (observationError "EVIDENCE_BINDINGS_NOT_NORMALIZED")
  o.checkCost

/-- `self.cost.validate_against(node)`, when there is a cost. -/
def checkCostAgainst (o : ExecutionObservation F) (node : ExecutionNode F) : Except Raised Unit :=
  match o.cost with
  | none => return ⟨⟩
  | some c => c.validateAgainst node.resourceBudget

/-- The part of `validate` that binds the observation to its plan. -/
def checkPlan (o : ExecutionObservation F) (plan : ExecutionPlan F) (parent : TaskCapabilityAuthority) :
    Except Raised Unit := do
  rethrow (fun e => e.cls == .executionPlanError) (observationError "OBSERVATION_PLAN_REVALIDATION_FAILED")
    (plan.validate parent)
  let node ← orRaise (plan.nodes.find? (·.nodeId = o.nodeId))
    (observationError ("OBSERVATION_UNKNOWN_NODE:" ++ o.nodeId))
  require (o.taskId = plan.taskId) (observationError "OBSERVATION_TASK_MISMATCH")
  require (o.taskContextFingerprint = plan.taskContextFingerprint)
    (observationError "OBSERVATION_TASK_CONTEXT_MISMATCH")
  let planFingerprint ← plan.fingerprint
  require (o.planFingerprint = planFingerprint) (observationError "OBSERVATION_PLAN_FINGERPRINT_MISMATCH")
  let nodeFingerprint ← node.fingerprint
  require (o.nodeFingerprint = nodeFingerprint) (observationError "OBSERVATION_NODE_FINGERPRINT_MISMATCH")
  require (o.authorityFingerprint = node.authorityFingerprint)
    (observationError "OBSERVATION_AUTHORITY_FINGERPRINT_MISMATCH")
  let rebound ← rethrow (fun e => e.cls == .executionPlanError)
    (observationError "OBSERVATION_AUTHORITY_REVALIDATION_FAILED") (node.rebindAuthority parent)
  require (rebound.fingerprint = o.authorityFingerprint)
    (observationError "OBSERVATION_AUTHORITY_FINGERPRINT_MISMATCH")
  validateEvidenceRequirements node.evidenceRequirements o.status o.evidenceBindings
  o.checkCostAgainst node

/-- The observation's id is the digest of everything else. -/
def checkIdentity (o : ExecutionObservation F) : Except Raised Unit := do
  let entries ← o.identityEntries
  let digest ← observationDigest (Json.dict entries)
  require (o.observationId = "observation:" ++ digestPrefix digest 24)
    (observationError "OBSERVATION_IDENTITY_MISMATCH")

/-- `validate()`. -/
def validateSelf (o : ExecutionObservation F) : Except Raised Unit := do
  o.checkFields
  o.checkIdentity

/-- `validate(plan=plan, parent_authority=parent)`. -/
def validate (o : ExecutionObservation F) (plan : ExecutionPlan F) (parent : TaskCapabilityAuthority) :
    Except Raised Unit := do
  o.checkFields
  o.checkPlan plan parent
  o.checkIdentity

/-- `canonical_dict`. -/
def canonicalDict (o : ExecutionObservation F) : Except Raised (Json F) := do
  o.validateSelf
  let entries ← o.identityEntries
  return Json.dict (("observation_id", .str o.observationId) :: entries)

/-- `fingerprint`. -/
def fingerprint (o : ExecutionObservation F) : Except Raised String := do
  let payload ← o.canonicalDict
  observationDigest payload

end ExecutionObservation

end ThreeAgent
