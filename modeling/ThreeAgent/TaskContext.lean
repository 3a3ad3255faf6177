/-
The task context (`task_context.py`): the immutable binding of a task's
identity, its resource budget and the fingerprints of its contract, canonical
task and authority. Only what the plan and the schedulers read of it is here;
its builder and the derivation of enriched contexts are not.
-/
import ThreeAgent.Checks

namespace ThreeAgent

open PyText Outcome PyJson

/-- `TaskContextError(code)`. -/
def contextError (code : String) : Raised := ⟨.taskContextError, code⟩

/-- The `OverflowError` of `float(n)` for an integer beyond the floats. -/
def intTooLarge : Raised := ⟨.overflowError, "int too large to convert to float"⟩

/-- `TASK_CONTEXT_SCHEMA`. -/
def taskContextSchema : String := "workspace-task-context/v1"

structure TaskResourceBudget (F : Type) where
  wallTimeS : Option Int
  modelTokens : Option Int
  toolCalls : Option Int
  costUsd : Option (Num F) := none
  deriving DecidableEq

namespace TaskResourceBudget

variable {F : Type} [PyFloat F]

/-- One of the integer dimensions. -/
def checkDimension (field : String) (value : Option Int) : Except Raised Unit :=
  require (∀ n ∈ value, 0 ≤ n) (contextError ("INVALID_RESOURCE_BUDGET_" ++ upper field))

/-- `float(self.cost_usd)`, when there is a cost. -/
def costFloat (b : TaskResourceBudget F) : Except Raised (Option F) :=
  match b.costUsd with
  | none => return none
  | some c => do
    let x ← orRaise c.toFloat intTooLarge
    return some x

def validate (b : TaskResourceBudget F) : Except Raised Unit := do
  checkDimension "wall_time_s" b.wallTimeS
  checkDimension "model_tokens" b.modelTokens
  checkDimension "tool_calls" b.toolCalls
  let cost ← b.costFloat
  require (∀ x ∈ cost, PyFloat.isFinite x = true ∧ Num.lt (.float x) (.int 0) = false)
    (contextError "INVALID_RESOURCE_BUDGET_COST_USD")

/-- `canonical_dict`. -/
def canonicalDict (b : TaskResourceBudget F) : Except Raised (Json F) := do
  b.validate
  let cost ← b.costFloat
  return Json.dict
    [("wall_time_s", Json.ofOption .int b.wallTimeS), ("model_tokens", Json.ofOption .int b.modelTokens),
     ("tool_calls", Json.ofOption .int b.toolCalls), ("cost_usd", Json.ofOption .float cost)]

end TaskResourceBudget

structure TaskContext (F : Type) where
  taskId : String
  sessionId : String
  traceId : String
  actorId : String
  intent : String
  purpose : String
  projectId : Option String
  riskClass : String
  createdAt : String
  deadline : Option String
  resourceBudget : TaskResourceBudget F
  inventoryScope : List String
  taskContractFingerprint : String
  canonicalTaskFingerprint : String
  authorityFingerprint : String
  contextRefs : List String := []
  evidenceRefs : List String := []
  contextVersion : Int := 1
  parentContextFingerprint : Option String := none
  schemaVersion : String := taskContextSchema

/-- `_ID_RE.fullmatch`. -/
def idRe (s : String) : Bool :=
  match s.toList with
  | [] => false
  | c :: rest =>
    isAsciiAlnum c && (rest.all fun c => isAsciiAlnum c || c ∈ ['.', '_', ':', '-']) && decide (rest.length ≤ 127)

/-- `_compact_id`. -/
def checkCompactId (value field : String) : Except Raised Unit :=
  require (value = strip value ∧ idRe value = true) (invalidField .taskContextError field)

/-- A trailing `Z` written as an offset. -/
def zuluOffset (text : String) : String :=
  if endsWith text "Z" then String.ofList (text.toList.dropLast ++ "+00:00".toList) else text

/-- `_normalize_refs`, with its bound of 1024 entries. -/
def normalizeRefs (values : List String) (field : String) : Except Raised (List String) := do
  let _ ← values.mapM (checkSingleLine .taskContextError · field 2048)
  require ((dedup values).length ≤ 1024) (contextError (upper field ++ "_TOO_MANY"))
  return dedup values

namespace TaskContext

variable {F : Type} [PyRuntime F]

/-- `_as_datetime(_timestamp(value, field))`, as the instant it denotes. -/
def timestamp (F : Type) [PyRuntime F] (value field : String) : Except Raised Int := do
  checkSingleLine .taskContextError value field 64
  let parsed ← orRaise (PyRuntime.fromIso F (zuluOffset value)) (invalidField .taskContextError field)
  orRaise parsed.instant? (contextError (upper field ++ "_MUST_BE_TIMEZONE_AWARE"))

/-- The deadline lies after the creation. -/
def checkDeadline (F : Type) [PyRuntime F] (created : Int) (deadline : Option String) : Except Raised Unit :=
  match deadline with
  | none => return ⟨⟩
  | some text => do
    let at' ← timestamp F text "deadline"
    require (created < at') (contextError "TASK_CONTEXT_DEADLINE_NOT_AFTER_CREATED_AT")

/-- The root version has no parent, and every later one names its parent. -/
def checkParent (c : TaskContext F) : Except Raised Unit :=
  if c.contextVersion = 1 then
    require (c.parentContextFingerprint = none) (contextError "ROOT_CONTEXT_CANNOT_HAVE_PARENT")
  else require (∃ f ∈ c.parentContextFingerprint, sha256Re f = true)
    (invalidField .taskContextError "parent_context_fingerprint")

/-- `_compact_id(self.project_id)`, when there is one. -/
def checkProject (project : Option String) : Except Raised Unit :=
  match project with
  | none => return ⟨⟩
  | some p => checkCompactId p "project_id"

def validate (c : TaskContext F) : Except Raised Unit := do
  checkCompactId c.taskId "task_id"
  checkCompactId c.sessionId "session_id"
  checkCompactId c.traceId "trace_id"
  checkCompactId c.actorId "actor_id"
  require (strip c.intent ≠ "") (contextError "TASK_CONTEXT_INTENT_REQUIRED")
  require (c.intent.toList.length ≤ 32768) (contextError "TASK_CONTEXT_INTENT_TOO_LARGE")
  checkSingleLine .taskContextError c.purpose "purpose" 512
  checkProject c.projectId
  require (c.riskClass ∈ ["R0", "R1", "R2", "R3", "R4"]) (contextError "INVALID_RISK_CLASS")
  let created ← timestamp F c.createdAt "created_at"
  checkDeadline F created c.deadline
  c.resourceBudget.validate
  let scope ← normalizeRefs c.inventoryScope "inventory_scope"
  require (scope = c.inventoryScope) (contextError "INVENTORY_SCOPE_MUST_BE_UNIQUE_AND_NORMALIZED")
  checkSha256 .taskContextError c.taskContractFingerprint "task_contract_fingerprint"
  checkSha256 .taskContextError c.canonicalTaskFingerprint "canonical_task_fingerprint"
  checkSha256 .taskContextError c.authorityFingerprint "authority_fingerprint"
  let contextRefs ← normalizeRefs c.contextRefs "context_ref"
  require (contextRefs = c.contextRefs) (contextError "CONTEXT_REFS_MUST_BE_UNIQUE_AND_NORMALIZED")
  let evidenceRefs ← normalizeRefs c.evidenceRefs "evidence_ref"
  require (evidenceRefs = c.evidenceRefs) (contextError "EVIDENCE_REFS_MUST_BE_UNIQUE_AND_NORMALIZED")
  require (1 ≤ c.contextVersion) (contextError "INVALID_CONTEXT_VERSION")
  c.checkParent
  require (c.schemaVersion = taskContextSchema) (contextError "TASK_CONTEXT_SCHEMA_VERSION_MISMATCH")

/-- The entries of `_identity_dict`. -/
def identityEntries (c : TaskContext F) : Except Raised (List (String × Json F)) := do
  let budget ← c.resourceBudget.canonicalDict
  return [("task_id", .str c.taskId), ("session_id", .str c.sessionId), ("trace_id", .str c.traceId),
    ("actor_id", .str c.actorId), ("intent_sha256", .str (hashText c.intent)), ("purpose", .str c.purpose),
    ("project_id", Json.ofOption .str c.projectId), ("risk_class", .str c.riskClass),
    ("created_at", .str c.createdAt), ("deadline", Json.ofOption .str c.deadline),
    ("resource_budget", budget), ("inventory_scope", Json.strs c.inventoryScope),
    ("task_contract_fingerprint", .str c.taskContractFingerprint),
    ("canonical_task_fingerprint", .str c.canonicalTaskFingerprint),
    ("authority_fingerprint", .str c.authorityFingerprint)]

/-- `_digest`. -/
def digest (payload : Json F) : Except Raised String :=
  digestOf (contextError "TASK_CONTEXT_NOT_CANONICAL_JSON") payload

/-- `identity_fingerprint`. -/
def identityFingerprint (c : TaskContext F) : Except Raised String := do
  c.validate
  let entries ← c.identityEntries
  digest (Json.dict entries)

/-- `canonical_dict`. -/
def canonicalDict (c : TaskContext F) : Except Raised (Json F) := do
  c.validate
  let entries ← c.identityEntries
  return Json.dict
    (("schema_version", .str c.schemaVersion) :: entries ++
     [("context_refs", Json.strs c.contextRefs), ("evidence_refs", Json.strs c.evidenceRefs),
      ("context_version", .int c.contextVersion),
      ("parent_context_fingerprint", Json.ofOption .str c.parentContextFingerprint)])

/-- `fingerprint`. -/
def fingerprint (c : TaskContext F) : Except Raised String := do
  let payload ← c.canonicalDict
  digest payload

end TaskContext

end ThreeAgent
