/-
Execution plans (`execution_plan.py`): the nodes of a validated workflow with
the authority, budget and evidence each is bound to, the validation of a plan
against its workflow and its parent authority, and its fingerprint. A plan
never authorizes execution: `execution_authorized` and `execution_mode` are
constants of the source and have no field here.
-/
import ThreeAgent.Capability
import ThreeAgent.TaskContext
import ThreeAgent.WorkflowDesign

namespace ThreeAgent

open PyText Outcome PyJson

/-- `ExecutionPlanError(code)`. -/
def planError (code : String) : Raised := ⟨.executionPlanError, code⟩

/-- `EXECUTION_NODE_SCHEMA`. -/
def executionNodeSchema : String := "workspace-execution-node/v1"

/-- `EXECUTION_PLAN_SCHEMA`. -/
def executionPlanSchema : String := "workspace-execution-plan/v1"

/-- `MAX_EVIDENCE_REQUIREMENTS`. -/
def maxEvidenceRequirements : Nat := 16

/-- `_RISK_RANK`. -/
def riskRank : List (String × Nat) := [("R0", 0), ("R1", 1), ("R2", 2), ("R3", 3), ("R4", 4)]

/-- `_WORKFLOW_RISK_CLASS`, ranked. -/
def RiskLevel.rank : RiskLevel → Nat
  | .low => 1
  | .medium => 2
  | .high => 3
  | .critical => 4

/-- `_normalize_requirements`. -/
def normalizeRequirements (values : List String) : Except Raised (List String) := do
  let _ ← values.mapM (checkSingleLine .executionPlanError · "evidence_requirement" 256)
  let normalized := sorted (dedup values)
  require (normalized.length ≤ maxEvidenceRequirements) (planError "TOO_MANY_EVIDENCE_REQUIREMENTS")
  return normalized

structure ExecutionNode (F : Type) where
  nodeId : String
  label : String
  kind : String
  action : String
  dependsOn : List String
  condition : Option String
  approvalRequired : Bool
  executionLevel : Int
  authorityTaskId : String
  authorityFingerprint : String
  allowedSources : List String
  allowedTools : List String
  writeScope : WriteScope
  networkScope : String
  resourceBudget : TaskResourceBudget F
  evidenceRequirements : List String
  workflowNodeFingerprint : String
  schemaVersion : String := executionNodeSchema

/-- `_digest`. -/
def planDigest {F : Type} [PyFloat F] (payload : Json F) : Except Raised String :=
  digestOf (planError "EXECUTION_PLAN_NOT_CANONICAL_JSON") payload

/-- A write scope as JSON. -/
def WriteScope.json {F : Type} : WriteScope → Json F
  | .text s => .str s
  | .paths ps => Json.strs ps

namespace ExecutionNode

variable {F : Type} [PyRuntime F]

/-- `canonical_dict`. -/
def canonicalDict (n : ExecutionNode F) : Except Raised (Json F) := do
  checkSha256 .executionPlanError n.authorityFingerprint "authority_fingerprint"
  checkSha256 .executionPlanError n.workflowNodeFingerprint "workflow_node_fingerprint"
  n.resourceBudget.validate
  require (n.schemaVersion = executionNodeSchema) (planError "EXECUTION_NODE_SCHEMA_VERSION_MISMATCH")
  require (0 ≤ n.executionLevel) (planError "INVALID_EXECUTION_LEVEL")
  let requirements ← normalizeRequirements n.evidenceRequirements
  require (requirements = n.evidenceRequirements) (planError "EVIDENCE_REQUIREMENTS_NOT_NORMALIZED")
  let budget ← n.resourceBudget.canonicalDict
  return Json.dict
    [("schema_version", .str n.schemaVersion), ("node_id", .str n.nodeId), ("label", .str n.label),
     ("kind", .str n.kind), ("action", .str n.action), ("depends_on", Json.strs n.dependsOn),
     ("condition", Json.ofOption .str n.condition), ("approval_required", .bool n.approvalRequired),
     ("execution_level", .int n.executionLevel), ("authority_task_id", .str n.authorityTaskId),
     ("authority_fingerprint", .str n.authorityFingerprint),
     ("authority_projection", Json.dict
       [("allowed_sources", Json.strs n.allowedSources), ("allowed_tools", Json.strs n.allowedTools),
        ("write_scope", n.writeScope.json), ("network_scope", .str n.networkScope)]),
     ("resource_budget", budget), ("evidence_requirements", Json.strs n.evidenceRequirements),
     ("workflow_node_fingerprint", .str n.workflowNodeFingerprint), ("execution_authorized", .bool false)]

/-- `fingerprint`. -/
def fingerprint (n : ExecutionNode F) : Except Raised String := do
  let payload ← n.canonicalDict
  planDigest payload

/-- The request of `rebind_authority`. -/
def childRequest (n : ExecutionNode F) : TaskCapabilityAuthority.ChildRequest where
  taskId := n.authorityTaskId
  allowedSources := some n.allowedSources
  allowedTools := some n.allowedTools
  writeScope := some n.writeScope
  networkScope := some n.networkScope

/-- `rebind_authority`. -/
def rebindAuthority (n : ExecutionNode F) (parent : TaskCapabilityAuthority) :
    Except Raised TaskCapabilityAuthority := do
  let rebound ← rethrow (fun e => e.cls.isValueError || e.cls == .capabilityAuthorityDenied)
    (planError ("EXECUTION_NODE_AUTHORITY_REBIND_FAILED:" ++ n.nodeId)) (parent.deriveChild n.childRequest)
  require (rebound.fingerprint = n.authorityFingerprint)
    (planError ("EXECUTION_NODE_AUTHORITY_FINGERPRINT_MISMATCH:" ++ n.nodeId))
  return rebound

end ExecutionNode

/-! ## Budgets -/

section Budget

variable {F : Type} [PyFloat F]

/-- One dimension of `_require_aggregate_budget`: the nodes bind it exactly when the task does, and
their sum stays within the task's. -/
def checkAggregateDimension (field : String) (parent : Option (Num F)) (children : List (Option (Num F))) :
    Except Raised Unit :=
  match parent with
  | none => require (children.all Option.isNone = true)
      (planError ("EXECUTION_PLAN_BUDGET_DIMENSION_NOT_BOUND_" ++ upper field))
  | some limit => do
    require (children.all Option.isSome = true) (planError ("EXECUTION_PLAN_BUDGET_DIMENSION_MISSING_" ++ upper field))
    let total ← orRaise (Num.sum (children.filterMap id)) intTooLarge
    require (Num.lt limit total = false) (planError ("EXECUTION_PLAN_BUDGET_EXCEEDS_TASK_" ++ upper field))

/-- `_require_aggregate_budget`. -/
def requireAggregateBudget (budgets : List (TaskResourceBudget F)) (parent : TaskResourceBudget F) :
    Except Raised Unit := do
  checkAggregateDimension (F := F) "wall_time_s" (parent.wallTimeS.map Num.int)
    (budgets.map (·.wallTimeS.map Num.int))
  checkAggregateDimension (F := F) "model_tokens" (parent.modelTokens.map Num.int)
    (budgets.map (·.modelTokens.map Num.int))
  checkAggregateDimension (F := F) "tool_calls" (parent.toolCalls.map Num.int)
    (budgets.map (·.toolCalls.map Num.int))
  checkAggregateDimension (F := F) "cost_usd" parent.costUsd (budgets.map (·.costUsd))

end Budget

/-! ## The plan -/

structure ExecutionPlan (F : Type) where
  taskId : String
  taskContextFingerprint : String
  taskContextIdentityFingerprint : String
  taskRiskClass : String
  parentAuthorityFingerprint : String
  taskResourceBudget : TaskResourceBudget F
  workflowContractJson : String
  workflowContractFingerprint : String
  nodes : List (ExecutionNode F)
  schemaVersion : String := executionPlanSchema

namespace ExecutionPlan

variable {F : Type} [PyRuntime F]

/-- `_validated_workflow`. -/
def validatedWorkflow (p : ExecutionPlan F) : Except Raised WorkflowContract := do
  let raw : Json F ← orRaise (loads p.workflowContractJson) (planError "INVALID_WORKFLOW_CONTRACT_JSON")
  let normalized ← rethrow (fun e => e.cls == .workflowDesignError) (planError "INVALID_WORKFLOW_CONTRACT")
    (validateContract raw)
  let canonical ← canonicalText (planError "EXECUTION_PLAN_NOT_CANONICAL_JSON") (normalized.toJson : Json F)
  require (canonical = p.workflowContractJson) (planError "WORKFLOW_CONTRACT_NOT_CANONICAL")
  require (hashText canonical = p.workflowContractFingerprint) (planError "WORKFLOW_CONTRACT_FINGERPRINT_MISMATCH")
  return normalized

/-- One node of the plan against the node of the workflow it stands for. -/
def validateNode (workflow : WorkflowContract) (levels : PyDict.Dict Nat) (n : ExecutionNode F) :
    Except Raised Unit := do
  let source ← orRaise (workflow.nodes.find? (·.id = n.nodeId)) (planError "EXECUTION_NODE_NOT_IN_WORKFLOW")
  let sourceFingerprint ← planDigest (source.toJson : Json F)
  require (n.workflowNodeFingerprint = sourceFingerprint)
    (planError ("EXECUTION_NODE_WORKFLOW_FINGERPRINT_MISMATCH:" ++ n.nodeId))
  require (n.label = source.label ∧ n.kind = source.kind.text ∧ n.action = source.action.text ∧
      n.dependsOn = source.dependsOn ∧ n.condition = source.condition ∧
      (PyDict.get? levels n.nodeId).map Int.ofNat = some n.executionLevel)
    (planError ("EXECUTION_NODE_WORKFLOW_PROJECTION_MISMATCH:" ++ n.nodeId))
  require (source.approvalRequired = true → n.approvalRequired = true)
    (planError ("EXECUTION_NODE_APPROVAL_WEAKENED:" ++ n.nodeId))
  require (source.kind = .approval → n.approvalRequired = true)
    (planError ("EXECUTION_NODE_APPROVAL_WEAKENED:" ++ n.nodeId))
  let _ ← n.canonicalDict
  return ⟨⟩

/-- The loop over the nodes, the ids before them given. -/
def validateNodes (workflow : WorkflowContract) (levels : PyDict.Dict Nat) :
    List String → List (ExecutionNode F) → Except Raised Unit
  | _, [] => return ⟨⟩
  | seen, n :: ns => do
    require (n.nodeId ∉ seen) (planError "DUPLICATE_EXECUTION_NODE_ID")
    validateNode workflow levels n
    validateNodes workflow levels (seen ++ [n.nodeId]) ns

/-- The checks against the parent authority. -/
def validateAuthority (p : ExecutionPlan F) (parent : TaskCapabilityAuthority) : Except Raised Unit := do
  require (parent.taskId = p.taskId) (planError "EXECUTION_PLAN_PARENT_TASK_MISMATCH")
  require (parent.fingerprint = p.parentAuthorityFingerprint) (planError "EXECUTION_PLAN_PARENT_AUTHORITY_MISMATCH")
  let _ ← p.nodes.mapM (·.rebindAuthority parent)
  return ⟨⟩

/-- `validate()`, with no parent authority. -/
def validateSelf (p : ExecutionPlan F) : Except Raised Unit := do
  require (p.schemaVersion = executionPlanSchema) (planError "EXECUTION_PLAN_SCHEMA_VERSION_MISMATCH")
  checkSha256 .executionPlanError p.taskContextFingerprint "task_context_fingerprint"
  checkSha256 .executionPlanError p.taskContextIdentityFingerprint "task_context_identity_fingerprint"
  checkSha256 .executionPlanError p.parentAuthorityFingerprint "parent_authority_fingerprint"
  checkSha256 .executionPlanError p.workflowContractFingerprint "workflow_contract_fingerprint"
  let rank ← orRaise (riskRank.lookup p.taskRiskClass) (planError "INVALID_TASK_RISK_CLASS")
  p.taskResourceBudget.validate
  require (2 ≤ p.nodes.length ∧ p.nodes.length ≤ maxNodes) (planError "INVALID_EXECUTION_PLAN_NODE_COUNT")
  let workflow ← p.validatedWorkflow
  require (rank ≤ workflow.riskLevel.rank) (planError "EXECUTION_PLAN_RISK_UNDERCLASSIFIED")
  let (order, levels) ← graph workflow.nodes
  require (order = p.nodes.map ExecutionNode.nodeId) (planError "EXECUTION_PLAN_TOPOLOGY_MISMATCH")
  validateNodes workflow levels [] p.nodes
  requireAggregateBudget (p.nodes.map ExecutionNode.resourceBudget) p.taskResourceBudget

/-- `validate(parent_authority=parent)`. -/
def validate (p : ExecutionPlan F) (parent : TaskCapabilityAuthority) : Except Raised Unit := do
  p.validateSelf
  p.validateAuthority parent

/-- `canonical_dict`. -/
def canonicalDict (p : ExecutionPlan F) : Except Raised (Json F) := do
  p.validateSelf
  let workflow ← orRaise (loads p.workflowContractJson) (planError "INVALID_WORKFLOW_CONTRACT_JSON")
  let budget ← p.taskResourceBudget.canonicalDict
  let nodes ← p.nodes.mapM ExecutionNode.canonicalDict
  return Json.dict
    [("schema_version", .str p.schemaVersion), ("task_id", .str p.taskId),
     ("task_context_fingerprint", .str p.taskContextFingerprint),
     ("task_context_identity_fingerprint", .str p.taskContextIdentityFingerprint),
     ("task_risk_class", .str p.taskRiskClass),
     ("parent_authority_fingerprint", .str p.parentAuthorityFingerprint),
     ("task_resource_budget", budget), ("workflow_contract", workflow),
     ("workflow_contract_fingerprint", .str p.workflowContractFingerprint), ("nodes", .arr nodes),
     ("execution_authorized", .bool false), ("execution_mode", .str "plan_only")]

/-- `fingerprint`. -/
def fingerprint (p : ExecutionPlan F) : Except Raised String := do
  let payload ← p.canonicalDict
  planDigest payload

/-- `_node_map(plan).get(node_id)`: a later node of the same id would win. -/
def node? (p : ExecutionPlan F) (nodeId : String) : Option (ExecutionNode F) :=
  p.nodes.reverse.find? (·.nodeId = nodeId)

end ExecutionPlan

theorem sha256Re_build (taskId sensitivity : String) (sources tools : List String) (write : WriteScope)
    (network : String) :
    sha256Re (TaskCapabilityAuthority.build taskId sensitivity sources tools write network).fingerprint = true := by
  rw [TaskCapabilityAuthority.build, fingerprintPayload]
  exact sha256Re_hashText _

end ThreeAgent
