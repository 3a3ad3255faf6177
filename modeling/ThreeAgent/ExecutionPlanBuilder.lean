/-
The builder of execution plans (`execution_plan.py`): the bindings that narrow a
node, and the promotion of a workflow contract into a plan. What it builds is
validated like any other plan before it is returned.
-/
import ThreeAgent.ExecutionPlan

namespace ThreeAgent

open PyText Outcome PyJson

/-- `_zero_budget`. -/
def zeroBudget {F : Type} : TaskResourceBudget F := ⟨some 0, some 0, some 0, none⟩

/-- `_normalize_scope`. -/
def normalizeScope : WriteScope → WriteScope
  | .text s => .text s
  | .paths ps => .paths (sorted (dedup ps))

section Budget

variable {F : Type} [PyFloat F]

/-- `_budget_dimension_is_subset`; the amounts compared are finite. -/
def budgetDimensionIsSubset (child parent : Option (Num F)) : Bool :=
  match parent with
  | none => child.isNone
  | some limit => child.any fun amount => !Num.lt limit amount

/-- One dimension of `_require_budget_subset`. -/
def requireDimensionSubset (field : String) (child parent : Option (Num F)) : Except Raised Unit :=
  require (budgetDimensionIsSubset child parent = true)
    (planError ("EXECUTION_NODE_BUDGET_EXCEEDS_TASK_" ++ upper field))

/-- `_require_budget_subset`. -/
def requireBudgetSubset (child parent : TaskResourceBudget F) : Except Raised Unit := do
  child.validate
  parent.validate
  requireDimensionSubset (F := F) "wall_time_s" (child.wallTimeS.map Num.int) (parent.wallTimeS.map Num.int)
  requireDimensionSubset (F := F) "model_tokens" (child.modelTokens.map Num.int) (parent.modelTokens.map Num.int)
  requireDimensionSubset (F := F) "tool_calls" (child.toolCalls.map Num.int) (parent.toolCalls.map Num.int)
  requireDimensionSubset "cost_usd" child.costUsd parent.costUsd

end Budget

/-- `_child_task_id`. -/
def childTaskId (taskId nodeId : String) : String :=
  let candidate := taskId ++ ":" ++ nodeId
  if candidate.toList.length ≤ 128 then candidate
  else "node:" ++ digestPrefix (hashText candidate) 32 ++ ":" ++ nodeId

structure ExecutionNodeBinding (F : Type) where
  allowedSources : List String := []
  allowedTools : List String := []
  writeScope : WriteScope := .none
  networkScope : String := "deny"
  resourceBudget : TaskResourceBudget F := zeroBudget
  evidenceRequirements : List String := []
  approvalRequired : Bool := false

namespace ExecutionNodeBinding

variable {F : Type} [PyFloat F]

/-- `normalized`. -/
def normalized (b : ExecutionNodeBinding F) : Except Raised (ExecutionNodeBinding F) := do
  b.resourceBudget.validate
  checkSingleLine .executionPlanError b.networkScope "network_scope" 64
  let evidenceRequirements ← normalizeRequirements b.evidenceRequirements
  return { b with
    allowedSources := sorted (dedup b.allowedSources)
    allowedTools := sorted (dedup b.allowedTools)
    writeScope := normalizeScope b.writeScope
    evidenceRequirements }

/-- The request of `derive_child` for a node. -/
def childRequest (b : ExecutionNodeBinding F) (taskId : String) : TaskCapabilityAuthority.ChildRequest where
  taskId := taskId
  allowedSources := some b.allowedSources
  allowedTools := some b.allowedTools
  writeScope := some b.writeScope
  networkScope := some b.networkScope

end ExecutionNodeBinding

/-- What `approval_required` is of a node by its workflow source alone. -/
def approvalFloor (source : WorkflowNode) : Bool :=
  source.approvalRequired || source.kind = .approval || source.action = .humanApproval

namespace ExecutionPlanBuilder

variable {F : Type} [PyRuntime F]

/-- One node of the plan, its level and its binding given. -/
def buildNode (taskContext : TaskContext F) (parent : TaskCapabilityAuthority) (source : WorkflowNode) (level : Nat)
    (rawBinding : ExecutionNodeBinding F) : Except Raised (ExecutionNode F) := do
  let binding ← rawBinding.normalized
  requireBudgetSubset binding.resourceBudget taskContext.resourceBudget
  let childAuthority ← rethrow (fun e => e.cls.isValueError || e.cls == .capabilityAuthorityDenied)
    (planError ("EXECUTION_NODE_AUTHORITY_ESCALATION:" ++ source.id))
    (parent.deriveChild (binding.childRequest (childTaskId taskContext.taskId source.id)))
  let workflowNodeFingerprint ← planDigest (source.toJson : Json F)
  return {
    nodeId := source.id
    label := source.label
    kind := source.kind.text
    action := source.action.text
    dependsOn := source.dependsOn
    condition := source.condition
    approvalRequired := approvalFloor source || binding.approvalRequired
    executionLevel := level
    authorityTaskId := childAuthority.taskId
    authorityFingerprint := childAuthority.fingerprint
    allowedSources := childAuthority.allowedSources
    allowedTools := childAuthority.allowedTools
    writeScope := childAuthority.writeScope
    networkScope := childAuthority.networkScope
    resourceBudget := binding.resourceBudget
    evidenceRequirements := binding.evidenceRequirements
    workflowNodeFingerprint }

/-- The node of an id of the order. -/
def nodeOf (taskContext : TaskContext F) (parent : TaskCapabilityAuthority) (workflow : WorkflowContract)
    (levels : PyDict.Dict Nat) (bindings : PyDict.Dict (ExecutionNodeBinding F)) (nodeId : String) :
    Except Raised (ExecutionNode F) := do
  let source ← orRaise (workflow.nodes.find? (·.id = nodeId)) ⟨.keyError, nodeId⟩
  let level ← orRaise (PyDict.get? levels nodeId) ⟨.keyError, nodeId⟩
  buildNode taskContext parent source level ((PyDict.get? bindings nodeId).getD {})

/-- The checks on the arguments, and the workflow that they admit. -/
def admitted (taskContext : TaskContext F) (parent : TaskCapabilityAuthority) (workflowContract : Json F)
    (bindings : PyDict.Dict (ExecutionNodeBinding F)) : Except Raised WorkflowContract := do
  taskContext.validate
  require (parent.taskId = taskContext.taskId) (planError "EXECUTION_PLAN_PARENT_TASK_MISMATCH")
  require (parent.fingerprint = taskContext.authorityFingerprint)
    (planError "EXECUTION_PLAN_PARENT_AUTHORITY_MISMATCH")
  require (workflowContract.isDict = true) (planError "INVALID_WORKFLOW_CONTRACT")
  let workflow ← rethrow (fun e => e.cls == .workflowDesignError) (planError "INVALID_WORKFLOW_CONTRACT")
    (validateContract workflowContract)
  require (∀ rank ∈ riskRank.lookup taskContext.riskClass, rank ≤ workflow.riskLevel.rank)
    (planError "EXECUTION_PLAN_RISK_UNDERCLASSIFIED")
  let unknown := sorted ((dedup (PyDict.keys bindings)).filter (· ∉ workflow.nodes.map WorkflowNode.id))
  require (unknown = []) (planError ("EXECUTION_PLAN_UNKNOWN_NODE_BINDING:" ++ join ',' unknown))
  return workflow

/-- `ExecutionPlanBuilder.build`. -/
def build (taskContext : TaskContext F) (parent : TaskCapabilityAuthority) (workflowContract : Json F)
    (bindings : PyDict.Dict (ExecutionNodeBinding F)) : Except Raised (ExecutionPlan F) := do
  let workflow ← admitted taskContext parent workflowContract bindings
  let (order, levels) ← graph workflow.nodes
  let nodes ← order.mapM (nodeOf taskContext parent workflow levels bindings)
  let taskContextFingerprint ← taskContext.fingerprint
  let taskContextIdentityFingerprint ← taskContext.identityFingerprint
  let workflowContractJson ← canonicalText (planError "EXECUTION_PLAN_NOT_CANONICAL_JSON") (workflow.toJson : Json F)
  let plan : ExecutionPlan F :=
    { taskId := taskContext.taskId
      taskContextFingerprint
      taskContextIdentityFingerprint
      taskRiskClass := taskContext.riskClass
      parentAuthorityFingerprint := parent.fingerprint
      taskResourceBudget := taskContext.resourceBudget
      workflowContractJson
      workflowContractFingerprint := hashText workflowContractJson
      nodes }
  plan.validate parent
  return plan

end ExecutionPlanBuilder

end ThreeAgent
