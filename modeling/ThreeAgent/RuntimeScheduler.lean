/-
The pure scheduler (`runtime_scheduler.py`): which nodes of a plan are ready,
waiting, blocked or done, given the observations so far and the approvals.
-/
import ThreeAgent.ExecutionObservation

namespace ThreeAgent

open PyText Outcome PyJson

/-- `RuntimeSchedulerError(code)`. -/
def runtimeSchedulerError (code : String) : Raised := ⟨.runtimeSchedulerError, code⟩

/-- `_NODE_STATES`. -/
inductive NodeState where
  | ready
  | waiting
  | blocked
  | succeeded
  | failed
  | cancelled
  deriving DecidableEq, Repr

/-- `_DECISION_STATUSES`. -/
inductive DecisionStatus where
  | ready
  | waiting
  | blocked
  | complete
  deriving DecidableEq, Repr

namespace NodeState

/-- The state of a node whose terminal observation has the given status. -/
def ofStatus : String → NodeState
  | "SUCCEEDED" => .succeeded
  | "FAILED" => .failed
  | _ => .cancelled

end NodeState

/-- `_TERMINAL_OBSERVATION_STATUSES`. -/
def terminalStatuses : List String := ["SUCCEEDED", "FAILED", "CANCELLED"]

structure NodeSchedulingRecord where
  nodeId : String
  nodeFingerprint : String
  authorityFingerprint : String
  state : NodeState
  reasonCode : String
  approvalRequired : Bool
  deriving DecidableEq, Repr

structure SchedulingDecision where
  taskId : String
  taskContextFingerprint : String
  planFingerprint : String
  status : DecisionStatus
  records : List NodeSchedulingRecord
  approvedNodeIds : List String
  deriving DecidableEq, Repr

/-- `_normalized_ids`. -/
def normalizedIds (values : List String) (field : String) : Except Raised (List String) := do
  let normalized := sorted (dedup values)
  require ("" ∉ normalized) (invalidField .runtimeSchedulerError field)
  return normalized

/-- The checks of `NodeSchedulingRecord.canonical_dict`. -/
def NodeSchedulingRecord.check (r : NodeSchedulingRecord) : Except Raised Unit := do
  require (r.nodeId ≠ "") (runtimeSchedulerError "INVALID_NODE_ID")
  checkSha256 .runtimeSchedulerError r.nodeFingerprint "node_fingerprint"
  checkSha256 .runtimeSchedulerError r.authorityFingerprint "node_authority_fingerprint"
  require (r.reasonCode ≠ "") (runtimeSchedulerError "INVALID_SCHEDULING_REASON_CODE")

/-- The checks of `SchedulingDecision.canonical_dict`. -/
def SchedulingDecision.check (d : SchedulingDecision) : Except Raised Unit := do
  let normalized ← normalizedIds d.approvedNodeIds "approved_node_ids"
  require (d.approvedNodeIds = normalized) (runtimeSchedulerError "APPROVED_NODE_IDS_NOT_NORMALIZED")
  checkSha256 .runtimeSchedulerError d.taskContextFingerprint "task_context_fingerprint"
  checkSha256 .runtimeSchedulerError d.planFingerprint "plan_fingerprint"
  let _ ← d.records.mapM NodeSchedulingRecord.check
  return ⟨⟩

namespace RuntimeScheduler

variable {F : Type} [PyRuntime F]

/-- What the loop over the observations collects. -/
structure Collected (F : Type) where
  unique : PyDict.Dict (ExecutionObservation F)
  terminal : PyDict.Dict (ExecutionObservation F)
  partialNodes : List String

/-- A new observation's place among the terminal and the partial ones. -/
def Collected.place (c : Collected F) (o : ExecutionObservation F) : Except Raised (Collected F) :=
  if o.status = "PARTIAL" then return { c with partialNodes := o.nodeId :: c.partialNodes }
  else if o.status ∈ terminalStatuses then do
    require (∀ previous ∈ PyDict.get? c.terminal o.nodeId, previous.observationId = o.observationId)
      (runtimeSchedulerError ("SCHEDULER_MULTIPLE_TERMINAL_OBSERVATIONS:" ++ o.nodeId))
    return { c with terminal := PyDict.set c.terminal o.nodeId o }
  else return c

/-- One observation: validated, approved, and collected unless it is a repetition. -/
def Collected.admission (plan : ExecutionPlan F) (parent : TaskCapabilityAuthority) (approvals : List String)
    (c : Collected F) (o : ExecutionObservation F) : Except Raised (Collected F) := do
  rethrow (fun e => e.cls == .executionObservationError)
    (runtimeSchedulerError "SCHEDULER_OBSERVATION_REVALIDATION_FAILED") (o.validate plan parent)
  let node ← orRaise (plan.node? o.nodeId) ⟨.keyError, o.nodeId⟩
  require (node.approvalRequired = true → o.nodeId ∈ approvals)
    (runtimeSchedulerError ("SCHEDULER_APPROVAL_REQUIRED_FOR_OBSERVATION:" ++ o.nodeId))
  match PyDict.get? c.unique o.observationId with
  | some existing => do
    let old ← existing.fingerprint
    let new ← o.fingerprint
    require (old = new) (runtimeSchedulerError "SCHEDULER_OBSERVATION_ID_COLLISION")
    return c
  | none => Collected.place { c with unique := PyDict.set c.unique o.observationId o } o

/-- The state of a node and the reason for it, the states of the nodes before it given. -/
def nodeState (c : Collected F) (approvals : List String) (states : PyDict.Dict NodeState) (n : ExecutionNode F) :
    NodeState × String :=
  match PyDict.get? c.terminal n.nodeId with
  | some o => (.ofStatus o.status, "OBSERVATION_" ++ o.status)
  | none =>
    if n.nodeId ∈ c.partialNodes then (.waiting, "PARTIAL_OBSERVATION_REQUIRES_RECONCILIATION")
    else if n.dependsOn.any fun d => (PyDict.get? states d).getD .waiting ∈ [.failed, .cancelled, .blocked] then
      (.blocked, "DEPENDENCY_NOT_SUCCESSFUL")
    else if ¬ n.dependsOn.all fun d => (PyDict.get? c.terminal d).any (·.status = "SUCCEEDED") then
      (.waiting, "DEPENDENCY_NOT_TERMINAL_SUCCESS")
    else if n.approvalRequired = true ∧ n.nodeId ∉ approvals then (.blocked, "EXPLICIT_APPROVAL_REQUIRED")
    else (.ready, "NODE_ADMISSIBLE")

/-- The loop over the nodes. -/
def nodeRecords (c : Collected F) (approvals : List String) :
    PyDict.Dict NodeState → List (ExecutionNode F) → Except Raised (List NodeSchedulingRecord)
  | _, [] => return []
  | states, n :: ns => do
    let (state, reasonCode) := nodeState c approvals states n
    let nodeFingerprint ← n.fingerprint
    let records ← nodeRecords c approvals (PyDict.set states n.nodeId state) ns
    return { nodeId := n.nodeId, nodeFingerprint, authorityFingerprint := n.authorityFingerprint, state
             reasonCode, approvalRequired := n.approvalRequired } :: records

def decisionStatus (records : List NodeSchedulingRecord) : DecisionStatus :=
  if records ≠ [] ∧ records.all fun r => r.state = .succeeded then .complete
  else if records.any fun r => r.state = .ready then .ready
  else if records.any fun r => r.state = .blocked then .blocked
  else .waiting

/-- The checks that bind the task context, the plan and the parent authority to one another. -/
def checkBinding (context : TaskContext F) (plan : ExecutionPlan F) (parent : TaskCapabilityAuthority) :
    Except Raised Unit := do
  rethrow (fun e => e.cls.isValueError) (runtimeSchedulerError "SCHEDULER_CANONICAL_REVALIDATION_FAILED") do
    context.validate
    plan.validate parent
  require (context.taskId = plan.taskId) (runtimeSchedulerError "SCHEDULER_TASK_MISMATCH")
  let contextFingerprint ← context.fingerprint
  require (contextFingerprint = plan.taskContextFingerprint)
    (runtimeSchedulerError "SCHEDULER_TASK_CONTEXT_FINGERPRINT_MISMATCH")
  let identity ← context.identityFingerprint
  require (identity = plan.taskContextIdentityFingerprint)
    (runtimeSchedulerError "SCHEDULER_TASK_CONTEXT_IDENTITY_MISMATCH")
  require (context.authorityFingerprint = parent.fingerprint)
    (runtimeSchedulerError "SCHEDULER_PARENT_AUTHORITY_MISMATCH")
  require (plan.parentAuthorityFingerprint = parent.fingerprint)
    (runtimeSchedulerError "SCHEDULER_PLAN_AUTHORITY_MISMATCH")

/-- The approvals, each of a node of the plan that requires one. -/
def checkApprovals (plan : ExecutionPlan F) (approvedNodeIds : List String) : Except Raised (List String) := do
  let approvals ← normalizedIds approvedNodeIds "approved_node_ids"
  let unknown := approvals.filter fun id => (plan.node? id).isNone
  require (unknown = []) (runtimeSchedulerError ("SCHEDULER_UNKNOWN_APPROVED_NODE:" ++ join ',' unknown))
  let invalid := approvals.filter fun id => (plan.node? id).all fun n => !n.approvalRequired
  require (invalid = [])
    (runtimeSchedulerError ("SCHEDULER_APPROVAL_FOR_NON_APPROVAL_NODE:" ++ join ',' invalid))
  return approvals

/-- `RuntimeScheduler.evaluate`. -/
def evaluate (context : TaskContext F) (plan : ExecutionPlan F) (parent : TaskCapabilityAuthority)
    (observations : List (ExecutionObservation F)) (approvedNodeIds : List String) :
    Except Raised SchedulingDecision := do
  checkBinding context plan parent
  let approvals ← checkApprovals plan approvedNodeIds
  let collected ← observations.foldlM (Collected.admission plan parent approvals) ⟨[], [], []⟩
  let records ← nodeRecords collected approvals [] plan.nodes
  let contextFingerprint ← context.fingerprint
  let planFingerprint ← plan.fingerprint
  let decision : SchedulingDecision :=
    { taskId := plan.taskId, taskContextFingerprint := contextFingerprint, planFingerprint
      status := decisionStatus records, records, approvedNodeIds := approvals }
  decision.check
  return decision

end RuntimeScheduler

end ThreeAgent
