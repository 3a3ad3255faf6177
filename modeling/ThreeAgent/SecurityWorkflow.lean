/-
The security analyst workflow (`security_workflow.py`): a request is routed,
planned and bound to handlers once (`prepare`), and its steps are then
executed one typed request at a time (`execute_step`).

The router, the compiler, the binding registry and the invoker are other
modules: what they return is taken as it comes, with the checks that the
workflow makes on it (`operation_plan.py`, `operation_binding.py`,
`capability_router.py`). `execute_step` reads the journal twice and writes it
twice around the call of the invoker; it is modelled by its parts between
those points.
-/
import ThreeAgent.WorkflowAudit

namespace ThreeAgent.SecurityWorkflow

open PyText Outcome PyJson

/-! ## Routing -/

/-- `ROUTING_STATUSES`. -/
inductive RouteStatus where
  | routed
  | noRoute
  | denied
  deriving DecidableEq, Repr

def RouteStatus.text : RouteStatus → String
  | .routed => "routed"
  | .noRoute => "no_route"
  | .denied => "denied"

/-- `SecurityRoutingDecision`, its selections by capability and operation. -/
structure RoutingDecision where
  requestSha256 : String
  status : RouteStatus
  selections : List (String × String)
  reasonCodes : List String
  authority : String := "advisory"

/-- `SecurityRoutingDecision.validate`. -/
def RoutingDecision.validate (d : RoutingDecision) : Except Raised Unit := do
  require (sha256Re d.requestSha256 = true)
    ⟨.securityCapabilityError, "request_sha256 must be a SHA-256 fingerprint"⟩
  require (d.authority = "advisory") ⟨.securityCapabilityError, "security routing must remain advisory"⟩
  require (d.selections.length ≤ 6) ⟨.securityCapabilityError, "security route selection bound exceeded"⟩
  require (d.status = .routed → d.selections ≠ [])
    ⟨.securityCapabilityError, "routed decisions require selections"⟩
  require (d.status ≠ .routed → d.selections = [])
    ⟨.securityCapabilityError, "non-routed decisions cannot carry selections"⟩
  require (d.reasonCodes ≠ []) ⟨.securityCapabilityError, "routing decisions require reason_codes"⟩

/-! ## Plans -/

/-- `_PLAN_STATUSES`. -/
inductive PlanStatus where
  | planned
  | noRoute
  | denied
  deriving DecidableEq, Repr

def PlanStatus.text : PlanStatus → String
  | .planned => "planned"
  | .noRoute => "no_route"
  | .denied => "denied"

/-- `SecurityOperationPlanError(message)`. -/
def planError (message : String) : Raised := ⟨.securityOperationPlanError, message⟩

/-- `MAX_SECURITY_OPERATION_STEPS`. -/
def maxSecurityOperationSteps : Nat := 6

/-- `SecurityOperationStep`. -/
structure OperationStep where
  stepId : String
  sequence : Nat
  taxonomyId : String
  capabilityId : String
  operationId : String
  authorityLevel : String
  authorityDomain : String
  backendCapability : Option String
  effect : String
  evidenceRequired : Bool
  preflightState : String
  schemaVersion : String := "workspace-security-operation-step/v1"

namespace OperationStep

/-- The checks of `validate` on an internal step and on one that needs an authority. -/
def checkDomain (s : OperationStep) : Except Raised Unit :=
  if s.authorityDomain = "internal" then do
    require (s.backendCapability = none) (planError "internal steps must not expose a backend capability")
    require (s.effect = "compute" ∧ s.preflightState = "ready_internal")
      (planError "internal steps must be compute-only and ready_internal")
  else do
    require (∃ b ∈ s.backendCapability, b ≠ "") (planError "task/monitoring steps require a reviewed backend capability")
    require (s.preflightState = "authority_required")
      (planError "side-effecting steps must require authority preflight")

def validate (s : OperationStep) : Except Raised Unit := do
  require (stepRe s.stepId = true) (planError "step_id must be a deterministic typed digest")
  require (1 ≤ s.sequence ∧ s.sequence ≤ maxSecurityOperationSteps)
    (planError "step sequence is outside the supported bound")
  require (s.authorityLevel ∈ ["L0", "L1"]) (planError "operation plan v0.3 admits only L0/L1")
  require (s.authorityDomain ∈ ["internal", "task", "monitoring"]) (planError "unsupported authority domain")
  require (s.preflightState ∈ ["ready_internal", "authority_required"]) (planError "unsupported preflight state")
  s.checkDomain

/-- `public_dict`. -/
def publicDict (s : OperationStep) : Except Raised (Json Unit) := do
  s.validate
  return Json.dict
    [("step_id", .str s.stepId), ("sequence", .int s.sequence), ("taxonomy_id", .str s.taxonomyId),
     ("capability_id", .str s.capabilityId), ("operation_id", .str s.operationId),
     ("authority_level", .str s.authorityLevel), ("authority_domain", .str s.authorityDomain),
     ("backend_capability", Json.ofOption .str s.backendCapability), ("effect", .str s.effect),
     ("evidence_required", .bool s.evidenceRequired), ("preflight_state", .str s.preflightState),
     ("schema_version", .str s.schemaVersion)]

end OperationStep

/-- `SecurityOperationPlan`. -/
structure OperationPlan where
  requestSha256 : String
  routeStatus : RouteStatus
  status : PlanStatus
  steps : List OperationStep
  registryFingerprint : String
  planFingerprint : String
  reasonCodes : List String
  authority : String := "advisory"
  autoExecute : Bool := false

namespace OperationPlan

/-- `_step_id`. -/
def stepIdOf (requestSha256 : String) (sequence : Nat) (capabilityId operationId : String) : String :=
  "step:" ++ String.ofList ((Sha256.hexdigest (requestSha256 ++ "|" ++ toString sequence ++ "|" ++ capabilityId ++ "|" ++
    operationId)).toList.take 24)

/-- The payload of `_plan_fingerprint`. -/
def payload (p : OperationPlan) (steps : List (Json Unit)) : Json Unit :=
  Json.dict
    [("request_sha256", .str p.requestSha256), ("route_status", .str p.routeStatus.text),
     ("status", .str p.status.text), ("steps", .arr steps), ("registry_fingerprint", .str p.registryFingerprint),
     ("reason_codes", Json.strs p.reasonCodes)]

/-- `_plan_fingerprint`. -/
def fingerprintOf (p : OperationPlan) : Except Raised String := do
  let steps ← p.steps.mapM OperationStep.publicDict
  return sha256Fingerprint (p.payload steps)

/-- One round of the loop over the steps of a plan. -/
def checkStep (p : OperationPlan) (expected : Nat) (s : OperationStep) : Except Raised Unit := do
  s.validate
  require (s.sequence = expected) (planError "operation plan steps must be contiguous and ordered")
  require (s.stepId = stepIdOf p.requestSha256 s.sequence s.capabilityId s.operationId)
    (planError "operation plan step_id does not match deterministic content")

/-- The loop. -/
def checkSteps (p : OperationPlan) : Nat → List OperationStep → Except Raised Unit
  | _, [] => return ⟨⟩
  | expected, s :: steps => do
    p.checkStep expected s
    p.checkSteps (expected + 1) steps

def validate (p : OperationPlan) : Except Raised Unit := do
  require (sha256Re p.requestSha256 = true) (planError "request_sha256 must be a SHA-256 fingerprint")
  require (sha256Re p.registryFingerprint = true) (planError "registry_fingerprint must be a SHA-256 fingerprint")
  require (sha256Re p.planFingerprint = true) (planError "plan_fingerprint must be a SHA-256 fingerprint")
  require (p.authority = "advisory" ∧ p.autoExecute = false)
    (planError "security operation plans cannot grant execution authority")
  require (p.steps.length ≤ maxSecurityOperationSteps) (planError "security operation plan step bound exceeded")
  require (p.status = .planned → p.steps ≠ []) (planError "planned operation plans require at least one step")
  require (p.status ≠ .planned → p.steps = []) (planError "non-planned operation plans cannot contain steps")
  require (p.status = .planned → p.routeStatus = .routed) (planError "planned status requires a routed decision")
  require (p.status = .noRoute → p.routeStatus = .noRoute)
    (planError "no_route plan must originate from no_route routing")
  require (p.status = .denied → p.routeStatus = .denied) (planError "denied plan must originate from denied routing")
  require (p.reasonCodes ≠ []) (planError "operation plan requires reason_codes")
  p.checkSteps 1 p.steps
  let expected ← p.fingerprintOf
  require (p.planFingerprint = expected) (planError "plan_fingerprint does not match canonical plan content")

end OperationPlan

/-! ## Bindings -/

/-- `_BINDING_STATUSES`. -/
inductive BindingStatus where
  | bound
  | unbound
  deriving DecidableEq, Repr

def BindingStatus.text : BindingStatus → String
  | .bound => "bound"
  | .unbound => "unbound"

/-- `SecurityStepBinding`. -/
structure StepBinding where
  stepId : String
  capabilityId : String
  operationId : String
  status : BindingStatus
  reasonCode : String
  handlerId : Option String
  handlerKind : Option String

/-- The statuses of a `SecurityPlanBinding`. -/
inductive PlanBindingStatus where
  | allBound
  | mixed
  | notPlanned
  deriving DecidableEq, Repr

/-- `SecurityPlanBinding`. -/
structure PlanBinding where
  planFingerprint : String
  status : PlanBindingStatus
  steps : List StepBinding
  bindingFingerprint : String
  authority : String := "advisory"
  executionAuthorized : Bool := false

/-- `SecurityOperationBindingError(message)`. -/
def bindingError (message : String) : Raised := ⟨.securityOperationBindingError, message⟩

/-- `SecurityPlanBinding.validate`. -/
def PlanBinding.validate (b : PlanBinding) : Except Raised Unit := do
  require (b.authority = "advisory" ∧ b.executionAuthorized = false)
    (bindingError "operation binding cannot authorize execution")
  require (sha256Re b.planFingerprint = true) (bindingError "plan_fingerprint must be SHA-256")
  require (sha256Re b.bindingFingerprint = true) (bindingError "binding_fingerprint must be SHA-256")
  require (b.status = .notPlanned → b.steps = []) (bindingError "not_planned binding cannot contain steps")
  require (b.status = .allBound → ∀ s ∈ b.steps, s.status = .bound)
    (bindingError "all_bound plan contains an unbound step")
  require (b.status = .mixed → b.steps ≠ [] ∧ ∃ s ∈ b.steps, s.status ≠ .bound)
    (bindingError "partial plan requires at least one unbound step")

/-! ## Sessions -/

/-- `SecurityWorkflowError(message)`. -/
def workflowError (message : String) : Raised := ⟨.securityWorkflowError, message⟩

/-- `SecurityWorkflowDenied(reason_code)`. -/
def workflowDenied (reasonCode : String) : Raised := ⟨.securityWorkflowDenied, reasonCode⟩

/-- `WORKFLOW_STEP_STATES`. -/
inductive StepStatus where
  | awaitingTypedInput
  | unbound
  | completed
  deriving DecidableEq, Repr

def StepStatus.text : StepStatus → String
  | .awaitingTypedInput => "awaiting_typed_input"
  | .unbound => "unbound"
  | .completed => "completed"

/-- `SecurityWorkflowStepState`. -/
structure StepState where
  sequence : Nat
  stepId : String
  capabilityId : String
  operationId : String
  bindingStatus : BindingStatus
  state : StepStatus
  bindingReasonCode : String
  handlerId : Option String := none
  inputFingerprint : Option String := none
  invocationId : Option String := none
  invocationReceiptSha256 : Option String := none
  schemaVersion : String := "workspace-security-analyst-workflow-step/v1"
  deriving DecidableEq

namespace StepState

/-- A bound step has a handler, an unbound one has none. -/
def checkBinding (s : StepState) : Except Raised Unit :=
  match s.bindingStatus with
  | .bound => do
    require (∃ h ∈ s.handlerId, h ≠ "") (workflowError "bound workflow step requires handler_id")
    require (s.state ≠ .unbound) (workflowError "bound workflow step cannot be unbound")
  | .unbound =>
    require (s.handlerId = none ∧ s.state = .unbound) (workflowError "unbound workflow step cannot expose a handler")

/-- Only a completed step names an invocation. -/
def checkLineage (s : StepState) : Except Raised Unit :=
  match s.state with
  | .completed => do
    checkSha .securityWorkflowError (s.inputFingerprint.getD "") "input_fingerprint"
    require (∃ i ∈ s.invocationId, invocationRe i = true)
      (workflowError "completed workflow step requires invocation_id")
    checkSha .securityWorkflowError (s.invocationReceiptSha256.getD "") "invocation_receipt_sha256"
  | _ =>
    require (s.inputFingerprint = none ∧ s.invocationId = none ∧ s.invocationReceiptSha256 = none)
      (workflowError "non-completed workflow step cannot retain invocation lineage")

def validate (s : StepState) : Except Raised Unit := do
  require (1 ≤ s.sequence ∧ s.sequence ≤ 6) (workflowError "workflow step sequence is invalid")
  require (stepRe s.stepId = true) (workflowError "workflow step_id is invalid")
  require (reasonRe s.bindingReasonCode = true) (workflowError "workflow binding reason is invalid")
  s.checkBinding
  s.checkLineage

/-- `public_dict`. -/
def publicDict (s : StepState) : Except Raised (Json Unit) := do
  s.validate
  return Json.dict
    [("sequence", .int s.sequence), ("step_id", .str s.stepId), ("capability_id", .str s.capabilityId),
     ("operation_id", .str s.operationId), ("binding_status", .str s.bindingStatus.text),
     ("state", .str s.state.text), ("binding_reason_code", .str s.bindingReasonCode),
     ("handler_id", Json.ofOption .str s.handlerId), ("input_fingerprint", Json.ofOption .str s.inputFingerprint),
     ("invocation_id", Json.ofOption .str s.invocationId),
     ("invocation_receipt_sha256", Json.ofOption .str s.invocationReceiptSha256),
     ("schema_version", .str s.schemaVersion)]

end StepState

/-- `WORKFLOW_STATUSES`. -/
inductive SessionStatus where
  | ready
  | mixed
  | blocked
  | completed
  | denied
  | noRoute
  deriving DecidableEq, Repr

def SessionStatus.text : SessionStatus → String
  | .ready => "ready"
  | .mixed => "partial"
  | .blocked => "blocked"
  | .completed => "completed"
  | .denied => "denied"
  | .noRoute => "no_route"

/-- `_session_status`. -/
def sessionStatus (routeStatus : RouteStatus) (planStatus : PlanStatus) (steps : List StepState) :
    Except Raised SessionStatus :=
  if planStatus = .denied ∨ routeStatus = .denied then return .denied
  else if planStatus = .noRoute ∨ routeStatus = .noRoute then return .noRoute
  else
    let completed := steps.countP (·.state = .completed)
    let awaiting := steps.countP (·.state = .awaitingTypedInput)
    let unbound := steps.countP (·.state = .unbound)
    if completed = steps.length then return .completed
    else if awaiting ≠ 0 ∧ unbound = 0 then return .ready
    else if awaiting ≠ 0 ∧ unbound ≠ 0 then return .mixed
    else if completed ≠ 0 ∧ unbound ≠ 0 then return .mixed
    else if unbound = steps.length then return .blocked
    else throw (workflowError "unsupported workflow step-state combination")

/-- `_session_id`. -/
def sessionIdOf (requestSha256 planFingerprint bindingFingerprint : String) : String :=
  "security-session:" ++ digestPrefix (sha256Fingerprint (Json.dict
    [("request_sha256", .str requestSha256), ("plan_fingerprint", .str planFingerprint),
     ("binding_fingerprint", .str bindingFingerprint)])) 24

/-- `SecurityWorkflowSession`. -/
structure Session where
  sessionId : String
  requestSha256 : String
  routeStatus : RouteStatus
  planStatus : PlanStatus
  status : SessionStatus
  steps : List StepState
  planFingerprint : String
  registryFingerprint : String
  bindingFingerprint : String
  runtimeFingerprint : String
  workflowFingerprint : String
  reasonCodes : List String
  authority : String := "advisory"
  autoExecute : Bool := false

namespace Session

/-- The payload of `_workflow_fingerprint`. -/
def payload (s : Session) (steps : List (Json Unit)) : Json Unit :=
  Json.dict
    [("schema_version", .str "workspace-security-analyst-workflow-session/v1"), ("session_id", .str s.sessionId),
     ("request_sha256", .str s.requestSha256), ("route_status", .str s.routeStatus.text),
     ("plan_status", .str s.planStatus.text), ("status", .str s.status.text), ("steps", .arr steps),
     ("plan_fingerprint", .str s.planFingerprint), ("registry_fingerprint", .str s.registryFingerprint),
     ("binding_fingerprint", .str s.bindingFingerprint), ("runtime_fingerprint", .str s.runtimeFingerprint),
     ("reason_codes", Json.strs s.reasonCodes), ("authority", .str "advisory"), ("auto_execute", .bool false)]

/-- `_workflow_fingerprint`. -/
def fingerprintOf (s : Session) : Except Raised String := do
  let steps ← s.steps.mapM StepState.publicDict
  return sha256Fingerprint (s.payload steps)

/-- The loop of `validate` over the steps. -/
def checkSteps : Nat → List StepState → Except Raised Unit
  | _, [] => return ⟨⟩
  | expected, s :: steps => do
    s.validate
    require (s.sequence = expected) (workflowError "workflow steps must be contiguous and ordered")
    checkSteps (expected + 1) steps

def validate (s : Session) : Except Raised Unit := do
  require (sessionRe s.sessionId = true) (workflowError "workflow session_id is invalid")
  checkSha .securityWorkflowError s.requestSha256 "request_sha256"
  checkSha .securityWorkflowError s.planFingerprint "plan_fingerprint"
  checkSha .securityWorkflowError s.registryFingerprint "registry_fingerprint"
  checkSha .securityWorkflowError s.bindingFingerprint "binding_fingerprint"
  checkSha .securityWorkflowError s.runtimeFingerprint "runtime_fingerprint"
  checkSha .securityWorkflowError s.workflowFingerprint "workflow_fingerprint"
  require (s.authority = "advisory" ∧ s.autoExecute = false)
    (workflowError "workflow sessions cannot grant automatic execution authority")
  require (s.reasonCodes ≠ [] ∧ s.reasonCodes.length ≤ 24)
    (workflowError "workflow reason_codes are required and bounded")
  require s.reasonCodes.Nodup (workflowError "workflow reason_codes must be unique")
  require (∀ r ∈ s.reasonCodes, reasonRe r = true) (workflowError "workflow reason_code is invalid")
  checkSteps 1 s.steps
  require (s.planStatus = .planned → s.steps ≠ []) (workflowError "planned workflow requires steps")
  require (s.planStatus ≠ .planned → s.steps = []) (workflowError "non-planned workflow cannot contain steps")
  let expectedStatus ← sessionStatus s.routeStatus s.planStatus s.steps
  require (s.status = expectedStatus) (workflowError "workflow status does not match step state")
  require (s.sessionId = sessionIdOf s.requestSha256 s.planFingerprint s.bindingFingerprint)
    (workflowError "session_id does not match workflow lineage")
  let expected ← s.fingerprintOf
  require (s.workflowFingerprint = expected) (workflowError "workflow_fingerprint does not match session state")

/-- `_build_session`: the status, the id and the fingerprint of the given parts. -/
def build (base : Session) : Except Raised Session := do
  let sessionId := sessionIdOf base.requestSha256 base.planFingerprint base.bindingFingerprint
  let status ← sessionStatus base.routeStatus base.planStatus base.steps
  let session := { base with sessionId, status }
  let workflowFingerprint ← session.fingerprintOf
  let session := { session with workflowFingerprint }
  session.validate
  return session

end Session

/-! ## The workflow -/

/-- The fingerprints of the registry, the binding registry and the runtime of a `SecurityAnalystWorkflow`. -/
structure Workflow where
  registryFingerprint : String
  bindingFingerprint : String
  runtimeFingerprint : String

/-- `SecurityWorkflowPrepared`. -/
structure Prepared where
  session : Session
  routing : RoutingDecision
  plan : OperationPlan
  binding : PlanBinding

/-- One round of `_step_states`. -/
def stepStateOf (step : OperationStep) (bound : StepBinding) : Except Raised StepState := do
  require (step.stepId = bound.stepId ∧ step.capabilityId = bound.capabilityId ∧ step.operationId = bound.operationId)
    (workflowError "workflow plan/binding step lineage mismatch")
  let row : StepState :=
    { sequence := step.sequence, stepId := step.stepId, capabilityId := step.capabilityId,
      operationId := step.operationId, bindingStatus := bound.status,
      state := if bound.status = .bound then .awaitingTypedInput else .unbound,
      bindingReasonCode := bound.reasonCode, handlerId := bound.handlerId }
  row.validate
  return row

/-- `_step_states`. -/
def stepStates (plan : OperationPlan) (binding : PlanBinding) : Except Raised (List StepState) := do
  plan.validate
  binding.validate
  require (plan.planFingerprint = binding.planFingerprint)
    (workflowError "workflow plan/binding fingerprint mismatch")
  if plan.status ≠ .planned then return []
  else
    require (plan.steps.length = binding.steps.length) (workflowError "workflow plan/binding step count mismatch")
    (plan.steps.zip binding.steps).mapM fun pair => stepStateOf pair.1 pair.2

/-- `tuple(dict.fromkeys(values))`. -/
def distinct (values : List String) : List String :=
  values.foldl (fun seen v => if v ∈ seen then seen else seen ++ [v]) []

section

variable (utc : String → Except Raised String) (wf : Workflow)

/-- `prepare`, given what the router, the compiler and the binding registry return. -/
def prepare (now : String) (routing : RoutingDecision) (plan : OperationPlan) (binding : PlanBinding) (j : Journal) :
    Except Raised (Journal × Prepared × AuditRecord) := do
  let steps ← stepStates plan binding
  let session ← Session.build
    { sessionId := "", requestSha256 := plan.requestSha256, routeStatus := routing.status, planStatus := plan.status,
      status := .ready, steps, planFingerprint := plan.planFingerprint, registryFingerprint := wf.registryFingerprint,
      bindingFingerprint := wf.bindingFingerprint, runtimeFingerprint := wf.runtimeFingerprint,
      workflowFingerprint := "",
      reasonCodes := distinct (plan.reasonCodes ++ ["WORKFLOW_PREPARED_NO_AUTO_EXECUTE"]) }
  let (j, record) ← j.append utc now
    { eventType := .sessionPrepared, sessionId := session.sessionId, requestSha256 := session.requestSha256,
      planFingerprint := session.planFingerprint, bindingFingerprint := session.bindingFingerprint,
      workflowFingerprint := session.workflowFingerprint, reasonCodes := ["WORKFLOW_SESSION_PREPARED"] }
  return (j, { session, routing, plan, binding }, record)

/-- `_require_session_audited`. -/
def requireSessionAudited (session : Session) (j : Journal) : Except Raised Unit := do
  let records ← j.records utc
  require (∃ r ∈ records, r.sessionId = session.sessionId ∧ r.eventType = .sessionPrepared ∧
      r.requestSha256 = session.requestSha256 ∧ r.planFingerprint = session.planFingerprint ∧
      r.bindingFingerprint = session.bindingFingerprint)
    (workflowDenied "WORKFLOW_SESSION_PREPARE_AUDIT_MISSING")

/-- One round of the loop of `_validate_prepared` over the steps. -/
def checkStepState (actual expected : StepState) : Except Raised Unit :=
  if actual.state = .completed then
    require (actual.stepId = expected.stepId ∧ actual.capabilityId = expected.capabilityId ∧
        actual.operationId = expected.operationId ∧ actual.bindingStatus = expected.bindingStatus ∧
        actual.handlerId = expected.handlerId)
      (workflowError "completed workflow state changed reviewed binding lineage")
  else
    require (actual = expected) (workflowError "prepared session step state does not match plan/binding")

/-- The loop, over `zip(..., strict=True)`. -/
def checkStepStates : List StepState → List StepState → Except Raised Unit
  | [], [] => return ⟨⟩
  | actual :: rest, expected :: rest' => do
    checkStepState actual expected
    checkStepStates rest rest'
  | _ :: _, [] => throw ⟨.valueError, "zip() argument 2 is shorter than argument 1"⟩
  | [], _ :: _ => throw ⟨.valueError, "zip() argument 2 is longer than argument 1"⟩

/-- `_validate_prepared`. -/
def validatePrepared (prepared : Prepared) (j : Journal) : Except Raised Unit := do
  prepared.routing.validate
  prepared.plan.validate
  prepared.binding.validate
  prepared.session.validate
  require (prepared.routing.requestSha256 = prepared.session.requestSha256)
    (workflowError "prepared routing/session request mismatch")
  require (prepared.plan.requestSha256 = prepared.session.requestSha256)
    (workflowError "prepared plan/session request mismatch")
  require (prepared.plan.planFingerprint = prepared.session.planFingerprint)
    (workflowError "prepared plan/session fingerprint mismatch")
  require (prepared.binding.bindingFingerprint = prepared.session.bindingFingerprint)
    (workflowError "prepared binding/session fingerprint mismatch")
  require (prepared.session.registryFingerprint = wf.registryFingerprint)
    (workflowError "prepared session registry is stale")
  require (prepared.session.bindingFingerprint = wf.bindingFingerprint)
    (workflowError "prepared session binding registry is stale")
  let expected ← stepStates prepared.plan prepared.binding
  checkStepStates prepared.session.steps expected
  requireSessionAudited utc prepared.session j

/-- What `execute_step` knows of the step once its checks have passed. -/
structure StepCall where
  session : Session
  state : StepState
  inputFingerprint : String

/-- The step of a session with an id. -/
def stepOf (session : Session) (wanted : String) : Except Raised StepState :=
  match session.steps.filter (·.stepId = wanted) with
  | [state] => return state
  | _ => throw (workflowDenied "WORKFLOW_STEP_NOT_IN_SESSION")

/-- `execute_step` up to its replay check. The request is given by its `validate` and `fingerprint`. -/
def beginStep (prepared : Prepared) (stepId : String) (request : Except Raised String) (j : Journal) :
    Except Raised StepCall := do
  validatePrepared utc wf prepared j
  let session := prepared.session
  session.validate
  require (session.status ∉ [.denied, .noRoute, .blocked, .completed]) (workflowDenied "WORKFLOW_SESSION_NOT_EXECUTABLE")
  require (session.runtimeFingerprint = wf.runtimeFingerprint) (workflowDenied "WORKFLOW_RUNTIME_FINGERPRINT_CHANGED")
  let state ← stepOf session (strip stepId)
  state.validate
  require (state.state ≠ .unbound) (workflowDenied "WORKFLOW_STEP_HANDLER_UNBOUND")
  require (state.state ≠ .completed) (workflowDenied "WORKFLOW_STEP_ALREADY_COMPLETED")
  let inputFingerprint ← request
  return { session, state, inputFingerprint }

/-- The records of one step of one session. -/
def relevant (sessionId stepId : String) (records : List AuditRecord) : List AuditRecord :=
  records.filter fun r => r.sessionId = sessionId ∧ r.stepId = some stepId

/-- `_require_audit_replay_safe`. -/
def requireAuditReplaySafe (sessionId stepId : String) (j : Journal) : Except Raised Unit := do
  let records ← j.records utc
  let relevant := relevant sessionId stepId records
  require (∀ r ∈ relevant, r.eventType ≠ .stepCompleted) (workflowDenied "WORKFLOW_STEP_ALREADY_COMPLETED_IN_AUDIT")
  require (∀ r ∈ relevant.getLast?, r.eventType ≠ .stepRequested)
    (workflowDenied "WORKFLOW_STEP_REQUEST_UNRESOLVED_IN_AUDIT")

/-- What every event of a step names. -/
def stepEntry (session : Session) (call : StepCall) (eventType : EventType) (reasonCodes : List String) :
    Journal.Entry where
  eventType := eventType
  sessionId := session.sessionId
  requestSha256 := session.requestSha256
  planFingerprint := session.planFingerprint
  bindingFingerprint := session.bindingFingerprint
  workflowFingerprint := session.workflowFingerprint
  reasonCodes := reasonCodes
  stepId := some call.state.stepId
  inputFingerprint := some call.inputFingerprint

/-- The append of `STEP_REQUESTED`. -/
def appendRequested (now : String) (call : StepCall) (j : Journal) : Except Raised (Journal × AuditRecord) :=
  j.append utc now (stepEntry call.session call .stepRequested ["WORKFLOW_TYPED_STEP_REQUESTED"])

/-- `_failure_reason`, given the reason code of the exception, if it has one, and its text. -/
def failureReason (reasonCode : Option String) (message : String) : String :=
  match reasonCode.filter fun r => reasonRe r with
  | some reason => reason
  | none => if reasonRe (strip message) then strip message else "WORKFLOW_INVOCATION_FAILED_CLOSED"

/-- The append of `STEP_FAILED`, for an exception of the invoker that `execute_step` catches. -/
def appendFailed (now : String) (call : StepCall) (reason : String) (j : Journal) :
    Except Raised (Journal × AuditRecord) :=
  j.append utc now (stepEntry call.session call .stepFailed [reason])

/-- What `execute_step` reads of the receipt of an invocation. -/
structure Receipt where
  invocationId : String
  planFingerprint : String
  stepId : String
  inputFingerprint : String
  registryFingerprint : String
  bindingFingerprint : String
  /-- `sha256_fingerprint(receipt.public_dict())`. -/
  sha256 : String

/-- The session after an invocation that returned, with the checks on its receipt. -/
def completeStep (call : StepCall) (receipt : Receipt) : Except Raised Session := do
  let session := call.session
  require (receipt.planFingerprint = session.planFingerprint)
    (workflowError "invocation receipt plan lineage mismatch")
  require (receipt.stepId = call.state.stepId) (workflowError "invocation receipt step lineage mismatch")
  require (receipt.bindingFingerprint = session.bindingFingerprint)
    (workflowError "invocation receipt binding lineage mismatch")
  require (receipt.registryFingerprint = session.registryFingerprint)
    (workflowError "invocation receipt registry lineage mismatch")
  require (receipt.inputFingerprint = call.inputFingerprint)
    (workflowError "invocation receipt input lineage mismatch")
  let completed : StepState :=
    { call.state with
      state := .completed, inputFingerprint := some call.inputFingerprint
      invocationId := some receipt.invocationId, invocationReceiptSha256 := some receipt.sha256 }
  completed.validate
  Session.build
    { session with steps := session.steps.map fun s => if s.stepId = call.state.stepId then completed else s }

/-- `execute_step` from the return of the invoker: the append of `STEP_COMPLETED`. The receipt is given as its
`validate` leaves it. -/
def appendCompleted (now : String) (call : StepCall) (receipt : Except Raised Receipt) (j : Journal) :
    Except Raised (Journal × AuditRecord) := do
  let receipt ← receipt
  let updated ← completeStep call receipt
  j.append utc now { stepEntry updated call .stepCompleted ["WORKFLOW_TYPED_STEP_COMPLETED"] with
    invocationId := some receipt.invocationId }

end

end ThreeAgent.SecurityWorkflow
