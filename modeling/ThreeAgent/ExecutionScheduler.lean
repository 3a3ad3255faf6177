/-
The dispatch coordinator (`execution_scheduler.py`): dispatch tickets, the
construction of a scheduler, fresh or restored from a checkpoint, and the four
operations that change it.

The budget guard, the revocation guard and the checkpoint repository are the
environment's: each is an action on an environment state, of which nothing is
assumed here. `SchedulerWorld.issued` is a history of the tickets handed out, restored
ones included; no function reads it.
-/
import ThreeAgent.Lib.Action
import ThreeAgent.RuntimeScheduler

namespace ThreeAgent

open PyText Outcome PyJson Action

/-- `ExecutionSchedulerError(code)`. -/
def schedulerError (code : String) : Raised := ⟨.executionSchedulerError, code⟩

/-- `DISPATCH_TICKET_SCHEMA`. -/
def dispatchTicketSchema : String := "workspace-dispatch-ticket/v1"

/-- `MAX_SCHEDULER_CONCURRENCY`. -/
def maxSchedulerConcurrency : Int := 24

/-! ## Tickets -/

/-- `DispatchTicket`; `dispatch_authorized` is a constant of the source. -/
structure DispatchTicket where
  ticketId : String
  taskId : String
  planFingerprint : String
  nodeId : String
  nodeFingerprint : String
  authorityFingerprint : String
  dependencyObservationFingerprints : List String
  dispatchSequence : Int
  executionLevel : Int
  schemaVersion : String := dispatchTicketSchema
  deriving DecidableEq, Repr

namespace DispatchTicket

/-- The entries of `_identity_dict`. -/
def identityEntries (t : DispatchTicket) : List (String × Json Unit) :=
  [("schema_version", .str t.schemaVersion), ("task_id", .str t.taskId),
   ("plan_fingerprint", .str t.planFingerprint), ("node_id", .str t.nodeId),
   ("node_fingerprint", .str t.nodeFingerprint), ("authority_fingerprint", .str t.authorityFingerprint),
   ("dependency_observation_fingerprints", Json.strs t.dependencyObservationFingerprints),
   ("dispatch_sequence", .int t.dispatchSequence), ("execution_level", .int t.executionLevel),
   ("dispatch_authorized", .bool true)]

/-- `_digest(self._identity_dict())`; the only failure is an integer too long to write. -/
def identityDigest (t : DispatchTicket) : Except Raised String :=
  digestOf ⟨.valueError, "Exceeds the limit (4300 digits) for integer string conversion"⟩
    (Json.dict t.identityEntries)

/-- The ticket id that the other fields determine. -/
def expectedId (t : DispatchTicket) : Except Raised String := do
  let digest ← t.identityDigest
  return "dispatch:" ++ digestPrefix digest 24

def validate (t : DispatchTicket) : Except Raised Unit := do
  require (t.schemaVersion = dispatchTicketSchema) (schedulerError "DISPATCH_TICKET_SCHEMA_VERSION_MISMATCH")
  require (1 ≤ t.dispatchSequence) (schedulerError "INVALID_DISPATCH_SEQUENCE")
  let expected ← t.expectedId
  require (t.ticketId = expected) (schedulerError "DISPATCH_TICKET_IDENTITY_MISMATCH")

end DispatchTicket

/-- `RecoveredExecutionState`, what a checkpoint repository loads. -/
structure RecoveredExecutionState (F : Type) where
  taskId : String
  planFingerprint : String
  dispatches : List DispatchTicket
  observations : List (ExecutionObservation F)
  recoveryRequiredTicketIds : List String
  cancellationReason : Option String

/-! ## The environment -/

/-- `SchedulerCheckpointRepository`. -/
structure CheckpointRepository (σ F : Type) where
  initializeTables : Act σ Raised PUnit
  recordDispatch : DispatchTicket → Act σ Raised PUnit
  recordObservation : ExecutionObservation F → Act σ Raised PUnit
  recordCancellation : (taskId planFingerprint reasonCode : String) → Act σ Raised PUnit
  load : (taskId planFingerprint : String) → Act σ Raised (RecoveredExecutionState F)

/-- The constructor arguments of a scheduler. -/
structure SchedulerConfig (σ F : Type) where
  taskContext : TaskContext F
  plan : ExecutionPlan F
  parentAuthority : TaskCapabilityAuthority
  /-- `budget_guard.assert_active()`. -/
  assertActive : Act σ Raised PUnit
  /-- `budget_guard.reserve(steps=1)`. -/
  reserveStep : Act σ Raised PUnit
  /-- `revocation_guard.is_revoked(task_id, capability)`. -/
  isRevoked : (taskId capability : String) → Act σ Raised Bool
  maxConcurrency : Int := 4
  checkpointRepository : Option (CheckpointRepository σ F) := none
  checkpointReapprovedNodes : List String := []

/-- The fields of a scheduler that change. -/
structure SchedulerState (F : Type) where
  observations : PyDict.Dict (ExecutionObservation F) := []
  inFlight : PyDict.Dict DispatchTicket := []
  recoveryRequired : PyDict.Dict DispatchTicket := []
  approvedNodes : List String := []
  dispatchSequence : Int := 0
  cancelled : Bool := false
  cancellationReason : Option String := none

/-- A scheduler in its environment. -/
structure SchedulerWorld (σ F : Type) where
  env : σ
  sched : SchedulerState F
  issued : List DispatchTicket

namespace SchedulerWorld

variable {σ F α : Type}

/-- A call into the environment. -/
def call (x : Act σ Raised α) : Act (SchedulerWorld σ F) Raised α := fun w =>
  ((x w.env).1, { w with env := (x w.env).2 })

end SchedulerWorld

namespace ExecutionScheduler

variable {σ F : Type} [PyRuntime F]

/-! ## Decisions -/

/-- `_ordered_observations`. -/
def orderedObservations (plan : ExecutionPlan F) (s : SchedulerState F) : List (ExecutionObservation F) :=
  plan.nodes.filterMap fun n => PyDict.get? s.observations n.nodeId

/-- `admission_decision`. -/
def admissionDecision (cfg : SchedulerConfig σ F) (s : SchedulerState F) (approvedNodes : List String) :
    Except Raised SchedulingDecision :=
  match RuntimeScheduler.evaluate cfg.taskContext cfg.plan cfg.parentAuthority (orderedObservations cfg.plan s)
      (sorted (dedup (s.approvedNodes ++ approvedNodes))) with
  | .ok decision => return decision
  | .error e =>
    if e.cls = .runtimeSchedulerError then
      throw (schedulerError ("SCHEDULER_DECISION_REVALIDATION_FAILED:" ++ e.code))
    else throw e

/-- `_dependency_observations`. -/
def dependencyObservations (s : SchedulerState F) (node : ExecutionNode F) :
    Except Raised (List (ExecutionObservation F)) :=
  node.dependsOn.mapM fun dependency => do
    let o ← orRaise (PyDict.get? s.observations dependency)
      (schedulerError ("SCHEDULER_DEPENDENCY_PENDING:" ++ node.nodeId ++ ":" ++ dependency))
    require (o.status = "SUCCEEDED")
      (schedulerError ("SCHEDULER_DEPENDENCY_NOT_SUCCEEDED:" ++ node.nodeId ++ ":" ++ dependency ++ ":" ++ o.status))
    return o

/-- `ready_node_ids`. -/
def readyNodeIds (cfg : SchedulerConfig σ F) (s : SchedulerState F) (approvedNodes : List String) :
    Except Raised (List String) :=
  if s.cancelled = true ∨ s.recoveryRequired ≠ [] then return []
  else
    let capacity := cfg.maxConcurrency - s.inFlight.length
    if capacity ≤ 0 then return []
    else do
      let decision ← admissionDecision cfg s approvedNodes
      let ready := decision.records.filter fun r =>
        r.state = .ready && !PyDict.has s.observations r.nodeId && !PyDict.has s.inFlight r.nodeId &&
          !PyDict.has s.recoveryRequired r.nodeId
      return (ready.map NodeSchedulingRecord.nodeId).take capacity.toNat

/-- The checks of `issue_dispatch` that read the scheduler alone: the node and its dependencies. -/
def admission (cfg : SchedulerConfig σ F) (s : SchedulerState F) (nodeId : String) (approvalGranted : Bool) :
    Except Raised (ExecutionNode F × List (ExecutionObservation F)) := do
  require (s.cancelled = false) (schedulerError "SCHEDULER_CANCELLED")
  let node ← orRaise (cfg.plan.node? nodeId) (schedulerError ("UNKNOWN_EXECUTION_NODE:" ++ nodeId))
  require (PyDict.has s.observations nodeId = false) (schedulerError ("NODE_ALREADY_OBSERVED:" ++ nodeId))
  require (PyDict.has s.inFlight nodeId = false) (schedulerError ("NODE_ALREADY_IN_FLIGHT:" ++ nodeId))
  require (PyDict.has s.recoveryRequired nodeId = false) (schedulerError ("NODE_RECOVERY_REQUIRED:" ++ nodeId))
  require (s.recoveryRequired = []) (schedulerError "SCHEDULER_RECOVERY_REQUIRED")
  require ((s.inFlight.length : Int) < cfg.maxConcurrency) (schedulerError "SCHEDULER_BACKPRESSURE")
  require (node.approvalRequired = true → approvalGranted = true)
    (schedulerError ("NODE_APPROVAL_REQUIRED:" ++ nodeId))
  let decision ← admissionDecision cfg s (if node.approvalRequired && approvalGranted then [nodeId] else [])
  let record ← orRaise (decision.records.find? (·.nodeId = nodeId)) ⟨.stopIteration, ""⟩
  let dependencies ← dependencyObservations s node
  require (record.state = .ready) (schedulerError ("SCHEDULER_NODE_NOT_READY:" ++ nodeId ++ ":" ++ record.reasonCode))
  return (node, dependencies)

/-! ## Dispatch -/

/-- The exception of a budget guard, as `_revalidate_runtime` and `issue_dispatch` re-raise it. -/
def budgetFailure (failed : String) (e : Raised) : Raised :=
  if e.cls = .executionBudgetExceeded then schedulerError ("SCHEDULER_BUDGET_DENIED:" ++ e.code)
  else if e.cls.isValueError || e.cls.isRuntimeError then schedulerError failed
  else e

/-- The exception of a revocation guard, as `_revalidate_runtime` re-raises it. -/
def revocationFailure (nodeId capability : String) (e : Raised) : Raised :=
  if e.cls == .keyError || e.cls.isValueError || e.cls.isRuntimeError then
    schedulerError ("SCHEDULER_REVOCATION_CHECK_FAILED:" ++ nodeId ++ ":" ++ capability)
  else e

/-- The first part of `_revalidate_runtime`, which reads no state. -/
def revalidateAuthority (cfg : SchedulerConfig σ F) (node : ExecutionNode F) : Except Raised Unit := do
  let rebound ← rethrow (fun e => e.cls == .executionPlanError)
    (schedulerError ("SCHEDULER_AUTHORITY_REVALIDATION_FAILED:" ++ node.nodeId)) do
      cfg.plan.validate cfg.parentAuthority
      node.rebindAuthority cfg.parentAuthority
  require (rebound.fingerprint = node.authorityFingerprint)
    (schedulerError ("SCHEDULER_AUTHORITY_FINGERPRINT_MISMATCH:" ++ node.nodeId))

/-- One capability of the node is not revoked. -/
def checkCapability (cfg : SchedulerConfig σ F) (node : ExecutionNode F) (capability : String) :
    Act (SchedulerWorld σ F) Raised PUnit := do
  let revoked ← SchedulerWorld.call ((cfg.isRevoked cfg.plan.taskId capability).mapError
    (revocationFailure node.nodeId capability))
  Act.lift (require (revoked = false)
    (schedulerError ("SCHEDULER_CAPABILITY_REVOKED:" ++ node.nodeId ++ ":" ++ capability)))

/-- `_revalidate_runtime`. -/
def revalidateRuntime (cfg : SchedulerConfig σ F) (node : ExecutionNode F) : Act (SchedulerWorld σ F) Raised PUnit := do
  Act.lift (revalidateAuthority cfg node)
  SchedulerWorld.call (cfg.assertActive.mapError (budgetFailure "SCHEDULER_BUDGET_REVALIDATION_FAILED"))
  let _ ← node.allowedTools.mapM (checkCapability cfg node)
  return ⟨⟩

/-- The ticket of a node: the provisional one with the id that it determines, validated. -/
def newTicket (plan : ExecutionPlan F) (node : ExecutionNode F) (dependencies : List (ExecutionObservation F))
    (dispatchSequence : Int) : Except Raised DispatchTicket := do
  let planFingerprint ← plan.fingerprint
  let nodeFingerprint ← node.fingerprint
  let fingerprints ← dependencies.mapM ExecutionObservation.fingerprint
  let provisional : DispatchTicket :=
    { ticketId := "dispatch:" ++ "000000000000000000000000", taskId := plan.taskId, planFingerprint
      nodeId := node.nodeId, nodeFingerprint, authorityFingerprint := node.authorityFingerprint
      dependencyObservationFingerprints := fingerprints, dispatchSequence
      executionLevel := node.executionLevel }
  let ticketId ← provisional.expectedId
  let ticket := { provisional with ticketId }
  ticket.validate
  return ticket

/-- A call into the repository, when there is one; any exception becomes `failed`. -/
def persist (cfg : SchedulerConfig σ F) (failed : String)
    (x : CheckpointRepository σ F → Act σ Raised PUnit) : Act (SchedulerWorld σ F) Raised PUnit :=
  match cfg.checkpointRepository with
  | none => return ⟨⟩
  | some repository => SchedulerWorld.call ((x repository).mapError fun _ => schedulerError failed)

/-- The assignments at the end of `issue_dispatch`. -/
def enterFlight (node : ExecutionNode F) (ticket : DispatchTicket) (w : SchedulerWorld σ F) : SchedulerWorld σ F :=
  { w with
    sched := { w.sched with
      approvedNodes := if node.approvalRequired then w.sched.approvedNodes ++ [node.nodeId] else w.sched.approvedNodes
      inFlight := PyDict.set w.sched.inFlight node.nodeId ticket }
    issued := w.issued ++ [ticket] }

/-- `self._dispatch_sequence += 1`. -/
def advanceSequence (w : SchedulerWorld σ F) : SchedulerWorld σ F :=
  { w with sched := { w.sched with dispatchSequence := w.sched.dispatchSequence + 1 } }

/-- `issue_dispatch`. -/
def issueDispatch (cfg : SchedulerConfig σ F) (nodeId : String) (approvalGranted : Bool) :
    Act (SchedulerWorld σ F) Raised DispatchTicket := do
  let w ← Act.get
  let (node, dependencies) ← Act.lift (admission cfg w.sched nodeId approvalGranted)
  revalidateRuntime cfg node
  SchedulerWorld.call (cfg.reserveStep.mapError (budgetFailure "SCHEDULER_BUDGET_RESERVATION_FAILED"))
  Act.modify advanceSequence
  let w ← Act.get
  let ticket ← Act.lift (newTicket cfg.plan node dependencies w.sched.dispatchSequence)
  persist cfg ("SCHEDULER_CHECKPOINT_DISPATCH_FAILED:" ++ nodeId) (·.recordDispatch ticket)
  Act.modify (enterFlight node ticket)
  return ticket

/-- `issue_ready`: the tickets of the nodes before one that fails stay issued. -/
def issueReady (cfg : SchedulerConfig σ F) (approvedNodes : List String) :
    Act (SchedulerWorld σ F) Raised (List DispatchTicket) := do
  let w ← Act.get
  let nodeIds ← Act.lift (readyNodeIds cfg w.sched approvedNodes)
  nodeIds.mapM fun nodeId => issueDispatch cfg nodeId (decide (nodeId ∈ approvedNodes))

/-! ## Observations and cancellation -/

/-- `self._in_flight.get(node_id)`, else `self._recovery_required.get(node_id)`. -/
def openTicket (s : SchedulerState F) (nodeId : String) : Option DispatchTicket :=
  (PyDict.get? s.inFlight nodeId).or (PyDict.get? s.recoveryRequired nodeId)

/-- The checks of `accept_observation`, up to the one of the whole set of observations. -/
def checkObservation (cfg : SchedulerConfig σ F) (s : SchedulerState F) (o : ExecutionObservation F) :
    Except Raised Unit := do
  let ticket ← orRaise (openTicket s o.nodeId) (schedulerError ("OBSERVATION_NODE_NOT_IN_FLIGHT:" ++ o.nodeId))
  rethrow (fun e => e.cls == .executionObservationError)
    (schedulerError ("SCHEDULER_OBSERVATION_REJECTED:" ++ o.nodeId)) (o.validate cfg.plan cfg.parentAuthority)
  require (o.nodeFingerprint = ticket.nodeFingerprint) (schedulerError "OBSERVATION_TICKET_NODE_MISMATCH")
  require (o.authorityFingerprint = ticket.authorityFingerprint)
    (schedulerError "OBSERVATION_TICKET_AUTHORITY_MISMATCH")
  let _ ← rethrow (fun e => e.cls == .runtimeSchedulerError)
    (schedulerError ("SCHEDULER_OBSERVATION_DECISION_REJECTED:" ++ o.nodeId))
    (RuntimeScheduler.evaluate cfg.taskContext cfg.plan cfg.parentAuthority
      (orderedObservations cfg.plan s ++ [o]) (sorted s.approvedNodes))
  return ⟨⟩

/-- The assignments at the end of `accept_observation`. -/
def settle (o : ExecutionObservation F) (w : SchedulerWorld σ F) : SchedulerWorld σ F :=
  { w with
    sched := { w.sched with
      observations := PyDict.set w.sched.observations o.nodeId o
      inFlight := PyDict.pop w.sched.inFlight o.nodeId
      recoveryRequired := PyDict.pop w.sched.recoveryRequired o.nodeId } }

/-- `accept_observation`. -/
def acceptObservation (cfg : SchedulerConfig σ F) (o : ExecutionObservation F) :
    Act (SchedulerWorld σ F) Raised (ExecutionObservation F) := do
  let w ← Act.get
  Act.lift (checkObservation cfg w.sched o)
  persist cfg ("SCHEDULER_CHECKPOINT_OBSERVATION_FAILED:" ++ o.nodeId) (·.recordObservation o)
  Act.modify (settle o)
  return o

/-- The assignments of `cancel`, made before the cancellation is persisted. -/
def markCancelled (reason : String) (w : SchedulerWorld σ F) : SchedulerWorld σ F :=
  { w with sched := { w.sched with cancelled := true, cancellationReason := some reason } }

/-- `cancel`. -/
def cancel (cfg : SchedulerConfig σ F) (reasonCode : String) : Act (SchedulerWorld σ F) Raised PUnit := do
  Act.lift (require (strip reasonCode ≠ "") (schedulerError "INVALID_CANCELLATION_REASON"))
  Act.modify (markCancelled (strip reasonCode))
  persist cfg "SCHEDULER_CHECKPOINT_CANCELLATION_FAILED" fun repository => do
    let planFingerprint ← Act.lift cfg.plan.fingerprint
    repository.recordCancellation cfg.plan.taskId planFingerprint (strip reasonCode)

/-! ## The control state -/

/-- The entries of `snapshot` that a call can change, and the configuration's. -/
structure SchedulerSnapshot where
  taskId : String
  taskContextFingerprint : String
  planFingerprint : String
  parentAuthorityFingerprint : String
  maxConcurrency : Int
  cancelled : Bool
  cancellationReason : Option String
  dispatchSequence : Int
  approvedNodeIds : List String
  inFlight : List String
  observations : List String
  /-- `recovery_required_ticket_ids`, when there is a checkpoint repository. -/
  recoveryRequiredTicketIds : Option (List String)
  deriving DecidableEq, Repr

/-- The values of a dictionary by node, in the order of the plan. -/
def inPlanOrder {α : Type} (plan : ExecutionPlan F) (d : PyDict.Dict α) : List α :=
  plan.nodes.filterMap fun n => PyDict.get? d n.nodeId

/-- `snapshot`. -/
def snapshot (cfg : SchedulerConfig σ F) (s : SchedulerState F) : Except Raised SchedulerSnapshot := do
  let taskContextFingerprint ← cfg.taskContext.fingerprint
  let planFingerprint ← cfg.plan.fingerprint
  let inFlight ← (inPlanOrder cfg.plan s.inFlight).mapM DispatchTicket.identityDigest
  let observations ← (inPlanOrder cfg.plan s.observations).mapM ExecutionObservation.fingerprint
  return { taskId := cfg.plan.taskId, taskContextFingerprint, planFingerprint
           parentAuthorityFingerprint := cfg.parentAuthority.fingerprint, maxConcurrency := cfg.maxConcurrency
           cancelled := s.cancelled, cancellationReason := s.cancellationReason
           dispatchSequence := s.dispatchSequence, approvedNodeIds := sorted (dedup s.approvedNodes), inFlight
           observations
           recoveryRequiredTicketIds := cfg.checkpointRepository.map fun _ =>
             (inPlanOrder cfg.plan s.recoveryRequired).map DispatchTicket.ticketId }

/-! ## Construction -/

/-- What the loop over the recovered dispatches has restored. -/
structure Restored where
  dispatches : PyDict.Dict DispatchTicket
  dispatchSequence : Int
  approvalNodes : List String

/-- One recovered dispatch. -/
def restoreDispatch (plan : ExecutionPlan F) (planFingerprint : String) (r : Restored) (t : DispatchTicket) :
    Except Raised Restored := do
  t.validate
  require (t.taskId = plan.taskId) (schedulerError "SCHEDULER_CHECKPOINT_DISPATCH_TASK_MISMATCH")
  require (t.planFingerprint = planFingerprint) (schedulerError "SCHEDULER_CHECKPOINT_DISPATCH_PLAN_MISMATCH")
  let node ← orRaise (plan.node? t.nodeId) (schedulerError ("SCHEDULER_CHECKPOINT_UNKNOWN_NODE:" ++ t.nodeId))
  let nodeFingerprint ← node.fingerprint
  require (t.nodeFingerprint = nodeFingerprint)
    (schedulerError ("SCHEDULER_CHECKPOINT_NODE_FINGERPRINT_MISMATCH:" ++ t.nodeId))
  require (t.authorityFingerprint = node.authorityFingerprint)
    (schedulerError ("SCHEDULER_CHECKPOINT_AUTHORITY_FINGERPRINT_MISMATCH:" ++ t.nodeId))
  require (t.executionLevel = node.executionLevel)
    (schedulerError ("SCHEDULER_CHECKPOINT_EXECUTION_LEVEL_MISMATCH:" ++ t.nodeId))
  require (PyDict.has r.dispatches t.nodeId = false)
    (schedulerError ("SCHEDULER_CHECKPOINT_DUPLICATE_NODE:" ++ t.nodeId))
  require (t.dispatchSequence ∉ r.dispatches.map fun e => e.2.dispatchSequence)
    (schedulerError ("SCHEDULER_CHECKPOINT_DUPLICATE_SEQUENCE:" ++ String.ofList (intText t.dispatchSequence)))
  return { dispatches := PyDict.set r.dispatches t.nodeId t
           dispatchSequence := max r.dispatchSequence t.dispatchSequence
           approvalNodes := if node.approvalRequired then r.approvalNodes ++ [node.nodeId] else r.approvalNodes }

/-- One recovered observation. -/
def restoreObservation (plan : ExecutionPlan F) (parent : TaskCapabilityAuthority)
    (dispatches : PyDict.Dict DispatchTicket) (observations : PyDict.Dict (ExecutionObservation F))
    (o : ExecutionObservation F) : Except Raised (PyDict.Dict (ExecutionObservation F)) := do
  require (PyDict.has observations o.nodeId = false)
    (schedulerError ("SCHEDULER_CHECKPOINT_DUPLICATE_OBSERVATION:" ++ o.nodeId))
  rethrow (fun e => e.cls == .executionObservationError)
    (schedulerError ("SCHEDULER_CHECKPOINT_OBSERVATION_REJECTED:" ++ o.nodeId)) (o.validate plan parent)
  let ticket ← orRaise (PyDict.get? dispatches o.nodeId)
    (schedulerError ("SCHEDULER_CHECKPOINT_OBSERVATION_WITHOUT_DISPATCH:" ++ o.nodeId))
  require (o.nodeFingerprint = ticket.nodeFingerprint)
    (schedulerError "SCHEDULER_CHECKPOINT_OBSERVATION_NODE_MISMATCH")
  require (o.authorityFingerprint = ticket.authorityFingerprint)
    (schedulerError "SCHEDULER_CHECKPOINT_OBSERVATION_AUTHORITY_MISMATCH")
  return PyDict.set observations o.nodeId o

/-- A recovered dispatch names the successful observations of its dependencies. -/
def checkDependencies (plan : ExecutionPlan F) (observations : PyDict.Dict (ExecutionObservation F))
    (entry : String × DispatchTicket) : Except Raised Unit := do
  let node ← orRaise (plan.node? entry.1) ⟨.keyError, entry.1⟩
  let expected ← node.dependsOn.mapM fun dependency => do
    let o ← orRaise ((PyDict.get? observations dependency).filter (·.status = "SUCCEEDED"))
      (schedulerError ("SCHEDULER_CHECKPOINT_DISPATCH_DEPENDENCY_MISSING:" ++ entry.1 ++ ":" ++ dependency))
    o.fingerprint
  require (entry.2.dependencyObservationFingerprints = expected)
    (schedulerError ("SCHEDULER_CHECKPOINT_DEPENDENCY_FINGERPRINT_MISMATCH:" ++ entry.1))

/-- The recovered cancellation. -/
def restoreCancellation (reason : Option String) : Except Raised (Option String) :=
  match reason with
  | none => return none
  | some text => do
    require (strip text ≠ "") (schedulerError "SCHEDULER_CHECKPOINT_CANCELLATION_REASON_INVALID")
    return some (strip text)

/-- The dispatches with no observation. -/
def unfinished (dispatches : PyDict.Dict DispatchTicket) (observations : PyDict.Dict (ExecutionObservation F)) :
    PyDict.Dict DispatchTicket :=
  dispatches.filter fun e => !PyDict.has observations e.1

/-- The recovered ticket ids are, without repetition, those of the unfinished dispatches. -/
def checkRecoverySet (ids : List String) (open' : PyDict.Dict DispatchTicket) : Except Raised Unit :=
  require (ids.Nodup ∧ (∀ id ∈ ids, id ∈ open'.map fun e => e.2.ticketId) ∧ ∀ e ∈ open', e.2.ticketId ∈ ids)
    (schedulerError "SCHEDULER_CHECKPOINT_RECOVERY_SET_MISMATCH")

/-- `_restore_checkpoint` once the repository has loaded `recovered`. -/
def restoreFrom (cfg : SchedulerConfig σ F) (planFingerprint : String) (recovered : RecoveredExecutionState F) :
    Except Raised (SchedulerState F) := do
  require (recovered.taskId = cfg.plan.taskId) (schedulerError "SCHEDULER_CHECKPOINT_TASK_MISMATCH")
  require (recovered.planFingerprint = planFingerprint) (schedulerError "SCHEDULER_CHECKPOINT_PLAN_MISMATCH")
  let restored ← recovered.dispatches.foldlM (restoreDispatch cfg.plan planFingerprint) ⟨[], 0, []⟩
  let unexpected := sorted ((dedup cfg.checkpointReapprovedNodes).filter (· ∉ restored.approvalNodes))
  require (unexpected = [])
    (schedulerError ("SCHEDULER_CHECKPOINT_REAPPROVAL_NOT_APPLICABLE:" ++ join ',' unexpected))
  let missing := sorted (restored.approvalNodes.filter (· ∉ cfg.checkpointReapprovedNodes))
  require (missing = []) (schedulerError ("SCHEDULER_CHECKPOINT_REAPPROVAL_REQUIRED:" ++ join ',' missing))
  let observations ← recovered.observations.foldlM
    (restoreObservation cfg.plan cfg.parentAuthority restored.dispatches) []
  let _ ← restored.dispatches.mapM (checkDependencies cfg.plan observations)
  let recoveryRequired := unfinished restored.dispatches observations
  checkRecoverySet recovered.recoveryRequiredTicketIds recoveryRequired
  let reason ← restoreCancellation recovered.cancellationReason
  let s : SchedulerState F :=
    { observations, recoveryRequired, approvedNodes := restored.approvalNodes
      dispatchSequence := restored.dispatchSequence, cancelled := reason.isSome, cancellationReason := reason }
  let _ ← rethrow (fun e => e.cls == .runtimeSchedulerError)
    (schedulerError "SCHEDULER_CHECKPOINT_OBSERVATION_SET_INVALID")
    (RuntimeScheduler.evaluate cfg.taskContext cfg.plan cfg.parentAuthority (orderedObservations cfg.plan s)
      (sorted s.approvedNodes))
  return s

/-- The checks of `__init__` before it assigns anything. -/
def checkConfig (cfg : SchedulerConfig σ F) : Except Raised Unit := do
  require (1 ≤ cfg.maxConcurrency ∧ cfg.maxConcurrency ≤ maxSchedulerConcurrency)
    (schedulerError "INVALID_MAX_CONCURRENCY")
  require (∀ id ∈ cfg.checkpointReapprovedNodes, strip id ≠ "") (schedulerError "INVALID_CHECKPOINT_REAPPROVED_NODE")
  require (cfg.checkpointRepository.isNone → cfg.checkpointReapprovedNodes = [])
    (schedulerError "CHECKPOINT_REAPPROVALS_REQUIRE_REPOSITORY")
  let _ ← rethrow (fun e => e.cls == .runtimeSchedulerError)
    (schedulerError "SCHEDULER_CANONICAL_ADMISSION_REVALIDATION_FAILED")
    (RuntimeScheduler.evaluate cfg.taskContext cfg.plan cfg.parentAuthority [] [])
  return ⟨⟩

/-- `initialize` and `load` of the repository. -/
def loadCheckpoint (cfg : SchedulerConfig σ F) (repository : CheckpointRepository σ F) :
    Act σ Raised (RecoveredExecutionState F) := do
  let unknown := sorted ((dedup cfg.checkpointReapprovedNodes).filter fun id => (cfg.plan.node? id).isNone)
  Act.lift (require (unknown = [])
    (schedulerError ("SCHEDULER_CHECKPOINT_REAPPROVAL_UNKNOWN_NODE:" ++ join ',' unknown)))
  Act.mapError (fun _ => schedulerError "SCHEDULER_CHECKPOINT_RESTORE_FAILED") do
    repository.initializeTables
    let planFingerprint ← Act.lift cfg.plan.fingerprint
    repository.load cfg.plan.taskId planFingerprint

/-- `ExecutionScheduler(...)`: the new scheduler, and the tickets it took over. -/
def construct (cfg : SchedulerConfig σ F) : Act σ Raised (SchedulerState F × List DispatchTicket) := do
  Act.lift (checkConfig cfg)
  match cfg.checkpointRepository with
  | none => return ({}, [])
  | some repository => do
    let recovered ← loadCheckpoint cfg repository
    let planFingerprint ← Act.lift cfg.plan.fingerprint
    let s ← Act.lift (restoreFrom cfg planFingerprint recovered)
    return (s, recovered.dispatches)

end ExecutionScheduler

end ThreeAgent
