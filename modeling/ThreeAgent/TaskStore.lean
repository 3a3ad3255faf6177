/-
The tables of the task store's database (`store.py` and the tables that the
checkpoint, writer lease and dispatch budget modules create in it), each a
list of its rows in insertion order. The keys of a table are not enforced
here: the operations check them before they insert.

A transaction is a function that returns the database it commits, or the
exception that rolls it back.
-/
import Mathlib.Data.List.Sort
import ThreeAgent.Errors

namespace ThreeAgent

/-- `execution_dispatch_checkpoints`. -/
structure DispatchRow where
  ticketId : String
  taskId : String
  planFingerprint : String
  nodeId : String
  dispatchSequence : Int
  ticketJson : String
  ticketSha256 : String
  recordedAt : String
  deriving DecidableEq, Repr

/-- `execution_observation_checkpoints`. -/
structure ObservationRow where
  observationId : String
  taskId : String
  planFingerprint : String
  nodeId : String
  observationJson : String
  observationSha256 : String
  recordedAt : String
  deriving DecidableEq, Repr

/-- `execution_checkpoint_events`. -/
structure EventRow where
  sequence : Nat
  taskId : String
  planFingerprint : String
  eventType : String
  subjectId : String
  payloadJson : String
  payloadSha256 : String
  previousHash : String
  eventHash : String
  recordedAt : String
  deriving DecidableEq, Repr

/-- `runtime_writer_leases`. -/
structure LeaseRow where
  taskId : String
  planFingerprint : String
  runId : String
  generation : Int
  status : String
  leaseJson : String
  leaseSha256 : String
  updatedAt : String
  deriving DecidableEq, Repr

/-- `runtime_writer_lease_events`. -/
structure LeaseEventRow where
  sequence : Nat
  taskId : String
  planFingerprint : String
  eventType : String
  runId : String
  generation : Int
  payloadJson : String
  payloadSha256 : String
  previousHash : String
  eventHash : String
  recordedAt : String
  deriving DecidableEq, Repr

/-- `task_execution_budget_usage`. -/
structure BudgetRow where
  taskId : String
  maxSteps : Int
  maxToolCalls : Int
  maxRetries : Int
  maxEscalations : Int
  maxWallTimeMs : Int
  stepsUsed : Int
  toolCallsUsed : Int
  retriesUsed : Int
  escalationsUsed : Int
  deadlineAt : String
  boundAt : String
  updatedAt : String
  deriving DecidableEq, Repr

/-- `execution_dispatch_budget_reservations`. -/
structure ReservationRow where
  reservationId : String
  taskId : String
  planFingerprint : String
  nodeId : String
  reservationJson : String
  reservationSha256 : String
  reservedAt : String
  deriving DecidableEq, Repr

/-- The database. `eventSequence` and `leaseEventSequence` are the last numbers that AUTOINCREMENT
gave out, the rows of `tasks` are their ids. -/
structure TaskStore where
  tasks : List String := []
  dispatches : List DispatchRow := []
  observations : List ObservationRow := []
  events : List EventRow := []
  eventSequence : Nat := 0
  leases : List LeaseRow := []
  leaseEvents : List LeaseEventRow := []
  leaseEventSequence : Nat := 0
  budgets : List BudgetRow := []
  reservations : List ReservationRow := []
  deriving DecidableEq, Repr

namespace TaskStore

/-- `... WHERE task_id = ? AND plan_fingerprint = ?`, in insertion order. -/
def dispatchesOf (s : TaskStore) (taskId planFingerprint : String) : List DispatchRow :=
  s.dispatches.filter fun r => r.taskId = taskId ∧ r.planFingerprint = planFingerprint

def observationsOf (s : TaskStore) (taskId planFingerprint : String) : List ObservationRow :=
  s.observations.filter fun r => r.taskId = taskId ∧ r.planFingerprint = planFingerprint

/-- The events of a task and plan `ORDER BY sequence ASC`. -/
def eventsOf (s : TaskStore) (taskId planFingerprint : String) : List EventRow :=
  (s.events.filter fun e => e.taskId = taskId ∧ e.planFingerprint = planFingerprint).insertionSort
    fun a b => a.sequence ≤ b.sequence

/-- `... AND node_id = ?`. -/
def dispatchOf? (s : TaskStore) (taskId planFingerprint nodeId : String) : Option DispatchRow :=
  s.dispatches.find? fun r => r.taskId = taskId ∧ r.planFingerprint = planFingerprint ∧ r.nodeId = nodeId

def observationOf? (s : TaskStore) (taskId planFingerprint nodeId : String) : Option ObservationRow :=
  s.observations.find? fun r => r.taskId = taskId ∧ r.planFingerprint = planFingerprint ∧ r.nodeId = nodeId

end TaskStore

end ThreeAgent
