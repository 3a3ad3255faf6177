/-
The execution budget of a task (`store.py`, `linked_execution_budget.py`): the
reservation against one task's row, and the reservation of a child task that
is charged to its parent's row in the same transaction.

How the text of a deadline is read (`datetime.fromisoformat`, with a naive
time placed in the store's zone) is the parameter `deadlineOf`, `none` for the
`ValueError`; nothing here depends on which texts it accepts.
-/
import ThreeAgent.TaskStore

namespace ThreeAgent

open Outcome

/-- One value for each of the four counters of a budget. -/
structure Counters where
  steps : Int
  toolCalls : Int
  retries : Int
  escalations : Int
  deriving DecidableEq, Repr

/-- `datetime.now(TZ)`: the instant and its ISO text. -/
structure Stamp where
  instant : Int
  text : String

namespace BudgetRow

def used (row : BudgetRow) : Counters := ⟨row.stepsUsed, row.toolCallsUsed, row.retriesUsed, row.escalationsUsed⟩

def maxima (row : BudgetRow) : Counters := ⟨row.maxSteps, row.maxToolCalls, row.maxRetries, row.maxEscalations⟩

/-- `SET steps_used = ?, tool_calls_used = ?, retries_used = ?, escalations_used = ?, updated_at = ?`. -/
def withUsed (row : BudgetRow) (u : Counters) (updatedAt : String) : BudgetRow :=
  { row with
    stepsUsed := u.steps, toolCallsUsed := u.toolCalls, retriesUsed := u.retries
    escalationsUsed := u.escalations, updatedAt }

end BudgetRow

namespace TaskStore

/-- `SELECT * FROM task_execution_budget_usage WHERE task_id = ?`. -/
def budgetOf? (s : TaskStore) (taskId : String) : Option BudgetRow := s.budgets.find? (·.taskId = taskId)

/-- `UPDATE task_execution_budget_usage ... WHERE task_id = ?`. -/
def updateBudget (s : TaskStore) (taskId : String) (f : BudgetRow → BudgetRow) : TaskStore :=
  { s with budgets := s.budgets.map fun row => if row.taskId = taskId then f row else row }

end TaskStore

namespace ExecutionBudget

/-- A `ValueError`. -/
def fail (code : String) : Raised := ⟨.valueError, code⟩

/-- `_budget_value`, `_delta`. -/
def budgetValue (value : Int) (field : String) : Except Raised Int := do
  require (0 ≤ value) (fail (field ++ " must be an integer >= 0"))
  return value

/-- The four deltas of a reservation, each checked. -/
def deltas (d : Counters) : Except Raised Counters := do
  let steps ← budgetValue d.steps "steps"
  let toolCalls ← budgetValue d.toolCalls "tool_calls"
  let retries ← budgetValue d.retries "retries"
  let escalations ← budgetValue d.escalations "escalations"
  return ⟨steps, toolCalls, retries, escalations⟩

/-- `if step_delta or tool_delta or retry_delta or escalation_delta`. -/
def anyDelta (d : Counters) : Prop := d.steps ≠ 0 ∨ d.toolCalls ≠ 0 ∨ d.retries ≠ 0 ∨ d.escalations ≠ 0

instance (d : Counters) : Decidable (anyDelta d) := inferInstanceAs (Decidable (_ ∨ _))

section

variable (deadlineOf : String → Option Int)

/-- `_deadline_expired`. -/
def deadlineExpired (deadlineAt : String) (now : Stamp) : Except Raised Bool := do
  let deadline ← orRaise (deadlineOf deadlineAt) (fail "TASK_EXECUTION_BUDGET_DEADLINE_INVALID")
  return decide (deadline ≤ now.instant)

/-- `TaskStore.reserve_task_execution_budget`, as far as its transaction. -/
def reserveTaskExecutionBudget (now : Stamp) (taskId : String) (d : Counters) (s : TaskStore) :
    Except Raised TaskStore := do
  let d ← deltas d
  let row ← orRaise (s.budgetOf? taskId) (fail "TASK_EXECUTION_BUDGET_NOT_BOUND")
  let expired ← deadlineExpired deadlineOf row.deadlineAt now
  require (expired = false) (fail "TASK_WALL_TIME_BUDGET_EXHAUSTED")
  let newSteps := row.stepsUsed + d.steps
  let newTools := row.toolCallsUsed + d.toolCalls
  let newRetries := row.retriesUsed + d.retries
  let newEscalations := row.escalationsUsed + d.escalations
  require (newSteps ≤ row.maxSteps) (fail "TASK_STEP_BUDGET_EXHAUSTED")
  require (newTools ≤ row.maxToolCalls) (fail "TASK_TOOL_CALL_BUDGET_EXHAUSTED")
  require (newRetries ≤ row.maxRetries) (fail "MODEL_RETRY_BUDGET_EXHAUSTED")
  require (newEscalations ≤ row.maxEscalations) (fail "MODEL_ESCALATION_BUDGET_EXHAUSTED")
  if anyDelta d then
    return s.updateBudget taskId fun row => row.withUsed ⟨newSteps, newTools, newRetries, newEscalations⟩ now.text
  else return s

/-! ## Linked budgets -/

/-- `_BUDGET_EXHAUSTION_CODES`. -/
def exhaustionCodes : List String :=
  ["TASK_STEP_BUDGET_EXHAUSTED", "TASK_TOOL_CALL_BUDGET_EXHAUSTED", "TASK_WALL_TIME_BUDGET_EXHAUSTED",
   "MODEL_RETRY_BUDGET_EXHAUSTED", "MODEL_ESCALATION_BUDGET_EXHAUSTED"]

/-- `_project`: what the row's counters would be. -/
def project (row : BudgetRow) (d : Counters) (now : Stamp) : Except Raised Counters := do
  let deadline ← orRaise (deadlineOf row.deadlineAt) (fail "TASK_EXECUTION_BUDGET_DEADLINE_INVALID")
  require (now.instant < deadline) (fail "TASK_WALL_TIME_BUDGET_EXHAUSTED")
  let projected : Counters :=
    ⟨row.stepsUsed + d.steps, row.toolCallsUsed + d.toolCalls, row.retriesUsed + d.retries,
      row.escalationsUsed + d.escalations⟩
  require (projected.steps ≤ row.maxSteps) (fail "TASK_STEP_BUDGET_EXHAUSTED")
  require (projected.toolCalls ≤ row.maxToolCalls) (fail "TASK_TOOL_CALL_BUDGET_EXHAUSTED")
  require (projected.retries ≤ row.maxRetries) (fail "MODEL_RETRY_BUDGET_EXHAUSTED")
  require (projected.escalations ≤ row.maxEscalations) (fail "MODEL_ESCALATION_BUDGET_EXHAUSTED")
  return projected

/-- `LinkedTaskExecutionBudgetState`, as `from_states` builds it: the tasks are distinct. -/
structure LinkedTaskExecutionBudgetState where
  parentTaskId : String
  taskId : String
  distinct : parentTaskId ≠ taskId

/-- `reserve_transaction`. -/
def reserveTransaction (link : LinkedTaskExecutionBudgetState) (now : Stamp) (d : Counters) (s : TaskStore) :
    Except Raised TaskStore := do
  let parent ← orRaise (s.budgetOf? link.parentTaskId) (fail "PARENT_TASK_EXECUTION_BUDGET_NOT_BOUND")
  let child ← orRaise (s.budgetOf? link.taskId) (fail "TASK_EXECUTION_BUDGET_NOT_BOUND")
  let parentNext ← project deadlineOf parent d now
  let childNext ← project deadlineOf child d now
  if anyDelta d then
    return (s.updateBudget link.parentTaskId fun row => row.withUsed parentNext now.text).updateBudget
      link.taskId fun row => row.withUsed childNext now.text
  else return s

/-- An exhausted budget is raised as `ExecutionBudgetExceeded`. -/
def asExceeded (x : Except Raised TaskStore) : Except Raised TaskStore :=
  match x with
  | .ok s => .ok s
  | .error e =>
    if e.cls.isValueError ∧ e.code ∈ exhaustionCodes then .error ⟨.executionBudgetExceeded, e.code⟩ else .error e

/-- `LinkedTaskExecutionBudgetState.reserve`. -/
def LinkedTaskExecutionBudgetState.reserve (link : LinkedTaskExecutionBudgetState) (now : Stamp) (d : Counters)
    (s : TaskStore) : Except Raised TaskStore := do
  let d ← deltas d
  asExceeded (reserveTransaction deadlineOf link now d s)

end

end ExecutionBudget

end ThreeAgent
