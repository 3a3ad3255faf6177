/-
How the task store names its tasks (`store.py`): the day of the creation and the
next number of that day.

The next number is read off the greatest id of the day, as texts are ordered.
Of the database, the two tables that `create_task` writes are modelled, in
insertion order; an operation that raises leaves them as they were.
-/
import ThreeAgent.Errors
import ThreeAgent.Lib.Clock
import ThreeAgent.Lib.Text

namespace ThreeAgent.TaskIds

open PyText Outcome Clock

/-- A day of the calendar, in a year of four digits. -/
structure CalendarDay where
  year : Nat
  month : Nat
  day : Nat
  valid : 1000 ≤ year ∧ year ≤ 9999 ∧ 1 ≤ month ∧ month ≤ 12 ∧ 1 ≤ day ∧ day ≤ 31
  deriving DecidableEq

/-- `strftime("%Y%m%d")`. -/
def CalendarDay.stamp (d : CalendarDay) : List Char := padded 4 d.year ++ padded 2 d.month ++ padded 2 d.day

/-- The time zone of the store: the day of an instant there, and the instant's ISO text. -/
structure StoreZone where
  day : Int → CalendarDay
  iso : Int → String

/-- A row of `tasks`. -/
structure TaskRow where
  taskId : String
  title : String
  request : String
  status : String
  createdAt : String
  updatedAt : String
  deriving DecidableEq, Repr

/-- A row of `activities`. -/
structure ActivityRow where
  timestamp : String
  taskId : Option String
  agentId : String
  action : String
  status : String
  details : String
  deriving DecidableEq, Repr

structure TaskTables where
  tasks : List TaskRow := []
  activities : List ActivityRow := []
  deriving DecidableEq, Repr

def TaskTables.ids (s : TaskTables) : List String := s.tasks.map TaskRow.taskId

/-- A character as `LIKE` compares it: ASCII letters without their case. -/
def likeFold (c : Char) : Char := if 'A' ≤ c ∧ c ≤ 'Z' then Char.ofNat (c.toNat + 32) else c

/-- `text LIKE head || '%'`, for a head without wildcards. -/
def isLike (head text : String) : Bool := (head.toList.map likeFold).isPrefixOf (text.toList.map likeFold)

/-- `f"{n:04d}"`. -/
def fourDigits (n : Int) : String :=
  String.ofList (if 0 ≤ n then padded 4 n else '-' :: padded 3 (-n))

/-- `_next_task_id`: the `SELECT` takes the last of the day's ids in their order as texts. -/
def nextTaskId (zone : StoreZone) (s : TaskTables) (now : Int) : Except Raised String := do
  let head := "TASK-" ++ String.ofList (zone.day now).stamp ++ "-"
  match (sorted (s.ids.filter (isLike head))).getLast? with
  | none => return head ++ fourDigits 1
  | some id => do
    let last := (split '-' id).getLastD ""
    let n ← orRaise (int? last) ⟨.valueError, "invalid literal for int() with base 10: '" ++ last ++ "'"⟩
    return head ++ fourDigits (n + 1)

/-- A call of `create_task`, with what the clock shows at the three places where it is read. -/
structure CreateCall where
  title : String
  request : String
  createdAt : Int
  namedAt : Int
  recordedAt : Int
  deriving DecidableEq, Repr

/-- `create_task`; `task_id` is the primary key of its table. -/
def createTask (zone : StoreZone) (s : TaskTables) (c : CreateCall) : Except Raised (TaskRow × TaskTables) := do
  let now := zone.iso c.createdAt
  let taskId ← nextTaskId zone s c.namedAt
  let task : TaskRow := ⟨taskId, c.title, c.request, "NEW", now, now⟩
  require (taskId ∉ s.ids) ⟨.integrityError, "UNIQUE constraint failed: tasks.task_id"⟩
  let activity : ActivityRow :=
    ⟨zone.iso c.recordedAt, some taskId, "harness", "task_created", "ok", c.title⟩
  return (task, ⟨s.tasks ++ [task], s.activities ++ [activity]⟩)

/-- The calls of a run, one after the other, each with the id it returns or what it raises. -/
def run (zone : StoreZone) : TaskTables → List CreateCall → List (Except Raised String)
  | _, [] => []
  | s, c :: cs =>
    match createTask zone s c with
    | .ok (task, s') => .ok task.taskId :: run zone s' cs
    | .error e => .error e :: run zone s cs

end ThreeAgent.TaskIds
