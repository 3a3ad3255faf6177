/-
The harness checkpoints (`harness_checkpoint.py`): immutable records of where
a task stands, in a table of the task store's database, and the one a task is
resumed from. The table keeps the text of a checkpoint beside the columns it
is looked up by; the rows are ordered by the text of `created_at`.
-/
import ThreeAgent.HarnessMemory

namespace ThreeAgent.HarnessCheckpoints

open PyText Outcome PyJson

/-- `HARNESS_CHECKPOINT_SCHEMA`. -/
def harnessCheckpointSchema : String := "workspace-harness-checkpoint/v1"

/-- `HarnessCheckpointError(code)`. -/
def fail (code : String) : Raised := ⟨.harnessCheckpointError, code⟩

/-! ## Fields -/

/-- `_compact_id`. -/
def compactId (value field : String) : Except Raised Unit :=
  require (value = strip value ∧ idRe value = true) (invalidField .harnessCheckpointError field)

/-- `_single_line`. -/
def singleLine (value field : String) (maxLen : Nat) : Except Raised Unit :=
  checkSingleLine .harnessCheckpointError value field maxLen

/-- `_timestamp`: the text of an aware time. -/
def timestamp (F : Type) [PyRuntime F] (value field : String) : Except Raised Unit := do
  singleLine value field 64
  let parsed ← orRaise (PyRuntime.fromIso F (zuluOffset value)) (invalidField .harnessCheckpointError field)
  require (parsed.offset ≠ none) (fail (upper field ++ "_MUST_BE_TIMEZONE_AWARE"))

/-- `_string_tuple`. -/
def stringTuple (value : List String) (field : String) (maxItems maxItemLen : Nat) : Except Raised Unit := do
  require (value.length ≤ maxItems) (fail (upper field ++ "_TOO_MANY_ITEMS"))
  value.forM (singleLine · field maxItemLen)
  require value.Nodup (fail ("DUPLICATE_" ++ upper field))

/-! ## Checkpoints -/

structure HarnessCheckpoint where
  checkpointId : String
  projectId : String
  conversationId : String
  taskId : String
  goal : String
  currentState : String
  completed : List String := []
  openTasks : List String := []
  decisions : List String := []
  constraints : List String := []
  knownFailures : List String := []
  importantEntities : List String := []
  latestEvidence : List String := []
  nextAction : String := ""
  sourceRefs : List String := []
  createdAt : String
  schemaVersion : String := harnessCheckpointSchema
  deriving DecidableEq, Repr

namespace HarnessCheckpoint

variable (F : Type) [PyRuntime F]

def validate (c : HarnessCheckpoint) : Except Raised Unit := do
  compactId c.checkpointId "checkpoint_id"
  compactId c.projectId "project_id"
  compactId c.conversationId "conversation_id"
  compactId c.taskId "task_id"
  singleLine c.goal "goal" 4096
  singleLine c.currentState "current_state" 8192
  stringTuple c.completed "completed" 256 1024
  stringTuple c.openTasks "open_tasks" 256 1024
  stringTuple c.decisions "decisions" 256 1024
  stringTuple c.constraints "constraints" 256 1024
  stringTuple c.knownFailures "known_failures" 256 1024
  stringTuple c.importantEntities "important_entities" 256 1024
  stringTuple c.latestEvidence "latest_evidence" 256 1024
  singleLine c.nextAction "next_action" 4096
  stringTuple c.sourceRefs "source_refs" 512 512
  require (c.sourceRefs ≠ []) (fail "CHECKPOINT_SOURCE_REFS_REQUIRED")
  timestamp F c.createdAt "created_at"
  require (c.schemaVersion = harnessCheckpointSchema) (fail "CHECKPOINT_SCHEMA_VERSION_MISMATCH")

/-- The dictionary of `canonical_dict`. -/
def toDict (c : HarnessCheckpoint) : Json F :=
  .dict [
    ("schema_version", .str c.schemaVersion), ("checkpoint_id", .str c.checkpointId), ("project_id", .str c.projectId),
    ("conversation_id", .str c.conversationId), ("task_id", .str c.taskId), ("goal", .str c.goal),
    ("current_state", .str c.currentState), ("completed", .strs c.completed), ("open_tasks", .strs c.openTasks),
    ("decisions", .strs c.decisions), ("constraints", .strs c.constraints), ("known_failures", .strs c.knownFailures),
    ("important_entities", .strs c.importantEntities), ("latest_evidence", .strs c.latestEvidence),
    ("next_action", .str c.nextAction), ("source_refs", .strs c.sourceRefs), ("created_at", .str c.createdAt)]

/-- `canonical_dict`. -/
def canonicalDict (c : HarnessCheckpoint) : Except Raised (Json F) := do
  c.validate F
  return c.toDict F

def fingerprint (c : HarnessCheckpoint) : Except Raised String := do
  let payload ← c.canonicalDict F
  digestOf (fail "CHECKPOINT_NOT_CANONICAL_JSON") payload

end HarnessCheckpoint

/-! ## The table -/

/-- `harness_checkpoints`. -/
structure CheckpointRow where
  checkpointId : String
  schemaVersion : String
  projectId : String
  conversationId : String
  taskId : String
  checkpointJson : String
  checkpointSha256 : String
  createdAt : String

/-- The table in insertion order; `checkpoint_id` is its primary key, and triggers refuse updates and deletions. -/
structure Table where
  rows : List CheckpointRow := []
  distinct : (rows.map (·.checkpointId)).Nodup := by simp

/-- The row of an id. -/
def Table.row? (db : Table) (checkpointId : String) : Option CheckpointRow := db.rows.find? (·.checkpointId = checkpointId)

/-- An `INSERT` of a row whose id is free. -/
def Table.insert (db : Table) (row : CheckpointRow) (hfree : db.row? row.checkpointId = none) : Table where
  rows := db.rows ++ [row]
  distinct := by
    rw [List.map_append, List.nodup_append]
    refine ⟨db.distinct, List.nodup_singleton _, ?_⟩
    intro id hid id' hid' heq
    obtain ⟨r, hr, rfl⟩ := List.mem_map.mp hid
    rw [List.map_singleton, List.mem_singleton] at hid'
    have hnone := List.find?_eq_none.mp hfree r hr
    simp [heq, hid'] at hnone

section Operations

variable (F : Type) [PyRuntime F]

/-- `required_text`. -/
def requiredText (payload : Json F) (key : String) : Except Raised String :=
  match payload.get? key with
  | some (.str s) => return s
  | _ => throw (fail "CHECKPOINT_INTEGRITY_FAILED:SHAPE_INVALID")

/-- `required_string_list`. -/
def requiredStringList (payload : Json F) (key : String) : Except Raised (List String) :=
  match payload.get? key with
  | some (.arr items) => items.mapM fun item =>
    match item with
    | .str s => return s
    | _ => throw (fail "CHECKPOINT_INTEGRITY_FAILED:SHAPE_INVALID")
  | _ => throw (fail "CHECKPOINT_INTEGRITY_FAILED:SHAPE_INVALID")

/-- The checkpoint of a payload. -/
def ofPayload (payload : Json F) : Except Raised HarnessCheckpoint := do
  let checkpointId ← requiredText F payload "checkpoint_id"
  let projectId ← requiredText F payload "project_id"
  let conversationId ← requiredText F payload "conversation_id"
  let taskId ← requiredText F payload "task_id"
  let goal ← requiredText F payload "goal"
  let currentState ← requiredText F payload "current_state"
  let completed ← requiredStringList F payload "completed"
  let openTasks ← requiredStringList F payload "open_tasks"
  let decisions ← requiredStringList F payload "decisions"
  let constraints ← requiredStringList F payload "constraints"
  let knownFailures ← requiredStringList F payload "known_failures"
  let importantEntities ← requiredStringList F payload "important_entities"
  let latestEvidence ← requiredStringList F payload "latest_evidence"
  let nextAction ← requiredText F payload "next_action"
  let sourceRefs ← requiredStringList F payload "source_refs"
  let createdAt ← requiredText F payload "created_at"
  let schemaVersion ← requiredText F payload "schema_version"
  return {
    checkpointId, projectId, conversationId, taskId, goal, currentState, completed, openTasks, decisions, constraints
    knownFailures, importantEntities, latestEvidence, nextAction, sourceRefs, createdAt, schemaVersion }

/-- A `HarnessCheckpointError`. -/
def isCheckpointError (e : Raised) : Bool := e.cls = .harnessCheckpointError

/-- `_from_row`. -/
def fromRow (row : CheckpointRow) : Except Raised HarnessCheckpoint := do
  let payload : Json F ← orRaise (loads row.checkpointJson) (fail "CHECKPOINT_INTEGRITY_FAILED:JSON_INVALID")
  require (payload.isDict = true) (fail "CHECKPOINT_INTEGRITY_FAILED:NOT_OBJECT")
  let checkpoint ← ofPayload F payload
  rethrow isCheckpointError (fail "CHECKPOINT_INTEGRITY_FAILED:RECORD_INVALID") (checkpoint.validate F)
  require (checkpoint.checkpointId = row.checkpointId ∧ checkpoint.projectId = row.projectId ∧
    checkpoint.conversationId = row.conversationId ∧ checkpoint.taskId = row.taskId ∧
    checkpoint.schemaVersion = row.schemaVersion ∧ checkpoint.createdAt = row.createdAt)
    (fail "CHECKPOINT_INTEGRITY_FAILED:SCOPE_MISMATCH")
  let fingerprint ← checkpoint.fingerprint F
  require (fingerprint = row.checkpointSha256) (fail "CHECKPOINT_INTEGRITY_FAILED:SHA256_MISMATCH")
  return checkpoint

/-- The check of `save` on the time of a checkpoint: not more than five minutes ahead of the clock. -/
def checkNotFuture (now : Int) (createdAt : String) : Except Raised Unit := do
  let parsed ← HarnessMemory.asDatetime F createdAt
  let instant ← orRaise parsed.instant? ⟨.typeError, "can't compare offset-naive and offset-aware datetimes"⟩
  require (instant ≤ now + 300000000) (fail "CHECKPOINT_CREATED_AT_IN_FUTURE")

/-- `save` at an instant, with the ids of the tasks table: the table it commits, and the fingerprint it returns. -/
def save (now : Int) (tasks : List String) (checkpoint : HarnessCheckpoint) (db : Table) : Except Raised (Table × String) := do
  checkpoint.validate F
  checkNotFuture F now checkpoint.createdAt
  require (checkpoint.taskId ∈ tasks) (fail "CHECKPOINT_TASK_SCOPE_UNKNOWN")
  let payload ← checkpoint.canonicalDict F
  let fingerprint ← checkpoint.fingerprint F
  match hrow : db.row? checkpoint.checkpointId with
  | some existing =>
    let stored ← fromRow F existing
    let known ← stored.fingerprint F
    require (known = fingerprint) (fail "CHECKPOINT_ID_CONFLICT")
    return (db, fingerprint)
  | none =>
    let checkpointJson ← canonicalText (fail "CHECKPOINT_NOT_CANONICAL_JSON") payload
    let row : CheckpointRow := {
      checkpointId := checkpoint.checkpointId
      schemaVersion := checkpoint.schemaVersion
      projectId := checkpoint.projectId
      conversationId := checkpoint.conversationId
      taskId := checkpoint.taskId
      checkpointJson
      checkpointSha256 := fingerprint
      createdAt := checkpoint.createdAt }
    return (db.insert row hrow, fingerprint)

/-- The `WHERE` of the queries. -/
def inScope (projectId : String) (conversationId taskId : Option String) (row : CheckpointRow) : Bool :=
  row.projectId = projectId && conversationId.all (row.conversationId = ·) && taskId.all (row.taskId = ·)

/-- `ORDER BY created_at, checkpoint_id`. -/
def Earlier (a b : CheckpointRow) : Prop :=
  a.createdAt < b.createdAt ∨ a.createdAt = b.createdAt ∧ a.checkpointId ≤ b.checkpointId

instance : DecidableRel Earlier := fun _ _ => inferInstanceAs (Decidable (_ ∨ _))

/-- `list_checkpoints`. -/
def listCheckpoints (db : Table) (projectId : String) (conversationId taskId : Option String) :
    Except Raised (List HarnessCheckpoint) := do
  compactId projectId "project_id"
  conversationId.elim (pure ⟨⟩) (compactId · "conversation_id")
  taskId.elim (pure ⟨⟩) (compactId · "task_id")
  ((db.rows.filter (inScope projectId conversationId taskId)).insertionSort Earlier).mapM (fromRow F)

/-- `latest`: `ORDER BY created_at DESC, checkpoint_id DESC LIMIT 1`. -/
def latest (db : Table) (projectId conversationId taskId : String) : Except Raised (Option HarnessCheckpoint) := do
  compactId projectId "project_id"
  compactId conversationId "conversation_id"
  compactId taskId "task_id"
  let rows := (db.rows.filter (inScope projectId (some conversationId) (some taskId))).insertionSort fun a b => Earlier b a
  match rows.head? with
  | some row => some <$> fromRow F row
  | none => return none

/-- What `rehydration_anchor` returns of a checkpoint. -/
structure Anchor where
  checkpoint : Json F
  contentHash : String
  sourceRefCount : Nat

/-- `rehydration_anchor`. -/
def rehydrationAnchor (db : Table) (projectId conversationId taskId : String) : Except Raised (Option (Anchor F)) := do
  match ← latest F db projectId conversationId taskId with
  | none => return none
  | some checkpoint =>
    let payload ← checkpoint.canonicalDict F
    let contentHash ← checkpoint.fingerprint F
    return some ⟨payload, contentHash, checkpoint.sourceRefs.length⟩

end Operations

end ThreeAgent.HarnessCheckpoints
