/-
Runtime checkpoints (`runtime_checkpoint.py`): the record, its validation and
its codec. A record holds the values it is constructed with, of any type;
`validate` looks at the types. A dictionary has no order of its own here: the
readers refuse a text whose keys are not sorted.
-/
import ThreeAgent.TaskContext

namespace ThreeAgent

open PyText Outcome PyJson

/-! ## Checks on values of any type -/

section RawChecks

variable {F : Type}

/-- The text that a value is. -/
def text? : Json F → Option String
  | .str s => some s
  | _ => none

/-- The value is a text of a form. -/
def textThat (value : Json F) (form : String → Bool) (e : Raised) : Except Raised String := do
  let text ← orRaise (text? value) e
  require (form text = true) e
  return text

/-- `_sha256`. -/
def rawSha256 (cls : ErrorClass) (value : Json F) (fieldName : String) : Except Raised String :=
  textThat value sha256Re (invalidField cls fieldName)

/-- `tuple(value)`, `none` for the `TypeError`. -/
def tupleOf? : Json F → Option (List (Json F))
  | .arr vs => some vs
  | .str s => some (s.toList.map fun c => .str (String.singleton c))
  | .obj kvs => some (kvs.map fun kv => .str kv.1)
  | _ => none

/-- `value[:-1] + "+00:00" if value.endswith("Z") else value`. -/
def zoned (value : String) : String :=
  if endsWith value "Z" then String.ofList value.toList.dropLast ++ "+00:00" else value

/-- The aware time that a text names, as its text and its instant. -/
def rawInstant (F : Type) [PyRuntime F] (cls : ErrorClass) (value : Json F) (fieldName : String) :
    Except Raised (String × Int) := do
  let text ← textThat value (fun s => decide (s ≠ "") && decide (s = strip s)) (invalidField cls fieldName)
  let parsed ← orRaise (PyRuntime.fromIso F (zoned text)) (invalidField cls fieldName)
  let instant ← orRaise parsed.instant? ⟨cls, upper fieldName ++ "_MUST_BE_TIMEZONE_AWARE"⟩
  return (text, instant)

end RawChecks

/-! ## Checkpoints -/

/-- `RUNTIME_CHECKPOINT_SCHEMA`. -/
def runtimeCheckpointSchema : String := "workspace-runtime-checkpoint/v1"

/-- `RUNTIME_CHECKPOINT_ENVELOPE_SCHEMA`. -/
def runtimeCheckpointEnvelopeSchema : String := "workspace-runtime-checkpoint-envelope/v1"

/-- `RuntimeCheckpointError(code)`. -/
def runtimeCheckpointError (code : String) : Raised := ⟨.runtimeCheckpointError, code⟩

structure RuntimeCheckpoint (F : Type) where
  checkpointId : Json F
  taskId : Json F
  taskContextFingerprint : Json F
  taskContextIdentityFingerprint : Json F
  planFingerprint : Json F
  parentAuthorityFingerprint : Json F
  schedulingDecisionFingerprint : Json F
  approvedNodeIds : List (Json F)
  observationFingerprints : List (Json F)
  capturedAt : Json F
  schemaVersion : Json F

namespace RuntimeCheckpoint

section Checks

variable {F : Type} [PyRuntime F]

/-- `_compact_id`. -/
def compactId (value : Json F) (fieldName : String) : Except Raised String :=
  textThat value idRe (invalidField .runtimeCheckpointError fieldName)

/-- The loop of `_normalized_ids` and `_normalized_hashes`. -/
def distinctItems (check : Json F → Except Raised String) (duplicate : Raised) :
    List String → List (Json F) → Except Raised (List String)
  | seen, [] => return seen
  | seen, value :: values => do
    let item ← check value
    require (item ∉ seen) duplicate
    distinctItems check duplicate (seen ++ [item]) values

/-- `_normalized_ids`. -/
def normalizedIds (values : List (Json F)) (fieldName : String) : Except Raised (List String) := do
  let result ← distinctItems (compactId · fieldName) (runtimeCheckpointError ("DUPLICATE_" ++ upper fieldName)) [] values
  return sorted result

/-- `_normalized_hashes`. -/
def normalizedHashes (values : List (Json F)) (fieldName : String) : Except Raised (List String) := do
  let result ← distinctItems (rawSha256 .runtimeCheckpointError · fieldName)
    (runtimeCheckpointError ("DUPLICATE_" ++ upper fieldName)) [] values
  return sorted result

/-- `_timestamp`: the text is the normal one of its instant. -/
def checkTimestamp (value : Json F) (fieldName : String) : Except Raised Unit := do
  let (text, instant) ← rawInstant F .runtimeCheckpointError value fieldName
  require (Clock.minInstant ≤ instant ∧ instant ≤ Clock.maxInstant) ⟨.overflowError, "date value out of range"⟩
  require (replace (Clock.iso instant) "+00:00" "Z" = text)
    (runtimeCheckpointError (upper fieldName ++ "_MUST_BE_NORMALIZED_UTC"))

end Checks

variable {F : Type} [PyRuntime F]

/-- The entries of `_identity_dict`. -/
def identityEntries (c : RuntimeCheckpoint F) : List (String × Json F) :=
  [("schema_version", c.schemaVersion), ("task_id", c.taskId),
   ("task_context_fingerprint", c.taskContextFingerprint),
   ("task_context_identity_fingerprint", c.taskContextIdentityFingerprint), ("plan_fingerprint", c.planFingerprint),
   ("parent_authority_fingerprint", c.parentAuthorityFingerprint),
   ("scheduling_decision_fingerprint", c.schedulingDecisionFingerprint),
   ("approved_node_ids", .arr c.approvedNodeIds), ("observation_fingerprints", .arr c.observationFingerprints),
   ("captured_at", c.capturedAt)]

/-- `fingerprint`. -/
def fingerprint (c : RuntimeCheckpoint F) : Except Raised String :=
  digestOf (runtimeCheckpointError "RUNTIME_CHECKPOINT_NOT_CANONICAL_JSON") (Json.dict c.identityEntries)

def validate (c : RuntimeCheckpoint F) : Except Raised Unit := do
  require (c.schemaVersion.isText runtimeCheckpointSchema = true)
    (runtimeCheckpointError "RUNTIME_CHECKPOINT_SCHEMA_VERSION_MISMATCH")
  let checkpointId ← compactId c.checkpointId "checkpoint_id"
  let _ ← compactId c.taskId "task_id"
  let _ ← rawSha256 .runtimeCheckpointError c.taskContextFingerprint "task_context_fingerprint"
  let _ ← rawSha256 .runtimeCheckpointError c.taskContextIdentityFingerprint "task_context_identity_fingerprint"
  let _ ← rawSha256 .runtimeCheckpointError c.planFingerprint "plan_fingerprint"
  let _ ← rawSha256 .runtimeCheckpointError c.parentAuthorityFingerprint "parent_authority_fingerprint"
  let _ ← rawSha256 .runtimeCheckpointError c.schedulingDecisionFingerprint "scheduling_decision_fingerprint"
  let approved ← normalizedIds c.approvedNodeIds "approved_node_id"
  require (c.approvedNodeIds.map text? = approved.map some) (runtimeCheckpointError "APPROVED_NODE_IDS_NOT_NORMALIZED")
  let observed ← normalizedHashes c.observationFingerprints "observation_fingerprint"
  require (c.observationFingerprints.map text? = observed.map some)
    (runtimeCheckpointError "OBSERVATION_FINGERPRINTS_NOT_NORMALIZED")
  checkTimestamp c.capturedAt "captured_at"
  let fingerprint ← c.fingerprint
  require (checkpointId = "runtime-checkpoint:" ++ digestPrefix fingerprint 24)
    (runtimeCheckpointError "RUNTIME_CHECKPOINT_IDENTITY_MISMATCH")

/-- The entries of `canonical_dict`. -/
def entries (c : RuntimeCheckpoint F) : List (String × Json F) := ("checkpoint_id", c.checkpointId) :: c.identityEntries

/-- `canonical_dict`. -/
def canonicalDict (c : RuntimeCheckpoint F) : Except Raised (Json F) := do
  c.validate
  return Json.dict c.entries

end RuntimeCheckpoint

/-! ## The codec -/

namespace RuntimeCheckpointCodec

variable {F : Type} [PyRuntime F]

/-- `_canonical_json`. -/
def canonicalJson (payload : Json F) : Except Raised String :=
  canonicalText (runtimeCheckpointError "RUNTIME_CHECKPOINT_NOT_CANONICAL_JSON") payload

/-- The dictionary that `dumps` writes. -/
def envelope (record : Json F) (fingerprint : String) : Json F :=
  Json.dict [("schema_version", .str runtimeCheckpointEnvelopeSchema), ("checkpoint", record),
    ("checkpoint_fingerprint", .str fingerprint)]

def dumps (checkpoint : RuntimeCheckpoint F) : Except Raised String := do
  checkpoint.validate
  let record ← checkpoint.canonicalDict
  let fingerprint ← checkpoint.fingerprint
  canonicalJson (envelope record fingerprint)

/-- The keys of a checkpoint record. -/
def recordKeys : List String :=
  ["checkpoint_id", "schema_version", "task_id", "task_context_fingerprint", "task_context_identity_fingerprint",
   "plan_fingerprint", "parent_authority_fingerprint", "scheduling_decision_fingerprint", "approved_node_ids",
   "observation_fingerprints", "captured_at"]

/-- The checkpoint of a record with the right keys. -/
def ofRecord (raw : Json F) : Except Raised (RuntimeCheckpoint F) := do
  let approvedNodeIds ← orRaise (tupleOf? (raw.item "approved_node_ids"))
    (runtimeCheckpointError "RUNTIME_CHECKPOINT_RECORD_SHAPE_INVALID")
  let observationFingerprints ← orRaise (tupleOf? (raw.item "observation_fingerprints"))
    (runtimeCheckpointError "RUNTIME_CHECKPOINT_RECORD_SHAPE_INVALID")
  let checkpoint : RuntimeCheckpoint F :=
    { checkpointId := raw.item "checkpoint_id"
      taskId := raw.item "task_id"
      taskContextFingerprint := raw.item "task_context_fingerprint"
      taskContextIdentityFingerprint := raw.item "task_context_identity_fingerprint"
      planFingerprint := raw.item "plan_fingerprint"
      parentAuthorityFingerprint := raw.item "parent_authority_fingerprint"
      schedulingDecisionFingerprint := raw.item "scheduling_decision_fingerprint"
      approvedNodeIds
      observationFingerprints
      capturedAt := raw.item "captured_at"
      schemaVersion := raw.item "schema_version" }
  checkpoint.validate
  return checkpoint

def loads (payload : String) : Except Raised (RuntimeCheckpoint F) := do
  require (payload ≠ "") (runtimeCheckpointError "INVALID_RUNTIME_CHECKPOINT_PAYLOAD")
  let envelope ← orRaise (PyJson.loads payload) (runtimeCheckpointError "RUNTIME_CHECKPOINT_JSON_INVALID")
  require (envelope.isDict = true) (runtimeCheckpointError "RUNTIME_CHECKPOINT_ENVELOPE_NOT_OBJECT")
  require ((envelope.item "schema_version").isText runtimeCheckpointEnvelopeSchema = true)
    (runtimeCheckpointError "RUNTIME_CHECKPOINT_ENVELOPE_SCHEMA_VERSION_MISMATCH")
  require ((envelope.item "checkpoint").isDict = true) (runtimeCheckpointError "RUNTIME_CHECKPOINT_RECORD_NOT_OBJECT")
  require ((envelope.item "checkpoint").hasKeys recordKeys = true)
    (runtimeCheckpointError "RUNTIME_CHECKPOINT_RECORD_SHAPE_INVALID")
  let checkpoint ← ofRecord (envelope.item "checkpoint")
  let fingerprint ← checkpoint.fingerprint
  require ((envelope.item "checkpoint_fingerprint").isText fingerprint = true)
    (runtimeCheckpointError "RUNTIME_CHECKPOINT_INTEGRITY_FAILED")
  let text ← canonicalJson envelope
  require (text = payload) (runtimeCheckpointError "RUNTIME_CHECKPOINT_ENVELOPE_NOT_CANONICAL")
  return checkpoint

end RuntimeCheckpointCodec

end ThreeAgent
