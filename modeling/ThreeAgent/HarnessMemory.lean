/-
The harness memory (`harness_memory.py`): immutable events and immutable
memory revisions in two tables of the task store's database. A revision names
the one it supersedes; how long it is valid is not stored but read off the
revision that supersedes it.

A call reads the ids of the tasks table, which other parts of the program
change, so each call is given the ids it finds there.
-/
import ThreeAgent.Lib.PythonJson
import ThreeAgent.TaskContext

namespace ThreeAgent.HarnessMemory

open PyText Outcome PyJson

/-- `HARNESS_EVENT_SCHEMA`. -/
def harnessEventSchema : String := "workspace-harness-event/v1"

/-- `HARNESS_MEMORY_SCHEMA`. -/
def harnessMemorySchema : String := "workspace-harness-memory/v1"

/-- `_LAYERS`. -/
def layers : List String := ["M1", "M2", "M3", "M4", "M5"]

/-- `_TRUST_DOMAINS`. -/
def trustDomains : List String := ["trusted", "derived", "untrusted"]

/-- `_MAX_JSON_DEPTH`. -/
def maxJsonDepth : Nat := 64

/-- `HarnessMemoryError(code)`. -/
def fail (code : String) : Raised := ⟨.harnessMemoryError, code⟩

/-! ## Canonical JSON -/

section Canonical

variable {F : Type} [PyFloat F]

mutual

/-- `_validate_json_value`. -/
def validateJsonValue (depth : Nat) : Json F → Except Raised Unit
  | .float x => do
    require (depth ≤ maxJsonDepth) (fail "PAYLOAD_JSON_DEPTH_EXCEEDED")
    require (PyFloat.isFinite x = true) (fail "PAYLOAD_NON_FINITE_NUMBER")
  | .arr xs => do
    require (depth ≤ maxJsonDepth) (fail "PAYLOAD_JSON_DEPTH_EXCEEDED")
    validateJsonElems (depth + 1) xs
  | .obj kvs => do
    require (depth ≤ maxJsonDepth) (fail "PAYLOAD_JSON_DEPTH_EXCEEDED")
    validateJsonEntries (depth + 1) kvs
  | _ => require (depth ≤ maxJsonDepth) (fail "PAYLOAD_JSON_DEPTH_EXCEEDED")

def validateJsonElems (depth : Nat) : List (Json F) → Except Raised Unit
  | [] => return ⟨⟩
  | v :: vs => do
    validateJsonValue depth v
    validateJsonElems depth vs

def validateJsonEntries (depth : Nat) : List (String × Json F) → Except Raised Unit
  | [] => return ⟨⟩
  | (_, v) :: kvs => do
    validateJsonValue depth v
    validateJsonEntries depth kvs

end

mutual

/-- A Python payload as JSON, where `_validate_json_value` finds every key of it to be a string; its sequences are lists, as
a tuple is refused. A dictionary is the same in any order of its items. -/
def payloadOf {F : Type} : Value F → Except Raised (Json F)
  | .null => return .null
  | .bool b => return .bool b
  | .int n => return .int n
  | .float x => return .float x
  | .str s => return .str s
  | .arr vs => return .arr (← elemsOf vs)
  | .obj kvs => return .dict (← entriesOf kvs)

def elemsOf {F : Type} : List (Value F) → Except Raised (List (Json F))
  | [] => return []
  | v :: vs => do
    let v ← payloadOf v
    let vs ← elemsOf vs
    return v :: vs

def entriesOf {F : Type} : List (Key F × Value F) → Except Raised (List (String × Json F))
  | [] => return []
  | (.str k, v) :: kvs => do
    let v ← payloadOf v
    let kvs ← entriesOf kvs
    return (k, v) :: kvs
  | _ => throw (fail "PAYLOAD_OBJECT_KEY_MUST_BE_STRING")

end

/-- `_canonical_json`. -/
def canonicalJson (payload : Json F) : Except Raised String := do
  validateJsonValue 0 payload
  canonicalText (fail "PAYLOAD_NOT_CANONICAL_JSON") payload

/-- `_digest`. -/
def digest (payload : Json F) : Except Raised String := do
  let text ← canonicalJson payload
  return hashText text

end Canonical

/-! ## Fields -/

/-- `_compact_id`. -/
def compactId (value field : String) : Except Raised Unit :=
  require (value = strip value ∧ idRe value = true) (invalidField .harnessMemoryError field)

/-- `_compact_id` of a value that may be absent. -/
def optionalId (value : Option String) (field : String) : Except Raised Unit :=
  match value with
  | none => return ⟨⟩
  | some v => compactId v field

/-- `_single_line`. -/
def singleLine (value field : String) (maxLen : Nat) : Except Raised Unit :=
  checkSingleLine .harnessMemoryError value field maxLen

/-- `_timestamp`: the text of an aware time. -/
def timestamp (F : Type) [PyRuntime F] (value field : String) : Except Raised Unit := do
  singleLine value field 64
  let parsed ← orRaise (PyRuntime.fromIso F (zuluOffset value)) (invalidField .harnessMemoryError field)
  require (parsed.offset ≠ none) (fail (upper field ++ "_MUST_BE_TIMEZONE_AWARE"))

/-- `_as_datetime`. -/
def asDatetime (F : Type) [PyRuntime F] (value : String) : Except Raised DateTime :=
  orRaise (PyRuntime.fromIso F (zuluOffset value)) ⟨.valueError, "Invalid isoformat string"⟩

/-- `a < b` of two datetimes. -/
def isBefore (a b : DateTime) : Except Raised Bool :=
  orRaise (a.lt? b) ⟨.typeError, "can't compare offset-naive and offset-aware datetimes"⟩

/-! ## Events -/

structure HarnessEvent (F : Type) where
  eventId : String
  projectId : String
  conversationId : String
  eventType : String
  sourceType : String
  sourceRef : String
  trustDomain : String
  payload : Json F
  taskId : Option String
  createdAt : String
  schemaVersion : String := harnessEventSchema

namespace HarnessEvent

variable {F : Type} [PyRuntime F]

def validate (e : HarnessEvent F) : Except Raised Unit := do
  compactId e.eventId "event_id"
  compactId e.projectId "project_id"
  compactId e.conversationId "conversation_id"
  compactId e.eventType "event_type"
  compactId e.sourceType "source_type"
  singleLine e.sourceRef "source_ref" 512
  require (e.trustDomain ∈ trustDomains) (fail "INVALID_TRUST_DOMAIN")
  optionalId e.taskId "task_id"
  require (e.payload.isDict = true) (fail "EVENT_PAYLOAD_MUST_BE_OBJECT")
  let _ ← canonicalJson e.payload
  timestamp F e.createdAt "created_at"
  require (e.schemaVersion = harnessEventSchema) (fail "EVENT_SCHEMA_VERSION_MISMATCH")

/-- `canonical_dict`. -/
def canonicalDict (e : HarnessEvent F) : Except Raised (Json F) := do
  e.validate
  return Json.dict
    [("schema_version", .str e.schemaVersion), ("event_id", .str e.eventId), ("project_id", .str e.projectId),
     ("conversation_id", .str e.conversationId), ("task_id", Json.ofOption .str e.taskId),
     ("event_type", .str e.eventType), ("source_type", .str e.sourceType), ("source_ref", .str e.sourceRef),
     ("trust_domain", .str e.trustDomain), ("payload", e.payload), ("created_at", .str e.createdAt)]

def fingerprint (e : HarnessEvent F) : Except Raised String := do
  let payload ← e.canonicalDict
  digest payload

end HarnessEvent

/-! ## Memory revisions -/

structure MemoryRecord (F : Type) where
  revisionId : String
  memoryId : String
  projectId : String
  layer : String
  kind : String
  content : String
  provenanceEventIds : List String
  trustDomain : String
  confidence : Num F
  validFrom : String
  conversationId : Option String
  taskId : Option String
  validUntil : Option String
  supersedesRevisionId : Option String
  createdAt : String
  schemaVersion : String := harnessMemorySchema

namespace MemoryRecord

variable {F : Type} [PyRuntime F]

/-- `float(self.confidence)`, finite and between 0 and 1. -/
def checkConfidence (confidence : Num F) : Except Raised Unit := do
  let x ← orRaise confidence.toFloat intTooLarge
  require (PyFloat.isFinite x = true ∧ Num.lt (.float x) (.int 0) = false ∧ Num.lt (.int 1) (.float x) = false)
    (fail "INVALID_MEMORY_CONFIDENCE")

/-- A revision does not supersede itself. -/
def checkSupersedes (r : MemoryRecord F) : Except Raised Unit :=
  match r.supersedesRevisionId with
  | none => return ⟨⟩
  | some previous => do
    compactId previous "supersedes_revision_id"
    require (previous ≠ r.revisionId) (fail "MEMORY_CANNOT_SUPERSEDE_ITSELF")

/-- The end of the validity lies after its start. -/
def checkValidUntil (r : MemoryRecord F) : Except Raised Unit :=
  match r.validUntil with
  | none => return ⟨⟩
  | some text => do
    timestamp F text "valid_until"
    let stop ← asDatetime F text
    let start ← asDatetime F r.validFrom
    let forward ← isBefore start stop
    require (forward = true) (fail "MEMORY_VALID_UNTIL_NOT_AFTER_VALID_FROM")

def validate (r : MemoryRecord F) : Except Raised Unit := do
  compactId r.revisionId "revision_id"
  compactId r.memoryId "memory_id"
  compactId r.projectId "project_id"
  require (r.layer ∈ layers) (fail "INVALID_MEMORY_LAYER")
  compactId r.kind "memory_kind"
  require (strip r.content ≠ "") (fail "MEMORY_CONTENT_REQUIRED")
  require (r.trustDomain ∈ trustDomains) (fail "INVALID_TRUST_DOMAIN")
  checkConfidence r.confidence
  require (r.provenanceEventIds ≠ []) (fail "MEMORY_PROVENANCE_REQUIRED")
  require (r.provenanceEventIds.Nodup) (fail "DUPLICATE_MEMORY_PROVENANCE")
  let _ ← r.provenanceEventIds.mapM (compactId · "provenance_event_id")
  optionalId r.conversationId "conversation_id"
  optionalId r.taskId "task_id"
  r.checkSupersedes
  timestamp F r.validFrom "valid_from"
  timestamp F r.createdAt "created_at"
  r.checkValidUntil
  require (r.schemaVersion = harnessMemorySchema) (fail "MEMORY_SCHEMA_VERSION_MISMATCH")

/-- `canonical_dict`: the confidence is written as a float. -/
def canonicalDict (r : MemoryRecord F) : Except Raised (Json F) := do
  r.validate
  let confidence ← orRaise r.confidence.toFloat intTooLarge
  return Json.dict
    [("schema_version", .str r.schemaVersion), ("revision_id", .str r.revisionId), ("memory_id", .str r.memoryId),
     ("project_id", .str r.projectId), ("conversation_id", Json.ofOption .str r.conversationId),
     ("task_id", Json.ofOption .str r.taskId), ("layer", .str r.layer), ("kind", .str r.kind),
     ("content", .str r.content), ("provenance_event_ids", Json.strs r.provenanceEventIds),
     ("trust_domain", .str r.trustDomain), ("confidence", .float confidence), ("valid_from", .str r.validFrom),
     ("valid_until", Json.ofOption .str r.validUntil),
     ("supersedes_revision_id", Json.ofOption .str r.supersedesRevisionId), ("created_at", .str r.createdAt)]

def fingerprint (r : MemoryRecord F) : Except Raised String := do
  let payload ← r.canonicalDict
  digest payload

end MemoryRecord

/-! ## The tables -/

/-- `harness_events`. -/
structure EventRow where
  eventId : String
  schemaVersion : String
  projectId : String
  conversationId : String
  taskId : Option String
  eventType : String
  sourceType : String
  sourceRef : String
  trustDomain : String
  payloadJson : String
  eventSha256 : String
  createdAt : String

/-- `harness_memories`. -/
structure MemoryRow (F : Type) where
  revisionId : String
  memoryId : String
  schemaVersion : String
  projectId : String
  conversationId : Option String
  taskId : Option String
  layer : String
  kind : String
  content : String
  contentSha256 : String
  provenanceJson : String
  trustDomain : String
  confidence : F
  validFrom : String
  validUntil : Option String
  supersedesRevisionId : Option String
  recordSha256 : String
  createdAt : String

/-- The two tables, each in insertion order. Both are append-only (triggers), and every key and
constraint of theirs is checked by the operations before they insert. -/
structure Store (F : Type) where
  events : List EventRow := []
  memories : List (MemoryRow F) := []

namespace Store

variable {F : Type}

/-- `SELECT * FROM harness_events WHERE event_id = ?`. -/
def event? (db : Store F) (eventId : String) : Option EventRow := db.events.find? (·.eventId = eventId)

/-- `SELECT * FROM harness_memories WHERE revision_id = ?`. -/
def revision? (db : Store F) (revisionId : String) : Option (MemoryRow F) :=
  db.memories.find? (·.revisionId = revisionId)

/-- The rows of one memory of a project. -/
def revisions (db : Store F) (memoryId projectId : String) : List (MemoryRow F) :=
  db.memories.filter fun r => r.memoryId = memoryId ∧ r.projectId = projectId

/-- `ORDER BY valid_from, created_at, revision_id`. -/
def historyOrder (a b : MemoryRow F) : Prop :=
  a.validFrom < b.validFrom ∨ a.validFrom = b.validFrom ∧
    (a.createdAt < b.createdAt ∨ a.createdAt = b.createdAt ∧ a.revisionId ≤ b.revisionId)

instance : DecidableRel (historyOrder (F := F)) := fun _ _ => inferInstanceAs (Decidable (_ ∨ _))

/-- `ORDER BY valid_from, revision_id`. -/
def childOrder (a b : MemoryRow F) : Prop :=
  a.validFrom < b.validFrom ∨ a.validFrom = b.validFrom ∧ a.revisionId ≤ b.revisionId

instance : DecidableRel (childOrder (F := F)) := fun _ _ => inferInstanceAs (Decidable (_ ∨ _))

/-- `SELECT * FROM harness_memories WHERE supersedes_revision_id = ? ORDER BY ... LIMIT 1`. -/
def child? (db : Store F) (revisionId : String) : Option (MemoryRow F) :=
  ((db.memories.filter fun r => r.supersedesRevisionId = some revisionId).insertionSort childOrder).head?

end Store

section Operations

variable {F : Type} [PyRuntime F]

/-- `_assert_task_exists`. -/
def assertTaskExists (tasks : List String) (taskId : Option String) : Except Raised Unit :=
  require (∀ t ∈ taskId, t ∈ tasks) (fail "MEMORY_TASK_SCOPE_UNKNOWN")

/-- A `HarnessMemoryError`. -/
def isHarnessError (e : Raised) : Bool := e.cls = .harnessMemoryError

/-- `_event_from_row`. -/
def eventFromRow (row : EventRow) : Except Raised (HarnessEvent F) := do
  let payload ← orRaise (loads row.payloadJson) (fail "EVENT_INTEGRITY_FAILED:PAYLOAD_JSON_INVALID")
  let event : HarnessEvent F :=
    { eventId := row.eventId, projectId := row.projectId, conversationId := row.conversationId,
      taskId := row.taskId, eventType := row.eventType, sourceType := row.sourceType, sourceRef := row.sourceRef,
      trustDomain := row.trustDomain, payload, createdAt := row.createdAt, schemaVersion := row.schemaVersion }
  rethrow isHarnessError (fail "EVENT_INTEGRITY_FAILED:INVALID_RECORD") event.validate
  let fingerprint ← event.fingerprint
  require (fingerprint = row.eventSha256) (fail "EVENT_INTEGRITY_FAILED:SHA256_MISMATCH")
  return event

/-- The elements of a stored provenance. -/
def provenanceItems : Json F → Except Raised (List (Json F))
  | .arr items => return items
  | _ => throw (fail "MEMORY_INTEGRITY_FAILED:PROVENANCE_NOT_LIST")

/-- `_memory_from_row`. -/
def memoryFromRow (row : MemoryRow F) : Except Raised (MemoryRecord F) := do
  let provenance : Json F ←
    orRaise (loads row.provenanceJson) (fail "MEMORY_INTEGRITY_FAILED:PROVENANCE_JSON_INVALID")
  let items ← provenanceItems provenance
  let record : MemoryRecord F :=
    { revisionId := row.revisionId, memoryId := row.memoryId, projectId := row.projectId,
      conversationId := row.conversationId, taskId := row.taskId, layer := row.layer, kind := row.kind,
      content := row.content, provenanceEventIds := items.map Json.toStr, trustDomain := row.trustDomain,
      confidence := .float row.confidence, validFrom := row.validFrom, validUntil := row.validUntil,
      supersedesRevisionId := row.supersedesRevisionId, createdAt := row.createdAt,
      schemaVersion := row.schemaVersion }
  rethrow isHarnessError (fail "MEMORY_INTEGRITY_FAILED:INVALID_RECORD") record.validate
  require (hashText record.content = row.contentSha256) (fail "MEMORY_INTEGRITY_FAILED:CONTENT_SHA256_MISMATCH")
  let fingerprint ← record.fingerprint
  require (fingerprint = row.recordSha256) (fail "MEMORY_INTEGRITY_FAILED:RECORD_SHA256_MISMATCH")
  return record

/-- `_load_event`. -/
def loadEvent (db : Store F) (eventId : String) : Except Raised (HarnessEvent F) := do
  compactId eventId "event_id"
  let row ← orRaise (db.event? eventId) ⟨.keyError, "Unknown harness event: " ++ eventId⟩
  eventFromRow row

/-- `append_event`: the store it commits, and the fingerprint it returns. -/
def appendEvent (tasks : List String) (event : HarnessEvent F) (db : Store F) : Except Raised (Store F × String) := do
  event.validate
  assertTaskExists tasks event.taskId
  let fingerprint ← event.fingerprint
  match db.event? event.eventId with
  | some existing =>
    let stored : HarnessEvent F ← eventFromRow existing
    let known ← stored.fingerprint
    require (known = fingerprint) (fail "EVENT_ID_CONFLICT")
    return (db, fingerprint)
  | none =>
    let payloadJson ← canonicalJson event.payload
    let row : EventRow :=
      { eventId := event.eventId, schemaVersion := event.schemaVersion, projectId := event.projectId,
        conversationId := event.conversationId, taskId := event.taskId, eventType := event.eventType,
        sourceType := event.sourceType, sourceRef := event.sourceRef, trustDomain := event.trustDomain,
        payloadJson, eventSha256 := fingerprint, createdAt := event.createdAt }
    return ({ db with events := db.events ++ [row] }, fingerprint)

/-- One round of `_provenance_events`. -/
def provenanceEvent (db : Store F) (record : MemoryRecord F) (eventId : String) : Except Raised (HarnessEvent F) := do
  let event ← rethrow (fun e => e.cls = .keyError) (fail "MEMORY_PROVENANCE_EVENT_MISSING") (loadEvent db eventId)
  require (event.projectId = record.projectId) (fail "MEMORY_PROVENANCE_PROJECT_SCOPE_MISMATCH")
  require (∀ c ∈ record.conversationId, event.conversationId = c)
    (fail "MEMORY_PROVENANCE_CONVERSATION_SCOPE_MISMATCH")
  require (∀ t ∈ record.taskId, event.taskId = some t) (fail "MEMORY_PROVENANCE_TASK_SCOPE_MISMATCH")
  return event

/-- `_provenance_events`. -/
def provenanceEvents (db : Store F) (record : MemoryRecord F) : Except Raised (List (HarnessEvent F)) :=
  record.provenanceEventIds.mapM (provenanceEvent db record)

/-- `record.layer == "M4" or record.kind.lower() == "procedure"`. -/
def isProcedural (layer kind : String) : Bool := layer = "M4" || lower kind = "procedure"

/-- What a procedural memory needs. -/
def checkProcedural (record : MemoryRecord F) (events : List (HarnessEvent F)) : Except Raised Unit :=
  if isProcedural record.layer record.kind then do
    require (record.trustDomain = "trusted") (fail "PROCEDURAL_MEMORY_REQUIRES_TRUSTED_DOMAIN")
    require (∀ e ∈ events, e.trustDomain = "trusted") (fail "PROCEDURAL_MEMORY_REQUIRES_TRUSTED_PROVENANCE")
  else return ⟨⟩

/-- `_validate_memory_admission`. -/
def validateMemoryAdmission (tasks : List String) (record : MemoryRecord F) (db : Store F) : Except Raised Unit := do
  record.validate
  assertTaskExists tasks record.taskId
  let events ← provenanceEvents db record
  require (record.trustDomain = "trusted" → ∀ e ∈ events, e.trustDomain = "trusted")
    (fail "MEMORY_TRUST_ESCALATION_FORBIDDEN")
  checkProcedural record events

/-- The checks of `remember` on the revision that the new one supersedes. -/
def checkPredecessor (db : Store F) (record : MemoryRecord F) (previousId : String) : Except Raised Unit := do
  let predecessor ← orRaise (db.revision? previousId) (fail "SUPERSEDED_MEMORY_REVISION_MISSING")
  let previous ← memoryFromRow predecessor
  require (previous.memoryId = record.memoryId) (fail "MEMORY_SUPERSESSION_ID_MISMATCH")
  require (previous.projectId = record.projectId) (fail "MEMORY_SUPERSESSION_PROJECT_SCOPE_MISMATCH")
  require (previous.layer = record.layer ∧ previous.kind = record.kind ∧
      previous.conversationId = record.conversationId ∧ previous.taskId = record.taskId)
    (fail "MEMORY_SUPERSESSION_SCOPE_MISMATCH")
  let start ← asDatetime F record.validFrom
  let before ← asDatetime F previous.validFrom
  let forward ← isBefore before start
  require (forward = true) (fail "MEMORY_SUPERSESSION_TIME_NOT_FORWARD")
  require (∀ r ∈ db.memories, r.supersedesRevisionId ≠ some previousId) (fail "MEMORY_SUPERSESSION_FORK_FORBIDDEN")

/-- A revision that supersedes nothing is the first of its memory. -/
def checkPlace (db : Store F) (record : MemoryRecord F) : Except Raised Unit :=
  match record.supersedesRevisionId with
  | none => require (db.revisions record.memoryId record.projectId = []) (fail "MEMORY_REVISION_REQUIRES_SUPERSEDES")
  | some previousId => checkPredecessor db record previousId

/-- `remember`. -/
def remember (tasks : List String) (record : MemoryRecord F) (db : Store F) : Except Raised (Store F × String) := do
  validateMemoryAdmission tasks record db
  let fingerprint ← record.fingerprint
  match db.revision? record.revisionId with
  | some existing =>
    let stored ← memoryFromRow existing
    let known ← stored.fingerprint
    require (known = fingerprint) (fail "MEMORY_REVISION_ID_CONFLICT")
    return (db, fingerprint)
  | none =>
    checkPlace db record
    let provenanceJson ← canonicalJson (Json.strs record.provenanceEventIds : Json F)
    let confidence ← orRaise record.confidence.toFloat intTooLarge
    let row : MemoryRow F :=
      { revisionId := record.revisionId, memoryId := record.memoryId, schemaVersion := record.schemaVersion,
        projectId := record.projectId, conversationId := record.conversationId, taskId := record.taskId,
        layer := record.layer, kind := record.kind, content := record.content,
        contentSha256 := hashText record.content, provenanceJson, trustDomain := record.trustDomain,
        confidence := PyRuntime.realColumn confidence,
        validFrom := record.validFrom, validUntil := record.validUntil,
        supersedesRevisionId := record.supersedesRevisionId, recordSha256 := fingerprint,
        createdAt := record.createdAt }
    return ({ db with memories := db.memories ++ [row] }, fingerprint)

/-! ## Reading -/

/-- `get_revision`, with `_load_revision`. -/
def getRevision (db : Store F) (revisionId projectId : String) : Except Raised (MemoryRecord F) := do
  compactId projectId "project_id"
  compactId revisionId "revision_id"
  let row ← orRaise (db.revision? revisionId) ⟨.keyError, "Unknown harness memory revision: " ++ revisionId⟩
  let record ← memoryFromRow row
  require (record.projectId = projectId)
    ⟨.keyError, "Unknown harness memory revision in project scope: " ++ revisionId⟩
  return record

/-- `get_event`. -/
def getEvent (db : Store F) (eventId projectId : String) : Except Raised (HarnessEvent F) := do
  compactId projectId "project_id"
  let event ← loadEvent db eventId
  require (event.projectId = projectId) ⟨.keyError, "Unknown harness event in project scope: " ++ eventId⟩
  return event

/-- `memory_history`. -/
def memoryHistory (db : Store F) (memoryId projectId : String) : Except Raised (List (MemoryRecord F)) := do
  compactId memoryId "memory_id"
  compactId projectId "project_id"
  ((db.revisions memoryId projectId).insertionSort Store.historyOrder).mapM memoryFromRow

/-- When the revision after this one starts. -/
def childStart (db : Store F) (revisionId projectId : String) : Except Raised (Option String) :=
  match db.child? revisionId with
  | none => return none
  | some row => do
    let child ← memoryFromRow row
    require (child.projectId = projectId) (fail "MEMORY_CHAIN_PROJECT_INTEGRITY_FAILED")
    return some child.validFrom

/-- `effective_valid_until`: the earlier of the stated end and the start of the next revision. -/
def effectiveValidUntil (db : Store F) (revisionId projectId : String) : Except Raised (Option String) := do
  compactId projectId "project_id"
  let record ← getRevision db revisionId projectId
  let childStart ← childStart db record.revisionId projectId
  match record.validUntil, childStart with
  | none, _ => return childStart
  | some stated, none => return some stated
  | some stated, some next => do
    let stop ← asDatetime F stated
    let start ← asDatetime F next
    let later ← isBefore start stop
    return some (if later then next else stated)

/-- `start <= point and (end is None or point < end)`. -/
def covers (start point : DateTime) (stop : Option DateTime) : Except Raised Bool := do
  let ahead ← isBefore point start
  if ahead then return false
  else
    match stop with
    | none => return true
    | some stop => isBefore point stop

/-- `_as_datetime(end_text) if end_text is not None else None`. -/
def endOf (F : Type) [PyRuntime F] (text : Option String) : Except Raised (Option DateTime) :=
  match text with
  | none => return none
  | some text => do
    let stop ← asDatetime F text
    return some stop

/-- Whether a revision is in force at a point in time. -/
def inForce (db : Store F) (projectId : String) (point : DateTime) (record : MemoryRecord F) : Except Raised Bool := do
  let start ← asDatetime F record.validFrom
  let endText ← effectiveValidUntil db record.revisionId projectId
  let stop ← endOf F endText
  covers start point stop

/-- The loop of `memory_at`. -/
def collectMatches (db : Store F) (projectId : String) (point : DateTime) :
    List (MemoryRecord F) → Except Raised (List (MemoryRecord F))
  | [] => return []
  | record :: history => do
    let hit ← inForce db projectId point record
    let rest ← collectMatches db projectId point history
    return if hit then record :: rest else rest

/-- `memory_at`. -/
def memoryAt (db : Store F) (memoryId projectId at' : String) : Except Raised (Option (MemoryRecord F)) := do
  compactId projectId "project_id"
  timestamp F at' "at"
  let point ← asDatetime F at'
  let history ← memoryHistory db memoryId projectId
  let found ← collectMatches db projectId point history
  require (found.length ≤ 1) (fail "MEMORY_TEMPORAL_OVERLAP")
  return found.head?

end Operations

end ThreeAgent.HarnessMemory
