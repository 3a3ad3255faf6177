/-
The checkpoint repository (`execution_checkpoint.py`): dispatch tickets and
observations written as canonical JSON beside a chain of events, and the load
that reads them back. Every call is one transaction on the task store; the
time of a call is an argument.
-/
import ThreeAgent.ExecutionScheduler
import ThreeAgent.Lib.HashChain
import ThreeAgent.TaskStore

namespace ThreeAgent

open PyText Outcome PyJson

/-- `ExecutionCheckpointError(code)`. -/
def checkpointError (code : String) : Raised := ⟨.executionCheckpointError, code⟩

/-- `ZERO_HASH`. -/
def zeroHash : String := "sha256:" ++ "0000000000000000000000000000000000000000000000000000000000000000"

/-- `_canonical_json`. -/
def checkpointText {F : Type} [PyFloat F] (payload : Json F) : Except Raised String :=
  canonicalText (checkpointError "CHECKPOINT_NOT_CANONICAL_JSON") payload

/-- `_digest_payload`. -/
def checkpointDigest {F : Type} [PyFloat F] (payload : Json F) : Except Raised String :=
  digestOf (checkpointError "CHECKPOINT_NOT_CANONICAL_JSON") payload

/-- `_require_sha256`. -/
def requireSha256 (value field : String) : Except Raised Unit := checkSha256 .executionCheckpointError value field

/-! ## Payloads -/

section Payloads

variable {F : Type} [PyRuntime F]

/-- `_parse_canonical_payload`. -/
def parseCanonicalPayload (rawJson storedSha256 kind : String) : Except Raised (Json F) := do
  let payload ← orRaise (loads rawJson) (checkpointError (kind ++ "_CHECKPOINT_JSON_INVALID"))
  let text ← checkpointText payload
  require (text = rawJson) (checkpointError (kind ++ "_CHECKPOINT_NOT_CANONICAL"))
  let digest ← checkpointDigest payload
  require (storedSha256 = digest) (checkpointError (kind ++ "_CHECKPOINT_DIGEST_MISMATCH"))
  return payload

/-- `_validate_dispatch_fingerprints`. -/
def validateDispatchFingerprints (t : DispatchTicket) : Except Raised Unit := do
  requireSha256 t.planFingerprint "plan_fingerprint"
  requireSha256 t.nodeFingerprint "node_fingerprint"
  requireSha256 t.authorityFingerprint "authority_fingerprint"
  let _ ← t.dependencyObservationFingerprints.mapM (requireSha256 · "dependency_observation_fingerprint")
  return ⟨⟩

/-- The entries of a dispatch payload. -/
def dispatchEntries (t : DispatchTicket) : List (String × Json F) :=
  [("ticket_id", .str t.ticketId), ("schema_version", .str t.schemaVersion), ("task_id", .str t.taskId),
   ("plan_fingerprint", .str t.planFingerprint), ("node_id", .str t.nodeId),
   ("node_fingerprint", .str t.nodeFingerprint), ("authority_fingerprint", .str t.authorityFingerprint),
   ("dependency_observation_fingerprints", Json.strs t.dependencyObservationFingerprints),
   ("dispatch_sequence", .int t.dispatchSequence), ("execution_level", .int t.executionLevel),
   ("dispatch_authorized", .bool true)]

/-- `_dispatch_payload`. -/
def dispatchPayload (t : DispatchTicket) : Except Raised (Json F) := do
  t.validate
  validateDispatchFingerprints t
  return Json.dict (dispatchEntries t)

/-- The keys of a dispatch payload. -/
def dispatchKeys : List String :=
  ["ticket_id", "schema_version", "task_id", "plan_fingerprint", "node_id", "node_fingerprint",
   "authority_fingerprint", "dependency_observation_fingerprints", "dispatch_sequence", "execution_level",
   "dispatch_authorized"]

/-- The fingerprints of a JSON list of them. -/
def fingerprintList : Json F → Option (List String)
  | .arr vs => vs.mapM fun v =>
    match v with
    | .str s => if sha256Re s then some s else none
    | _ => none
  | _ => none

/-- `payload[key] is True`. -/
def isTrue : Json F → Bool
  | .bool true => true
  | _ => false

/-- `int(payload[key])`. -/
def intItem (payload : Json F) (key : String) : Except Raised Int :=
  orRaise (payload.item key).toInt? ⟨.valueError, "int() argument: " ++ key⟩

/-- `_require_sha256(str(payload[key]), key)`. -/
def sha256Item (payload : Json F) (key : String) : Except Raised String := do
  requireSha256 (payload.item key).toStr key
  return (payload.item key).toStr

/-- The ticket of a payload with the right keys. -/
def ticketOfPayload (payload : Json F) (dependencies : List String) : Except Raised DispatchTicket := do
  let planFingerprint ← sha256Item payload "plan_fingerprint"
  let nodeFingerprint ← sha256Item payload "node_fingerprint"
  let authorityFingerprint ← sha256Item payload "authority_fingerprint"
  let dispatchSequence ← intItem payload "dispatch_sequence"
  let executionLevel ← intItem payload "execution_level"
  let t : DispatchTicket :=
    { ticketId := (payload.item "ticket_id").toStr, taskId := (payload.item "task_id").toStr, planFingerprint
      nodeId := (payload.item "node_id").toStr, nodeFingerprint, authorityFingerprint
      dependencyObservationFingerprints := dependencies, dispatchSequence, executionLevel
      schemaVersion := (payload.item "schema_version").toStr }
  t.validate
  validateDispatchFingerprints t
  return t

/-- `_dispatch_from_payload`. -/
def dispatchFromPayload (payload : Json F) : Except Raised DispatchTicket := do
  require (payload.isDict = true) (checkpointError "DISPATCH_CHECKPOINT_MUST_BE_OBJECT")
  require (payload.hasKeys dispatchKeys = true) (checkpointError "DISPATCH_CHECKPOINT_FIELDS_MISMATCH")
  require ((payload.item "schema_version").isText dispatchTicketSchema = true)
    (checkpointError "DISPATCH_CHECKPOINT_SCHEMA_VERSION_MISMATCH")
  require (isTrue (payload.item "dispatch_authorized") = true) (checkpointError "DISPATCH_CHECKPOINT_NOT_AUTHORIZED")
  let dependencies ← orRaise (fingerprintList (payload.item "dependency_observation_fingerprints"))
    (checkpointError "INVALID_DISPATCH_DEPENDENCY_FINGERPRINTS")
  rethrow (fun e => e.cls == .typeError || e.cls.isValueError) (checkpointError "INVALID_DISPATCH_CHECKPOINT")
    (ticketOfPayload payload dependencies)

/-- The keys of an observation payload. -/
def observationKeys : List String :=
  ["observation_id", "schema_version", "task_id", "task_context_fingerprint", "plan_fingerprint", "node_id",
   "node_fingerprint", "authority_fingerprint", "status", "started_at", "finished_at", "normalized_output",
   "normalized_output_sha256", "error_class", "evidence_bindings", "cost"]

/-- `None if value is None else str(value)`. -/
def optionalText : Json F → Option String
  | .null => none
  | v => some v.toStr

/-- One element of `payload["evidence_bindings"]`. -/
def bindingFromPayload (raw : Json F) : Except Raised EvidenceBinding := do
  require (raw.hasKeys ["schema_version", "requirement", "evidence_ref", "evidence_fingerprint"] = true)
    (checkpointError "INVALID_OBSERVATION_EVIDENCE_BINDING")
  require ((raw.item "schema_version").isText executionEvidenceBindingSchema = true)
    (checkpointError "EVIDENCE_BINDING_SCHEMA_VERSION_MISMATCH")
  let binding : EvidenceBinding :=
    { evidenceRef := (raw.item "evidence_ref").toStr, evidenceFingerprint := (raw.item "evidence_fingerprint").toStr
      requirement := optionalText (raw.item "requirement"), schemaVersion := (raw.item "schema_version").toStr }
  binding.validate
  return binding

/-- A JSON number that is no boolean. -/
def number? : Json F → Option (Num F)
  | .int n => some (.int n)
  | .float x => some (.float x)
  | _ => none

/-- A JSON integer that is no boolean. -/
def integer? : Json F → Option Int
  | .int n => some n
  | _ => none

/-- The optional cost in dollars, refused when it is no number. -/
def costUsdFromPayload (raw : Json F) : Except Raised (Option (Num F)) :=
  match raw with
  | .null => return none
  | v => do
    let usd ← orRaise (number? v) (observationError "INVALID_OBSERVATION_COST_USD")
    return some usd

/-- `ObservationCost(...).validate()` of the raw values: a value of another type fails like a
negative one, in the order of `validate`. -/
def costFromRaw (raw : Json F) : Except Raised (ObservationCost F) := do
  let wallTimeS ← orRaise (number? (raw.item "wall_time_s")) (observationError "INVALID_OBSERVATION_WALL_TIME")
  require (Num.lt wallTimeS (.int 0) = false) (observationError "INVALID_OBSERVATION_WALL_TIME")
  let modelTokens ← orRaise (integer? (raw.item "model_tokens"))
    (observationError "INVALID_OBSERVATION_MODEL_TOKENS")
  require (0 ≤ modelTokens) (observationError "INVALID_OBSERVATION_MODEL_TOKENS")
  let toolCalls ← orRaise (integer? (raw.item "tool_calls")) (observationError "INVALID_OBSERVATION_TOOL_CALLS")
  require (0 ≤ toolCalls) (observationError "INVALID_OBSERVATION_TOOL_CALLS")
  let costUsd ← costUsdFromPayload (raw.item "cost_usd")
  require (∀ usd ∈ costUsd, Num.lt usd (.int 0) = false) (observationError "INVALID_OBSERVATION_COST_USD")
  return { wallTimeS, modelTokens, toolCalls, costUsd }

/-- `payload["cost"]`. -/
def costFromPayload (raw : Json F) : Except Raised (Option (ObservationCost F)) :=
  match raw with
  | .null => return none
  | v => do
    require (v.hasKeys ["wall_time_s", "model_tokens", "tool_calls", "cost_usd"] = true)
      (checkpointError "INVALID_OBSERVATION_COST")
    let cost ← costFromRaw v
    return some cost

/-- `None if normalized_output is None else _canonical_json(normalized_output)`. -/
def outputFromPayload (raw : Json F) : Except Raised (Option String) :=
  match raw with
  | .null => return none
  | v => do
    let text ← checkpointText v
    return some text

/-- The elements of a JSON list. -/
def elements? : Json F → Option (List (Json F))
  | .arr vs => some vs
  | _ => none

/-- `value == digest` of a digest that may be absent. -/
def matchesDigest : Json F → Option String → Bool
  | .null, none => true
  | .str s, some t => s = t
  | _, _ => false

/-- `_observation_from_payload`. -/
def observationFromPayload (payload : Json F) : Except Raised (ExecutionObservation F) := do
  require (payload.isDict = true) (checkpointError "OBSERVATION_CHECKPOINT_MUST_BE_OBJECT")
  require (payload.hasKeys observationKeys = true) (checkpointError "OBSERVATION_CHECKPOINT_FIELDS_MISMATCH")
  require ((payload.item "schema_version").isText executionObservationSchema = true)
    (checkpointError "OBSERVATION_CHECKPOINT_SCHEMA_VERSION_MISMATCH")
  let rawBindings ← orRaise (elements? (payload.item "evidence_bindings"))
    (checkpointError "INVALID_OBSERVATION_EVIDENCE_BINDINGS")
  let evidenceBindings ← rawBindings.mapM bindingFromPayload
  let cost ← costFromPayload (payload.item "cost")
  let normalizedOutputJson ← outputFromPayload (payload.item "normalized_output")
  let o : ExecutionObservation F :=
    { observationId := (payload.item "observation_id").toStr, taskId := (payload.item "task_id").toStr
      taskContextFingerprint := (payload.item "task_context_fingerprint").toStr
      planFingerprint := (payload.item "plan_fingerprint").toStr, nodeId := (payload.item "node_id").toStr
      nodeFingerprint := (payload.item "node_fingerprint").toStr
      authorityFingerprint := (payload.item "authority_fingerprint").toStr, status := (payload.item "status").toStr
      startedAt := (payload.item "started_at").toStr, finishedAt := (payload.item "finished_at").toStr
      normalizedOutputJson, errorClass := optionalText (payload.item "error_class"), evidenceBindings, cost
      schemaVersion := (payload.item "schema_version").toStr }
  rethrow (fun e => e.cls == .typeError || e.cls.isValueError) (checkpointError "INVALID_OBSERVATION_CHECKPOINT")
    o.validateSelf
  require (matchesDigest (payload.item "normalized_output_sha256") (o.normalizedOutputJson.map hashText) = true)
    (checkpointError "OBSERVATION_OUTPUT_DIGEST_MISMATCH")
  return o

end Payloads

/-! ## Events -/

namespace ExecutionCheckpoint

/-- `_require_task`. -/
def requireTask (s : TaskStore) (taskId : String) : Except Raised Unit :=
  require (taskId ∈ s.tasks) (checkpointError "EXECUTION_CHECKPOINT_TASK_NOT_FOUND")

/-- `_event_hash`: a dictionary of texts can always be written. -/
def eventHash (taskId planFingerprint eventType subjectId payloadJson payloadSha256 previousHash recordedAt : String) :
    String :=
  hashText (String.ofList (text (Json.dict
    [("task_id", .str taskId), ("plan_fingerprint", .str planFingerprint), ("event_type", .str eventType),
     ("subject_id", .str subjectId), ("payload_json", .str payloadJson), ("payload_sha256", .str payloadSha256),
     ("previous_hash", .str previousHash), ("recorded_at", .str recordedAt)] : Json Unit)))

/-- `_append_event`. -/
def appendEvent (s : TaskStore)
    (taskId planFingerprint eventType subjectId payloadJson payloadSha256 recordedAt : String) : TaskStore :=
  let previousHash := HashChain.lastHash EventRow.eventHash zeroHash (s.eventsOf taskId planFingerprint)
  { s with
    events := s.events ++
      [{ sequence := s.eventSequence + 1, taskId, planFingerprint, eventType, subjectId, payloadJson, payloadSha256
         previousHash
         eventHash :=
           eventHash taskId planFingerprint eventType subjectId payloadJson payloadSha256 previousHash recordedAt
         recordedAt }]
    eventSequence := s.eventSequence + 1 }

section Repository

variable (F : Type) [PyRuntime F]

/-- The hash the next event must name, when the event fits the hash before it. -/
def checkEvent (previousHash : String) (row : EventRow) : Except Raised (Option String) :=
  match (loads row.payloadJson : Option (Json F)) with
  | none => return none
  | some payload => do
    let text ← checkpointText payload
    if text ≠ row.payloadJson then return none
    else do
      let payloadSha256 ← checkpointDigest payload
      let expected := eventHash row.taskId row.planFingerprint row.eventType row.subjectId row.payloadJson payloadSha256
        previousHash row.recordedAt
      if row.payloadSha256 = payloadSha256 ∧ row.previousHash = previousHash ∧ row.eventHash = expected then
        return some expected
      else return none

/-- `verify_event_chain`. -/
def verifyEventChain (s : TaskStore) (taskId planFingerprint : String) : Except Raised Bool :=
  HashChain.follow (checkEvent F) zeroHash (s.eventsOf taskId planFingerprint)

/-! ## Recording -/

/-- The largest integer that SQLite stores. -/
def maxSqlInteger : Int := 2 ^ 63 - 1

/-- The INSERT of a dispatch, which refuses an integer that SQLite cannot hold. -/
def insertDispatch (s : TaskStore) (row : DispatchRow) : Except Raised TaskStore := do
  require (row.dispatchSequence ≤ maxSqlInteger)
    ⟨.overflowError, "Python int too large to convert to SQLite INTEGER"⟩
  return { s with dispatches := s.dispatches ++ [row] }

/-- A ticket id that is taken must be taken by the same payload. -/
def sameDispatch (s : TaskStore) (ticketId payloadSha256 : String) : Except Raised Bool :=
  match s.dispatches.find? (·.ticketId = ticketId) with
  | none => return false
  | some row => do
    let existing : Json F ← parseCanonicalPayload row.ticketJson row.ticketSha256 "DISPATCH"
    let digest ← checkpointDigest existing
    require (digest = payloadSha256) (checkpointError "DISPATCH_CHECKPOINT_IDENTITY_CONFLICT")
    return true

/-- An observation id that is taken must be taken by the same payload. -/
def sameObservation (s : TaskStore) (observationId payloadSha256 : String) : Except Raised Bool :=
  match s.observations.find? (·.observationId = observationId) with
  | none => return false
  | some row => do
    let existing : Json F ← parseCanonicalPayload row.observationJson row.observationSha256 "OBSERVATION"
    let digest ← checkpointDigest existing
    require (digest = payloadSha256) (checkpointError "OBSERVATION_CHECKPOINT_IDENTITY_CONFLICT")
    return true

/-- `record_dispatch`. -/
def recordDispatch (now : String) (t : DispatchTicket) (s : TaskStore) : Except Raised TaskStore := do
  let payload : Json F ← dispatchPayload t
  let payloadJson ← checkpointText payload
  let payloadSha256 ← checkpointDigest payload
  requireTask s t.taskId
  let existing ← sameDispatch F s t.ticketId payloadSha256
  if existing then return s
  else do
    require (s.dispatchOf? t.taskId t.planFingerprint t.nodeId = none)
      (checkpointError "DISPATCH_CHECKPOINT_NODE_CONFLICT")
    let s ← insertDispatch s ⟨t.ticketId, t.taskId, t.planFingerprint, t.nodeId, t.dispatchSequence, payloadJson,
      payloadSha256, now⟩
    return appendEvent s t.taskId t.planFingerprint "DISPATCH_RECORDED" t.ticketId payloadJson payloadSha256 now

variable {F}

/-- The observation is of the ticket that was dispatched. -/
def checkSettles (o : ExecutionObservation F) (row : DispatchRow) : Except Raised Unit := do
  let payload : Json F ← parseCanonicalPayload row.ticketJson row.ticketSha256 "DISPATCH"
  let dispatch ← dispatchFromPayload payload
  require (o.nodeFingerprint = dispatch.nodeFingerprint) (checkpointError "OBSERVATION_CHECKPOINT_NODE_MISMATCH")
  require (o.authorityFingerprint = dispatch.authorityFingerprint)
    (checkpointError "OBSERVATION_CHECKPOINT_AUTHORITY_MISMATCH")

/-- `record_observation`. -/
def recordObservation (now : String) (o : ExecutionObservation F) (s : TaskStore) : Except Raised TaskStore := do
  o.validateSelf
  let payload ← o.canonicalDict
  let payloadJson ← checkpointText payload
  let payloadSha256 ← checkpointDigest payload
  requireTask s o.taskId
  let row ← orRaise (s.dispatchOf? o.taskId o.planFingerprint o.nodeId)
    (checkpointError "OBSERVATION_CHECKPOINT_REQUIRES_DISPATCH")
  checkSettles o row
  let existing ← sameObservation F s o.observationId payloadSha256
  if existing then return s
  else do
    require (s.observationOf? o.taskId o.planFingerprint o.nodeId = none)
      (checkpointError "OBSERVATION_CHECKPOINT_NODE_CONFLICT")
    let s := { s with
      observations := s.observations ++
        [⟨o.observationId, o.taskId, o.planFingerprint, o.nodeId, payloadJson, payloadSha256, now⟩] }
    return appendEvent s o.taskId o.planFingerprint "OBSERVATION_RECORDED" o.observationId payloadJson payloadSha256 now

variable (F)

/-- The latest CANCELLED event of a task and plan. -/
def latestCancellation (s : TaskStore) (taskId planFingerprint : String) : Option EventRow :=
  ((s.eventsOf taskId planFingerprint).filter (·.eventType = "CANCELLED")).getLast?

/-- `{"reason_code": reason}`. -/
def cancellationPayload (reason : String) : Json F := Json.dict [("reason_code", .str reason)]

/-- The latest cancellation already gives this reason. -/
def sameCancellation (s : TaskStore) (taskId planFingerprint payloadJson : String) : Except Raised Bool :=
  match latestCancellation s taskId planFingerprint with
  | none => return false
  | some row => do
    let latest : Json F ← parseCanonicalPayload row.payloadJson row.payloadSha256 "CANCELLATION"
    let text ← checkpointText latest
    return decide (text = payloadJson)

/-- `record_cancellation`. -/
def recordCancellation (now taskId planFingerprint reasonCode : String) (s : TaskStore) : Except Raised TaskStore := do
  requireSha256 planFingerprint "plan_fingerprint"
  require (strip reasonCode ≠ "") (checkpointError "INVALID_CANCELLATION_REASON")
  let payloadJson ← checkpointText (cancellationPayload F (strip reasonCode))
  let payloadSha256 ← checkpointDigest (cancellationPayload F (strip reasonCode))
  requireTask s taskId
  let existing ← sameCancellation F s taskId planFingerprint payloadJson
  if existing then return s
  else return appendEvent s taskId planFingerprint "CANCELLED" taskId payloadJson payloadSha256 now

/-! ## Loading -/

variable {F}

/-- The ticket of a dispatch payload's text. -/
def ticketOf (F : Type) [PyRuntime F] (rawJson storedSha256 : String) : Except Raised DispatchTicket := do
  let payload : Json F ← parseCanonicalPayload rawJson storedSha256 "DISPATCH"
  dispatchFromPayload payload

/-- The observation of an observation payload's text. -/
def observationOf (rawJson storedSha256 : String) : Except Raised (ExecutionObservation F) := do
  let payload : Json F ← parseCanonicalPayload rawJson storedSha256 "OBSERVATION"
  observationFromPayload payload

/-- One dispatch row of `load`. -/
def loadDispatch (F : Type) [PyRuntime F] (taskId planFingerprint : String) (byNode : PyDict.Dict DispatchTicket)
    (row : DispatchRow) : Except Raised (PyDict.Dict DispatchTicket) := do
  let t ← ticketOf F row.ticketJson row.ticketSha256
  require (t.taskId = taskId ∧ t.planFingerprint = planFingerprint)
    (checkpointError "DISPATCH_CHECKPOINT_SCOPE_MISMATCH")
  require (PyDict.has byNode t.nodeId = false) (checkpointError "DUPLICATE_DISPATCH_CHECKPOINT_NODE")
  return PyDict.set byNode t.nodeId t

/-- One observation row of `load`. -/
def loadObservation (taskId planFingerprint : String) (byNode : PyDict.Dict DispatchTicket) (row : ObservationRow) :
    Except Raised (ExecutionObservation F) := do
  let o ← observationOf row.observationJson row.observationSha256
  require (o.taskId = taskId ∧ o.planFingerprint = planFingerprint)
    (checkpointError "OBSERVATION_CHECKPOINT_SCOPE_MISMATCH")
  let dispatch ← orRaise (PyDict.get? byNode o.nodeId) (checkpointError "OBSERVATION_CHECKPOINT_ORPHANED")
  require (o.nodeFingerprint = dispatch.nodeFingerprint) (checkpointError "OBSERVATION_CHECKPOINT_NODE_MISMATCH")
  require (o.authorityFingerprint = dispatch.authorityFingerprint)
    (checkpointError "OBSERVATION_CHECKPOINT_AUTHORITY_MISMATCH")
  return o

/-- The non-empty text of a looked-up value. -/
def reasonText? : Option (Json F) → Option String
  | some (.str s) => if s = "" then none else some s
  | _ => none

/-- The reason of the latest cancellation. -/
def loadCancellation (F : Type) [PyRuntime F] (latest : Option EventRow) : Except Raised (Option String) :=
  match latest with
  | none => return none
  | some row => do
    let payload : Json F ← parseCanonicalPayload row.payloadJson row.payloadSha256 "CANCELLATION"
    require (payload.isDict = true)
      ⟨.attributeError, "'" ++ payload.typeName ++ "' object has no attribute 'get'"⟩
    let reason ← orRaise (reasonText? (payload.get? "reason_code"))
      (checkpointError "CANCELLATION_CHECKPOINT_INVALID")
    return some reason

/-- `load`. -/
def load (taskId planFingerprint : String) (s : TaskStore) : Except Raised (RecoveredExecutionState F) := do
  requireSha256 planFingerprint "plan_fingerprint"
  let intact ← verifyEventChain F s taskId planFingerprint
  require (intact = true) (checkpointError "EXECUTION_CHECKPOINT_EVENT_CHAIN_INVALID")
  requireTask s taskId
  let dispatchRows := (s.dispatchesOf taskId planFingerprint).insertionSort fun a b =>
    a.dispatchSequence ≤ b.dispatchSequence
  let observationRows := (s.observationsOf taskId planFingerprint).insertionSort fun a b => a.nodeId ≤ b.nodeId
  let byNode ← dispatchRows.foldlM (loadDispatch F taskId planFingerprint) []
  let observations ← observationRows.mapM (loadObservation taskId planFingerprint byNode)
  let cancellationReason ← loadCancellation F (latestCancellation s taskId planFingerprint)
  -- the list of dispatches and the dictionary by node are filled in step, so one is the other's values
  let dispatches := byNode.map Prod.snd
  return { taskId, planFingerprint, dispatches, observations
           recoveryRequiredTicketIds := (dispatches.filter fun t =>
             t.nodeId ∉ observations.map ExecutionObservation.nodeId).map DispatchTicket.ticketId
           cancellationReason }

end Repository

end ExecutionCheckpoint

end ThreeAgent
