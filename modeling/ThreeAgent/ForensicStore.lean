/-
The forensic metadata store (`forensic_store.py`): evidence under its id,
the snapshots of a case in the order they were inserted, and the custody
events of a case under their index. `put_evidence`, `put_case_snapshot` and
`append_custody_event` are sequences of atomic blocks over the three tables:
each read of the code is a block, and an insert is one with its commit.

A table is the list of its rows in the order they were inserted, so the
position of a snapshot stands for its `id`. What is stored is JSON text, read
back by `_evidence_from_dict`, `_case_from_dict` and `_custody_from_dict`.
-/
import ThreeAgent.ForensicEvidence
import ThreeAgent.Lib.Interleaving

namespace ThreeAgent.SecurityMonitoring

open PyText Outcome PyJson Interleaving

/-- A row of `forensic_evidence`. -/
structure EvidenceRow where
  evidenceId : String
  evidenceType : String
  contentSha256 : String
  dataClass : String
  evidenceFingerprint : String
  evidenceJson : String
  deriving DecidableEq, Repr

/-- A row of `forensic_case_snapshots`. -/
structure CaseRow where
  caseId : String
  caseFingerprint : String
  status : String
  authorizationFingerprint : String
  caseJson : String
  deriving DecidableEq, Repr

/-- A row of `forensic_custody_events`. -/
structure CustodyRow where
  caseId : String
  eventIndex : Int
  evidenceId : String
  action : String
  previousEventSha256 : Option String
  recordSha256 : String
  eventJson : String
  deriving DecidableEq, Repr

structure ForensicStore where
  evidence : List EvidenceRow := []
  snapshots : List CaseRow := []
  custody : List CustodyRow := []
  deriving DecidableEq, Repr

/-- `FORENSIC_STORE_RECEIPT_SCHEMA`. -/
def forensicStoreReceiptSchema : String := "workspace-security-forensics/store-receipt-v1"

/-- The operations of a receipt. -/
inductive ForensicOperation where
  | putEvidence
  | putCaseSnapshot
  | appendCustody
  deriving DecidableEq, Repr

structure ForensicStoreReceipt where
  operation : ForensicOperation
  objectRef : String
  objectFingerprint : String
  idempotent : Bool
  schemaVersion : String := forensicStoreReceiptSchema
  deriving DecidableEq, Repr

def ForensicStoreReceipt.validate (r : ForensicStoreReceipt) : Except Raised ForensicStoreReceipt := do
  require (r.objectRef ≠ "") (contractError "forensic store receipt object_ref is required")
  require (startsWith r.objectFingerprint "sha256:" = true ∧ r.objectFingerprint.toList.length = 71)
    (contractError "forensic store receipt fingerprint is invalid")
  require (r.schemaVersion = forensicStoreReceiptSchema) (contractError "unsupported forensic store receipt schema")
  return r

/-! ## Reading what is stored -/

/-- `payload[key]`. -/
def storedField (payload : Json Unit) (key : String) : Except Raised (Json Unit) :=
  orRaise (payload.get? key) ⟨.keyError, key⟩

/-- The exception for a stored value of a type that the store does not write. -/
def storedType (key : String) : Raised := ⟨.typeError, key⟩

/-- `str(payload[key])` of a text. -/
def storedText (payload : Json Unit) (key : String) : Except Raised String := do
  match ← storedField payload key with
  | .str s => return s
  | _ => throw (storedType key)

/-- `None if payload[key] is None else str(payload[key])`. -/
def storedOptional (payload : Json Unit) (key : String) : Except Raised (Option String) := do
  match ← storedField payload key with
  | .null => return none
  | .str s => return some s
  | _ => throw (storedType key)

/-- `int(payload[key])` of an integer. -/
def storedInt (payload : Json Unit) (key : String) : Except Raised Int := do
  match ← storedField payload key with
  | .int n => return n
  | _ => throw (storedType key)

/-- `bool(payload[key])` of a boolean. -/
def storedBool (payload : Json Unit) (key : String) : Except Raised Bool := do
  match ← storedField payload key with
  | .bool b => return b
  | _ => throw (storedType key)

/-- `isinstance(payload[key], list)`. -/
def storedList (payload : Json Unit) (key message : String) : Except Raised (List (Json Unit)) := do
  match ← storedField payload key with
  | .arr xs => return xs
  | _ => throw (contractError message)

/-- `str(value)` of an element of a list of texts. -/
def elementText : Json Unit → Except Raised String
  | .str s => return s
  | _ => throw ⟨.typeError, "str"⟩

/-- `json.loads` of a column. -/
def storedJson (text : String) : Except Raised (Json Unit) := orRaise (loads text) ⟨.valueError, "Expecting value"⟩

section Decode

variable [PyTime]

/-- The provenance in `_evidence_from_dict`. -/
def provenanceFromDict (payload : Json Unit) : Except Raised EvidenceProvenance := do
  require (payload.isDict = true) (contractError "stored forensic provenance must be an object")
  let sourceId ← storedText payload "source_id"
  let sourceType ← storedText payload "source_type"
  let collectedAt ← storedText payload "collected_at"
  let producerId ← storedText payload "producer_id"
  let producerVersion ← storedText payload "producer_version"
  let content ← storedText payload "source_content_sha256"
  let upstream ← storedList payload "upstream_evidence_refs" "upstream_evidence_refs is not iterable"
  let upstream ← upstream.mapM elementText
  let schemaVersion ← storedText payload "schema_version"
  EvidenceProvenance.validate
    { sourceId := sourceId, sourceType := sourceType, collectedAt := collectedAt, producerId := producerId,
      producerVersion := producerVersion, sourceContentSha256 := content, upstreamEvidenceRefs := upstream,
      schemaVersion := schemaVersion }

/-- The time in `_evidence_from_dict`, when there is one. -/
def eventTimeFromDict (payload : Json Unit) : Except Raised ForensicEventTime := do
  require (payload.isDict = true) (contractError "stored forensic event_time must be an object")
  let original ← storedText payload "original_timestamp"
  let normalized ← storedText payload "normalized_utc"
  let clock ← storedText payload "source_clock_ref"
  let uncertainty ← storedInt payload "uncertainty_ms"
  let schemaVersion ← storedText payload "schema_version"
  ForensicEventTime.validate
    { originalTimestamp := original, normalizedUtc := normalized, sourceClockRef := clock,
      uncertaintyMs := uncertainty, schemaVersion := schemaVersion }

/-- `None`, or the time. -/
def optionalEventTimeFromDict (payload : Json Unit) : Except Raised (Option ForensicEventTime) :=
  match payload with
  | .null => return none
  | payload => some <$> eventTimeFromDict payload

/-- `_evidence_from_dict`. -/
def evidenceFromDict (payload : Json Unit) : Except Raised EvidenceObject := do
  let provenance ← provenanceFromDict (← storedField payload "provenance")
  let eventTime ← optionalEventTimeFromDict (← storedField payload "event_time")
  let parents ← storedList payload "parent_evidence_refs" "stored parent_evidence_refs must be an array"
  let id ← storedText payload "evidence_id"
  let evidenceType ← storedText payload "evidence_type"
  let content ← storedText payload "content_sha256"
  let byteSize ← storedInt payload "byte_size"
  let dataClass ← storedText payload "data_class"
  let parents ← parents.mapM elementText
  let derived ← storedBool payload "derived"
  let immutable ← storedBool payload "immutable"
  let embedded ← storedBool payload "payload_embedded"
  let schemaVersion ← storedText payload "schema_version"
  EvidenceObject.validate
    { evidenceId := id, evidenceType := evidenceType, contentSha256 := content, byteSize := byteSize,
      dataClass := dataClass, provenance := provenance, eventTime := eventTime, parentEvidenceRefs := parents,
      derived := derived, immutable := immutable, payloadEmbedded := embedded, schemaVersion := schemaVersion }

/-- A reference in `_case_from_dict`. -/
def referenceFromDict (payload : Json Unit) : Except Raised EvidenceReference := do
  require (payload.isDict = true) (contractError "stored case evidence reference must be an object")
  let id ← storedText payload "evidence_id"
  let content ← storedText payload "content_sha256"
  let relation ← storedText payload "relation"
  let schemaVersion ← storedText payload "schema_version"
  EvidenceReference.validate
    { evidenceId := id, contentSha256 := content, relation := relation, schemaVersion := schemaVersion }

/-- `_case_from_dict`. -/
def caseFromDict (payload : Json Unit) : Except Raised CaseRecord := do
  let refs ← storedList payload "evidence_refs" "stored case evidence_refs must be an array"
  let refs ← refs.mapM referenceFromDict
  let caseId ← storedText payload "case_id"
  let status ← storedText payload "status"
  let createdAt ← storedText payload "created_at"
  let updatedAt ← storedText payload "updated_at"
  let authorization ← storedText payload "authorization_fingerprint"
  let head ← storedOptional payload "custody_head_sha256"
  let timeline ← storedOptional payload "timeline_fingerprint"
  let review ← storedBool payload "human_review_required"
  let authority ← storedText payload "authority"
  let schemaVersion ← storedText payload "schema_version"
  CaseRecord.validate
    { caseId := caseId, status := status, createdAt := createdAt, updatedAt := updatedAt,
      authorizationFingerprint := authorization, evidenceRefs := refs, custodyHeadSha256 := head,
      timelineFingerprint := timeline, humanReviewRequired := review, authority := authority,
      schemaVersion := schemaVersion }

/-- `_custody_from_dict`. -/
def custodyFromDict (payload : Json Unit) : Except Raised CustodyEvent := do
  let index ← storedInt payload "event_index"
  let id ← storedText payload "evidence_id"
  let action ← storedText payload "action"
  let actor ← storedText payload "actor_ref"
  let occurredAt ← storedText payload "occurred_at"
  let previous ← storedOptional payload "previous_event_sha256"
  let note ← storedOptional payload "note_sha256"
  let record ← storedText payload "record_sha256"
  let schemaVersion ← storedText payload "schema_version"
  CustodyEvent.validate
    { eventIndex := index, evidenceId := id, action := action, actorRef := actor, occurredAt := occurredAt,
      previousEventSha256 := previous, noteSha256 := note, recordSha256 := record, schemaVersion := schemaVersion }

def EvidenceRow.read (row : EvidenceRow) : Except Raised EvidenceObject := do
  evidenceFromDict (← storedJson row.evidenceJson)

def CaseRow.read (row : CaseRow) : Except Raised CaseRecord := do
  caseFromDict (← storedJson row.caseJson)

def CustodyRow.read (row : CustodyRow) : Except Raised CustodyEvent := do
  custodyFromDict (← storedJson row.eventJson)

end Decode

namespace ForensicStore

/-- `SELECT ... FROM forensic_evidence WHERE evidence_id=?`. -/
def evidenceRow? (s : ForensicStore) (id : String) : Option EvidenceRow := s.evidence.find? fun r => r.evidenceId = id

/-- The snapshots of a case, in the order of their ids. -/
def snapshotsOf (s : ForensicStore) (caseId : String) : List CaseRow := s.snapshots.filter fun r => r.caseId = caseId

/-- `SELECT ... WHERE case_id=? ORDER BY id DESC LIMIT 1`. -/
def latestRow? (s : ForensicStore) (caseId : String) : Option CaseRow := (s.snapshotsOf caseId).getLast?

/-- `SELECT event_json FROM forensic_custody_events WHERE case_id=? ORDER BY event_index`. -/
def custodyOf (s : ForensicStore) (caseId : String) : List CustodyRow :=
  (s.custody.filter fun r => r.caseId = caseId).insertionSort fun a b => a.eventIndex ≤ b.eventIndex

variable [PyTime]

/-- `get_evidence`. -/
def getEvidence (s : ForensicStore) (id : String) : Except Raised (Option EvidenceObject) :=
  match s.evidenceRow? id with
  | none => return none
  | some row => do
    let evidence ← row.read
    let fingerprint ← evidence.fingerprint
    require (fingerprint = row.evidenceFingerprint) (contractError "stored forensic evidence fingerprint mismatch")
    return some evidence

/-- `get_latest_case`. -/
def getLatestCase (s : ForensicStore) (caseId : String) : Except Raised (Option CaseRecord) :=
  match s.latestRow? caseId with
  | none => return none
  | some row => do
    let record ← row.read
    let fingerprint ← record.fingerprint
    require (fingerprint = row.caseFingerprint) (contractError "stored forensic case fingerprint mismatch")
    return some record

/-- `custody_head`. -/
def custodyHead (s : ForensicStore) (caseId : String) : Except Raised (Option String) :=
  match s.custodyOf caseId with
  | [] => return none
  | rows => do
    let events ← rows.mapM CustodyRow.read
    some <$> verifyCustodyChain events

end ForensicStore

/-! ## The operations -/

inductive ForensicRequest where
  | putEvidence (evidence : EvidenceObject)
  | putCaseSnapshot (case : CaseRecord)
  | appendCustodyEvent (caseId : String) (event : CustodyEvent)
  deriving DecidableEq, Repr

/-- How far a request has come. The records in it are validated. -/
inductive ForensicPhase where
  | ready
  /-- `put_evidence` found no row -/
  | insertEvidence (evidence : EvidenceObject) (fingerprint : String)
  /-- `_require_case_evidence`, before the references that remain -/
  | requireEvidence (case : CaseRecord) (remaining : List EvidenceReference)
  /-- before `custody_head` -/
  | compareHead (case : CaseRecord)
  /-- before the first `SELECT` of `put_case_snapshot` -/
  | findExisting (case : CaseRecord)
  /-- before the second one -/
  | findPrevious (case : CaseRecord) (fingerprint : String)
  /-- the transition from the row that was read is allowed -/
  | insertCase (case : CaseRecord) (fingerprint : String) (previous : Option CaseRow)
  /-- before the `get_latest_case` of `append_custody_event` -/
  | findCase (caseId : String) (event : CustodyEvent)
  /-- before its `get_evidence` -/
  | findEvidence (caseId : String) (event : CustodyEvent)
  /-- before its own `SELECT` -/
  | readChain (caseId : String) (event : CustodyEvent)
  /-- the chain that was read takes the event -/
  | insertCustody (caseId : String) (event : CustodyEvent)
  | done (reply : Except Raised ForensicStoreReceipt)

structure ForensicCall where
  request : ForensicRequest
  phase : ForensicPhase

/-- The row that `put_evidence` inserts. -/
def EvidenceRow.of (e : EvidenceObject) (fingerprint : String) : EvidenceRow :=
  { evidenceId := e.evidenceId, evidenceType := e.evidenceType, contentSha256 := e.contentSha256,
    dataClass := e.dataClass, evidenceFingerprint := fingerprint, evidenceJson := canonicalJson e.payload }

/-- The row that `put_case_snapshot` inserts. -/
def CaseRow.of (c : CaseRecord) (fingerprint : String) : CaseRow :=
  { caseId := c.caseId, caseFingerprint := fingerprint, status := c.status,
    authorizationFingerprint := c.authorizationFingerprint, caseJson := canonicalJson c.payload }

/-- The row that `append_custody_event` inserts. -/
def CustodyRow.of (caseId : String) (e : CustodyEvent) : CustodyRow :=
  { caseId := caseId, eventIndex := e.eventIndex, evidenceId := e.evidenceId, action := e.action,
    previousEventSha256 := e.previousEventSha256, recordSha256 := e.recordSha256, eventJson := canonicalJson e.payload }

/-- `_validate_case_transition`. -/
def validateCaseTransition (previous current : CaseRecord) : Except Raised Unit := do
  require (previous.caseId = current.caseId) (contractError "case transition case_id mismatch")
  require (previous.authorizationFingerprint = current.authorizationFingerprint)
    (contractError "case authorization fingerprint is immutable")
  let before ← orRaise (CaseStatus.ofText? previous.status) ⟨.keyError, previous.status⟩
  require (((CaseStatus.ofText? current.status).map before.allows).getD false = true)
    (contractError "forensic case status transition is not monotonic")
  require (∀ ref ∈ previous.evidenceRefs, ref.evidenceId ∈ current.evidenceRefs.map EvidenceReference.evidenceId)
    (contractError "forensic case evidence set cannot shrink")
  require (current.createdAt = previous.createdAt) (contractError "forensic case created_at is immutable")

/-- `ForensicStoreReceipt(...).validate()`. -/
def forensicReceipt (operation : ForensicOperation) (objectRef fingerprint : String) (idempotent : Bool) :
    Except Raised ForensicStoreReceipt :=
  ForensicStoreReceipt.validate
    { operation := operation, objectRef := objectRef, objectFingerprint := fingerprint, idempotent := idempotent }

/-- `f"{case_id}:{event.event_index}"`. -/
def custodyRef (caseId : String) (e : CustodyEvent) : String :=
  caseId ++ ":" ++ String.ofList (intText e.eventIndex)

section Blocks

variable [PyTime]

/-- `put_evidence` up to its `SELECT`. -/
def putEvidenceRead (s : ForensicStore) (evidence : EvidenceObject) : Except Raised ForensicPhase := do
  let e ← evidence.validate
  let fingerprint ← e.fingerprint
  match s.evidenceRow? e.evidenceId with
  | none => return .insertEvidence e fingerprint
  | some row =>
    require (row.evidenceFingerprint = fingerprint)
      (contractError "forensic evidence_id is immutable and conflicts with stored metadata")
    return .done (forensicReceipt .putEvidence e.evidenceId fingerprint true)

/-- The `INSERT` of `put_evidence`. -/
def insertEvidence (s : ForensicStore) (e : EvidenceObject) (fingerprint : String) : Except Raised ForensicStore := do
  require (∀ row ∈ s.evidence, row.evidenceId ≠ e.evidenceId) (uniqueFailed "forensic_evidence.evidence_id")
  return { s with evidence := s.evidence ++ [.of e fingerprint] }

/-- One round of `_require_case_evidence`. -/
def requireReference (s : ForensicStore) (ref : EvidenceReference) : Except Raised Unit := do
  let ref ← ref.validate
  let stored ← orRaise (← s.getEvidence ref.evidenceId) (contractError "case references unknown forensic evidence")
  require (stored.contentSha256 = ref.contentSha256) (contractError "case evidence reference content hash mismatch")

/-- The comparison with `custody_head`, when the case names a head. -/
def compareHead (s : ForensicStore) (c : CaseRecord) : Except Raised Unit :=
  match c.custodyHeadSha256 with
  | none => return
  | some head => do
    let stored ← s.custodyHead c.caseId
    require (stored = some head) (contractError "case custody_head_sha256 does not match stored custody chain")

/-- The check of the row that the second `SELECT` of `put_case_snapshot` gives. -/
def checkPrevious (c : CaseRecord) : Option CaseRow → Except Raised Unit
  | none => return
  | some row => do
    let prior ← row.read
    validateCaseTransition prior c

/-- The `INSERT` of `put_case_snapshot`. -/
def insertCase (s : ForensicStore) (c : CaseRecord) (fingerprint : String) : Except Raised ForensicStore := do
  require (∀ row ∈ s.snapshots, ¬ (row.caseId = c.caseId ∧ row.caseFingerprint = fingerprint))
    (uniqueFailed "forensic_case_snapshots.case_id, forensic_case_snapshots.case_fingerprint")
  return { s with snapshots := s.snapshots ++ [.of c fingerprint] }

/-- What `append_custody_event` does with the chain that it read. -/
def appendToChain (caseId : String) (event : CustodyEvent) (rows : List CustodyRow) : Except Raised ForensicPhase := do
  let existing ← rows.mapM CustodyRow.read
  if event.eventIndex ≤ existing.length then
    let stored ← orRaise existing[(event.eventIndex - 1).toNat]? ⟨.indexError, "tuple index out of range"⟩
    require (stored.recordSha256 = event.recordSha256)
      (contractError "custody event_index conflicts with existing hash-chain record")
    return .done (forensicReceipt .appendCustody (custodyRef caseId event) event.recordSha256 true)
  else
    require (event.eventIndex = existing.length + 1) (contractError "custody event_index must append contiguously")
    let _ ← verifyCustodyChain (existing ++ [event])
    return .insertCustody caseId event

/-- The `INSERT` of `append_custody_event`. -/
def insertCustody (s : ForensicStore) (caseId : String) (event : CustodyEvent) : Except Raised ForensicStore := do
  require (∀ row ∈ s.custody, ¬ (row.caseId = caseId ∧ row.eventIndex = event.eventIndex))
    (uniqueFailed "forensic_custody_events.case_id, forensic_custody_events.event_index")
  require (∀ row ∈ s.custody, ¬ (row.caseId = caseId ∧ row.recordSha256 = event.recordSha256))
    (uniqueFailed "forensic_custody_events.case_id, forensic_custody_events.record_sha256")
  return { s with custody := s.custody ++ [.of caseId event] }

/-- The next atomic block of a request. -/
def forensicBlock (s : ForensicStore) (request : ForensicRequest) :
    ForensicPhase → Except Raised (ForensicStore × ForensicPhase)
  | .ready =>
    match request with
    | .putEvidence evidence => do return (s, ← putEvidenceRead s evidence)
    | .putCaseSnapshot case => do
      let c ← case.validate
      return (s, .requireEvidence c c.evidenceRefs)
    | .appendCustodyEvent caseId event => do return (s, .findCase caseId (← event.validate))
  | .insertEvidence e fingerprint => do
    let s ← insertEvidence s e fingerprint
    return (s, .done (forensicReceipt .putEvidence e.evidenceId fingerprint false))
  | .requireEvidence c [] => return (s, .compareHead c)
  | .requireEvidence c (ref :: remaining) => do
    requireReference s ref
    return (s, .requireEvidence c remaining)
  | .compareHead c => do
    compareHead s c
    return (s, .findExisting c)
  | .findExisting c => do
    let fingerprint ← c.fingerprint
    if s.snapshots.any fun row => row.caseId = c.caseId && row.caseFingerprint = fingerprint then
      return (s, .done (forensicReceipt .putCaseSnapshot c.caseId fingerprint true))
    else return (s, .findPrevious c fingerprint)
  | .findPrevious c fingerprint => do
    checkPrevious c (s.latestRow? c.caseId)
    return (s, .insertCase c fingerprint (s.latestRow? c.caseId))
  | .insertCase c fingerprint _ => do
    let s ← insertCase s c fingerprint
    return (s, .done (forensicReceipt .putCaseSnapshot c.caseId fingerprint false))
  | .findCase caseId event => do
    let _ ← orRaise (← s.getLatestCase caseId) (contractError "custody event requires an existing forensic case")
    return (s, .findEvidence caseId event)
  | .findEvidence caseId event => do
    let _ ← orRaise (← s.getEvidence event.evidenceId)
      (contractError "custody event references unknown forensic evidence")
    return (s, .readChain caseId event)
  | .readChain caseId event => do return (s, ← appendToChain caseId event (s.custodyOf caseId))
  | .insertCustody caseId event => do
    let s ← insertCustody s caseId event
    return (s, .done (forensicReceipt .appendCustody (custodyRef caseId event) event.recordSha256 false))
  | .done reply => return (s, .done reply)

/-- A block that raises ends the request and leaves the tables as they are. -/
def forensicAct (s : ForensicStore) (c : ForensicCall) : ForensicStore × ForensicCall :=
  match forensicBlock s c.request c.phase with
  | .ok (s', phase) => (s', { c with phase := phase })
  | .error e => (s, { c with phase := .done (.error e) })

/-- The requests of several connections to one store. -/
def forensicProgram : Program ForensicStore ForensicCall ForensicRequest Unit where
  init request := ⟨request, .ready⟩
  act _ := forensicAct

end Blocks

end ThreeAgent.SecurityMonitoring
