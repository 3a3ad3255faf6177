/-
The store of adaptive learning (`adaptive_learning_store.py`): a table of
immutable versions and a hash-chained ledger. There is no active pointer: the
active version of an item is read off the item's last ledger event.

Each call is one transaction: it returns the store it commits, or raises and
leaves the store as it was. `now` is the text of `_now()` in the call.
-/
import ThreeAgent.LearningContract

namespace ThreeAgent.AdaptiveLearning

open PyText Outcome PyJson

/-- `STORE_SCHEMA`. -/
def storeSchema : String := "workspace-adaptive-learning-store/v1"

/-- `LEDGER_SCHEMA`. -/
def ledgerSchema : String := "workspace-adaptive-learning-ledger/v1"

/-- `GENESIS_HASH`. -/
def genesisHash : String := "sha256:" ++ String.ofList (List.replicate 64 '0')

/-- `AdaptiveLearningStoreError(message)`. -/
def storeError (message : String) : Raised := ⟨.adaptiveLearningStoreError, message⟩

/-- `_compact_id`. -/
def compactId (value field : String) : Except Raised String := do
  require (idRe (strip value) = true) (storeError ("invalid " ++ field))
  return strip value

/-- `_sha`. -/
def storeSha (value field : String) : Except Raised String := do
  require (sha256Re (lower (strip value)) = true) (storeError ("invalid " ++ field))
  return lower (strip value)

/-- `_REASON.fullmatch`. -/
def reasonRe (s : String) : Bool :=
  match s.toList with
  | [] => false
  | c :: rest =>
    (c.isUpper || c.isDigit) &&
      (rest.all fun c => c.isUpper || c.isDigit || c ∈ ['_', '.', ':', '-']) && decide (rest.length ≤ 127)

/-- `_reason`. -/
def reason (value : String) : Except Raised String := do
  require (reasonRe (upper (strip value)) = true) (storeError "invalid reason_code")
  return upper (strip value)

/-- `_knowledge_payload`, with its keys as `sort_keys` writes them. -/
def knowledgePayload (itemId : String) (c : KnowledgeCandidate) : Json Unit :=
  .obj
    [("content", .str c.content), ("domain", .str c.domain), ("execution_mode", .str c.executionMode),
     ("item_id", .str itemId), ("kind", .str c.kind), ("ownership", .str c.ownership),
     ("risk_level", .str c.riskLevel), ("schema_version", .str storeSchema), ("scope", .str c.scope),
     ("sensitivity", .str c.sensitivity), ("title", .str c.title)]

/-! ## The tables -/

inductive Disposition where
  | staged
  | activeSnapshot
  deriving DecidableEq, Repr

def Disposition.text : Disposition → String
  | .staged => "staged"
  | .activeSnapshot => "active_snapshot"

/-- `_ALLOWED_EVENTS`. -/
inductive EventType where
  | stage
  | validate
  | activate
  | enterprise
  | archive
  | rollback
  deriving DecidableEq, Repr

def EventType.text : EventType → String
  | .stage => "stage"
  | .validate => "validate"
  | .activate => "activate"
  | .enterprise => "enterprise"
  | .archive => "archive"
  | .rollback => "rollback"

/-- `event_type IN ('activate','enterprise','archive','rollback')`. -/
def EventType.decides (t : EventType) : Bool := t ∈ [.activate, .enterprise, .archive, .rollback]

/-- `learning_versions`. -/
structure VersionRow where
  versionId : Nat
  itemId : String
  candidateId : String
  candidateSha256 : String
  knowledgeSha256 : String
  candidateJson : String
  level : Level
  disposition : Disposition
  validationReceiptSha256 : Option String
  createdAt : String
  deriving DecidableEq

/-- `learning_ledger`. -/
structure LedgerRow where
  seq : Nat
  schemaVersion : String
  eventId : String
  eventType : EventType
  itemId : String
  candidateId : Option String
  candidateSha256 : Option String
  knowledgeSha256 : Option String
  beforeSha256 : Option String
  afterSha256 : Option String
  validationReceiptSha256 : Option String
  sourceExperienceHashesJson : String
  evidenceHashesJson : String
  actorId : String
  reasonCode : String
  timestamp : String
  previousEntrySha256 : String
  entrySha256 : String
  deriving DecidableEq

/-- The two tables, each in the order of its key. Both are append-only (triggers). -/
structure Store where
  versions : List VersionRow := []
  ledger : List LedgerRow := []

/-- The largest key of a table. -/
def maxRowId : Nat := 2 ^ 63 - 1

namespace Store

/-- `INSERT INTO learning_versions`. The operations look for the row of this candidate and level
before they insert, so `UNIQUE(candidate_id, level)` is theirs to keep. -/
def insertVersion (db : Store) (itemId : String) (c : KnowledgeCandidate) (knowledgeSha256 candidateJson : String)
    (level : Level) (disposition : Disposition) (receiptSha256 : Option String) (now : String) :
    Except Raised (Store × VersionRow) := do
  require (db.versions.length < maxRowId) ⟨.operationalError, "database or disk is full"⟩
  let row : VersionRow :=
    { versionId := db.versions.length + 1, itemId, candidateId := c.candidateId, candidateSha256 := c.sha256,
      knowledgeSha256, candidateJson, level, disposition, validationReceiptSha256 := receiptSha256, createdAt := now }
  return ({ db with versions := db.versions ++ [row] }, row)

/-- `WHERE candidate_id=? AND level=?`. -/
def atLevel? (db : Store) (candidateId level : String) : Option VersionRow :=
  db.versions.find? fun r => r.candidateId = candidateId ∧ r.level.text = level

/-- `WHERE candidate_id=? ORDER BY version_id DESC LIMIT 1`. -/
def latest? (db : Store) (candidateId : String) : Option VersionRow :=
  (db.versions.filter fun r => r.candidateId = candidateId).getLast?

/-- `WHERE item_id=? AND candidate_id=? AND knowledge_sha256=? AND disposition='active_snapshot'
ORDER BY version_id DESC LIMIT 1`. -/
def snapshot? (db : Store) (itemId candidateId knowledgeSha256 : String) : Option VersionRow :=
  (db.versions.filter fun r => r.itemId = itemId ∧ r.candidateId = candidateId ∧
    r.knowledgeSha256 = knowledgeSha256 ∧ r.disposition = .activeSnapshot).getLast?

/-- `WHERE item_id=? AND knowledge_sha256=? AND disposition='active_snapshot'
ORDER BY version_id DESC LIMIT 1`. -/
def rollbackTarget? (db : Store) (itemId knowledgeSha256 : String) : Option VersionRow :=
  (db.versions.filter fun r => r.itemId = itemId ∧ r.knowledgeSha256 = knowledgeSha256 ∧
    r.disposition = .activeSnapshot).getLast?

/-- The last event that decides what is active of an item. -/
def decision? (db : Store) (itemId : String) : Option LedgerRow :=
  (db.ledger.filter fun e => e.itemId = itemId ∧ e.eventType.decides = true).getLast?

end Store

/-! ## Versions -/

/-- `_item_id`. -/
def itemId (c : KnowledgeCandidate) : Except Raised String :=
  compactId (if c.action ≠ "create" then c.targetItemId.getD "" else c.candidateId) "item_id"

/-- `(json.JSONDecodeError, TypeError, ValueError, KeyError)`. -/
def isDecodeError (e : Raised) : Bool :=
  e.cls.isValueError || e.cls = .typeError || e.cls = .keyError

/-- The identities of a row that do not belong to its candidate. -/
def rowFailures (row : VersionRow) (c : KnowledgeCandidate) (expectedItem : String) : List String :=
  (if c.candidateId ≠ row.candidateId then ["CANDIDATE_ID_MISMATCH"] else []) ++
    (if c.sha256 ≠ row.candidateSha256 then ["CANDIDATE_SHA_MISMATCH"] else []) ++
    (if expectedItem ≠ row.itemId then ["ITEM_ID_MISMATCH"] else []) ++
    (if digest (knowledgePayload expectedItem c) ≠ row.knowledgeSha256 then ["KNOWLEDGE_SHA_MISMATCH"] else [])

/-- `LEARNING_VERSION_INTEGRITY_FAILED:` and the failures. -/
def versionFailed (failures : List String) : Raised :=
  storeError ("LEARNING_VERSION_INTEGRITY_FAILED:" ++ join ',' failures)

/-- `_candidate_from_row`. -/
def candidateFromRow (row : VersionRow) : Except Raised KnowledgeCandidate := do
  let payload ← orRaise (loads row.candidateJson) (versionFailed ["CANDIDATE_JSON_INVALID"])
  let c ← rethrow isDecodeError (versionFailed ["CANDIDATE_JSON_INVALID"]) (KnowledgeCandidate.fromPayload payload)
  let expectedItem ← itemId c
  require (rowFailures row c expectedItem = []) (versionFailed (rowFailures row c expectedItem))
  return c

/-- What a ledger event says of the version it made active, against that version. -/
def eventFailures (event : LedgerRow) (row : VersionRow) : List String :=
  (if event.candidateSha256.getD "" ≠ row.candidateSha256 then ["LEDGER_CANDIDATE_SHA_MISMATCH"] else []) ++
    (if event.knowledgeSha256.getD "" ≠ row.knowledgeSha256 then ["LEDGER_KNOWLEDGE_SHA_MISMATCH"] else []) ++
    (if event.afterSha256.getD "" ≠ row.knowledgeSha256 then ["LEDGER_AFTER_SHA_MISMATCH"] else [])

/-- The version that an event made active. -/
def snapshotOf (db : Store) (itemId : String) (event : LedgerRow) (after : String) : Except Raised VersionRow := do
  let row ← orRaise (db.snapshot? itemId (event.candidateId.getD "") after)
    (versionFailed ["ACTIVE_SNAPSHOT_MISSING"])
  let _ ← candidateFromRow row
  require (eventFailures event row = []) (versionFailed (eventFailures event row))
  return row

/-- `_active_row`. -/
def activeRow (db : Store) (itemId : String) : Except Raised (Option VersionRow) :=
  match db.decision? itemId with
  | none => return none
  | some event =>
    if event.eventType = .archive then return none
    else match event.afterSha256 with
      | none => return none
      | some after => do
        let row ← snapshotOf db itemId event after
        return some row

/-- `_candidate_level_row`, or `CANDIDATE_NOT_STAGED`. -/
def candidateLevelRow (db : Store) (candidateId : String) : Except Raised (VersionRow × KnowledgeCandidate) := do
  let row ← orRaise (db.latest? candidateId) (storeError "CANDIDATE_NOT_STAGED")
  let c ← candidateFromRow row
  return (row, c)

/-! ## The ledger -/

/-- What an entry's hash covers, with its keys as `sort_keys` writes them. -/
def ledgerPayload (e : LedgerRow) (experienceHashes evidenceHashes : Json Unit) : Json Unit :=
  .obj
    [("actor_id", .str e.actorId), ("after_sha256", Json.ofOption .str e.afterSha256),
     ("before_sha256", Json.ofOption .str e.beforeSha256), ("candidate_id", Json.ofOption .str e.candidateId),
     ("candidate_sha256", Json.ofOption .str e.candidateSha256), ("event_id", .str e.eventId),
     ("event_type", .str e.eventType.text), ("evidence_hashes", evidenceHashes), ("item_id", .str e.itemId),
     ("knowledge_sha256", Json.ofOption .str e.knowledgeSha256),
     ("previous_entry_sha256", .str e.previousEntrySha256), ("reason_code", .str e.reasonCode),
     ("schema_version", .str e.schemaVersion), ("seq", .int e.seq),
     ("source_experience_hashes", experienceHashes), ("timestamp", .str e.timestamp),
     ("validation_receipt_sha256", Json.ofOption .str e.validationReceiptSha256)]

/-- The head of the ledger. -/
def headHash (db : Store) : String := ((db.ledger.getLast?).map (·.entrySha256)).getD genesisHash

/-- `COALESCE(MAX(seq),0)+1`. -/
def nextSeq (db : Store) : Nat := ((db.ledger.getLast?).map (·.seq)).getD 0 + 1

/-- `now.replace(':','').replace('-','').replace('.','')`. -/
def compactTime (now : String) : String := String.ofList (now.toList.filter (· ∉ [':', '-', '.']))

/-- The id of an event. -/
def eventId (eventType : EventType) (itemId now : String) (seq : Nat) : String :=
  "learning-event:" ++ compactTime now ++ ":" ++ eventType.text ++ ":" ++ itemId ++ ":" ++
    toString seq

/-- What the operations say of an event. -/
structure Event where
  eventType : EventType
  itemId : String
  candidate : KnowledgeCandidate
  knowledgeSha256 : String
  beforeSha256 : Option String
  afterSha256 : Option String
  receiptSha256 : Option String
  actorId : String
  reasonCode : String

/-- The row of an event, but for the hash that covers it. -/
def ledgerRow (db : Store) (e : Event) (actor code now : String) : LedgerRow :=
  { seq := nextSeq db, schemaVersion := ledgerSchema, eventId := eventId e.eventType e.itemId now (nextSeq db),
    eventType := e.eventType, itemId := e.itemId, candidateId := some e.candidate.candidateId,
    candidateSha256 := some e.candidate.sha256, knowledgeSha256 := some e.knowledgeSha256,
    beforeSha256 := e.beforeSha256, afterSha256 := e.afterSha256, validationReceiptSha256 := e.receiptSha256,
    sourceExperienceHashesJson := canonical (Json.strs e.candidate.sourceExperienceHashes),
    evidenceHashesJson := canonical (Json.strs e.candidate.evidenceHashes), actorId := actor, reasonCode := code,
    timestamp := now, previousEntrySha256 := headHash db, entrySha256 := "" }

/-- `_append_ledger`. -/
def appendLedger (db : Store) (e : Event) (now : String) : Except Raised Store := do
  let actor ← compactId e.actorId "actor_id"
  let code ← reason e.reasonCode
  let row := ledgerRow db e actor code now
  let entry := digest (ledgerPayload row (Json.strs e.candidate.sourceExperienceHashes)
    (Json.strs e.candidate.evidenceHashes))
  require (row.seq ≤ maxRowId) ⟨.overflowError, "Python int too large to convert to SQLite INTEGER"⟩
  require (∀ r ∈ db.ledger, r.eventId ≠ row.eventId)
    ⟨.integrityError, "UNIQUE constraint failed: learning_ledger.event_id"⟩
  require (∀ r ∈ db.ledger, r.entrySha256 ≠ entry)
    ⟨.integrityError, "UNIQUE constraint failed: learning_ledger.entry_sha256"⟩
  return { db with ledger := db.ledger ++ [{ row with entrySha256 := entry }] }

/-- The two lists of hashes of a row, or that they cannot be read. -/
def decodeHashes (e : LedgerRow) : Option (Json Unit × Json Unit) := do
  let experience ← loads e.sourceExperienceHashesJson
  let evidence ← loads e.evidenceHashesJson
  return (experience, evidence)

/-- One round of `_verify_ledger_conn`: the failures of an entry. -/
def entryFailures (expectedSeq : Nat) (previous : String) (e : LedgerRow) : List String :=
  let decoded := (decodeHashes e).getD (.arr [], .arr [])
  (if e.seq ≠ expectedSeq then ["SEQ_GAP:" ++ toString expectedSeq ++ ":" ++ toString e.seq] else []) ++
    (if e.schemaVersion ≠ ledgerSchema then ["SCHEMA_MISMATCH:" ++ toString e.seq] else []) ++
    (if decodeHashes e = none then ["LEDGER_JSON_INVALID:" ++ toString e.seq] else []) ++
    (if e.previousEntrySha256 ≠ previous then ["CHAIN_PREVIOUS_MISMATCH:" ++ toString e.seq] else []) ++
    (if digest (ledgerPayload e decoded.1 decoded.2) ≠ e.entrySha256
      then ["ENTRY_HASH_MISMATCH:" ++ toString e.seq] else [])

/-- The loop of `_verify_ledger_conn`. -/
def verifyFrom : Nat → String → List LedgerRow → List String
  | _, _, [] => []
  | expectedSeq, previous, e :: es =>
    entryFailures expectedSeq previous e ++ verifyFrom (expectedSeq + 1) e.entrySha256 es

/-- The failures of `verify_ledger`; it passes when there is none. -/
def verifyLedger (db : Store) : List String := verifyFrom 1 genesisHash db.ledger

/-- `_assert_ledger_integrity`. -/
def assertLedgerIntegrity (db : Store) : Except Raised Unit :=
  require (verifyLedger db = [])
    (storeError ("LEARNING_LEDGER_INTEGRITY_FAILED:" ++ join ',' ((verifyLedger db).take 8)))

/-! ## Operations -/

/-- A staged revision is written against what is active of its item; a creation finds nothing active. -/
def checkActive (c : KnowledgeCandidate) (active : Option VersionRow) : Except Raised Unit :=
  if c.action = "create" then require (active = none) (storeError "create cannot replace an active item")
  else do
    let row ← orRaise active (storeError "patch/supersede requires active target")
    require (c.baseItemSha256 = some row.knowledgeSha256) (storeError "STALE_BASE_ITEM_SHA256")

/-- The row that an earlier staging of the candidate left. -/
def restage (existing : VersionRow) (c : KnowledgeCandidate) (item : String) : Except Raised VersionRow := do
  let stored ← candidateFromRow existing
  require (stored.sha256 = c.sha256 ∧ existing.itemId = item) (storeError "candidate_id is immutable")
  return existing

/-- The new version and event of `stage`. -/
def stageNew (db : Store) (c : KnowledgeCandidate) (item actorId reasonCode now : String) :
    Except Raised (Store × VersionRow) := do
  let active ← activeRow db item
  checkActive c active
  let knowledge := digest (knowledgePayload item c)
  let (inserted, row) ← db.insertVersion item c knowledge (canonical c.payload) .candidate .staged none now
  let db' ← appendLedger inserted
    { eventType := .stage, itemId := item, candidate := c, knowledgeSha256 := knowledge,
      beforeSha256 := active.map (·.knowledgeSha256), afterSha256 := none, receiptSha256 := none, actorId,
      reasonCode } now
  let _ ← candidateFromRow row
  return (db', row)

/-- `stage`. -/
def stage (db : Store) (c : KnowledgeCandidate) (actorId reasonCode now : String) :
    Except Raised (Store × VersionRow) := do
  c.validate
  require (c.ownership = "learner_managed") (storeError "phase-3 store accepts only learner_managed candidates")
  let item ← itemId c
  assertLedgerIntegrity db
  match db.atLevel? c.candidateId "candidate" with
  | some existing =>
    let row ← restage existing c item
    return (db, row)
  | none => stageNew db c item actorId reasonCode now

/-- Whether a promotion makes its version the active one. -/
def activates (target : Level) (active : Option VersionRow) : Bool :=
  target ∈ [.approved, .enterprise] ∧ ¬ (target = .approved ∧ active.map (·.level) = some .enterprise)

/-- The event of a promotion. -/
def promotionEvent (target : Level) (active : Option VersionRow) : EventType :=
  if activates target active then (if target = .enterprise then .enterprise else .activate) else .validate

/-- The new version and event of `promote`. -/
def promoteNew (db : Store) (latest : VersionRow) (c : KnowledgeCandidate) (target : Level)
    (receiptSha256 actorId reasonCode now : String) : Except Raised (Store × VersionRow) := do
  let active ← activeRow db latest.itemId
  let disposition := if activates target active then Disposition.activeSnapshot else .staged
  let (inserted, row) ← db.insertVersion latest.itemId c latest.knowledgeSha256 latest.candidateJson target disposition
    (some receiptSha256) now
  let db' ← appendLedger inserted
    { eventType := promotionEvent target active, itemId := latest.itemId, candidate := c,
      knowledgeSha256 := latest.knowledgeSha256, beforeSha256 := active.map (·.knowledgeSha256),
      afterSha256 := if activates target active then some latest.knowledgeSha256 else none,
      receiptSha256 := some receiptSha256, actorId, reasonCode } now
  let _ ← candidateFromRow row
  return (db', row)

/-- The row that an earlier promotion to the level left. -/
def repromote (existing : VersionRow) (receiptSha256 : String) : Except Raised VersionRow := do
  let _ ← candidateFromRow existing
  require (existing.validationReceiptSha256.getD "" = receiptSha256) (storeError "promotion receipt is immutable")
  return existing

/-- `promote`. -/
def promote (db : Store) (candidateId targetLevel : String) (receipt : LearningValidationReceipt)
    (contradictions : List ContradictionRecord) (actorId reasonCode now : String) :
    Except Raised (Store × VersionRow) := do
  let candidateId ← compactId candidateId "candidate_id"
  receipt.validate
  assertLedgerIntegrity db
  let (latest, c) ← candidateLevelRow db candidateId
  match db.atLevel? candidateId targetLevel with
  | some existing =>
    let row ← repromote existing (digest receipt.payload)
    return (db, row)
  | none => do
    let decision ← AdaptiveLearningPolicy.evaluate c latest.level.text targetLevel (some receipt) contradictions
    require (decision.allowed = true) (storeError ("PROMOTION_BLOCKED:" ++ join ',' decision.reasonCodes))
    promoteNew db latest c decision.targetLevel (digest receipt.payload) actorId reasonCode now

/-- `active`. -/
def active (db : Store) (item : String) : Except Raised (Option (VersionRow × KnowledgeCandidate)) := do
  let item ← compactId item "item_id"
  assertLedgerIntegrity db
  let found ← activeRow db item
  match found with
  | none => return none
  | some row => do
    let c ← candidateFromRow row
    return some (row, c)

/-- `str(value or "") or None` of a nullable column. -/
def nonEmpty (value : Option String) : Option String := value.filter (· ≠ "")

/-- `archive`. -/
def archive (db : Store) (item expectedCurrentSha256 actorId reasonCode now : String) : Except Raised Store := do
  let item ← compactId item "item_id"
  let expected ← storeSha expectedCurrentSha256 "expected_current_sha256"
  assertLedgerIntegrity db
  let found ← activeRow db item
  let row ← orRaise found (storeError "ACTIVE_ITEM_NOT_FOUND")
  require (row.knowledgeSha256 = expected) (storeError "ACTIVE_ITEM_CHANGED")
  let c ← candidateFromRow row
  appendLedger db
    { eventType := .archive, itemId := item, candidate := c, knowledgeSha256 := row.knowledgeSha256,
      beforeSha256 := some row.knowledgeSha256, afterSha256 := none,
      receiptSha256 := nonEmpty row.validationReceiptSha256, actorId, reasonCode } now

/-- An expected hash that may be absent. -/
def expectedSha (value : Option String) : Except Raised (Option String) :=
  match value with
  | none => return none
  | some v => do
    let s ← storeSha v "expected_current_sha256"
    return some s

/-- `rollback`. -/
def rollback (db : Store) (item targetKnowledgeSha256 : String) (expectedCurrentSha256 : Option String)
    (actorId reasonCode now : String) : Except Raised (Store × VersionRow) := do
  let item ← compactId item "item_id"
  let target ← storeSha targetKnowledgeSha256 "target_knowledge_sha256"
  let expected ← expectedSha expectedCurrentSha256
  assertLedgerIntegrity db
  let found ← activeRow db item
  require (found.map (·.knowledgeSha256) = expected) (storeError "ACTIVE_ITEM_CHANGED")
  let row ← orRaise (db.rollbackTarget? item target) (storeError "ROLLBACK_TARGET_NOT_PROMOTED")
  let c ← candidateFromRow row
  let db' ← appendLedger db
    { eventType := .rollback, itemId := item, candidate := c, knowledgeSha256 := target,
      beforeSha256 := found.map (·.knowledgeSha256), afterSha256 := some target,
      receiptSha256 := nonEmpty row.validationReceiptSha256, actorId, reasonCode } now
  return (db', row)

end ThreeAgent.AdaptiveLearning
