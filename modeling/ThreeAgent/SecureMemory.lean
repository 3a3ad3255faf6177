/-
The secure memory store (`secure_memory.py`): records by namespace and key,
each with the hash of what it says, and a chain of receipts. A mutation is a
transaction on the database, which the SQL of the module is written out for;
`LIKE` is SQLite's, which takes the letters of ASCII for one another.
-/
import ThreeAgent.Errors
import ThreeAgent.Lib.PythonJson
import ThreeAgent.Lib.Sha256
import ThreeAgent.Lib.SqlLike
import ThreeAgent.Lib.Utf8

namespace ThreeAgent.SecureMemory

open Outcome PyJson PyText

def valueError (message : String) : Raised := ⟨.valueError, message⟩

/-- `_ALLOWED_CLASSIFICATIONS`. -/
def allowedClassifications : List String := ["public", "internal", "confidential", "restricted"]

/-! ## Fields -/

/-- `_identifier`. -/
def identifier (value field : String) (maxLength : Nat) : Except Raised String := do
  let text := strip value
  require (text ≠ "" ∧ text.toList.length ≤ maxLength ∧ text.toList.all (fun c => 32 ≤ c.toNat) = true)
    (valueError (field ++ " must be a non-empty compact string"))
  return text

/-- `_classification`. -/
def checkClassification (value : String) : Except Raised String := do
  let text := lower (strip value)
  require (text ∈ allowedClassifications)
    (valueError "classification must be one of ['confidential', 'internal', 'public', 'restricted']")
  return text

/-- `record_id_for`. -/
def recordIdFor (ns key : String) : String :=
  "mem_" ++ String.ofList ((Sha256.hexdigest (ns ++ "\x00" ++ key)).toList.take 32)

/-- `_canonical_json` of what is JSON already. -/
def canonicalJson {F : Type} [JsonFloat F] (value : Json F) : Except Raised String :=
  orRaise (dumpsLax value) (valueError "Exceeds the limit for integer string conversion")

/-- `_canonical_json` of a Python value; the `TypeError` of keys that cannot be sorted is told by the same code. -/
def canonicalValue {F : Type} [JsonFloat F] [SortsItems F] (value : Value F) : Except Raised String :=
  orRaise value.dumps (valueError "not serializable")

/-! ## Rows -/

/-- `secure_memory_records`. -/
structure RecordRow where
  recordId : String
  ns : String
  memoryKey : String
  valueJson : String
  metadataJson : String
  classification : String
  provenance : String
  createdAt : String
  updatedAt : String
  expiresAt : Option String
  version : Int
  integrityHash : String
  deriving DecidableEq, Repr

/-- `secure_memory_receipts`. -/
structure ReceiptRow where
  sequence : Nat
  receiptId : String
  prevHash : String
  eventHash : String
  action : String
  ns : String
  recordId : String
  actor : String
  approvedBy : String
  result : String
  timestamp : String
  detailsJson : String
  deriving DecidableEq, Repr

/-- The database. A record is kept under the id of its namespace and key; `sequence` is the last number that
AUTOINCREMENT gave out. -/
structure Database where
  records : List RecordRow := []
  receipts : List ReceiptRow := []
  sequence : Nat := 0
  named : ∀ row ∈ records, row.recordId = recordIdFor row.ns row.memoryKey := by simp
  distinct : (records.map (·.recordId)).Nodup := by simp

structure MemoryRecord (F : Type) where
  recordId : String
  ns : String
  key : String
  value : Json F
  metadata : Json F
  classification : String
  provenance : String
  createdAt : String
  updatedAt : String
  expiresAt : Option String
  version : Int
  integrityHash : String

structure MemoryReceipt (F : Type) where
  sequence : Nat
  receiptId : String
  prevHash : String
  eventHash : String
  action : String
  ns : String
  recordId : String
  actor : String
  approvedBy : String
  result : String
  timestamp : String
  details : Json F

/-- The arguments of `_integrity_payload`. -/
structure IntegrityFields where
  recordId : String
  ns : String
  key : String
  valueJson : String
  metadataJson : String
  classification : String
  provenance : String
  createdAt : String
  updatedAt : String
  expiresAt : Option String
  version : Int
  deriving DecidableEq, Repr

/-- The dictionary of `_integrity_payload`. -/
def IntegrityFields.toDict (F : Type) (fields : IntegrityFields) : Json F :=
  .dict [
    ("record_id", .str fields.recordId), ("namespace", .str fields.ns), ("key", .str fields.key),
    ("value_json", .str fields.valueJson), ("metadata_json", .str fields.metadataJson),
    ("classification", .str fields.classification), ("provenance", .str fields.provenance),
    ("created_at", .str fields.createdAt), ("updated_at", .str fields.updatedAt),
    ("expires_at", .ofOption .str fields.expiresAt), ("version", .int fields.version)]

/-- `_integrity_payload`. -/
def integrityPayload (F : Type) [JsonFloat F] (fields : IntegrityFields) : Except Raised String :=
  canonicalJson (fields.toDict F)

/-- `MemoryRecord.to_dict`. -/
def MemoryRecord.toDict {F : Type} (record : MemoryRecord F) : Json F :=
  .dict [
    ("schema_version", .str "workspace-secure-memory/v1"), ("record_id", .str record.recordId),
    ("namespace", .str record.ns), ("key", .str record.key), ("value", record.value), ("metadata", record.metadata),
    ("classification", .str record.classification), ("provenance", .str record.provenance),
    ("created_at", .str record.createdAt), ("updated_at", .str record.updatedAt),
    ("expires_at", .ofOption .str record.expiresAt), ("version", .int record.version),
    ("integrity_hash", .str record.integrityHash)]

/-! ## The store -/

/-- A store: its policy for mutations, its bounds, and the interpreter it runs on. -/
structure SecureMemoryStore where
  approvalPolicy : Option (String → String → String → String → Bool) := none
  maxRecords : Int := 20
  maxBytes : Int := 64 * 1024
  maxRecords_pos : 1 ≤ maxRecords := by decide
  maxBytes_pos : 1 ≤ maxBytes := by decide

namespace SecureMemoryStore

variable (store : SecureMemoryStore)

/-- `_approved`. -/
def approved (action ns key actor : String) (approvedBy : Option String) : Except Raised String :=
  match approvedBy.filter (· ≠ "") with
  | some approver => identifier approver "approved_by" 160
  | none =>
    if store.approvalPolicy.any fun policy => policy action ns key actor then return "policy"
    else throw ⟨.permissionError, "MEMORY_MUTATION_APPROVAL_REQUIRED"⟩

end SecureMemoryStore

variable {F : Type} [JsonFloat F]

/-- `_append_receipt`. -/
def appendReceipt (F : Type) [JsonFloat F] (db : Database) (action ns recordId actor approvedBy result timestamp : String)
    (details : Json F) : Except Raised (Database × MemoryReceipt F) := do
  let prevHash := (db.receipts.getLast?.map (·.eventHash)).getD "GENESIS"
  let body ← canonicalJson (.dict [
    ("action", .str action), ("namespace", .str ns), ("record_id", .str recordId), ("actor", .str actor),
    ("approved_by", .str approvedBy), ("result", .str result), ("timestamp", .str timestamp), ("details", details),
    ("prev_hash", .str prevHash)])
  let eventHash := Sha256.hexdigest body
  let receiptId := "mrc_" ++ String.ofList (eventHash.toList.take 32)
  let detailsJson ← canonicalJson details
  require (∀ row ∈ db.receipts, row.receiptId ≠ receiptId)
    ⟨.integrityError, "UNIQUE constraint failed: secure_memory_receipts.receipt_id"⟩
  let row : ReceiptRow := {
    sequence := db.sequence + 1
    receiptId, prevHash, eventHash, action, ns, recordId, actor, approvedBy, result, timestamp, detailsJson }
  return ({ db with receipts := db.receipts ++ [row], sequence := db.sequence + 1 },
    { sequence := db.sequence + 1
      receiptId, prevHash, eventHash, action, ns, recordId, actor, approvedBy, result, timestamp, details })

/-- The row of an id. -/
def Database.row? (db : Database) (recordId : String) : Option RecordRow := db.records.find? (·.recordId = recordId)

/-- What the `DO UPDATE` of `put` sets in the row of the same id. -/
def updateRow (old new : RecordRow) : RecordRow :=
  { old with
    valueJson := new.valueJson, metadataJson := new.metadataJson, classification := new.classification
    provenance := new.provenance, updatedAt := new.updatedAt, expiresAt := new.expiresAt, version := new.version
    integrityHash := new.integrityHash }

/-- `INSERT ... ON CONFLICT(record_id) DO UPDATE` of a row that is named by its namespace and key. -/
def Database.upsert (db : Database) (row : RecordRow) (hnamed : row.recordId = recordIdFor row.ns row.memoryKey) : Database :=
  if h : row.recordId ∈ db.records.map (·.recordId) then
    { db with
      records := db.records.map fun old => if old.recordId = row.recordId then updateRow old row else old
      named := by
        intro r hr
        obtain ⟨old, hold, rfl⟩ := List.mem_map.mp hr
        split
        · exact db.named old hold
        · exact db.named old hold
      distinct := by
        have hids : (db.records.map fun old => if old.recordId = row.recordId then updateRow old row else old).map
            (·.recordId) = db.records.map (·.recordId) := by
          rw [List.map_map]
          refine List.map_congr_left ?_
          intro old _
          dsimp only [Function.comp]
          split <;> rfl
        rw [hids]
        exact db.distinct }
  else
    { db with
      records := db.records ++ [row]
      named := by
        intro r hr
        rcases List.mem_append.mp hr with hr | hr
        · exact db.named r hr
        · rw [List.mem_singleton.mp hr]
          exact hnamed
      distinct := by
        rw [List.map_append, List.nodup_append]
        refine ⟨db.distinct, List.nodup_singleton _, ?_⟩
        intro id hid id' hid' heq
        rw [List.map_singleton, List.mem_singleton] at hid'
        exact h (hid' ▸ heq ▸ hid) }

/-- The bounds of an INTEGER column. -/
def columnInt (n : Int) : Except Raised Int := do
  require (-2 ^ 63 ≤ n ∧ n < 2 ^ 63) ⟨.overflowError, "Python int too large to convert to SQLite INTEGER"⟩
  return n

/-! ## Reading -/

/-- `_expired` at an instant. -/
def expired (F : Type) [PyRuntime F] (now : Int) (expiresAt : Option String) : Except Raised Bool :=
  match expiresAt.filter (· ≠ "") with
  | none => return false
  | some text => do
    let parsed ← orRaise (PyRuntime.fromIso F text) (valueError ("Invalid isoformat string: " ++ text))
    let instant ← orRaise parsed.instant? ⟨.typeError, "can't compare offset-naive and offset-aware datetimes"⟩
    return decide (instant ≤ now)

/-- `_row_to_record`. -/
def rowToRecord (F : Type) [JsonFloat F] (row : RecordRow) : Except Raised (MemoryRecord F) := do
  let value ← orRaise (loads row.valueJson) (valueError "value_json")
  let metadata ← orRaise (loads row.metadataJson) (valueError "metadata_json")
  return {
    recordId := row.recordId
    ns := row.ns
    key := row.memoryKey
    value, metadata
    classification := row.classification
    provenance := row.provenance
    createdAt := row.createdAt
    updatedAt := row.updatedAt
    expiresAt := row.expiresAt.filter (· ≠ "")
    version := row.version
    integrityHash := row.integrityHash }

/-- What `_verify_record` hashes. -/
def MemoryRecord.integrityFields (record : MemoryRecord F) (valueJson metadataJson : String) : IntegrityFields where
  recordId := record.recordId
  ns := record.ns
  key := record.key
  valueJson := valueJson
  metadataJson := metadataJson
  classification := record.classification
  provenance := record.provenance
  createdAt := record.createdAt
  updatedAt := record.updatedAt
  expiresAt := record.expiresAt
  version := record.version

/-- `_verify_record`. -/
def verifyRecord (record : MemoryRecord F) : Except Raised Unit := do
  let valueJson ← canonicalJson record.value
  let metadataJson ← canonicalJson record.metadata
  let payload ← integrityPayload F (record.integrityFields valueJson metadataJson)
  require (Sha256.hexdigest payload = record.integrityHash) ⟨.runtimeError, "MEMORY_RECORD_INTEGRITY_FAILED"⟩

namespace SecureMemoryStore

variable (store : SecureMemoryStore)

/-- The arguments of `put` beside the value. -/
structure PutArguments (F : Type) where
  ns : String
  key : String
  actor : String
  approvedBy : Option String := none
  metadata : Option (Value F) := none
  classification : String := "internal"
  provenance : String := "operator"
  ttlSeconds : Option Int := none

/-- `now + timedelta(seconds=ttl_seconds)`, as a text. -/
def expiry (now : Int) (ttlSeconds : Option Int) : Except Raised (Option String) :=
  match ttlSeconds with
  | none => return none
  | some ttl => do
    let instant ← Clock.plus ⟨.overflowError, "date value out of range"⟩ now (ttl * 1000000)
    return some (Clock.iso instant)

/-- `put` at an instant. -/
def put [SortsItems F] (now : Int) (args : PutArguments F) (value : Value F) (db : Database) :
    Except Raised (Database × MemoryRecord F × MemoryReceipt F) := do
  let ns ← identifier args.ns "namespace" 160
  let key ← identifier args.key "key" 160
  let actor ← identifier args.actor "actor" 160
  let provenance ← identifier args.provenance "provenance" 512
  let classification ← checkClassification args.classification
  let approver ← store.approved "put" ns key actor args.approvedBy
  require (∀ ttl ∈ args.ttlSeconds, 1 ≤ ttl) (valueError "ttl_seconds must be positive")
  let valueJson ← canonicalValue value
  let metadataJson ← canonicalValue (args.metadata.getD (.obj []))
  let expiresAt ← expiry now args.ttlSeconds
  let existing := db.row? (recordIdFor ns key)
  let version ← columnInt ((existing.map fun row => row.version + 1).getD 1)
  let createdAt := (existing.map (·.createdAt)).getD (Clock.iso now)
  let updatedAt := Clock.iso now
  let payload ← integrityPayload F {
    recordId := recordIdFor ns key
    ns, key, valueJson, metadataJson, classification, provenance, createdAt, updatedAt, expiresAt, version }
  let row : RecordRow := {
    recordId := recordIdFor ns key
    ns, memoryKey := key, valueJson, metadataJson, classification, provenance, createdAt, updatedAt, expiresAt, version
    integrityHash := Sha256.hexdigest payload }
  let (db, receipt) ← appendReceipt F (db.upsert row rfl) "put" ns row.recordId actor approver "ok" (Clock.iso now)
    (.dict [("key_hash", .str (Sha256.hexdigest key)), ("version", .int version), ("classification", .str classification)])
  let value ← orRaise (loads valueJson) (valueError "value_json")
  let metadata ← orRaise (loads metadataJson) (valueError "metadata_json")
  return (db, {
    recordId := row.recordId
    ns, key, value, metadata, classification, provenance, createdAt, updatedAt, expiresAt, version
    integrityHash := row.integrityHash }, receipt)

/-- `get` at an instant. -/
def get (F : Type) [JsonFloat F] (now : Int) (ns key : String) (db : Database) : Except Raised (Option (MemoryRecord F)) := do
  let ns ← identifier ns "namespace" 160
  let key ← identifier key "key" 160
  match db.records.find? fun row => row.recordId = recordIdFor ns key ∧ row.ns = ns with
  | none => return none
  | some row =>
    if ← expired F now row.expiresAt then return none
    else do
      let record ← rowToRecord F row
      verifyRecord record
      return some record

/-! ### Queries -/

structure QueryArguments where
  ns : String
  keyPrefix : Option String := none
  limit : Option Int := none
  maxBytes : Option Int := none
  classifications : Option (List String) := none

/-- The arguments of a query as they are used. -/
structure QueryPlan where
  ns : String
  keyPrefix : Option String
  boundedLimit : Int
  byteBudget : Int
  allowed : Option (List String)
  deriving DecidableEq, Repr

/-- `min(given or bound, bound)`. -/
def bounded (given : Option Int) (bound : Int) : Int := min ((given.filter (· ≠ 0)).getD bound) bound

/-- `query`, up to the `SELECT`. -/
def plan (args : QueryArguments) : Except Raised QueryPlan := do
  let ns ← identifier args.ns "namespace" 160
  let boundedLimit := bounded args.limit store.maxRecords
  require (1 ≤ boundedLimit) (valueError "limit must be positive")
  let byteBudget := bounded args.maxBytes store.maxBytes
  require (1 ≤ byteBudget) (valueError "max_bytes must be positive")
  let allowed ← args.classifications.elim (pure none) fun items => some <$> items.mapM checkClassification
  let keyPrefix ← args.keyPrefix.elim (pure none) fun text => some <$> identifier text "prefix" 160
  let boundedLimit ← columnInt boundedLimit
  return { ns, keyPrefix, boundedLimit, byteBudget, allowed }

namespace QueryPlan

variable (plan : QueryPlan)

/-- The `WHERE` of `query`. -/
def selects (row : RecordRow) : Bool :=
  row.ns = plan.ns && plan.keyPrefix.all fun text => SqlLike.like (SqlLike.escape text ++ "%") row.memoryKey

/-- The `ORDER BY` of `query`. -/
def Before (a b : RecordRow) : Prop := b.updatedAt < a.updatedAt ∨ a.updatedAt = b.updatedAt ∧ a.memoryKey ≤ b.memoryKey

instance (a b : RecordRow) : Decidable (Before a b) := inferInstanceAs (Decidable (_ ∨ _))

/-- The rows that the `SELECT` of `query` gives. -/
def rows (db : Database) : List RecordRow :=
  ((db.records.filter plan.selects).insertionSort Before).take plan.boundedLimit.toNat

/-- One row in the loop of `query`: the record and its size, where it is not passed over. -/
def consider (F : Type) [JsonFloat F] (now : Int) (row : RecordRow) : Except Raised (Option (MemoryRecord F × Nat)) := do
  if ← expired F now row.expiresAt then return none
  let record ← rowToRecord F row
  if plan.allowed.all (record.classification ∈ ·) then
    verifyRecord record
    let encoded ← canonicalJson record.toDict
    return some (record, (Utf8.encode encoded).length)
  else return none

/-- The loop of `query`; `clock` is what the clock shows when a row is come to. -/
def readRows (F : Type) [JsonFloat F] (clock : RecordRow → Int) (used : Nat) :
    List RecordRow → Except Raised (List (MemoryRecord F))
  | [] => return []
  | row :: rows => do
    match ← plan.consider F (clock row) row with
    | none => readRows F clock used rows
    | some (record, encoded) =>
      if plan.byteBudget < ↑(used + encoded) then return []
      else do
        let records ← readRows F clock (used + encoded) rows
        return record :: records

end QueryPlan

/-- `query`. -/
def query (F : Type) [JsonFloat F] (clock : RecordRow → Int)
    (args : QueryArguments) (db : Database) : Except Raised (List (MemoryRecord F)) := do
  let plan ← store.plan args
  plan.readRows F clock 0 (plan.rows db)

end SecureMemoryStore

end ThreeAgent.SecureMemory
