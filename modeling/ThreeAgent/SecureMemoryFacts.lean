/-
What `put` stores is read back by `get` just when the value's text is that of
the value that is read from it: `put` hashes the text of the value it is
given, `get` that of the value it read. The two differ where the keys of a
dictionary are numbers, which are sorted as numbers and read as texts
(`put_get_iff`).
-/
import ThreeAgent.Lib.Table
import ThreeAgent.SecureMemory

namespace ThreeAgent.SecureMemory

open Outcome PyJson PyText

variable {F : Type} [JsonFloat F]

/-! ## The hash of a record -/

/-- Two texts that SHA-256 does not tell apart. -/
def Collide (a b : String) : Prop := a ≠ b ∧ Sha256.hexdigest a = Sha256.hexdigest b

/-- What `_verify_record` hashes. -/
def rehashed (record : MemoryRecord F) : Except Raised String := do
  let valueJson ← canonicalJson record.value
  let metadataJson ← canonicalJson record.metadata
  integrityPayload F (record.integrityFields valueJson metadataJson)

variable {record : MemoryRecord F}

theorem verifyRecord_ok :
    verifyRecord record = .ok () ↔ ∃ text, rehashed record = .ok text ∧ Sha256.hexdigest text = record.integrityHash := by
  unfold verifyRecord rehashed
  constructor
  · intro h
    obtain ⟨valueJson, hvalue, h⟩ := bind_ok.mp h
    obtain ⟨metadataJson, hmetadata, h⟩ := bind_ok.mp h
    obtain ⟨text, htext, h⟩ := bind_ok.mp h
    exact ⟨text, bind_ok.mpr ⟨valueJson, hvalue, bind_ok.mpr ⟨metadataJson, hmetadata, htext⟩⟩, require_ok.mp h⟩
  · intro ⟨text, h, hhash⟩
    obtain ⟨valueJson, hvalue, h⟩ := bind_ok.mp h
    obtain ⟨metadataJson, hmetadata, htext⟩ := bind_ok.mp h
    exact bind_ok.mpr ⟨valueJson, hvalue, bind_ok.mpr ⟨metadataJson, hmetadata, bind_ok.mpr ⟨text, htext, require_ok.mpr hhash⟩⟩⟩

variable {fields : IntegrityFields}

theorem writable_integrity (h : fields.version.natAbs < 2 ^ 64) : Writable (fields.toDict F) := by
  refine Writable.dict ?_
  intro e he
  simp only [List.mem_cons, List.not_mem_nil, or_false] at he
  rcases he with rfl | rfl | rfl | rfl | rfl | rfl | rfl | rfl | rfl | rfl | rfl
  any_goals exact Writable.str _
  · exact Writable.ofOption fun text _ => Writable.str text
  · exact Writable.int (dumpable_int h)

variable {text : String}

theorem canonicalJson_ok {v : Json F} : canonicalJson v = .ok text ↔ dumpsLax v = some text := orRaise_ok

theorem integrityPayload_iff : integrityPayload F fields = .ok text ↔ dumpsLax (fields.toDict F) = some text := orRaise_ok

theorem integrityPayload_ok (h : fields.version.natAbs < 2 ^ 64) : ∃ text, integrityPayload F fields = .ok text := by
  obtain ⟨text, htext⟩ := (writable_integrity (F := F) h).dumpsLax
  exact ⟨text, integrityPayload_iff.mpr htext⟩

theorem integrityPayload_inj {fields' : IntegrityFields} (h : fields.version.natAbs < 2 ^ 64)
    (h' : fields'.version.natAbs < 2 ^ 64) (htext : integrityPayload F fields = .ok text)
    (htext' : integrityPayload F fields' = .ok text) :
    fields.valueJson = fields'.valueJson ∧ fields.metadataJson = fields'.metadataJson := by
  rw [integrityPayload_iff] at htext htext'
  have heq : fields.toDict F = fields'.toDict F :=
    dumpsLax_inj (writable_integrity h).canonical (writable_integrity h').canonical htext htext'
  have hvalue := congrArg (Json.get? · "value_json") heq
  have hmetadata := congrArg (Json.get? · "metadata_json") heq
  simp only [IntegrityFields.toDict, get?_dict] at hvalue hmetadata
  refine ⟨?_, ?_⟩
  · exact Json.str.inj (Option.some.inj hvalue)
  · exact Json.str.inj (Option.some.inj hmetadata)

theorem verifyRecord_iff {value metadata : Json F} {valueJson metadataJson : String}
    (hversion : record.version.natAbs < 2 ^ 64) (hvalue : dumpsLax value = some valueJson)
    (hmetadata : dumpsLax metadata = some metadataJson)
    (htext : integrityPayload F (record.integrityFields valueJson metadataJson) = .ok text)
    (hread : record.value = normal value) (hread' : record.metadata = normal metadata)
    (hhash : record.integrityHash = Sha256.hexdigest text) :
    verifyRecord record = .ok () ↔
      (Canonical value ∧ Canonical metadata) ∨ ∃ again, rehashed record = .ok again ∧ Collide text again := by
  obtain ⟨valueJson', hvalue', hcanonical⟩ := dumpsLax_normal hvalue
  obtain ⟨metadataJson', hmetadata', hcanonical'⟩ := dumpsLax_normal hmetadata
  obtain ⟨again, hagain⟩ : ∃ again, integrityPayload F (record.integrityFields valueJson' metadataJson') = .ok again :=
    integrityPayload_ok hversion
  have hrehashed : rehashed record = .ok again := by
    rw [rehashed, hread, hread']
    exact bind_ok.mpr ⟨valueJson', canonicalJson_ok.mpr hvalue',
      bind_ok.mpr ⟨metadataJson', canonicalJson_ok.mpr hmetadata', hagain⟩⟩
  have hsame : text = again ↔ Canonical value ∧ Canonical metadata := by
    rw [← hcanonical, ← hcanonical']
    constructor
    · intro heq
      obtain ⟨hv, hm⟩ := integrityPayload_inj hversion hversion hagain (heq ▸ htext)
      exact ⟨hv, hm⟩
    · intro ⟨hv, hm⟩
      rw [hv, hm, htext] at hagain
      exact Except.ok.inj hagain
  rw [verifyRecord_ok, hhash, ← hsame]
  constructor
  · intro ⟨again', hagain', heq⟩
    rw [hrehashed] at hagain'
    cases hagain'
    by_cases htexts : text = again
    · exact .inl htexts
    · exact .inr ⟨again, hrehashed, htexts, heq.symm⟩
  · intro h
    refine ⟨again, hrehashed, ?_⟩
    rcases h with htexts | ⟨again', hagain', -, heq⟩
    · rw [htexts]
    · rw [hrehashed] at hagain'
      cases hagain'
      exact heq.symm

/-! ## The row of a record -/

/-- The row of a record, with the texts of its value and its metadata. -/
def rowOf (record : MemoryRecord F) (valueJson metadataJson : String) : RecordRow where
  recordId := record.recordId
  ns := record.ns
  memoryKey := record.key
  valueJson := valueJson
  metadataJson := metadataJson
  classification := record.classification
  provenance := record.provenance
  createdAt := record.createdAt
  updatedAt := record.updatedAt
  expiresAt := record.expiresAt
  version := record.version
  integrityHash := record.integrityHash

theorem rowToRecord_rowOf {value metadata : Json F} {valueJson metadataJson : String}
    (hvalue : dumpsLax value = some valueJson) (hmetadata : dumpsLax metadata = some metadataJson)
    (hread : record.value = normal value) (hread' : record.metadata = normal metadata)
    (hexpires : record.expiresAt ≠ some "") : rowToRecord F (rowOf record valueJson metadataJson) = .ok record := by
  refine bind_ok.mpr ⟨record.value, orRaise_ok.mpr ?_, bind_ok.mpr ⟨record.metadata, orRaise_ok.mpr ?_, ?_⟩⟩
  · rw [hread]
    exact loads_dumpsLax_normal hvalue
  · rw [hread']
    exact loads_dumpsLax_normal hmetadata
  · have hfilter : record.expiresAt.filter (· ≠ "") = record.expiresAt := by
      cases hcase : record.expiresAt with
      | none => rfl
      | some text =>
        have hne : text ≠ "" := fun heq => hexpires (by rw [hcase, heq])
        simp [Option.filter, hne]
    change Except.ok { record with expiresAt := (record.expiresAt.filter (· ≠ "")) } = _
    rw [hfilter]

theorem find?_ns {rows : List RecordRow} (hdistinct : (rows.map (·.recordId)).Nodup) (id ns : String) :
    rows.find? (fun row => row.recordId = id ∧ row.ns = ns) = (rows.find? (·.recordId = id)).filter (·.ns = ns) := by
  induction rows with
  | nil => rfl
  | cons row rows ih =>
    rw [List.map_cons, List.nodup_cons] at hdistinct
    by_cases hid : row.recordId = id
    · by_cases hns : row.ns = ns
      · simp [hid, hns, Option.filter]
      · have hnone : rows.find? (fun row => row.recordId = id ∧ row.ns = ns) = none := by
          rw [List.find?_eq_none]
          intro row' hrow' h
          simp only [decide_eq_true_eq] at h
          refine hdistinct.1 ?_
          rw [hid, ← h.1]
          exact List.mem_map_of_mem hrow'
        simp only [List.find?_cons, hid, hns, and_false, decide_false, decide_true, hnone]
        simp [Option.filter, hns]
    · simp only [List.find?_cons, hid, false_and, decide_false]
      exact ih hdistinct.2

theorem find?_upsert (db : Database) (row : RecordRow) (hnamed : row.recordId = recordIdFor row.ns row.memoryKey) :
    (db.upsert row hnamed).records.find? (fun r => r.recordId = row.recordId ∧ r.ns = row.ns) =
      match db.row? row.recordId with
      | none => some row
      | some old => if old.ns = row.ns then some (updateRow old row) else none := by
  rw [find?_ns (db.upsert row hnamed).distinct]
  unfold Database.upsert Database.row?
  by_cases hmem : row.recordId ∈ db.records.map (·.recordId)
  · rw [dif_pos hmem]
    obtain ⟨old, hold, hid⟩ := List.mem_map.mp hmem
    have hfind : db.records.find? (·.recordId = row.recordId) = some old := by
      rw [← hid]
      exact Table.find?_key _ db.distinct hold
    have hmap : (db.records.map fun old => if old.recordId = row.recordId then updateRow old row else old).find?
        (·.recordId = row.recordId) = some (updateRow old row) := by
      rw [List.find?_map]
      have hsame : ((fun r : RecordRow => decide (r.recordId = row.recordId)) ∘
          fun old => if old.recordId = row.recordId then updateRow old row else old) =
          fun r => decide (r.recordId = row.recordId) := by
        funext r
        dsimp only [Function.comp]
        split <;> rfl
      rw [hsame, hfind, Option.map_some, if_pos hid]
    rw [hfind]
    dsimp only
    rw [hmap]
    by_cases hns : old.ns = row.ns
    · rw [if_pos hns]
      simp [Option.filter, updateRow, hns]
    · rw [if_neg hns]
      simp [Option.filter, updateRow, hns]
  · rw [dif_neg hmem]
    have hfind : db.records.find? (·.recordId = row.recordId) = none := by
      rw [List.find?_eq_none]
      intro r hr h
      exact hmem (List.mem_map.mpr ⟨r, hr, by simpa using h⟩)
    rw [hfind, List.find?_append, hfind]
    simp [Option.filter]

/-! ## `put` -/

namespace SecureMemoryStore

variable [SortsItems F] {store : SecureMemoryStore} {now : Int} {args : PutArguments F} {value : Value F}
  {db db' : Database} {record : MemoryRecord F} {receipt : MemoryReceipt F}

/-- The metadata of a record that is put. -/
def PutArguments.metadataOf (args : PutArguments F) : Value F := args.metadata.getD (.obj [])

/-- What `put` returns and leaves in the database. -/
structure Put (args : PutArguments F) (value : Value F) (db db' : Database) (record : MemoryRecord F)
    (valueJson metadataJson text : String) : Prop where
  ns : identifier args.ns "namespace" 160 = .ok record.ns
  key : identifier args.key "key" 160 = .ok record.key
  named : record.recordId = recordIdFor record.ns record.key
  value_text : value.dumps = some valueJson
  metadata_text : args.metadataOf.dumps = some metadataJson
  value_read : loads valueJson = some record.value
  metadata_read : loads metadataJson = some record.metadata
  payload : integrityPayload F (record.integrityFields valueJson metadataJson) = .ok text
  hash : record.integrityHash = Sha256.hexdigest text
  version : record.version.natAbs < 2 ^ 64
  expires : record.expiresAt ≠ some ""
  created : ∀ old ∈ db.row? record.recordId, record.createdAt = old.createdAt
  records : db'.records = (db.upsert (rowOf record valueJson metadataJson) named).records

theorem iso_ne_empty (t : Int) : Clock.iso t ≠ "" := by
  intro h
  have hlength := congrArg (fun s => s.toList.length) h
  simp only [Clock.iso, String.toList_ofList, List.length_append, List.length_cons] at hlength
  simp at hlength

theorem expiry_ne_empty {ttlSeconds : Option Int} {expiresAt : Option String} (h : expiry now ttlSeconds = .ok expiresAt) :
    expiresAt ≠ some "" := by
  cases ttlSeconds with
  | none =>
    cases h
    exact fun heq => by cases heq
  | some ttl =>
    obtain ⟨instant, -, h⟩ := bind_ok.mp h
    cases h
    exact fun heq => iso_ne_empty instant (Option.some.inj heq)

theorem columnInt_ok {n m : Int} (h : columnInt n = .ok m) : m.natAbs < 2 ^ 64 := by
  obtain ⟨hbound, h⟩ := bind_unit_ok.mp h
  rw [require_ok] at hbound
  cases h
  omega

omit [SortsItems F] in
theorem appendReceipt_records {action ns recordId actor approvedBy result timestamp : String} {details : Json F}
    (h : appendReceipt F db action ns recordId actor approvedBy result timestamp details = .ok (db', receipt)) :
    db'.records = db.records := by
  unfold appendReceipt at h
  obtain ⟨body, -, h⟩ := bind_ok.mp h
  obtain ⟨detailsJson, -, h⟩ := bind_ok.mp h
  obtain ⟨-, h⟩ := bind_unit_ok.mp h
  cases h
  rfl

theorem put_ok (h : store.put now args value db = .ok (db', record, receipt)) :
    ∃ valueJson metadataJson text, Put args value db db' record valueJson metadataJson text := by
  unfold put at h
  obtain ⟨ns, hns, h⟩ := bind_ok.mp h
  obtain ⟨key, hkey, h⟩ := bind_ok.mp h
  obtain ⟨actor, -, h⟩ := bind_ok.mp h
  obtain ⟨provenance, -, h⟩ := bind_ok.mp h
  obtain ⟨classification, -, h⟩ := bind_ok.mp h
  obtain ⟨approver, -, h⟩ := bind_ok.mp h
  obtain ⟨-, h⟩ := bind_unit_ok.mp h
  obtain ⟨valueJson, hvalue, h⟩ := bind_ok.mp h
  obtain ⟨metadataJson, hmetadata, h⟩ := bind_ok.mp h
  obtain ⟨expiresAt, hexpires, h⟩ := bind_ok.mp h
  obtain ⟨version, hversion, h⟩ := bind_ok.mp h
  obtain ⟨text, htext, h⟩ := bind_ok.mp h
  obtain ⟨⟨db₁, receipt₁⟩, hreceipt, h⟩ := bind_ok.mp h
  obtain ⟨value', hread, h⟩ := bind_ok.mp h
  obtain ⟨metadata', hread', h⟩ := bind_ok.mp h
  cases h
  refine ⟨valueJson, metadataJson, text, ?_⟩
  exact {
    ns := hns
    key := hkey
    named := rfl
    value_text := orRaise_ok.mp hvalue
    metadata_text := orRaise_ok.mp hmetadata
    value_read := orRaise_ok.mp hread
    metadata_read := orRaise_ok.mp hread'
    payload := htext
    hash := rfl
    version := columnInt_ok hversion
    expires := expiry_ne_empty hexpires
    created := fun old hold => by rw [Option.mem_def.mp hold]; rfl
    records := appendReceipt_records hreceipt }

/-! ## `get` -/

/-- The two texts that are hashed are told apart by their hashes. -/
def Mistaken (record : MemoryRecord F) (value metadata : Value F) : Prop :=
  ∃ valueJson metadataJson text again, value.dumps = some valueJson ∧ metadata.dumps = some metadataJson ∧
    integrityPayload F (record.integrityFields valueJson metadataJson) = .ok text ∧ rehashed record = .ok again ∧
    Collide text again

/-- What `get` makes of the row it found. -/
def readRow (F : Type) [JsonFloat F] (later : Int) (row : RecordRow) : Except Raised (Option (MemoryRecord F)) := do
  if ← expired F later row.expiresAt then return none
  else do
    let record ← rowToRecord F row
    verifyRecord record
    return some record

omit [SortsItems F] in
theorem get_eq {later : Int} {ns key ns' key' : String} (hns : identifier ns "namespace" 160 = .ok ns')
    (hkey : identifier key "key" 160 = .ok key') : get F later ns key db =
      match db.records.find? fun row => row.recordId = recordIdFor ns' key' ∧ row.ns = ns' with
      | none => .ok none
      | some row => readRow F later row := by
  rw [get, hns, hkey]
  rfl

omit [SortsItems F] in
theorem readRow_ok {later : Int} {row : RecordRow} (h : readRow F later row = .ok (some record)) :
    record.key = row.memoryKey ∧ rowToRecord F row = .ok record ∧ verifyRecord record = .ok () := by
  obtain ⟨late, -, h⟩ := bind_ok.mp h
  cases late with
  | true => cases h
  | false =>
    obtain ⟨record', hrecord, h⟩ := bind_ok.mp h
    obtain ⟨hverify, h⟩ := bind_unit_ok.mp h
    cases h
    refine ⟨?_, hrecord, hverify⟩
    obtain ⟨value, -, hrecord⟩ := bind_ok.mp hrecord
    obtain ⟨metadata, -, hrecord⟩ := bind_ok.mp hrecord
    cases hrecord
    rfl

theorem dumps_some {value : Value F} (h : value.dumps = some text) :
    ∃ v : Json F, dumpsLax v = some text ∧ (value.Ascending ↔ Canonical v) := by
  obtain ⟨v, hwritten, htext⟩ := Option.bind_eq_some_iff.mp h
  refine ⟨v, htext, ?_⟩
  rw [Value.Ascending, hwritten]
  simp

variable {valueJson metadataJson text : String}

section
variable (hput : Put args value db db' record valueJson metadataJson text)
include hput

theorem Put.verify_iff :
    verifyRecord record = .ok () ↔
      value.Ascending ∧ args.metadataOf.Ascending ∨ Mistaken record value args.metadataOf := by
  obtain ⟨v, hvalue, hascending⟩ := dumps_some hput.value_text
  obtain ⟨m, hmetadata, hascending'⟩ := dumps_some hput.metadata_text
  have hread : record.value = normal v :=
    Option.some.inj (hput.value_read.symm.trans (loads_dumpsLax_normal hvalue))
  have hread' : record.metadata = normal m :=
    Option.some.inj (hput.metadata_read.symm.trans (loads_dumpsLax_normal hmetadata))
  rw [verifyRecord_iff hput.version hvalue hmetadata hput.payload hread hread' hput.hash, hascending, hascending']
  refine or_congr_right ?_
  constructor
  · intro ⟨again, hagain, hcollide⟩
    exact ⟨valueJson, metadataJson, text, again, hput.value_text, hput.metadata_text, hput.payload, hagain, hcollide⟩
  · intro ⟨valueJson', metadataJson', text', again, hv, hm, htext, hagain, hcollide⟩
    cases hput.value_text.symm.trans hv
    cases hput.metadata_text.symm.trans hm
    cases hput.payload.symm.trans htext
    exact ⟨again, hagain, hcollide⟩

theorem Put.rowToRecord :
    SecureMemory.rowToRecord F (rowOf record valueJson metadataJson) = .ok record := by
  obtain ⟨v, hvalue, -⟩ := dumps_some hput.value_text
  obtain ⟨m, hmetadata, -⟩ := dumps_some hput.metadata_text
  refine rowToRecord_rowOf hvalue hmetadata ?_ ?_ hput.expires
  · exact Option.some.inj (hput.value_read.symm.trans (loads_dumpsLax_normal hvalue))
  · exact Option.some.inj (hput.metadata_read.symm.trans (loads_dumpsLax_normal hmetadata))

theorem Put.found :
    db'.records.find? (fun row => row.recordId = recordIdFor record.ns record.key ∧ row.ns = record.ns) =
      match db.row? record.recordId with
      | none => some (rowOf record valueJson metadataJson)
      | some old => if old.ns = record.ns then some (updateRow old (rowOf record valueJson metadataJson)) else none := by
  rw [hput.records, ← hput.named]
  exact find?_upsert db (rowOf record valueJson metadataJson) hput.named

/-- What was put is read back before it expires just when the id of its key is that of no other key, and its hash is
that of what is read. -/
theorem Put.get_iff {later : Int}
    (hlive : expired F later record.expiresAt = .ok false) :
    get F later args.ns args.key db' = .ok (some record) ↔
      (∀ old ∈ db.row? record.recordId, old.ns = record.ns ∧ old.memoryKey = record.key) ∧
      (value.Ascending ∧ args.metadataOf.Ascending ∨ Mistaken record value args.metadataOf) := by
  rw [get_eq hput.ns hput.key, hput.found, ← hput.verify_iff]
  have hrow : readRow F later (rowOf record valueJson metadataJson) = .ok (some record) ↔ verifyRecord record = .ok () := by
    constructor
    · intro h
      exact (readRow_ok h).2.2
    · intro h
      exact bind_ok.mpr ⟨false, hlive, bind_ok.mpr ⟨record, hput.rowToRecord, bind_unit_ok.mpr ⟨h, rfl⟩⟩⟩
  cases hold : db.row? record.recordId with
  | none =>
    rw [← hrow]
    simp
  | some old =>
    have hid : old.recordId = record.recordId := by simpa using List.find?_some hold
    simp only [Option.mem_some_iff, forall_eq']
    by_cases hns : old.ns = record.ns
    · rw [if_pos hns]
      by_cases hkey : old.memoryKey = record.key
      · have hsame : updateRow old (rowOf record valueJson metadataJson) = rowOf record valueJson metadataJson := by
          have hcreated := hput.created old hold
          simp only [updateRow, rowOf, hid, hns, hkey, hcreated]
        rw [hsame, ← hrow]
        simp [hns, hkey]
      · constructor
        · intro h
          exact absurd (readRow_ok h).1.symm hkey
        · intro h
          exact absurd h.1.2 hkey
    · rw [if_neg hns]
      constructor
      · intro h
        cases h
      · intro h
        exact absurd h.1.1 hns

end

end SecureMemoryStore

end ThreeAgent.SecureMemory
