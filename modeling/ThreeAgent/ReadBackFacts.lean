/-
What is stored is read back, over the two memories of the program. An event's
payload has only keys that are strings, so its text is canonical and the event
is read back as it was; the secure memory takes any value that `json.dumps`
takes, and there the text of what is read may differ from what was hashed.
-/
import ThreeAgent.MemoryHistoryFacts
import ThreeAgent.SecureMemoryFacts

namespace ThreeAgent

open Outcome PyJson

namespace HarnessMemory

/-! ## Payloads -/

section Payloads

variable {F : Type}

mutual

theorem canonical_payloadOf : ∀ {v : Value F} {w : Json F}, payloadOf v = .ok w → Canonical w
  | .null, _, h => by cases h; trivial
  | .bool _, _, h => by cases h; trivial
  | .int _, _, h => by cases h; trivial
  | .float _, _, h => by cases h; trivial
  | .str _, _, h => by cases h; trivial
  | .arr vs, w, h => by
    obtain ⟨ws, hws, h⟩ := bind_ok.mp h
    cases h
    exact canonical_elemsOf hws
  | .obj kvs, w, h => by
    obtain ⟨entries, hentries, h⟩ := bind_ok.mp h
    cases h
    exact canonical_dict (canonical_entriesOf hentries)

theorem canonical_elemsOf : ∀ {vs : List (Value F)} {ws : List (Json F)}, elemsOf vs = .ok ws → ElemsCanonical ws
  | [], _, h => by cases h; trivial
  | v :: vs, _, h => by
    obtain ⟨w, hw, h⟩ := bind_ok.mp h
    obtain ⟨ws, hws, h⟩ := bind_ok.mp h
    cases h
    exact ⟨canonical_payloadOf hw, canonical_elemsOf hws⟩

theorem canonical_entriesOf : ∀ {kvs : List (Key F × Value F)} {entries : List (String × Json F)},
    entriesOf kvs = .ok entries → ∀ e ∈ entries, Canonical e.2
  | [], _, h => by cases h; exact List.forall_mem_nil _
  | (.str k, v) :: kvs, _, h => by
    obtain ⟨w, hw, h⟩ := bind_ok.mp h
    obtain ⟨entries, hentries, h⟩ := bind_ok.mp h
    cases h
    exact List.forall_mem_cons.mpr ⟨canonical_payloadOf hw, canonical_entriesOf hentries⟩
  | (.num _, _) :: _, _, h => by cases h
  | (.bool _, _) :: _, _, h => by cases h
  | (.none, _) :: _, _, h => by cases h

end

end Payloads

/-! ## Events -/

variable {F : Type} [PyRuntime F] {tasks : List String} {event : HarnessEvent F} {db db' : Store F} {fingerprint : String}

theorem loadEvent_appendEvent (hcanonical : Canonical event.payload)
    (h : appendEvent tasks event db = .ok (db', fingerprint)) :
    ∃ stored, loadEvent db' event.eventId = .ok stored ∧ stored.fingerprint = .ok fingerprint ∧
      (stored.projectId = event.projectId ↔ ∀ row ∈ db.event? event.eventId, row.projectId = event.projectId) := by
  have hrun := h
  unfold appendEvent at h
  obtain ⟨hvalid, h⟩ := bind_unit_ok.mp h
  obtain ⟨htask, h⟩ := bind_unit_ok.mp h
  obtain ⟨fp, hfp, h⟩ := bind_ok.mp h
  have hid : compactId event.eventId "event_id" = .ok ⟨⟩ := (bind_unit_ok.mp hvalid).1
  cases hold : db.event? event.eventId with
  | some row =>
    rw [hold] at h
    obtain ⟨stored, hstored, h⟩ := bind_ok.mp h
    obtain ⟨known, hknown, h⟩ := bind_ok.mp h
    obtain ⟨hsame, h⟩ := bind_unit_ok.mp h
    rw [require_ok] at hsame
    cases h
    refine ⟨stored, ?_, by rw [hknown, hsame], ?_⟩
    · exact bind_ok.mpr ⟨⟨⟩, hid, bind_ok.mpr ⟨row, orRaise_ok.mpr hold, hstored⟩⟩
    · rw [(eventFromRow_ok hstored).2.1]
      simp
  | none =>
    obtain ⟨json, hnew, hread⟩ := appendEvent_new hcanonical hvalid htask hfp hold
    rw [hrun] at hnew
    cases hnew
    refine ⟨event, ?_, hfp, by simp⟩
    have hfind : ({ db with events := db.events ++ [eventRowOf event json fingerprint] } : Store F).event? event.eventId =
        some (eventRowOf event json fingerprint) := by
      unfold Store.event? at hold ⊢
      rw [List.find?_append, hold]
      simp [eventRowOf]
    exact bind_ok.mpr ⟨⟨⟩, hid, bind_ok.mpr ⟨_, orRaise_ok.mpr hfind, hread⟩⟩

/-- An event that was appended is read back with its fingerprint just when its id is not that of an event of another
project. -/
theorem getEvent_iff (hcanonical : Canonical event.payload) (h : appendEvent tasks event db = .ok (db', fingerprint)) :
    (∃ stored, getEvent db' event.eventId event.projectId = .ok stored ∧ stored.fingerprint = .ok fingerprint) ↔
      ∀ row ∈ db.event? event.eventId, row.projectId = event.projectId := by
  obtain ⟨stored, hload, hfp, hproject⟩ := loadEvent_appendEvent hcanonical h
  have hid : compactId event.projectId "project_id" = .ok ⟨⟩ := by
    unfold appendEvent at h
    exact (bind_unit_ok.mp (bind_unit_ok.mp (bind_unit_ok.mp h).1).2).1
  rw [← hproject]
  constructor
  · intro ⟨stored', hget, _⟩
    obtain ⟨-, hget⟩ := bind_unit_ok.mp hget
    obtain ⟨event', hload', hget⟩ := bind_ok.mp hget
    obtain ⟨hrequire, hget⟩ := bind_unit_ok.mp hget
    cases hload.symm.trans hload'
    exact require_ok.mp hrequire
  · intro heq
    refine ⟨stored, ?_, hfp⟩
    exact bind_unit_ok.mpr ⟨hid, bind_ok.mpr ⟨stored, hload, bind_unit_ok.mpr ⟨require_ok.mpr heq, rfl⟩⟩⟩

end HarnessMemory

namespace SecureMemory

namespace SecureMemoryStore

/-- **Stored values are read back.** What `put` returned is what `get` gives before it expires, if and only if the id of its
key is not that of another key and, collisions apart, the keys of its dictionaries ascend as texts; an event that
`append_event` took is given by `get_event` with its fingerprint, if and only if its id is not that of an event of another
project. -/
theorem stored_readBack_iff (F : Type) [JsonFloat F] [SortsItems F] :
    (∀ (store : SecureMemoryStore) (now later : Int) (args : PutArguments F) (value : Value F) (db db' : Database)
        (record : MemoryRecord F) (receipt : MemoryReceipt F),
      store.put now args value db = .ok (db', record, receipt) → expired F later record.expiresAt = .ok false →
      (get F later args.ns args.key db' = .ok (some record) ↔
        (∀ old ∈ db.row? record.recordId, old.ns = record.ns ∧ old.memoryKey = record.key) ∧
        (value.Ascending ∧ args.metadataOf.Ascending ∨ Mistaken record value args.metadataOf))) ∧
    ∀ (tasks : List String) (event : HarnessMemory.HarnessEvent F) (payload : Value F) (db db' : HarnessMemory.Store F)
        (fingerprint : String),
      HarnessMemory.payloadOf payload = .ok event.payload →
      HarnessMemory.appendEvent tasks event db = .ok (db', fingerprint) →
      ((∃ stored, HarnessMemory.getEvent db' event.eventId event.projectId = .ok stored ∧
          stored.fingerprint = .ok fingerprint) ↔
        ∀ row ∈ db.event? event.eventId, row.projectId = event.projectId) := by
  refine ⟨?_, ?_⟩
  · intro store now later args value db db' record receipt hput hlive
    obtain ⟨valueJson, metadataJson, text, hput⟩ := put_ok hput
    exact hput.get_iff hlive
  · intro tasks event payload db db' fingerprint hpayload happend
    exact HarnessMemory.getEvent_iff (HarnessMemory.canonical_payloadOf hpayload) happend

namespace Numbered

def numbered : Value WholeFloat := .obj [(.num (.int 10), .null), (.num (.int 9), .null)]

def arguments : PutArguments WholeFloat where
  ns := "n"
  key := "k"
  actor := "a"
  approvedBy := some "b"
  classification := "public"
  provenance := "p"

/-- What is hashed of its record, for a text of the value. -/
def fields (valueJson : String) : IntegrityFields where
  recordId := recordIdFor "n" "k"
  ns := "n"
  key := "k"
  valueJson := valueJson
  metadataJson := "\x7b\x7d"
  classification := "public"
  provenance := "p"
  createdAt := Clock.iso 0
  updatedAt := Clock.iso 0
  expiresAt := none
  version := 1

def written : String := "\x7b\"9\":null,\"10\":null\x7d"

def reread : String := "\x7b\"10\":null,\"9\":null\x7d"

theorem put_fields : (({} : SecureMemoryStore).put 0 arguments numbered {}).toOption.map
    (fun out => out.2.1.integrityFields "" "\x7b\x7d") = some (fields "") := by decide +kernel

theorem numbered_written : numbered.dumps = some written := by decide +kernel

theorem metadata_written : arguments.metadataOf.dumps = some "\x7b\x7d" := by decide

theorem written_read : (loads (F := WholeFloat) written).bind dumpsLax = some reread := by decide +kernel

theorem metadata_read : (loads (F := WholeFloat) "\x7b\x7d").bind dumpsLax = some "\x7b\x7d" := by decide

theorem hashes_ne : Sha256.hexdigest (String.ofList (layoutText .compact spellFloat 0 ((fields written).toDict WholeFloat))) ≠
    Sha256.hexdigest (String.ofList (layoutText .compact spellFloat 0 ((fields reread).toDict WholeFloat))) := by
  rw [Sha256.hexdigest_ofList, Sha256.hexdigest_ofList]
  have hne : Sha256.fastDigest (charBytes (layoutText .compact spellFloat 0 ((fields written).toDict WholeFloat))) ≠
      Sha256.fastDigest (charBytes (layoutText .compact spellFloat 0 ((fields reread).toDict WholeFloat))) := by
    decide +kernel
  intro heq
  exact hne (String.ofList_injective heq)

theorem payload_text {valueJson text : String} (h : integrityPayload WholeFloat (fields valueJson) = .ok text) :
    text = String.ofList (layoutText .compact spellFloat 0 ((fields valueJson).toDict WholeFloat)) := by
  have hdumps := integrityPayload_iff.mp h
  unfold dumpsLax at hdumps
  split at hdumps
  · exact (Option.some.inj hdumps).symm
  · cases hdumps

/-- A dictionary that is put under the keys 9 and 10 is not read back: its hash is taken over a text with 9 before 10, and
that of what is read over one with "10" before "9". -/
theorem numbered_not_readBack : ∃ db record receipt,
    ({} : SecureMemoryStore).put 0 arguments numbered {} = .ok (db, record, receipt) ∧
      expired WholeFloat 1 record.expiresAt = .ok false ∧
      get WholeFloat 1 arguments.ns arguments.key db = .error ⟨.runtimeError, "MEMORY_RECORD_INTEGRITY_FAILED"⟩ := by
  have hfields := put_fields
  cases hrun : ({} : SecureMemoryStore).put 0 arguments numbered {} with
  | error e =>
    rw [hrun] at hfields
    cases hfields
  | ok out =>
    obtain ⟨db, record, receipt⟩ := out
    rw [hrun] at hfields
    have hrecord : ∀ valueJson, record.integrityFields valueJson "\x7b\x7d" = fields valueJson := by
      intro valueJson
      exact congrArg (fun f : IntegrityFields => { f with valueJson := valueJson }) (Option.some.inj hfields)
    obtain ⟨valueJson, metadataJson, text, hput⟩ := put_ok hrun
    cases hput.value_text.symm.trans numbered_written
    cases hput.metadata_text.symm.trans metadata_written
    have hexpires : record.expiresAt = none := congrArg IntegrityFields.expiresAt (hrecord written)
    have hlive : expired WholeFloat 1 record.expiresAt = .ok false := by
      rw [hexpires]
      rfl
    refine ⟨db, record, receipt, rfl, hlive, ?_⟩
    have hvalue := written_read
    rw [hput.value_read, Option.bind_some] at hvalue
    have hmetadata := metadata_read
    rw [hput.metadata_read, Option.bind_some] at hmetadata
    obtain ⟨again, hagain⟩ := @integrityPayload_ok WholeFloat _ (fields reread) (by decide)
    have htext := payload_text ((hrecord written).symm ▸ hput.payload)
    have hverify : verifyRecord record = .error ⟨.runtimeError, "MEMORY_RECORD_INTEGRITY_FAILED"⟩ := by
      rw [verifyRecord, canonicalJson_ok.mpr hvalue, canonicalJson_ok.mpr hmetadata]
      simp only [bind, Except.bind, hrecord, hagain]
      rw [require, if_neg]
      rw [hput.hash, payload_text hagain, htext]
      exact fun heq => hashes_ne heq.symm
    rw [get_eq hput.ns hput.key, hput.found]
    have hrow : ({} : Database).row? record.recordId = none := rfl
    rw [hrow]
    have hexpired : expired WholeFloat 1 (rowOf record written "\x7b\x7d").expiresAt = .ok false := hlive
    simp only [readRow, hexpired, bind, Except.bind, Bool.false_eq_true, if_false, hput.rowToRecord, hverify]

def named : Value WholeFloat := .obj [(.str "b", .null), (.str "a", .null)]

def event : HarnessMemory.HarnessEvent WholeFloat where
  eventId := "e"
  projectId := "p"
  conversationId := "c"
  eventType := "note"
  sourceType := "user"
  sourceRef := "chat"
  trustDomain := "trusted"
  payload := .dict [("b", .null), ("a", .null)]
  taskId := none
  createdAt := "2026-01-01T00:00:00Z"

theorem named_ascending : named.Ascending := by
  have hwritten : named.written? = some (.dict [("b", .null), ("a", .null)]) := by rfl
  intro w hw
  rw [hwritten] at hw
  obtain rfl := Option.some.inj hw
  exact canonical_dict (by simp [Canonical])

theorem metadata_ascending : arguments.metadataOf.Ascending := by
  have hwritten : arguments.metadataOf.written? = some (.dict []) := by rfl
  intro w hw
  rw [hwritten] at hw
  obtain rfl := Option.some.inj hw
  exact canonical_dict (by simp)

/-- Both are read back. -/
theorem named_readBack : (∃ db record receipt, ({} : SecureMemoryStore).put 0 arguments named {} = .ok (db, record, receipt) ∧
      get WholeFloat 1 arguments.ns arguments.key db = .ok (some record)) ∧
    ∃ db fingerprint stored, HarnessMemory.appendEvent [] event {} = .ok (db, fingerprint) ∧
      HarnessMemory.getEvent db event.eventId event.projectId = .ok stored ∧ stored.fingerprint = .ok fingerprint := by
  obtain ⟨hput, hevent⟩ := stored_readBack_iff WholeFloat
  constructor
  · have hnever : (({} : SecureMemoryStore).put 0 arguments named {}).toOption.map (fun out => out.2.1.expiresAt) =
        some none := by
      decide +kernel
    cases hrun : ({} : SecureMemoryStore).put 0 arguments named {} with
    | error e =>
      rw [hrun] at hnever
      cases hnever
    | ok out =>
      obtain ⟨db, record, receipt⟩ := out
      rw [hrun] at hnever
      have hexpires : record.expiresAt = none := Option.some.inj hnever
      have hlive : expired WholeFloat 1 record.expiresAt = .ok false := by
        rw [hexpires]
        rfl
      refine ⟨db, record, receipt, rfl, (hput _ _ _ _ _ _ _ _ _ hrun hlive).mpr ⟨nofun,
        .inl ⟨named_ascending, metadata_ascending⟩⟩⟩
  · have happended : (HarnessMemory.appendEvent [] event {}).toOption.isSome = true := by decide +kernel
    cases hrun : HarnessMemory.appendEvent [] event {} with
    | error e =>
      rw [hrun] at happended
      cases happended
    | ok out =>
      obtain ⟨db, fingerprint⟩ := out
      obtain ⟨stored, hget, hsame⟩ := (hevent [] event named {} db fingerprint rfl hrun).mpr nofun
      exact ⟨db, fingerprint, stored, rfl, hget, hsame⟩

end Numbered

end SecureMemoryStore

end SecureMemory

end ThreeAgent
