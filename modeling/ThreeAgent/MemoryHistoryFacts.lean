/-
The history of a memory over every run of `append_event` and `remember`.

What the two calls add is read back as it was given, so `memory_history` returns.
It sorts the revisions by the text of their starts, while `remember` places
them by instant: the two orders agree exactly when the texts ascend along the
supersession chain.
-/
import ThreeAgent.HarnessMemoryFacts
import ThreeAgent.Lib.Table
import ThreeAgent.Lib.WholeFloat

namespace ThreeAgent.HarnessMemory

open PyText Outcome PyJson Store

variable {tasks : List String} {fingerprint : String}

variable {F : Type} [PyRuntime F]

/-! ## Rows are read back -/

variable {record : MemoryRecord F} {db : Store F}

section ReadBack

theorem validate_floated {r : MemoryRecord F} {x : F} (h : r.confidence.toFloat = some x) :
    ({ r with confidence := .float x } : MemoryRecord F).validate = r.validate := by
  have hconfidence : MemoryRecord.checkConfidence (.float x) = MemoryRecord.checkConfidence r.confidence := by
    rw [MemoryRecord.checkConfidence, MemoryRecord.checkConfidence, h]
    rfl
  simp only [MemoryRecord.validate, hconfidence]
  rfl

theorem fingerprint_floated {r : MemoryRecord F} {x : F} (h : r.confidence.toFloat = some x) :
    ({ r with confidence := .float x } : MemoryRecord F).fingerprint = r.fingerprint := by
  have hfloat : (Num.float x).toFloat = r.confidence.toFloat := h.symm
  simp only [MemoryRecord.fingerprint, MemoryRecord.canonicalDict, validate_floated h, hfloat]

/-- The REAL column gives a confidence back as it was. -/
def KeepsConfidence (record : MemoryRecord F) : Prop := ∀ x ∈ record.confidence.toFloat, PyRuntime.realColumn x = x

def rowOf (record : MemoryRecord F) (provenanceJson fingerprint : String) (confidence : F) : MemoryRow F where
  revisionId := record.revisionId
  memoryId := record.memoryId
  schemaVersion := record.schemaVersion
  projectId := record.projectId
  conversationId := record.conversationId
  taskId := record.taskId
  layer := record.layer
  kind := record.kind
  content := record.content
  contentSha256 := hashText record.content
  provenanceJson := provenanceJson
  trustDomain := record.trustDomain
  confidence := confidence
  validFrom := record.validFrom
  validUntil := record.validUntil
  supersedesRevisionId := record.supersedesRevisionId
  recordSha256 := fingerprint
  createdAt := record.createdAt

def eventRowOf (event : HarnessEvent F) (payloadJson fingerprint : String) : EventRow where
  eventId := event.eventId
  schemaVersion := event.schemaVersion
  projectId := event.projectId
  conversationId := event.conversationId
  taskId := event.taskId
  eventType := event.eventType
  sourceType := event.sourceType
  sourceRef := event.sourceRef
  trustDomain := event.trustDomain
  payloadJson := payloadJson
  eventSha256 := fingerprint
  createdAt := event.createdAt

theorem remember_new {json : String} {x : F}
    (hadm : validateMemoryAdmission tasks record db = .ok ⟨⟩) (hfp : record.fingerprint = .ok fingerprint)
    (hnew : db.revision? record.revisionId = none) (hplace : checkPlace db record = .ok ⟨⟩)
    (hjson : canonicalJson (Json.strs record.provenanceEventIds : Json F) = .ok json)
    (hx : record.confidence.toFloat = some x) (hkept : PyRuntime.realColumn x = x) :
    remember tasks record db = .ok ({ db with memories := db.memories ++ [rowOf record json fingerprint x] }, fingerprint) ∧
      memoryFromRow (rowOf record json fingerprint x) = .ok { record with confidence := .float x } := by
  obtain ⟨_, hvalid, -, -⟩ := admitted_trust hadm
  constructor
  · simp only [remember, bind_ok, hnew, orRaise_ok, pure_ok]
    refine ⟨⟨⟩, hadm, fingerprint, hfp, ⟨⟩, hplace, json, hjson, x, hx, ?_⟩
    rw [hkept]
    rfl
  · simp only [canonicalJson, bind_ok, canonicalText_ok] at hjson
    obtain ⟨_, -, hdumps⟩ := hjson
    have hids : (record.provenanceEventIds.map Json.str : List (Json F)).map Json.toStr = record.provenanceEventIds := by
      rw [List.map_map]
      exact List.map_id _
    simp only [memoryFromRow, rowOf, bind_ok, orRaise_ok, rethrow_ok, require_ok, pure_ok]
    refine ⟨_, loads_dumps (canonical_strs _) hdumps, _, rfl, ⟨⟩, ?_, ⟨⟩, trivial, fingerprint, ?_, ⟨⟩, require_ok.mpr rfl, ?_⟩
    · rw [hids]
      exact (validate_floated hx).trans hvalid
    · rw [hids]
      exact (fingerprint_floated hx).trans hfp
    · rw [hids]

theorem remember_readBack {db' : Store F}
    (hkept : KeepsConfidence record) (h : remember tasks record db = .ok (db', fingerprint)) :
    db = db' ∨ ∃ row read, { db with memories := db.memories ++ [row] } = db' ∧ memoryFromRow row = .ok read := by
  have hrun := h
  simp only [remember, bind_ok] at h
  obtain ⟨_, hadm, fp, hfp, h⟩ := h
  cases hex : db.revision? record.revisionId with
  | some existing =>
    simp only [hex, bind_ok, require_ok, pure_ok, Prod.mk.injEq] at h
    obtain ⟨_, -, _, -, _, -, hdb, -⟩ := h
    exact .inl hdb
  | none =>
    simp only [hex, bind_ok, orRaise_ok, pure_ok, Prod.mk.injEq] at h
    obtain ⟨_, hplace, json, hjson, x, hx, -, -⟩ := h
    obtain ⟨hrow, hread⟩ := remember_new hadm hfp hex hplace hjson hx (hkept x hx)
    rw [hrow, Except.ok.injEq, Prod.mk.injEq] at hrun
    exact .inr ⟨_, _, hrun.1, hread⟩

theorem appendEvent_new {event : HarnessEvent F}
    (hcanonical : Canonical event.payload) (hvalid : event.validate = .ok ⟨⟩)
    (htask : assertTaskExists tasks event.taskId = .ok ⟨⟩) (hfp : event.fingerprint = .ok fingerprint)
    (hnew : db.event? event.eventId = none) :
    ∃ json, appendEvent tasks event db =
        .ok ({ db with events := db.events ++ [eventRowOf event json fingerprint] }, fingerprint) ∧
      eventFromRow (eventRowOf event json fingerprint) = .ok event := by
  obtain ⟨json, hjson⟩ : ∃ json, canonicalJson event.payload = .ok json := by
    simp only [HarnessEvent.validate, bind_ok] at hvalid
    obtain ⟨_, -, _, -, _, -, _, -, _, -, _, -, _, -, _, -, _, -, json, hjson, -⟩ := hvalid
    exact ⟨json, hjson⟩
  refine ⟨json, ?_, ?_⟩
  · simp only [appendEvent, bind_ok, hnew, pure_ok]
    exact ⟨⟨⟩, hvalid, ⟨⟩, htask, fingerprint, hfp, json, hjson, rfl⟩
  · simp only [canonicalJson, bind_ok, canonicalText_ok] at hjson
    obtain ⟨_, -, hdumps⟩ := hjson
    simp only [eventFromRow, eventRowOf, bind_ok, orRaise_ok, rethrow_ok, pure_ok]
    exact ⟨_, loads_dumps hcanonical hdumps, ⟨⟩, hvalid, fingerprint, hfp, ⟨⟩, require_ok.mpr rfl, rfl⟩

end ReadBack

/-! ## Histories -/

variable {rows : List (MemoryRow F)}

section Order

/-- The call remembers no confidence that the REAL column changes. -/
def Call.KeepsConfidence : Call F → Prop
  | .appendEvent _ => True
  | .remember record => HarnessMemory.KeepsConfidence record

/-- Every revision is read back. -/
def Readable (db : Store F) : Prop := ∀ row ∈ db.memories, ∃ record, memoryFromRow row = .ok record

theorem Readable.after (h : Readable db) (tasks : List String) (call : Call F)
    (hkept : call.KeepsConfidence) : Readable (call.after tasks db) := by
  unfold Call.after
  cases hrun : call.run tasks db with
  | error e => exact h
  | ok result =>
    obtain ⟨db', fingerprint⟩ := result
    cases call with
    | appendEvent event =>
      rcases appendEvent_ok hrun with rfl | ⟨row, rfl⟩
      · exact h
      · exact h
    | remember record =>
      rcases remember_readBack hkept hrun with rfl | ⟨row, read, rfl, hread⟩
      · exact h
      · intro r hr
        rcases List.mem_append.mp hr with hr | hr
        · exact h r hr
        · exact ⟨read, List.mem_singleton.mp hr ▸ hread⟩

theorem runCalls_readable (calls : List (List String × Call F)) (hkept : ∀ c ∈ calls, c.2.KeepsConfidence) :
    Readable (runCalls calls) := by
  unfold runCalls
  induction calls using List.reverseRecOn with
  | nil => simp [Readable]
  | append_singleton calls c ih =>
    rw [List.foldl_append]
    exact (ih fun c' hc' => hkept c' (by simp [hc'])).after c.1 c.2 (hkept c (by simp))

theorem Earlier.irrefl (a : MemoryRow F) : ¬ Earlier a a := by
  rintro ⟨i, j, hi, hj, hlt⟩
  rw [hi] at hj
  cases hj
  omega

omit [PyRuntime F] in
theorem historyOrder_iff {a b : MemoryRow F} : historyOrder a b ↔
    toLex (a.validFrom, toLex (a.createdAt, a.revisionId)) ≤ toLex (b.validFrom, toLex (b.createdAt, b.revisionId)) := by
  rw [Prod.Lex.toLex_le_toLex, Prod.Lex.toLex_le_toLex, historyOrder]

instance historyOrder_total : Std.Total (Store.historyOrder (F := F)) where
  total a b := by
    rw [historyOrder_iff, historyOrder_iff]
    exact le_total _ _

instance historyOrder_trans : IsTrans (MemoryRow F) Store.historyOrder where
  trans a b c hab hbc := by
    rw [historyOrder_iff] at hab hbc ⊢
    exact hab.trans hbc

/-- A history in supersession order: the first has no predecessor, each later one supersedes the one before it. -/
structure SupersessionOrder (history : List (MemoryRecord F)) : Prop where
  first : ∀ r ∈ history.head?, r.supersedesRevisionId = none
  next : history.IsChain fun a b => b.supersedesRevisionId = some a.revisionId

/-- Where a revision supersedes another, its start is the greater text. -/
def TextsAscend (rows : List (MemoryRow F)) : Prop :=
  ∀ a ∈ rows, ∀ b ∈ rows, b.supersedesRevisionId = some a.revisionId → a.validFrom < b.validFrom

theorem insertionSort_chained_iff (h : LinearHistory rows)
    (hids : rows.Pairwise fun a b => a.revisionId ≠ b.revisionId) :
    (rows.insertionSort historyOrder).IsChain (fun a b => b.supersedesRevisionId = some a.revisionId) ↔
      TextsAscend rows := by
  have htrans : ∀ a b c : MemoryRow F, Earlier a b → Earlier b c → Earlier a c := fun _ _ _ => Earlier.trans
  constructor
  · intro hchain a ha b hb hab
    have hsorted : rows.insertionSort historyOrder = rows :=
      h.eq_of_perm hids htrans Earlier.irrefl (List.perm_insertionSort _ _) hchain
    have hpair : rows.Pairwise historyOrder := hsorted ▸ List.pairwise_insertionSort _ rows
    have hearlier : Earlier a b := (h.follows hids ha hb hab).2
    -- of two rows the earlier stands before the other
    have hsymm : Std.Symm fun x y : MemoryRow F =>
        (Earlier x y → historyOrder x y) ∧ (Earlier y x → historyOrder y x) := ⟨fun _ _ hxy => hxy.symm⟩
    have hboth : rows.Pairwise fun x y =>
        (Earlier x y → historyOrder x y) ∧ (Earlier y x → historyOrder y x) :=
      (hpair.and (h.pairwise_before htrans)).imp fun hxy =>
        ⟨fun _ => hxy.1, fun hyx => absurd (hxy.2.trans hyx) (Earlier.irrefl _)⟩
    rcases (hboth.forall_of_forall (fun x _ => ⟨fun hx => absurd hx (Earlier.irrefl x), fun hx => absurd hx (Earlier.irrefl x)⟩)
      ha hb).1 hearlier with hlt | ⟨heq, -⟩
    · exact hlt
    · obtain ⟨i, j, hi, hj, hij⟩ := hearlier
      rw [MemoryRow.start, heq] at hi
      rw [MemoryRow.start, hi] at hj
      cases hj
      omega
  · intro htexts
    have hpair : rows.Pairwise historyOrder := by
      have htrans' : Trans (fun a b : MemoryRow F => a.validFrom < b.validFrom)
          (fun a b : MemoryRow F => a.validFrom < b.validFrom) (fun a b : MemoryRow F => a.validFrom < b.validFrom) :=
        ⟨fun hab hbc => lt_trans hab hbc⟩
      have hchain : rows.IsChain fun a b => a.validFrom < b.validFrom :=
        h.next.imp_of_mem_imp fun a b ha hb hf => htexts a ha b hb hf.1
      exact (List.isChain_iff_pairwise.mp hchain).imp fun hlt => .inl hlt
    rw [hpair.insertionSort_eq]
    exact h.next.imp fun _ _ hf => hf.1

end Order

section History

theorem memoryFromRow_link {row : MemoryRow F} (h : memoryFromRow row = .ok record) :
    record.revisionId = row.revisionId ∧ record.supersedesRevisionId = row.supersedesRevisionId := by
  simp only [memoryFromRow, bind_ok, orRaise_ok, require_ok, rethrow_ok, pure_ok] at h
  obtain ⟨_, _, items, _, _, _, _, _, _, _, _, _, rfl⟩ := h
  exact ⟨rfl, rfl⟩

theorem links_eq {history : List (MemoryRecord F)}
    (h : List.Forall₂ (fun row record => memoryFromRow row = .ok record) rows history) :
    history.map (fun r => (r.revisionId, r.supersedesRevisionId)) =
      rows.map fun r => (r.revisionId, r.supersedesRevisionId) := by
  induction h with
  | nil => rfl
  | cons hread _ ih =>
    obtain ⟨hid, hsup⟩ := memoryFromRow_link hread
    rw [List.map_cons, List.map_cons, ih, hid, hsup]

theorem supersessionOrder_iff {history : List (MemoryRecord F)}
    (h : List.Forall₂ (fun row record => memoryFromRow row = .ok record) rows history) :
    SupersessionOrder history ↔ (∀ r ∈ rows.head?, r.supersedesRevisionId = none) ∧
      rows.IsChain fun a b => b.supersedesRevisionId = some a.revisionId := by
  have hlinks := links_eq h
  have hchain : (history.IsChain fun a b => b.supersedesRevisionId = some a.revisionId) ↔
      rows.IsChain fun a b => b.supersedesRevisionId = some a.revisionId := by
    have hmap := congrArg (List.IsChain fun a b : String × Option String => b.2 = some a.1) hlinks
    rw [List.isChain_map, List.isChain_map, eq_iff_iff] at hmap
    exact hmap
  have hhead : (∀ r ∈ history.head?, r.supersedesRevisionId = none) ↔ ∀ r ∈ rows.head?, r.supersedesRevisionId = none := by
    cases h with
    | nil => simp
    | cons hread _ => simp [(memoryFromRow_link hread).2]
  constructor
  · intro horder
    exact ⟨hhead.mp horder.first, hchain.mp horder.next⟩
  · rintro ⟨hfirst, hnext⟩
    exact ⟨hhead.mpr hfirst, hchain.mpr hnext⟩

theorem Sound.memoryHistory (hsound : Sound db) (hreadable : Readable db) (memoryId projectId : String)
    (hmemory : compactId memoryId "memory_id" = .ok ⟨⟩) (hproject : compactId projectId "project_id" = .ok ⟨⟩) :
    ∃ history, memoryHistory db memoryId projectId = .ok history ∧
      (history.map (·.revisionId)).Perm ((db.revisions memoryId projectId).map (·.revisionId)) ∧
      (SupersessionOrder history ↔ TextsAscend (db.revisions memoryId projectId)) := by
  have hlinear := hsound.linear memoryId projectId
  have hids : (db.revisions memoryId projectId).Pairwise fun a b => a.revisionId ≠ b.revisionId := hsound.ids.filter _
  have hperm := List.perm_insertionSort historyOrder (db.revisions memoryId projectId)
  obtain ⟨history, hhistory⟩ : ∃ history,
      ((db.revisions memoryId projectId).insertionSort historyOrder).mapM memoryFromRow = .ok history :=
    mapM_returns fun row hrow => hreadable row (mem_revisions.mp (hperm.subset hrow)).1
  have hreads := mapM_ok.mp hhistory
  refine ⟨history, ?_, ?_, ?_⟩
  · simp only [HarnessMemory.memoryHistory, bind_ok]
    exact ⟨⟨⟩, hmemory, ⟨⟩, hproject, hhistory⟩
  · have hmap : history.map (·.revisionId) =
        ((db.revisions memoryId projectId).insertionSort historyOrder).map (·.revisionId) := by
      have hfst := congrArg (List.map Prod.fst) (links_eq hreads)
      rw [List.map_map, List.map_map] at hfst
      exact hfst
    rw [hmap]
    exact hperm.map _
  · rw [supersessionOrder_iff hreads, ← insertionSort_chained_iff hlinear hids]
    constructor
    · exact fun h => h.2
    · intro hchain
      have hsorted := hlinear.eq_of_perm hids (fun _ _ _ => Earlier.trans) Earlier.irrefl hperm hchain
      refine ⟨?_, hchain⟩
      rw [hsorted]
      exact hlinear.first

/-- The history of a memory is not always in supersession order, since it is sorted by the text of the starts. In every
run that remembers no confidence that the REAL column changes, `memory_history` returns the revisions of a memory, and
returns them in supersession order exactly when the texts ascend. -/
theorem memoryHistory_ordered_iff (calls : List (List String × Call F)) (hkept : ∀ c ∈ calls, c.2.KeepsConfidence)
    (memoryId projectId : String) (hmemory : compactId memoryId "memory_id" = .ok ⟨⟩)
    (hproject : compactId projectId "project_id" = .ok ⟨⟩) :
    ∃ history, memoryHistory (runCalls calls) memoryId projectId = .ok history ∧
      (history.map (·.revisionId)).Perm (((runCalls calls).revisions memoryId projectId).map (·.revisionId)) ∧
      (SupersessionOrder history ↔ TextsAscend ((runCalls calls).revisions memoryId projectId)) :=
  (runCalls_sound calls).memoryHistory (runCalls_readable calls hkept) memoryId projectId hmemory hproject

end History

/-! ## Reading returns -/

section Returns

variable {id memoryId projectId at' : String} {point : DateTime} {row : MemoryRow F}

/-- The text of an aware time. -/
def Timed (F : Type) [PyRuntime F] (text : String) : Prop := ∃ i, instantOf F text = some i

theorem asDatetime_returns {text : String} (h : Timed F text) :
    ∃ d, asDatetime F text = .ok d ∧ d.offset.isSome = true := by
  obtain ⟨i, hi⟩ := h
  obtain ⟨d, hd, hi⟩ := Option.bind_eq_some_iff.mp hi
  obtain ⟨o, ho, -⟩ := Option.map_eq_some_iff.mp hi
  exact ⟨d, orRaise_ok.mpr hd, by rw [ho]; rfl⟩

theorem isBefore_returns {a b : DateTime} (ha : a.offset.isSome = true) (hb : b.offset.isSome = true) :
    ∃ r, isBefore a b = .ok r := by
  obtain ⟨o, ho⟩ := Option.isSome_iff_exists.mp ha
  obtain ⟨o', ho'⟩ := Option.isSome_iff_exists.mp hb
  exact ⟨_, orRaise_ok.mpr (by rw [DateTime.lt?, ho, ho'])⟩

/-- What a record that is read has been checked for. -/
structure ReadRecord (F : Type) [PyRuntime F] (record : MemoryRecord F) : Prop where
  revisionId : compactId record.revisionId "revision_id" = .ok ⟨⟩
  validFrom : Timed F record.validFrom
  validUntil : ∀ stop ∈ record.validUntil, Timed F stop

theorem checkValidUntil_timed (h : record.checkValidUntil = .ok ⟨⟩) : ∀ stop ∈ record.validUntil, Timed F stop := by
  intro stop hstop
  simp only [MemoryRecord.checkValidUntil, Option.mem_def.mp hstop, bind_ok] at h
  obtain ⟨_, htime, -⟩ := h
  exact timestamp_instant htime

theorem readRecord (h : memoryFromRow row = .ok record) : ReadRecord F record := by
  simp only [memoryFromRow, bind_ok, orRaise_ok, require_ok, rethrow_ok, pure_ok] at h
  obtain ⟨_, -, items, -, _, hvalid, -, -, -, -, -, -, rfl⟩ := h
  simp only [MemoryRecord.validate, bind_ok] at hvalid
  obtain ⟨_, hid, _, -, _, -, _, -, _, -, _, -, _, -, _, -, _, -, _, -, _, -, _, -, _, -, _, -, _, hfrom, _, -, _, huntil, -⟩ :=
    hvalid
  exact ⟨hid, timestamp_instant hfrom, checkValidUntil_timed huntil⟩

omit [PyRuntime F] in
theorem revision?_of_mem (hids : db.memories.Pairwise fun a b => a.revisionId ≠ b.revisionId) (hrow : row ∈ db.memories) :
    db.revision? row.revisionId = some row :=
  Table.find?_key _ (List.pairwise_map.mpr hids) hrow

theorem Sound.project_of_supersedes (h : Sound db) {next : MemoryRow F} (hnext : next ∈ db.memories) (hrow : row ∈ db.memories)
    (hsup : next.supersedesRevisionId = some row.revisionId) : next.projectId = row.projectId := by
  have hmem := mem_revisions.mpr ⟨hnext, rfl, rfl⟩
  obtain ⟨previous, hprevious, hfollows⟩ := (h.linear next.memoryId next.projectId).exists_previous hmem (by rw [hsup]; simp)
  obtain ⟨hin, -, hproject⟩ := mem_revisions.mp hprevious
  have hid : previous.revisionId = row.revisionId := Option.some.inj (hfollows.1.symm.trans hsup)
  have hsame := (revision?_of_mem h.ids hin).symm.trans (hid ▸ revision?_of_mem h.ids hrow)
  rw [← Option.some.inj hsame, hproject]

theorem Sound.childStart_returns (h : Sound db) (hreadable : Readable db) (hrow : row ∈ db.memories) :
    ∃ text, childStart db row.revisionId row.projectId = .ok text ∧ ∀ stop ∈ text, Timed F stop := by
  unfold childStart
  cases hc : db.child? row.revisionId with
  | none => exact ⟨none, rfl, by simp⟩
  | some next =>
    obtain ⟨hnext, hsup⟩ := child?_some hc
    obtain ⟨child, hchild⟩ := hreadable next hnext
    have hproject : child.projectId = row.projectId :=
      (memoryFromRow_ok hchild).projectId.trans (h.project_of_supersedes hnext hrow hsup)
    refine ⟨some child.validFrom, ?_, ?_⟩
    · simp only [bind_ok, require_ok, pure_ok]
      exact ⟨child, hchild, ⟨⟩, hproject, rfl⟩
    · rintro _ ⟨⟩
      exact (readRecord hchild).validFrom

theorem Sound.effectiveValidUntil_returns (h : Sound db) (hreadable : Readable db) (hrow : row ∈ db.memories)
    (hproject : compactId row.projectId "project_id" = .ok ⟨⟩) :
    ∃ text, effectiveValidUntil db row.revisionId row.projectId = .ok text ∧ ∀ stop ∈ text, Timed F stop := by
  obtain ⟨record, hread⟩ := hreadable row hrow
  have hcols := memoryFromRow_ok hread
  have hchecked := readRecord hread
  obtain ⟨next, hnext, htimed⟩ := h.childStart_returns hreadable hrow
  have hget : getRevision db row.revisionId row.projectId = .ok record := by
    simp only [getRevision, bind_ok, orRaise_ok, require_ok, pure_ok]
    exact ⟨⟨⟩, hproject, ⟨⟩, hcols.revisionId ▸ hchecked.revisionId, row, revision?_of_mem h.ids hrow, record, hread, ⟨⟩,
      hcols.projectId, rfl⟩
  simp only [effectiveValidUntil, bind_ok]
  cases hstated : record.validUntil with
  | none => exact ⟨next, ⟨⟨⟩, hproject, record, hget, next, hcols.revisionId ▸ hnext, by rw [hstated]; rfl⟩, htimed⟩
  | some stated =>
    have hstop := hchecked.validUntil stated hstated
    cases next with
    | none =>
      refine ⟨some stated, ⟨⟨⟩, hproject, record, hget, none, hcols.revisionId ▸ hnext, by rw [hstated]; rfl⟩, ?_⟩
      rintro _ ⟨⟩
      exact hstop
    | some next =>
      obtain ⟨stop, hstopTime, haware⟩ := asDatetime_returns hstop
      obtain ⟨start, hstartTime, haware'⟩ := asDatetime_returns (htimed next rfl)
      obtain ⟨later, hlater⟩ := isBefore_returns haware' haware
      refine ⟨some (if later then next else stated), ⟨⟨⟩, hproject, record, hget, some next, hcols.revisionId ▸ hnext, ?_⟩, ?_⟩
      · rw [hstated]
        simp only [bind_ok, pure_ok]
        exact ⟨stop, hstopTime, start, hstartTime, later, hlater, rfl⟩
      · rintro _ ⟨⟩
        cases later with
        | true => exact htimed next rfl
        | false => exact hstop

theorem covers_returns {start : DateTime} {stop : Option DateTime} (hpoint : point.offset.isSome = true)
    (hstart : start.offset.isSome = true) (hstop : ∀ d ∈ stop, d.offset.isSome = true) :
    ∃ hit, covers start point stop = .ok hit := by
  obtain ⟨ahead, hahead⟩ := isBefore_returns hpoint hstart
  simp only [covers, bind_ok]
  cases ahead with
  | true => exact ⟨false, true, hahead, rfl⟩
  | false =>
    cases stop with
    | none => exact ⟨true, false, hahead, rfl⟩
    | some stop =>
      obtain ⟨hit, hhit⟩ := isBefore_returns hpoint (hstop stop rfl)
      exact ⟨hit, false, hahead, hhit⟩

theorem Sound.inForce_returns (h : Sound db) (hreadable : Readable db) (hrow : row ∈ db.memories)
    (hproject : compactId row.projectId "project_id" = .ok ⟨⟩) (hread : memoryFromRow row = .ok record)
    (hpoint : point.offset.isSome = true) : ∃ hit, inForce db row.projectId point record = .ok hit := by
  obtain ⟨start, hstart, hstartAware⟩ := asDatetime_returns (readRecord hread).validFrom
  obtain ⟨text, htext, htimed⟩ := h.effectiveValidUntil_returns hreadable hrow hproject
  obtain ⟨stop, hstop, hstopAware⟩ : ∃ stop, endOf F text = .ok stop ∧ ∀ d ∈ stop, d.offset.isSome = true := by
    cases text with
    | none => exact ⟨none, rfl, by simp⟩
    | some text =>
      obtain ⟨d, hd, haware⟩ := asDatetime_returns (htimed text rfl)
      exact ⟨some d, by simp only [endOf, bind_ok, pure_ok]; exact ⟨d, hd, rfl⟩, by simpa using haware⟩
  obtain ⟨hit, hhit⟩ := covers_returns hpoint hstartAware hstopAware
  simp only [inForce, bind_ok]
  exact ⟨hit, start, hstart, text, (memoryFromRow_ok hread).revisionId ▸ htext, stop, hstop, hhit⟩

theorem collectMatches_returns : ∀ {history : List (MemoryRecord F)},
    (∀ r ∈ history, ∃ hit, inForce db projectId point r = .ok hit) →
      ∃ found, collectMatches db projectId point history = .ok found
  | [], _ => ⟨[], rfl⟩
  | r :: history, h => by
    obtain ⟨hit, hhit⟩ := h r List.mem_cons_self
    obtain ⟨found, hfound⟩ := collectMatches_returns fun r' hr' => h r' (List.mem_cons_of_mem _ hr')
    simp only [collectMatches, bind_ok]
    exact ⟨_, hit, hhit, found, hfound, rfl⟩

theorem Sound.memoryAt_returns (h : Sound db) (hreadable : Readable db)
    (hmemory : compactId memoryId "memory_id" = .ok ⟨⟩) (hproject : compactId projectId "project_id" = .ok ⟨⟩)
    (htime : timestamp F at' "at" = .ok ⟨⟩) : ∃ found, memoryAt db memoryId projectId at' = .ok found := by
  obtain ⟨t, ht⟩ := timestamp_instant htime
  obtain ⟨point, hpoint, haware⟩ := asDatetime_returns ⟨t, ht⟩
  obtain ⟨history, hhistory, -⟩ := h.memoryHistory hreadable memoryId projectId hmemory hproject
  have hreads := hhistory
  simp only [HarnessMemory.memoryHistory, bind_ok] at hreads
  obtain ⟨_, -, _, -, hreads⟩ := hreads
  obtain ⟨found, hfound⟩ : ∃ found, collectMatches db projectId point history = .ok found := by
    refine collectMatches_returns fun r hr => ?_
    obtain ⟨row, hrow, hread⟩ := forall₂_mem_right (mapM_ok.mp hreads) hr
    obtain ⟨hin, -, rfl⟩ := mem_revisions.mp (mem_history.mp hrow)
    exact h.inForce_returns hreadable hin hproject hread haware
  have hlen := collectMatches_length (history_pairwise h hpoint ht (mapM_ok.mp hreads)) hfound
  simp only [memoryAt, bind_ok, require_ok, pure_ok]
  exact ⟨_, ⟨⟩, hproject, ⟨⟩, htime, point, hpoint, history, hhistory, found, hfound, ⟨⟩, hlen, rfl⟩

end Returns

/-! ## The past -/

theorem Call.after_adds (tasks : List String) (call : Call F) :
    ∃ events memories, call.after tasks db = ⟨db.events ++ events, db.memories ++ memories⟩ := by
  unfold Call.after
  cases hrun : call.run tasks db with
  | error e => exact ⟨[], [], by simp⟩
  | ok result =>
    cases call with
    | appendEvent event =>
      rcases appendEvent_ok hrun with heq | ⟨row, heq⟩
      · exact ⟨[], [], by simp [← heq]⟩
      · exact ⟨[row], [], by simp [← heq]⟩
    | remember record =>
      rcases remember_ok hrun with heq | ⟨row, heq, -⟩
      · exact ⟨[], [], by simp [← heq]⟩
      · exact ⟨[], [row], by simp [← heq]⟩

theorem runCalls_adds (calls more : List (List String × Call F)) : ∃ events memories,
    runCalls (calls ++ more) = ⟨(runCalls calls).events ++ events, (runCalls calls).memories ++ memories⟩ := by
  induction more using List.reverseRecOn with
  | nil => exact ⟨[], [], by simp⟩
  | append_singleton more c ih =>
    obtain ⟨events, memories, ih⟩ := ih
    obtain ⟨events', memories', hstep⟩ := @Call.after_adds F _ (runCalls (calls ++ more)) c.1 c.2
    refine ⟨events ++ events', memories ++ memories', ?_⟩
    rw [← List.append_assoc, runCalls, List.foldl_append]
    exact hstep.trans (by simp [ih])

theorem mem_found (h : Sound db) {at' : String} {found : Option (MemoryRecord F)}
    (hat : memoryAt db memoryId projectId at' = .ok found) : ∃ t, instantOf F at' = some t ∧
      ∀ r, found = some r ↔ ∃ row ∈ db.revisions memoryId projectId, t ∈ validity db row ∧ memoryFromRow row = .ok r := by
  obtain ⟨t, ht, hrows, hforce⟩ := memoryAt_ok h hat
  refine ⟨t, ht, fun r => ⟨?_, ?_⟩⟩
  · intro hr
    obtain ⟨row, hrow, hread⟩ := hrows r hr
    exact ⟨row, hrow, (hforce row hrow).mpr ⟨r, hr, hread⟩, hread⟩
  · rintro ⟨row, hrow, hvalid, hread⟩
    obtain ⟨r', hr', hread'⟩ := (hforce row hrow).mp hvalid
    exact Except.ok.inj (hread'.symm.trans hread) ▸ hr'

/-- Later calls change no row that is there. Of an instant before every revision that they add, `memory_at` answers what
it answered, where none of the calls remembers a confidence that the REAL column changes. -/
theorem past_over_runs (calls more : List (List String × Call F)) : ∃ events memories,
    runCalls (calls ++ more) = ⟨(runCalls calls).events ++ events, (runCalls calls).memories ++ memories⟩ ∧
    ((∀ c ∈ calls ++ more, c.2.KeepsConfidence) → ∀ memoryId projectId at' found,
      memoryAt (runCalls calls) memoryId projectId at' = .ok found →
      (∀ new ∈ memories, ∀ s ∈ new.start, ∀ t ∈ instantOf F at', t < s) →
      memoryAt (runCalls (calls ++ more)) memoryId projectId at' = .ok found) := by
  obtain ⟨events, memories, hadds⟩ := runCalls_adds calls more
  refine ⟨events, memories, hadds, ?_⟩
  intro hkept memoryId projectId at' found hbefore hpast
  have hsound := runCalls_sound (calls ++ more)
  obtain ⟨found', hafter⟩ : ∃ found', memoryAt (runCalls (calls ++ more)) memoryId projectId at' = .ok found' := by
    simp only [memoryAt, HarnessMemory.memoryHistory, bind_ok] at hbefore
    obtain ⟨_, hproject, _, htime, _, -, _, ⟨_, hmemory, -⟩, -⟩ := hbefore
    exact hsound.memoryAt_returns (runCalls_readable _ hkept) hmemory hproject htime
  obtain ⟨t, ht, hfound⟩ := mem_found (runCalls_sound calls) hbefore
  obtain ⟨t', ht', hfound'⟩ := mem_found hsound hafter
  obtain rfl := Option.some.inj (ht.symm.trans ht')
  rw [hafter]
  refine congrArg _ (Option.ext fun r => (hfound' r).trans (.trans (exists_congr fun row => ?_) (hfound r).symm))
  rw [← and_assoc, ← and_assoc]
  refine and_congr_left fun _ => ?_
  simp only [mem_revisions, mem_validity]
  have hmem : ∀ row, row ∈ (runCalls (calls ++ more)).memories ↔ row ∈ (runCalls calls).memories ∨ row ∈ memories := by
    simp [hadds]
  constructor
  · rintro ⟨⟨hrow, hkeys⟩, hstart, hend, hnext⟩
    refine ⟨⟨((hmem row).mp hrow).resolve_right fun hnew => ?_, hkeys⟩, hstart, hend, ?_⟩
    · obtain ⟨s, hs⟩ := hsound.starts row hrow
      exact (hpast row hnew s hs t ht).not_ge (hstart s hs)
    · exact fun next h => hnext next ((hmem next).mpr (.inl h))
  · rintro ⟨⟨hrow, hkeys⟩, hstart, hend, hnext⟩
    refine ⟨⟨(hmem row).mpr (.inl hrow), hkeys⟩, hstart, hend, fun next h hsup s hs => ?_⟩
    rcases (hmem next).mp h with hold | hnew
    · exact hnext next hold hsup s hs
    · exact hpast next hnew s hs t ht

/-! ### A start with a fraction after one without -/

namespace Sample

def times : List (String × DateTime) :=
  [("2026-01-01T00:00:00+00:00", ⟨1767225600000000, some 0⟩), ("2026-01-01T00:00:00.500000+00:00", ⟨1767225600500000, some 0⟩)]

/-- An interpreter, as far as it reads these times. -/
local instance (priority := 2000) : PyRuntime WholeFloat where
  containerText _ := ""
  truncate x := some x.value
  fromIso text := (times.find? (·.1 = text)).map (·.2)
  realColumn x := x

def event : HarnessEvent WholeFloat where
  eventId := "event-1"
  projectId := "project"
  conversationId := "conversation"
  eventType := "note"
  sourceType := "user"
  sourceRef := "chat"
  trustDomain := "trusted"
  payload := .obj []
  taskId := none
  createdAt := "2026-01-01T00:00:00Z"

def revision (revisionId validFrom : String) (supersedes : Option String) : MemoryRecord WholeFloat where
  revisionId := revisionId
  memoryId := "memory"
  projectId := "project"
  layer := "M1"
  kind := "fact"
  content := "content"
  provenanceEventIds := ["event-1"]
  trustDomain := "trusted"
  confidence := .int 1
  validFrom := validFrom
  conversationId := none
  taskId := none
  validUntil := none
  supersedesRevisionId := supersedes
  createdAt := "2026-01-01T00:00:00Z"

def first : MemoryRecord WholeFloat := revision "revision-1" "2026-01-01T00:00:00Z" none

def second : MemoryRecord WholeFloat := revision "revision-2" "2026-01-01T00:00:00.500000Z" (some "revision-1")

def calls : List (List String × Call WholeFloat) :=
  [([], .appendEvent event), ([], .remember first), ([], .remember second)]

theorem admitted {db : Store WholeFloat} {row : EventRow} (hevents : db.events = [row]) (hid : row.eventId = "event-1")
    (hread : eventFromRow row = .ok event) {revisionId validFrom : String} {supersedes : Option String}
    (hvalid : (revision revisionId validFrom supersedes).validate = .ok ⟨⟩) :
    validateMemoryAdmission [] (revision revisionId validFrom supersedes) db = .ok ⟨⟩ := by
  have hload : loadEvent db "event-1" = .ok event := by
    simp only [loadEvent, bind_ok, orRaise_ok]
    refine ⟨⟨⟩, by decide, row, ?_, hread⟩
    rw [event?, hevents, List.find?_cons, hid]
    rfl
  have hprovenance : provenanceEvent db (revision revisionId validFrom supersedes) "event-1" = .ok event := by
    simp only [provenanceEvent, bind_ok, rethrow_ok, require_ok, pure_ok]
    exact ⟨event, hload, ⟨⟩, rfl, ⟨⟩, by simp [revision], ⟨⟩, by simp [revision], rfl⟩
  simp only [validateMemoryAdmission, bind_ok, require_ok]
  refine ⟨⟨⟩, hvalid, ⟨⟩, rfl, [event], mapM_ok.mpr (.cons hprovenance .nil), ⟨⟩, ?_, ?_⟩
  · intro _ e he
    rw [List.mem_singleton.mp he]
    rfl
  · have hplain : ¬ isProcedural (revision revisionId validFrom supersedes).layer
        (revision revisionId validFrom supersedes).kind = true :=
      (by decide : ¬ isProcedural "M1" "fact" = true)
    rw [checkProcedural, if_neg hplain]
    rfl

theorem placed {db : Store WholeFloat} {row : MemoryRow WholeFloat} (hmemories : db.memories = [row])
    (hid : row.revisionId = "revision-1") (hsupersedes : row.supersedesRevisionId = none)
    (hread : memoryFromRow row = .ok { first with confidence := .float ⟨1⟩ }) : checkPlace db second = .ok ⟨⟩ := by
  have hrow : db.revision? "revision-1" = some row := by
    rw [revision?, hmemories, List.find?_cons, hid]
    rfl
  have hfree : ∀ r ∈ db.memories, r.supersedesRevisionId ≠ some "revision-1" := by
    intro r hr
    rw [hmemories, List.mem_singleton] at hr
    rw [hr, hsupersedes]
    simp
  show checkPredecessor db second "revision-1" = .ok ⟨⟩
  simp only [checkPredecessor, bind_ok, orRaise_ok, require_ok]
  exact ⟨row, hrow, _, hread, ⟨⟩, rfl, ⟨⟩, rfl, ⟨⟩, ⟨rfl, rfl, rfl, rfl⟩, ⟨1767225600500000, some 0⟩, by decide,
    ⟨1767225600000000, some 0⟩, by decide, true, by decide, ⟨⟩, rfl, hfree⟩

theorem run : ∃ json firstFingerprint secondFingerprint,
    (runCalls (calls.take 2)).memories = [rowOf first json firstFingerprint ⟨1⟩] ∧
      (runCalls calls).memories = [rowOf first json firstFingerprint ⟨1⟩, rowOf second json secondFingerprint ⟨1⟩] := by
  obtain ⟨eventFingerprint, hevent⟩ := ok_of_toBool (show event.fingerprint.toBool = true by decide)
  obtain ⟨firstFingerprint, hfirst⟩ := ok_of_toBool (show first.fingerprint.toBool = true by decide +kernel)
  obtain ⟨secondFingerprint, hsecond⟩ := ok_of_toBool (show second.fingerprint.toBool = true by decide +kernel)
  obtain ⟨json, hjson⟩ := ok_of_toBool
    (show (canonicalJson (Json.strs ["event-1"] : Json WholeFloat)).toBool = true by decide)
  obtain ⟨payload, happend, hread⟩ := appendEvent_new (F := WholeFloat) (show Canonical event.payload from ⟨.nil, trivial⟩)
    (show event.validate = .ok ⟨⟩ by decide) (show assertTaskExists [] event.taskId = .ok ⟨⟩ from rfl) hevent
    (show ({} : Store WholeFloat).event? event.eventId = none from rfl)
  have hfloat : (Num.int 1 : Num WholeFloat).toFloat = some ⟨1⟩ := by decide +kernel
  generalize hrow : eventRowOf event payload eventFingerprint = row at happend hread
  have hid : row.eventId = "event-1" := by rw [← hrow]; rfl
  obtain ⟨hremember, hfirstRead⟩ := remember_new (F := WholeFloat)
    (admitted (show (⟨[row], []⟩ : Store WholeFloat).events = [row] from rfl) hid hread
      (show first.validate = .ok ⟨⟩ by decide +kernel)) hfirst rfl rfl hjson hfloat rfl
  have hnew : (⟨[row], [rowOf first json firstFingerprint ⟨1⟩]⟩ : Store WholeFloat).revision? second.revisionId = none :=
    List.find?_cons_of_neg (show ¬ decide ("revision-1" = "revision-2") = true by decide)
  obtain ⟨hremember', -⟩ := remember_new (F := WholeFloat)
    (admitted (show (⟨[row], [rowOf first json firstFingerprint ⟨1⟩]⟩ : Store WholeFloat).events = [row] from rfl) hid hread
      (show second.validate = .ok ⟨⟩ by decide +kernel)) hsecond hnew (placed rfl rfl rfl hfirstRead) hjson hfloat rfl
  refine ⟨json, firstFingerprint, secondFingerprint, ?_⟩
  have hafter : Call.after [] {} (.appendEvent event) = ⟨[row], []⟩ := by
    rw [Call.after, Call.run, happend]
    rfl
  have hafter' : Call.after [] ⟨[row], []⟩ (.remember first) = ⟨[row], [rowOf first json firstFingerprint ⟨1⟩]⟩ := by
    rw [Call.after, Call.run, first, hremember]
    rfl
  have hafter'' : Call.after [] ⟨[row], [rowOf first json firstFingerprint ⟨1⟩]⟩ (.remember second) =
      ⟨[row], [rowOf first json firstFingerprint ⟨1⟩, rowOf second json secondFingerprint ⟨1⟩]⟩ := by
    rw [Call.after, Call.run, second, hremember']
    rfl
  constructor
  · simp only [runCalls, calls, List.take_succ_cons, List.take_zero, List.foldl_cons, List.foldl_nil, hafter, hafter']
  · simp only [runCalls, calls, List.foldl_cons, List.foldl_nil, hafter, hafter', hafter'']

theorem calls_kept : ∀ c ∈ calls, c.2.KeepsConfidence := by
  intro c hc
  simp only [calls, List.mem_cons, List.not_mem_nil, or_false] at hc
  rcases hc with rfl | rfl | rfl
  · trivial
  · exact fun _ _ => rfl
  · exact fun _ _ => rfl

theorem memory_id : compactId "memory" "memory_id" = .ok ⟨⟩ := by decide

theorem project_id : compactId "project" "project_id" = .ok ⟨⟩ := by decide

theorem memoryHistory_ordered_iff_sample : ∃ history,
    memoryHistory (runCalls calls) "memory" "project" = .ok history ∧
    (history.map (·.revisionId)).Perm (((runCalls calls).revisions "memory" "project").map (·.revisionId)) ∧
    (SupersessionOrder history ↔ TextsAscend ((runCalls calls).revisions "memory" "project")) :=
  memoryHistory_ordered_iff calls calls_kept "memory" "project" memory_id project_id

/-- The second revision supersedes the first, and stands before it in the history. -/
theorem memoryHistory_misordered : ∃ history, memoryHistory (runCalls calls) "memory" "project" = .ok history ∧
    ¬ SupersessionOrder history := by
  obtain ⟨json, firstFingerprint, secondFingerprint, -, hmemories⟩ := run
  obtain ⟨history, hhistory, -, horder⟩ := (runCalls_sound calls).memoryHistory (runCalls_readable calls calls_kept)
    "memory" "project" memory_id project_id
  refine ⟨history, hhistory, ?_⟩
  rw [horder]
  intro htexts
  have hrevisions : (runCalls calls).revisions "memory" "project" =
      [rowOf first json firstFingerprint ⟨1⟩, rowOf second json secondFingerprint ⟨1⟩] := by
    rw [Store.revisions, hmemories]
    rfl
  rw [hrevisions] at htexts
  have hlt := htexts _ List.mem_cons_self _ (List.mem_cons_of_mem _ List.mem_cons_self) rfl
  exact absurd hlt (by decide : ¬ "2026-01-01T00:00:00Z" < "2026-01-01T00:00:00.500000Z")

/-- Of the instant at which the first revision starts, `memory_at` answers with it before the second one is remembered and
after. -/
theorem past_over_runs_sample : ∃ found : MemoryRecord WholeFloat, found.revisionId = "revision-1" ∧
    memoryAt (runCalls (calls.take 2)) "memory" "project" "2026-01-01T00:00:00Z" = .ok (some found) ∧
    memoryAt (runCalls calls) "memory" "project" "2026-01-01T00:00:00Z" = .ok (some found) := by
  obtain ⟨json, firstFingerprint, secondFingerprint, hone, htwo⟩ := run
  obtain ⟨events, memories, hadds, hpast⟩ := past_over_runs (calls.take 2) (calls.drop 2)
  rw [List.take_append_drop] at hadds hpast
  have hnew : memories = [rowOf second json secondFingerprint ⟨1⟩] := by
    have hmemories := congrArg Store.memories hadds
    rw [htwo, hone] at hmemories
    exact (List.cons.inj hmemories).2.symm
  have hsound := runCalls_sound (calls.take 2)
  have hreadable := runCalls_readable (calls.take 2) fun c hc => calls_kept c (List.mem_of_mem_take hc)
  obtain ⟨found, hfound⟩ := hsound.memoryAt_returns hreadable memory_id project_id
    (show timestamp WholeFloat "2026-01-01T00:00:00Z" "at" = .ok ⟨⟩ by decide)
  obtain ⟨t, ht, hinForce⟩ := mem_found hsound hfound
  have hfirst : instantOf WholeFloat "2026-01-01T00:00:00Z" = some 1767225600000000 := by decide
  have hsecond : instantOf WholeFloat "2026-01-01T00:00:00.500000Z" = some 1767225600500000 := by decide
  obtain rfl : 1767225600000000 = t := Option.some.inj (hfirst.symm.trans ht)
  obtain ⟨record, hread⟩ := hreadable (rowOf first json firstFingerprint ⟨1⟩) (by rw [hone]; exact List.mem_singleton_self _)
  obtain rfl : found = some record := by
    refine (hinForce record).mpr ⟨rowOf first json firstFingerprint ⟨1⟩, ?_,
      mem_validity.mpr ⟨?_, by simp [rowOf, first, revision], ?_⟩, hread⟩
    · rw [Store.revisions, hone]
      exact List.mem_singleton_self _
    · exact fun s hs => (Option.some.inj (hfirst.symm.trans hs)).ge
    · intro next hnext hsup
      rw [hone, List.mem_singleton] at hnext
      rw [hnext] at hsup
      cases hsup
  refine ⟨record, (memoryFromRow_ok hread).revisionId, hfound, hpast calls_kept _ _ _ _ hfound ?_⟩
  intro new hmem s hs t ht'
  rw [hnew, List.mem_singleton] at hmem
  rw [hmem] at hs
  rw [← Option.some.inj (hfirst.symm.trans ht'), ← Option.some.inj (hsecond.symm.trans hs)]
  decide

end Sample

end ThreeAgent.HarnessMemory
