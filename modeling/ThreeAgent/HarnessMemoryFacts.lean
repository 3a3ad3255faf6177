/-
The harness memory over every run of `append_event` and `remember`.

A revision enters only as the first of its memory or after the revision
nothing supersedes yet, and later than it. So the revisions of a memory are
one chain, each revision ends where the next one starts at the latest, and no
instant lies in two of them. What a record may claim depends on its events,
which are checked once and never change after.
-/
import Mathlib
import ThreeAgent.HarnessMemory
import ThreeAgent.Lib.Succession

namespace ThreeAgent.HarnessMemory

open PyText Outcome PyJson

variable {id memoryId : String} {tasks : List String}

variable {F : Type} [PyRuntime F]

/-! ## Instants -/

/-- The instant a text denotes, when it is the text of an aware time. -/
def instantOf (F : Type) [PyRuntime F] (text : String) : Option Int :=
  (PyRuntime.fromIso F (zuluOffset text)).bind DateTime.instant?

theorem timestamp_instant {text field : String} (h : timestamp F text field = .ok ⟨⟩) :
    ∃ i, instantOf F text = some i := by
  simp only [timestamp, bind_ok, orRaise_ok, require_ok] at h
  obtain ⟨_, _, d, hd, hoff⟩ := h
  obtain ⟨o, ho⟩ := Option.ne_none_iff_exists'.mp hoff
  exact ⟨d.wall - o, by simp [instantOf, hd, DateTime.instant?, ho]⟩

theorem isBefore_instant {a b : String} {da db : DateTime} {r : Bool} {i : Int} (hi : instantOf F a = some i)
    (ha : asDatetime F a = .ok da) (hb : asDatetime F b = .ok db) (h : isBefore da db = .ok r) :
    ∃ j, instantOf F b = some j ∧ r = decide (i < j) := by
  simp only [asDatetime, orRaise_ok] at ha hb
  simp only [instantOf, ha, Option.bind_some, DateTime.instant?, Option.map_eq_some_iff] at hi
  obtain ⟨o, ho, rfl⟩ := hi
  cases hoff : db.offset with
  | none => simp [isBefore, DateTime.lt?, ho, hoff] at h
  | some o' =>
    simp only [isBefore, orRaise_ok, DateTime.lt?, ho, hoff, Option.some.injEq] at h
    exact ⟨db.wall - o', by simp [instantOf, hb, DateTime.instant?, hoff], h.symm⟩

/-! ## What the operations do -/

/-- The start of a revision. -/
def MemoryRow.start (row : MemoryRow F) : Option Int := instantOf F row.validFrom

/-- A row and the record it is read as share every column. -/
structure SameColumns (row : MemoryRow F) (record : MemoryRecord F) : Prop where
  revisionId : record.revisionId = row.revisionId
  memoryId : record.memoryId = row.memoryId
  projectId : record.projectId = row.projectId
  validFrom : record.validFrom = row.validFrom
  validUntil : record.validUntil = row.validUntil

variable {row : MemoryRow F} {record : MemoryRecord F}

theorem memoryFromRow_ok (h : memoryFromRow row = .ok record) :
    SameColumns row record := by
  simp only [memoryFromRow, bind_ok, orRaise_ok, require_ok, rethrow_ok, pure_ok] at h
  obtain ⟨_, _, items, _, _, _, _, _, _, _, _, _, rfl⟩ := h
  exact ⟨rfl, rfl, rfl, rfl, rfl⟩

variable {event : HarnessEvent F}

theorem eventFromRow_ok {row : EventRow} (h : eventFromRow row = .ok event) :
    event.trustDomain = row.trustDomain ∧ event.projectId = row.projectId ∧
      event.conversationId = row.conversationId ∧ event.taskId = row.taskId := by
  simp only [eventFromRow, bind_ok, orRaise_ok, require_ok, rethrow_ok, pure_ok] at h
  obtain ⟨_, _, _, _, _, _, _, _, rfl⟩ := h
  exact ⟨rfl, rfl, rfl, rfl⟩

/-- An event is in the scope of a memory: of its project, and of its conversation and task where it names them. -/
structure InScope (row : MemoryRow F) (event : EventRow) : Prop where
  project : event.projectId = row.projectId
  conversation : ∀ c ∈ row.conversationId, event.conversationId = c
  task : ∀ t ∈ row.taskId, event.taskId = some t

/-- A memory that claims trust: in its trust domain, in layer M4 or as a procedure. -/
def Trusting (row : MemoryRow F) : Prop := row.trustDomain = "trusted" ∨ isProcedural row.layer row.kind = true

/-- The provenance of a row: events that are there and in scope, all trusted when the memory claims trust. -/
def Provenance (events : List EventRow) (row : MemoryRow F) : Prop :=
  ∃ ids, loads row.provenanceJson = some (Json.strs ids : Json F) ∧ ids ≠ [] ∧
    ∀ id ∈ ids, ∃ e ∈ events, e.eventId = id ∧ InScope row e ∧ (Trusting row → e.trustDomain = "trusted")

/-- Where a new row may stand among the rows: first of its memory, or after the last of its memory and
later than it. -/
def Placed (rows : List (MemoryRow F)) (row : MemoryRow F) : Prop :=
  row.supersedesRevisionId = none ∧ (∀ r ∈ rows, r.memoryId = row.memoryId → r.projectId ≠ row.projectId) ∨
  ∃ previous ∈ rows, row.supersedesRevisionId = some previous.revisionId ∧
    previous.memoryId = row.memoryId ∧ previous.projectId = row.projectId ∧
    (∀ i ∈ previous.start, ∀ j ∈ row.start, i < j) ∧
    ∀ r ∈ rows, r.supersedesRevisionId ≠ some previous.revisionId

variable {db : Store F}

omit [PyRuntime F] in
theorem revision?_some (h : db.revision? id = some row) :
    row ∈ db.memories ∧ row.revisionId = id := by
  have hid := List.find?_some h
  exact ⟨List.mem_of_find?_eq_some h, by simpa using hid⟩

theorem checkPlace_ok
    (hm : row.memoryId = record.memoryId) (hp : row.projectId = record.projectId)
    (hf : row.validFrom = record.validFrom) (hs : row.supersedesRevisionId = record.supersedesRevisionId)
    (h : checkPlace db record = .ok ⟨⟩) : Placed db.memories row := by
  unfold checkPlace at h
  cases hsup : record.supersedesRevisionId with
  | none =>
    rw [hsup] at h
    simp only [require_ok, Store.revisions, List.filter_eq_nil_iff, decide_eq_true_eq, not_and] at h
    refine .inl ⟨hs.trans hsup, ?_⟩
    intro r hr hmem
    rw [hp]
    exact h r hr (hmem.trans hm)
  | some previousId =>
    rw [hsup] at h
    simp only [checkPredecessor, bind_ok, orRaise_ok, require_ok] at h
    obtain ⟨pred, hpred, prev, hprev, _, hmem, _, hproj, _, -, start, hstart, before, hbefore, forward, hfwd, _, rfl,
      hfork⟩ := h
    obtain ⟨hin, rfl⟩ := revision?_some hpred
    have hcols := memoryFromRow_ok hprev
    refine .inr ⟨pred, hin, hs.trans hsup, ?_, ?_, ?_, hfork⟩
    · rw [← hcols.memoryId, hmem, hm]
    · rw [← hcols.projectId, hproj, hp]
    · intro i hi j hj
      rw [MemoryRow.start, Option.mem_def, ← hcols.validFrom] at hi
      rw [MemoryRow.start, Option.mem_def, hf] at hj
      obtain ⟨j', hj', hlt⟩ := isBefore_instant hi hbefore hstart hfwd
      rw [hj] at hj'
      cases hj'
      simpa using hlt.symm

theorem provenanceEvent_ok
    (h : provenanceEvent db record id = .ok event) : ∃ e ∈ db.events, e.eventId = id ∧
      e.trustDomain = event.trustDomain ∧ e.projectId = record.projectId ∧
      (∀ c ∈ record.conversationId, e.conversationId = c) ∧ ∀ t ∈ record.taskId, e.taskId = some t := by
  simp only [provenanceEvent, loadEvent, bind_ok, rethrow_ok, orRaise_ok, require_ok, pure_ok] at h
  obtain ⟨_, ⟨_, -, row, hrow, hevent⟩, _, hproj, _, hconv, _, htask, rfl⟩ := h
  obtain ⟨htrust, hp, hc, ht⟩ := eventFromRow_ok hevent
  have hid := List.find?_some hrow
  refine ⟨row, List.mem_of_find?_eq_some hrow, by simpa using hid, htrust.symm, hp ▸ hproj, ?_, ?_⟩
  · intro c hmem
    rw [← hc]
    exact hconv c hmem
  · intro t hmem
    rw [← ht]
    exact htask t hmem

theorem admitted_trust
    (h : validateMemoryAdmission tasks record db = .ok ⟨⟩) : ∃ events,
      record.validate = .ok ⟨⟩ ∧ record.provenanceEventIds.mapM (provenanceEvent db record) = .ok events ∧
      (record.trustDomain = "trusted" ∨ isProcedural record.layer record.kind = true →
        ∀ e ∈ events, e.trustDomain = "trusted") := by
  simp only [validateMemoryAdmission, bind_ok, require_ok, provenanceEvents] at h
  obtain ⟨_, hvalid, _, -, events, hevents, _, htrusted, hproc⟩ := h
  refine ⟨events, hvalid, hevents, ?_⟩
  rintro (ht | hp)
  · exact htrusted ht
  · rw [checkProcedural, if_pos hp] at hproc
    simp only [bind_ok, require_ok] at hproc
    obtain ⟨_, -, hall⟩ := hproc
    exact hall

theorem remember_ok {db' : Store F} {fingerprint : String}
    (h : remember tasks record db = .ok (db', fingerprint)) :
    db = db' ∨ ∃ row, { db with memories := db.memories ++ [row] } = db' ∧
      (∀ r ∈ db.memories, r.revisionId ≠ row.revisionId) ∧ Placed db.memories row ∧
      (∃ i, row.start = some i) ∧ Provenance db.events row := by
  simp only [remember, bind_ok] at h
  obtain ⟨_, hadm, fp, -, h⟩ := h
  cases hex : db.revision? record.revisionId with
  | some existing =>
    simp only [hex, bind_ok, require_ok, pure_ok, Prod.mk.injEq] at h
    obtain ⟨_, -, _, -, _, -, hdb, -⟩ := h
    exact .inl hdb
  | none =>
    simp only [hex, bind_ok, orRaise_ok, pure_ok, Prod.mk.injEq] at h
    obtain ⟨_, hplace, json, hjson, confidence, -, hdb, -⟩ := h
    refine .inr ⟨_, hdb, ?_, checkPlace_ok rfl rfl rfl rfl hplace, ?_, ?_⟩
    · intro r hr heq
      have := List.find?_eq_none.mp hex r hr
      exact this (by simpa using heq)
    · obtain ⟨_, hvalid, -, -⟩ := admitted_trust hadm
      simp only [MemoryRecord.validate, bind_ok, require_ok] at hvalid
      obtain ⟨_, -, _, -, _, -, _, -, _, -, _, -, _, -, _, -, _, -, _, -, _, -, _, -, _, -, _, -, _, hfrom, -⟩ := hvalid
      exact timestamp_instant hfrom
    · obtain ⟨events, hvalid, hevents, htrust⟩ := admitted_trust hadm
      simp only [canonicalJson, bind_ok, canonicalText_ok] at hjson
      obtain ⟨_, -, hdumps⟩ := hjson
      have hsome : record.provenanceEventIds ≠ [] := by
        simp only [MemoryRecord.validate, bind_ok, require_ok] at hvalid
        obtain ⟨_, -, _, -, _, -, _, -, _, -, _, -, _, -, _, -, _, hne, -⟩ := hvalid
        exact hne
      refine ⟨record.provenanceEventIds, loads_dumps (canonical_strs _) hdumps, hsome, ?_⟩
      intro id hid
      obtain ⟨event, hmem, hevent⟩ := forall₂_mem_left (mapM_ok.mp hevents) hid
      obtain ⟨e, he, hide, htr, hp, hc, ht⟩ := provenanceEvent_ok hevent
      refine ⟨e, he, hide, ⟨hp, hc, ht⟩, ?_⟩
      intro hclaims
      rw [htr]
      exact htrust hclaims event hmem

theorem appendEvent_ok {db' : Store F} {fingerprint : String}
    (h : appendEvent tasks event db = .ok (db', fingerprint)) :
    db = db' ∨ ∃ row, { db with events := db.events ++ [row] } = db' := by
  simp only [appendEvent, bind_ok] at h
  obtain ⟨_, -, _, -, fp, -, h⟩ := h
  cases hex : db.event? event.eventId with
  | some existing =>
    simp only [hex, bind_ok, require_ok, pure_ok, Prod.mk.injEq] at h
    obtain ⟨_, -, _, -, _, -, hdb, -⟩ := h
    exact .inl hdb
  | none =>
    simp only [hex, bind_ok, pure_ok, Prod.mk.injEq] at h
    obtain ⟨json, -, hdb, -⟩ := h
    exact .inr ⟨_, hdb⟩

/-! ## Runs -/

inductive Call (F : Type) where
  | appendEvent (event : HarnessEvent F)
  | remember (record : MemoryRecord F)

def Call.run (tasks : List String) (db : Store F) : Call F → Except Raised (Store F × String)
  | .appendEvent event => HarnessMemory.appendEvent tasks event db
  | .remember record => HarnessMemory.remember tasks record db

/-- The store after a call: what it commits, or the store as it was when it raises. -/
def Call.after (tasks : List String) (db : Store F) (call : Call F) : Store F :=
  match call.run tasks db with
  | .ok (db', _) => db'
  | .error _ => db

/-- A run on a new store: its calls, each with the tasks it finds. -/
def runCalls (calls : List (List String × Call F)) : Store F :=
  calls.foldl (fun db c => c.2.after c.1 db) {}

/-- `a` starts before `b`. -/
def Earlier (a b : MemoryRow F) : Prop := ∃ i j, a.start = some i ∧ b.start = some j ∧ i < j

theorem Earlier.trans {a b c : MemoryRow F} (hab : Earlier a b) (hbc : Earlier b c) : Earlier a c := by
  obtain ⟨i, j, hi, hj, hij⟩ := hab
  obtain ⟨j', k, hj', hk, hjk⟩ := hbc
  rw [hj] at hj'
  cases hj'
  exact ⟨i, k, hi, hk, by omega⟩

/-- The revisions of a memory in the order of their supersession. -/
abbrev LinearHistory (rows : List (MemoryRow F)) : Prop :=
  Succession.Chained MemoryRow.revisionId MemoryRow.supersedesRevisionId Earlier rows

/-- What every reachable store satisfies. -/
structure Sound (db : Store F) : Prop where
  ids : db.memories.Pairwise fun a b => a.revisionId ≠ b.revisionId
  starts : ∀ row ∈ db.memories, ∃ i, row.start = some i
  linear : ∀ memoryId projectId, LinearHistory (db.revisions memoryId projectId)
  unforked : ∀ row ∈ db.memories, ∀ row' ∈ db.memories, row.supersedesRevisionId = row'.supersedesRevisionId →
    row.supersedesRevisionId ≠ none → row = row'
  provenance : ∀ row ∈ db.memories, Provenance db.events row

theorem sound_empty : Sound ({} : Store F) where
  ids := .nil
  starts := by simp
  linear _ _ := Succession.Chained.nil
  unforked := by simp
  provenance := by simp

theorem Provenance.mono {events events' : List EventRow} (h : Provenance events row)
    (hsub : events ⊆ events') : Provenance events' row := by
  obtain ⟨ids, hloads, hne, hall⟩ := h
  refine ⟨ids, hloads, hne, ?_⟩
  intro id hid
  obtain ⟨e, he, hrest⟩ := hall id hid
  exact ⟨e, hsub he, hrest⟩

theorem Sound.appendEvent (h : Sound db) (row : EventRow) :
    Sound { db with events := db.events ++ [row] } :=
  { h with provenance := fun r hr => (h.provenance r hr).mono (by simp) }

omit [PyRuntime F] in
theorem revisions_snoc (db : Store F) (row : MemoryRow F) (memoryId projectId : String) :
    Store.revisions { db with memories := db.memories ++ [row] } memoryId projectId =
      db.revisions memoryId projectId ++
        (if row.memoryId = memoryId ∧ row.projectId = projectId then [row] else []) := by
  simp only [Store.revisions, List.filter_append, List.filter_singleton, cond_eq_ite, decide_eq_true_eq]

variable {projectId : String}

omit [PyRuntime F] in
theorem mem_revisions : row ∈ db.revisions memoryId projectId ↔
      row ∈ db.memories ∧ row.memoryId = memoryId ∧ row.projectId = projectId := by
  simp [Store.revisions]

theorem LinearHistory.placed (h : Sound db) (hplaced : Placed db.memories row)
    (hstart : ∃ i, row.start = some i) :
    LinearHistory (db.revisions row.memoryId row.projectId ++ [row]) := by
  rcases hplaced with ⟨hnone, hfirst⟩ | ⟨previous, hin, hsup, hm, hp, hlater, hfree⟩
  · have hempty : db.revisions row.memoryId row.projectId = [] := by
      rw [List.eq_nil_iff_forall_not_mem]
      intro r hr
      obtain ⟨hr, hm, hp⟩ := mem_revisions.mp hr
      exact hfirst r hr hm hp
    rw [hempty, List.nil_append]
    exact Succession.Chained.singleton hnone
  · obtain ⟨j, hj⟩ := hstart
    obtain ⟨i, hi⟩ := h.starts previous hin
    refine (h.linear _ _).snoc (mem_revisions.mpr ⟨hin, hm, hp⟩) ?_ hsup ⟨i, j, hi, hj, hlater i hi j hj⟩
    intro c hc
    exact hfree c (mem_revisions.mp hc).1

theorem Placed.free {rows : List (MemoryRow F)} {r : MemoryRow F} (h : Placed rows row) (hr : r ∈ rows)
    (hsup : row.supersedesRevisionId ≠ none) : r.supersedesRevisionId ≠ row.supersedesRevisionId := by
  rcases h with ⟨hnone, -⟩ | ⟨previous, -, hprev, -, -, -, hfree⟩
  · exact absurd hnone hsup
  · rw [hprev]
    exact hfree r hr

theorem Sound.remember (h : Sound db)
    (hnew : ∀ r ∈ db.memories, r.revisionId ≠ row.revisionId) (hplaced : Placed db.memories row)
    (hstart : ∃ i, row.start = some i) (hprov : Provenance db.events row) :
    Sound { db with memories := db.memories ++ [row] } where
  ids := by
    rw [List.pairwise_append]
    refine ⟨h.ids, List.pairwise_singleton _ _, ?_⟩
    intro a ha b hb
    rw [List.mem_singleton.mp hb]
    exact hnew a ha
  starts := by
    intro r hr
    rcases List.mem_append.mp hr with hr | hr
    · exact h.starts r hr
    · rw [List.mem_singleton.mp hr]
      exact hstart
  linear := by
    intro memoryId projectId
    rw [revisions_snoc]
    split
    · rename_i hkey
      obtain ⟨rfl, rfl⟩ := hkey
      exact LinearHistory.placed h hplaced hstart
    · rw [List.append_nil]
      exact h.linear memoryId projectId
  unforked := by
    intro r hr r' hr' heq hne
    rcases List.mem_append.mp hr with hr | hr <;> rcases List.mem_append.mp hr' with hr' | hr'
    · exact h.unforked r hr r' hr' heq hne
    · rw [List.mem_singleton.mp hr'] at heq
      exact absurd heq (hplaced.free hr (heq ▸ hne))
    · rw [List.mem_singleton.mp hr] at heq hne
      exact absurd heq.symm (hplaced.free hr' hne)
    · rw [List.mem_singleton.mp hr, List.mem_singleton.mp hr']
  provenance := by
    intro r hr
    rcases List.mem_append.mp hr with hr | hr
    · exact h.provenance r hr
    · rw [List.mem_singleton.mp hr]
      exact hprov

theorem Sound.after (h : Sound db) (tasks : List String) (call : Call F) : Sound (call.after tasks db) := by
  unfold Call.after
  cases hrun : call.run tasks db with
  | error e => exact h
  | ok result =>
    obtain ⟨db', fingerprint⟩ := result
    cases call with
    | appendEvent event =>
      rcases appendEvent_ok hrun with rfl | ⟨row, rfl⟩
      · exact h
      · exact h.appendEvent row
    | remember record =>
      rcases remember_ok hrun with rfl | ⟨row, rfl, hnew, hplaced, hstart, hprov⟩
      · exact h
      · exact h.remember hnew hplaced hstart hprov

theorem runCalls_sound (calls : List (List String × Call F)) : Sound (runCalls calls) := by
  unfold runCalls
  induction calls using List.reverseRecOn with
  | nil => exact sound_empty
  | append_singleton calls c ih =>
    rw [List.foldl_append]
    exact ih.after c.1 c.2

/-! ## Validity -/

/-- The instants at which a revision is in force: from its start, before its stated end and before the
start of a revision that supersedes it. -/
def validity (db : Store F) (row : MemoryRow F) : Set Int :=
  {t | (∀ s ∈ row.start, s ≤ t) ∧ (∀ stated ∈ row.validUntil, ∀ e ∈ instantOf F stated, t < e) ∧
    ∀ next ∈ db.memories, next.supersedesRevisionId = some row.revisionId → ∀ e ∈ next.start, t < e}

theorem mem_validity {t : Int} : t ∈ validity db row ↔
    (∀ s ∈ row.start, s ≤ t) ∧ (∀ stated ∈ row.validUntil, ∀ e ∈ instantOf F stated, t < e) ∧
      ∀ next ∈ db.memories, next.supersedesRevisionId = some row.revisionId → ∀ e ∈ next.start, t < e := by
  rw [validity, Set.mem_ofPred_eq]

theorem Sound.disjoint (h : Sound db) (memoryId projectId : String) :
    (db.revisions memoryId projectId).Pairwise fun a b => Disjoint (validity db a) (validity db b) := by
  refine ((h.linear memoryId projectId).pairwise fun _ _ _ => Earlier.trans).imp ?_
  intro a b hab
  obtain ⟨c, hc, ⟨hsup, i, j, -, hj, -⟩, hcb⟩ := hab
  rw [Set.disjoint_left]
  intro t hta htb
  rw [mem_validity] at hta htb
  have hbefore : t < j := hta.2.2 c (mem_revisions.mp hc).1 hsup j hj
  rcases hcb with rfl | ⟨j', k, hj', hk, hlt⟩
  · have := htb.1 j hj
    omega
  · rw [hj] at hj'
    cases hj'
    have := htb.1 k hk
    omega

omit [PyRuntime F] in
theorem child?_none (h : db.child? id = none) :
    ∀ next ∈ db.memories, next.supersedesRevisionId ≠ some id := by
  intro next hnext hsup
  rw [Store.child?, List.head?_eq_none_iff] at h
  have : next ∈ (db.memories.filter fun r => r.supersedesRevisionId = some id).insertionSort Store.childOrder := by
    rw [List.mem_insertionSort, List.mem_filter]
    exact ⟨hnext, by simpa using hsup⟩
  rw [h] at this
  cases this

omit [PyRuntime F] in
theorem child?_some {c : MemoryRow F} (h : db.child? id = some c) :
    c ∈ db.memories ∧ c.supersedesRevisionId = some id := by
  have := List.mem_of_mem_head? h
  rw [List.mem_insertionSort, List.mem_filter] at this
  exact ⟨this.1, by simpa using this.2⟩

theorem childStart_ok (h : Sound db) {text : Option String}
    (hstart : childStart db id projectId = .ok text) (t : Int) :
    (∀ stop ∈ text, ∃ e, instantOf F stop = some e) ∧
    ((∀ next ∈ db.memories, next.supersedesRevisionId = some id → ∀ e ∈ next.start, t < e) ↔
      ∀ stop ∈ text, ∀ e ∈ instantOf F stop, t < e) := by
  unfold childStart at hstart
  cases hc : db.child? id with
  | none =>
    rw [hc] at hstart
    simp only [pure_ok] at hstart
    subst hstart
    refine ⟨by simp, ?_, ?_⟩
    · intro _ stop hstop
      cases hstop
    · intro _ next hnext hsup
      exact absurd hsup (child?_none hc next hnext)
  | some c =>
    rw [hc] at hstart
    simp only [bind_ok, require_ok, pure_ok] at hstart
    obtain ⟨child, hchild, _, -, rfl⟩ := hstart
    obtain ⟨hin, hsup⟩ := child?_some hc
    have hfrom := (memoryFromRow_ok hchild).validFrom
    refine ⟨?_, ?_, ?_⟩
    · intro stop hstop
      cases hstop
      rw [hfrom]
      exact h.starts c hin
    · intro hall stop hstop e he
      cases hstop
      rw [hfrom] at he
      exact hall c hin hsup e he
    · intro hall next hnext hnsup e he
      have hsame : next = c := h.unforked next hnext c hin (hnsup.trans hsup.symm) (by simp [hnsup])
      rw [hsame, MemoryRow.start, ← hfrom] at he
      exact hall _ rfl e he

theorem effectiveValidUntil_ok (h : Sound db) (hrow : row ∈ db.memories)
     {text : Option String} (hend : effectiveValidUntil db row.revisionId projectId = .ok text)
    (t : Int) : t ∈ validity db row ↔
      (∀ s ∈ row.start, s ≤ t) ∧ ∀ stop ∈ text, ∀ e ∈ instantOf F stop, t < e := by
  simp only [effectiveValidUntil, getRevision, bind_ok, orRaise_ok, require_ok, pure_ok] at hend
  obtain ⟨_, -, _, ⟨_, -, _, -, found, hfound, record, hread, _, -, rfl⟩, cs, hcs, hend⟩ := hend
  obtain ⟨hfin, hfid⟩ := revision?_some hfound
  have hsame : found = row := by
    by_contra hne
    have hsymm : Std.Symm fun a b : MemoryRow F => a.revisionId ≠ b.revisionId := ⟨fun _ _ hab hba => hab hba.symm⟩
    exact h.ids.forall hfin hrow hne hfid
  subst hsame
  have hcols := memoryFromRow_ok hread
  rw [hcols.revisionId] at hcs
  obtain ⟨hstarts, hchild⟩ := childStart_ok h hcs t
  rw [mem_validity, hchild]
  refine and_congr_right fun _ => ?_
  rw [← hcols.validUntil]
  cases hstated : record.validUntil with
  | none =>
    rw [hstated] at hend
    simp only [pure_ok] at hend
    subst hend
    simp
  | some stated =>
    rw [hstated] at hend
    cases cs with
    | none =>
      simp only [pure_ok] at hend
      subst hend
      simp
    | some next =>
      simp only [bind_ok, pure_ok] at hend
      obtain ⟨stop, hstop, start, hstart, later, hlater, rfl⟩ := hend
      obtain ⟨j, hj⟩ := hstarts next rfl
      obtain ⟨e, he, rfl⟩ := isBefore_instant hj hstart hstop hlater
      by_cases hlt : j < e
      · simp only [hlt, decide_true, if_true, Option.mem_def, Option.some.injEq, forall_eq', hj, he]
        omega
      · simp only [hlt, decide_false, Bool.false_eq_true, if_false, Option.mem_def, Option.some.injEq, forall_eq', hj,
          he]
        omega

/-! ## The overlap error is raised in one place only -/

/-- The error of two revisions in force at one instant. -/
def overlap : Raised := fail "MEMORY_TEMPORAL_OVERLAP"

theorem invalidField_ne_overlap (field : String) : invalidField .harnessMemoryError field ≠ overlap := by
  intro h
  have hcode : "INVALID_" ++ upper field = "MEMORY_TEMPORAL_OVERLAP" := congrArg Raised.code h
  have hlist := congrArg String.toList hcode
  rw [String.toList_append] at hlist
  have hhead : some 'I' = some 'M' := congrArg List.head? hlist
  exact absurd hhead (by decide)

theorem ne_overlap_of_cls {e : Raised} (h : e.cls ≠ .harnessMemoryError) : e ≠ overlap := by
  intro he
  exact h (congrArg Raised.cls he)

theorem compactId_avoids (value field : String) : Avoids overlap (compactId value field) :=
  Avoids.require (invalidField_ne_overlap field)

theorem asDatetime_avoids (value : String) : Avoids overlap (asDatetime F value) := Avoids.orRaise (by decide)

theorem isBefore_avoids (a b : DateTime) : Avoids overlap (isBefore a b) := Avoids.orRaise (by decide)

mutual

theorem validateJsonValue_avoids (depth : Nat) : ∀ v : Json F, Avoids overlap (validateJsonValue depth v)
  | .null | .bool _ | .int _ | .str _ => by
    rw [validateJsonValue]
    · exact Avoids.require (by decide)
    all_goals simp
  | .float x => by
    rw [validateJsonValue]
    exact Avoids.bind (Avoids.require (by decide)) fun _ _ => Avoids.require (by decide)
  | .arr xs => by
    rw [validateJsonValue]
    exact Avoids.bind (Avoids.require (by decide)) fun _ _ => validateJsonElems_avoids (depth + 1) xs
  | .obj kvs => by
    rw [validateJsonValue]
    exact Avoids.bind (Avoids.require (by decide)) fun _ _ => validateJsonEntries_avoids (depth + 1) kvs

theorem validateJsonElems_avoids (depth : Nat) : ∀ vs : List (Json F), Avoids overlap (validateJsonElems depth vs)
  | [] => Avoids.pure
  | v :: vs => by
    rw [validateJsonElems]
    exact Avoids.bind (validateJsonValue_avoids depth v) fun _ _ => validateJsonElems_avoids depth vs

theorem validateJsonEntries_avoids (depth : Nat) :
    ∀ kvs : List (String × Json F), Avoids overlap (validateJsonEntries depth kvs)
  | [] => Avoids.pure
  | (_, v) :: kvs => by
    rw [validateJsonEntries]
    exact Avoids.bind (validateJsonValue_avoids depth v) fun _ _ => validateJsonEntries_avoids depth kvs

end

theorem digest_avoids (v : Json F) : Avoids overlap (digest v) := by
  refine Avoids.bind (Avoids.bind (validateJsonValue_avoids 0 v) fun _ _ => ?_) fun _ _ => Avoids.pure
  unfold canonicalText
  cases dumps v with
  | none => exact Avoids.throw (by decide)
  | some text => exact Avoids.pure

theorem memoryFromRow_avoids (row : MemoryRow F) : Avoids overlap (memoryFromRow row) := by
  refine Avoids.bind (Avoids.orRaise (by decide)) fun provenance _ => ?_
  refine Avoids.bind ?_ fun items _ => ?_
  · cases provenance with
    | arr items => exact Avoids.pure
    | _ => exact Avoids.throw (by decide)
  refine Avoids.bind (Avoids.rethrow (by decide) (by decide)) fun _ hvalid => ?_
  rw [rethrow_ok] at hvalid
  refine Avoids.bind (Avoids.require (by decide)) fun _ _ => ?_
  refine Avoids.bind ?_ fun _ _ => Avoids.bind (Avoids.require (by decide)) fun _ _ => Avoids.pure
  -- the record has passed its check already, so the fingerprint cannot raise what the check would
  refine Avoids.bind (Avoids.bind ?_ fun _ _ => ?_) fun v _ => digest_avoids v
  · rw [hvalid]
    exact Avoids.pure
  · exact Avoids.bind (Avoids.orRaise (by decide)) fun _ _ => Avoids.pure

theorem getRevision_avoids (db : Store F) (revisionId projectId : String) :
    Avoids overlap (getRevision db revisionId projectId) := by
  refine Avoids.bind (compactId_avoids _ _) fun _ _ => ?_
  refine Avoids.bind (compactId_avoids _ _) fun _ _ => ?_
  refine Avoids.bind (Avoids.orRaise (ne_overlap_of_cls (by simp))) fun row _ => ?_
  refine Avoids.bind (memoryFromRow_avoids row) fun _ _ => ?_
  exact Avoids.bind (Avoids.require (ne_overlap_of_cls (by simp))) fun _ _ => Avoids.pure

theorem childStart_avoids (db : Store F) (revisionId projectId : String) :
    Avoids overlap (childStart db revisionId projectId) := by
  unfold childStart
  cases db.child? revisionId with
  | none => exact Avoids.pure
  | some row =>
    refine Avoids.bind (memoryFromRow_avoids row) fun _ _ => ?_
    exact Avoids.bind (Avoids.require (by decide)) fun _ _ => Avoids.pure

theorem effectiveValidUntil_avoids (db : Store F) (revisionId projectId : String) :
    Avoids overlap (effectiveValidUntil db revisionId projectId) := by
  refine Avoids.bind (compactId_avoids _ _) fun _ _ => ?_
  refine Avoids.bind (getRevision_avoids db revisionId projectId) fun record _ => ?_
  refine Avoids.bind (childStart_avoids db _ projectId) fun childStart _ => ?_
  cases record.validUntil with
  | none => exact Avoids.pure
  | some stated =>
    cases childStart with
    | none => exact Avoids.pure
    | some next =>
      refine Avoids.bind (asDatetime_avoids stated) fun _ _ => ?_
      refine Avoids.bind (asDatetime_avoids next) fun _ _ => ?_
      exact Avoids.bind (isBefore_avoids _ _) fun _ _ => Avoids.pure

theorem inForce_avoids (db : Store F) (projectId : String) (point : DateTime) (record : MemoryRecord F) :
    Avoids overlap (inForce db projectId point record) := by
  refine Avoids.bind (asDatetime_avoids _) fun start _ => ?_
  refine Avoids.bind (effectiveValidUntil_avoids db _ projectId) fun text _ => ?_
  refine Avoids.bind ?_ fun stop _ => ?_
  · cases text with
    | none => exact Avoids.pure
    | some text => exact Avoids.bind (asDatetime_avoids text) fun _ _ => Avoids.pure
  · refine Avoids.bind (isBefore_avoids point start) fun ahead _ => ?_
    cases ahead with
    | true => exact Avoids.pure
    | false =>
      cases stop with
      | none => exact Avoids.pure
      | some stop => exact isBefore_avoids point stop

theorem collectMatches_avoids (db : Store F) (projectId : String) (point : DateTime) :
    ∀ history, Avoids overlap (collectMatches db projectId point history)
  | [] => Avoids.pure
  | r :: history => by
    refine Avoids.bind (inForce_avoids db projectId point r) fun _ _ => ?_
    exact Avoids.bind (collectMatches_avoids db projectId point history) fun _ _ => Avoids.pure

/-! ## Reading at an instant -/

section MemoryAt

variable {at' projectId : String} {point : DateTime} {t : Int}

theorem inForce_ok (h : Sound db) (hpoint : asDatetime F at' = .ok point)
    (ht : instantOf F at' = some t) (hrow : row ∈ db.memories)
    (hcols : SameColumns row record) {hit : Bool} (hin : inForce db projectId point record = .ok hit) :
    hit = true ↔ t ∈ validity db row := by
  simp only [inForce, covers, bind_ok] at hin
  obtain ⟨start, hstart, text, htext, stop, hstop, ahead, hahead, hin⟩ := hin
  rw [hcols.revisionId] at htext
  rw [effectiveValidUntil_ok h hrow htext t]
  obtain ⟨s, hs, rfl⟩ := isBefore_instant ht hpoint hstart hahead
  rw [hcols.validFrom] at hs
  have hstarts : (∀ s' ∈ row.start, s' ≤ t) ↔ s ≤ t := by
    simp [MemoryRow.start, hs]
  rw [hstarts]
  by_cases hlt : t < s
  · simp only [hlt, decide_true, if_true, pure_ok] at hin
    subst hin
    simp only [Bool.false_eq_true, false_iff, not_and]
    intro hle
    omega
  · simp only [hlt, decide_false, Bool.false_eq_true, if_false] at hin
    cases text with
    | none =>
      simp only [endOf, pure_ok] at hstop
      subst hstop
      simp only [pure_ok] at hin
      simp only [← hin, true_iff]
      exact ⟨by omega, by simp⟩
    | some text =>
      simp only [endOf, bind_ok, pure_ok] at hstop
      obtain ⟨stop', hstop', rfl⟩ := hstop
      obtain ⟨e, he, rfl⟩ := isBefore_instant ht hpoint hstop' hin
      simp only [decide_eq_true_eq, Option.mem_def, Option.some.injEq, forall_eq', he]
      omega

theorem collectMatches_ok : ∀ {history found : List (MemoryRecord F)},
    collectMatches db projectId point history = .ok found → found.Sublist history ∧
      (∀ r ∈ found, inForce db projectId point r = .ok true) ∧
      ∀ r ∈ history, r ∉ found → inForce db projectId point r = .ok false
  | [], found, h => by
    simp only [collectMatches, pure_ok] at h
    subst h
    exact ⟨.slnil, by simp, by simp⟩
  | r :: history, found, h => by
    simp only [collectMatches, bind_ok, pure_ok] at h
    obtain ⟨hit, hhit, rest, hrest, rfl⟩ := h
    obtain ⟨hsub, hall, hnone⟩ := collectMatches_ok hrest
    cases hit with
    | true =>
      simp only [if_true]
      refine ⟨hsub.cons_cons r, ?_, ?_⟩
      · intro r' hr'
        rcases List.mem_cons.mp hr' with rfl | hr'
        · exact hhit
        · exact hall r' hr'
      · intro r' hr' hnot
        rw [List.mem_cons, not_or] at hnot
        rcases List.mem_cons.mp hr' with rfl | hr'
        · exact absurd rfl hnot.1
        · exact hnone r' hr' hnot.2
    | false =>
      simp only [Bool.false_eq_true, if_false]
      refine ⟨hsub.cons r, hall, ?_⟩
      intro r' hr' hnot
      rcases List.mem_cons.mp hr' with rfl | hr'
      · exact hhit
      · exact hnone r' hr' hnot

omit [PyRuntime F] in
theorem mem_history :
    row ∈ (db.revisions memoryId projectId).insertionSort Store.historyOrder ↔
      row ∈ db.revisions memoryId projectId := List.mem_insertionSort _

theorem history_pairwise (h : Sound db) (hpoint : asDatetime F at' = .ok point)
    (ht : instantOf F at' = some t) {history : List (MemoryRecord F)}
    (hhist : List.Forall₂ (fun row record => memoryFromRow row = .ok record)
      ((db.revisions memoryId projectId).insertionSort Store.historyOrder) history) :
    history.Pairwise fun r r' =>
      ¬ (inForce db projectId point r = .ok true ∧ inForce db projectId point r' = .ok true) := by
  have hsymm : Std.Symm fun a b : MemoryRow F => Disjoint (validity db a) (validity db b) := ⟨fun _ _ hd => hd.symm⟩
  have hrows := (List.Perm.pairwise_iff (fun hd => hd.symm)
    (List.perm_insertionSort Store.historyOrder (db.revisions memoryId projectId))).mpr (h.disjoint memoryId projectId)
  have hmem : ∀ row ∈ (db.revisions memoryId projectId).insertionSort Store.historyOrder, row ∈ db.memories :=
    fun row hrow => (mem_revisions.mp (mem_history.mp hrow)).1
  refine forall₂_pairwise ?_ ((List.forall₂_and_left _ _).mpr ⟨hmem, hhist⟩) hrows
  intro row row' r r' hr hr' hdisj hboth
  have hin := (inForce_ok h hpoint ht hr.1 (memoryFromRow_ok hr.2) hboth.1).mp rfl
  have hin' := (inForce_ok h hpoint ht hr'.1 (memoryFromRow_ok hr'.2) hboth.2).mp rfl
  exact Set.disjoint_left.mp hdisj hin hin'

theorem collectMatches_length {history found : List (MemoryRecord F)}
    (hpair : history.Pairwise fun r r' =>
      ¬ (inForce db projectId point r = .ok true ∧ inForce db projectId point r' = .ok true))
    (hfound : collectMatches db projectId point history = .ok found) : found.length ≤ 1 := by
  obtain ⟨hsub, hall, -⟩ := collectMatches_ok hfound
  have hpair' := hpair.sublist hsub
  cases found with
  | nil => simp
  | cons r rest =>
    cases rest with
    | nil => simp
    | cons r' rest =>
      exact absurd ⟨hall r (by simp), hall r' (by simp)⟩ ((List.pairwise_cons.mp hpair').1 r' (by simp))

theorem memoryAt_avoids (h : Sound db) (memoryId projectId at' : String) :
    Avoids overlap (memoryAt db memoryId projectId at') := by
  refine Avoids.bind (compactId_avoids _ _) fun _ _ => ?_
  refine Avoids.bind ?_ fun _ htime => ?_
  · refine Avoids.bind ?_ fun _ _ => ?_
    · refine Avoids.bind (Avoids.require (invalidField_ne_overlap _)) fun _ _ => ?_
      exact Avoids.require (invalidField_ne_overlap _)
    · exact Avoids.bind (Avoids.orRaise (invalidField_ne_overlap _)) fun _ _ => Avoids.require (by decide)
  refine Avoids.bind (asDatetime_avoids at') fun point hpoint => ?_
  refine Avoids.bind ?_ fun history hhist => ?_
  · refine Avoids.bind (compactId_avoids _ _) fun _ _ => ?_
    exact Avoids.bind (compactId_avoids _ _) fun _ _ => Avoids.mapM memoryFromRow_avoids _
  refine Avoids.bind (collectMatches_avoids db projectId point history) fun found hfound => ?_
  obtain ⟨t, ht⟩ := timestamp_instant htime
  simp only [memoryHistory, bind_ok] at hhist
  obtain ⟨_, -, _, -, hhist⟩ := hhist
  have hlen := collectMatches_length (history_pairwise h hpoint ht (mapM_ok.mp hhist)) hfound
  rw [require, if_pos hlen]
  exact Avoids.pure

theorem memoryAt_ok (h : Sound db) {at' : String}
    {found : Option (MemoryRecord F)} (hat : memoryAt db memoryId projectId at' = .ok found) :
    ∃ t, instantOf F at' = some t ∧
      (∀ r ∈ found, ∃ row ∈ db.revisions memoryId projectId, memoryFromRow row = .ok r) ∧
      ∀ row ∈ db.revisions memoryId projectId, t ∈ validity db row ↔ ∃ r ∈ found, memoryFromRow row = .ok r := by
  simp only [memoryAt, memoryHistory, bind_ok, require_ok, pure_ok] at hat
  obtain ⟨_, -, _, htime, point, hpoint, history, ⟨_, -, _, -, hhist⟩, hits, hhits, _, hlen, rfl⟩ := hat
  obtain ⟨t, ht⟩ := timestamp_instant htime
  have hrows := mapM_ok.mp hhist
  obtain ⟨hsub, hall, hnone⟩ := collectMatches_ok hhits
  refine ⟨t, ht, ?_, ?_⟩
  · intro r hr
    obtain ⟨row, hrow, hread⟩ := forall₂_mem_right hrows (hsub.subset (List.mem_of_mem_head? hr))
    exact ⟨row, mem_history.mp hrow, hread⟩
  · intro row hrow
    have hmem := (mem_revisions.mp hrow).1
    constructor
    · intro hin
      obtain ⟨r, hr, hread⟩ := forall₂_mem_left hrows (mem_history.mpr hrow)
      have hcols := memoryFromRow_ok hread
      -- the loop kept the record, and it kept no other
      have hkept : r ∈ hits := by
        by_contra hnot
        have := (inForce_ok h hpoint ht hmem hcols (hnone r hr hnot)).mpr hin
        cases this
      refine ⟨r, ?_, hread⟩
      cases hits with
      | nil => cases hkept
      | cons r' rest =>
        rw [List.length_cons] at hlen
        have hrest : rest = [] := List.eq_nil_of_length_eq_zero (by omega)
        rw [hrest, List.mem_singleton] at hkept
        rw [hkept]
        rfl
    · intro hex
      obtain ⟨r, hr, hread⟩ := hex
      exact (inForce_ok h hpoint ht hmem (memoryFromRow_ok hread) (hall r (List.mem_of_mem_head? hr))).mp rfl

end MemoryAt

/-- **The harness memory over every run.** The revisions of a memory are one linear supersession chain with
increasing starts; no two are in force at one instant, each until what `effective_valid_until` says, so
`memory_at` finds no overlap and answers with the revision in force, if there is one; and the events a record
stands on are there, in its scope, and trusted when it is trusted, of layer M4 or a procedure. -/
theorem memory_over_runs (calls : List (List String × Call F)) :
    (∀ memoryId projectId, LinearHistory ((runCalls calls).revisions memoryId projectId)) ∧
    (∀ memoryId projectId, ((runCalls calls).revisions memoryId projectId).Pairwise fun a b =>
      Disjoint (validity (runCalls calls) a) (validity (runCalls calls) b)) ∧
    (∀ row ∈ (runCalls calls).memories, ∀ projectId text,
      effectiveValidUntil (runCalls calls) row.revisionId projectId = .ok text → ∀ t,
        t ∈ validity (runCalls calls) row ↔
          (∀ s ∈ row.start, s ≤ t) ∧ ∀ stop ∈ text, ∀ e ∈ instantOf F stop, t < e) ∧
    (∀ memoryId projectId at', memoryAt (runCalls calls) memoryId projectId at' ≠ .error overlap) ∧
    (∀ memoryId projectId at' found, memoryAt (runCalls calls) memoryId projectId at' = .ok found →
      ∃ t, instantOf F at' = some t ∧
        (∀ r ∈ found, ∃ row ∈ (runCalls calls).revisions memoryId projectId, memoryFromRow row = .ok r) ∧
        ∀ row ∈ (runCalls calls).revisions memoryId projectId,
          t ∈ validity (runCalls calls) row ↔ ∃ r ∈ found, memoryFromRow row = .ok r) ∧
    ∀ row ∈ (runCalls calls).memories, Provenance (runCalls calls).events row := by
  have h := runCalls_sound calls
  refine ⟨h.linear, h.disjoint, ?_, ?_, ?_, h.provenance⟩
  · intro row hrow projectId text hend t
    exact effectiveValidUntil_ok h hrow hend t
  · intro memoryId projectId at'
    exact memoryAt_avoids h memoryId projectId at'
  · intro memoryId projectId at' found hat
    exact memoryAt_ok h hat

end ThreeAgent.HarnessMemory
