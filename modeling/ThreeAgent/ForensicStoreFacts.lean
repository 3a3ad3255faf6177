/-
The forensic store when requests interleave. Every row is the JSON text of a
validated record, which reads back as that record, and no row is ever changed
or removed; the primary key makes a custody event that was checked against an
older chain fail, so the chain of a case is always whole. The transition of a
case is checked against the snapshot that was read, which need not be the
last one any more when the new snapshot is inserted.
-/
import ThreeAgent.ForensicStore
import ThreeAgent.Lib.Succession
import ThreeAgent.Lib.Table

namespace ThreeAgent

variable {index : Int}
  {previous head : Option String} {id caseId : String}

namespace SecurityMonitoring

open PyText Outcome PyJson Interleaving

variable {s s' : ForensicStore} {c : ForensicCall} {p phase' p' p₁ : ForensicPhase} {ref : EvidenceReference}
  {row : EvidenceRow} {request : ForensicRequest}

variable {t : ForensicEventTime} {e : EvidenceObject} {events : List CustodyEvent} {fingerprint : String}
  {event : CustodyEvent} {phase p₂ : ForensicPhase}

/-! ## Reading back what was written -/

section Stored
variable {kvs : List (String × Json Unit)} {key : String}

theorem storedField_dict {v : Json Unit} (h : kvs.reverse.lookup key = some v) : storedField (.dict kvs) key = .ok v := by
  simp only [storedField, get?_dict, h, orRaise]

theorem storedText_dict {s : String} (h : kvs.reverse.lookup key = some (.str s)) :
    storedText (.dict kvs) key = .ok s := by
  simp only [storedText, storedField_dict h]
  rfl

theorem storedInt_dict {n : Int} (h : kvs.reverse.lookup key = some (.int n)) :
    storedInt (.dict kvs) key = .ok n := by
  simp only [storedInt, storedField_dict h]
  rfl

theorem storedBool_dict {b : Bool} (h : kvs.reverse.lookup key = some (.bool b)) :
    storedBool (.dict kvs) key = .ok b := by
  simp only [storedBool, storedField_dict h]
  rfl

theorem storedOptional_dict {o : Option String} (h : kvs.reverse.lookup key = some (.ofOption .str o)) :
    storedOptional (.dict kvs) key = .ok o := by
  simp only [storedOptional, storedField_dict h]
  cases o <;> rfl

theorem storedList_dict {xs : List (Json Unit)} {message : String} (h : kvs.reverse.lookup key = some (.arr xs)) :
    storedList (.dict kvs) key message = .ok xs := by
  simp only [storedList, storedField_dict h]
  rfl

theorem mapM_elementText (xs : List String) : (xs.map .str).mapM elementText = .ok xs := by
  induction xs with
  | nil => rfl
  | cons x xs ih =>
    rw [List.map_cons, List.mapM_cons, ih]
    rfl

end Stored

theorem storedJson_canonicalJson {v : Json Unit} (h : Writable v) : storedJson (canonicalJson v) = .ok v := by
  rw [storedJson, orRaise_ok]
  exact h.loads

theorem EvidenceProvenance.writable (p : EvidenceProvenance) : Writable p.payload := by
  refine .dict ?_
  simp only [List.forall_mem_cons, Writable.str, Writable.strs, true_and]
  simp

theorem EvidenceReference.writable (r : EvidenceReference) : Writable r.payload := by
  refine .dict ?_
  simp only [List.forall_mem_cons, Writable.str, true_and]
  simp

theorem writable_optionalText (o : Option String) : Writable (.ofOption .str o : Json Unit) :=
  .ofOption fun s _ => .str s

theorem CaseRecord.writable (c : CaseRecord) : Writable c.payload := by
  have hrefs : Writable (.arr (c.evidenceRefs.map EvidenceReference.payload)) := by
    refine .arr ?_
    intro v hv
    obtain ⟨r, -, rfl⟩ := List.mem_map.mp hv
    exact r.writable
  refine .dict ?_
  simp only [List.forall_mem_cons, Writable.str, Writable.bool, writable_optionalText, hrefs, true_and]
  simp

theorem writable_bounded {n : Int} (h0 : 0 ≤ n) (h : n ≤ maxForensicEvidenceBytes) : Writable (.int n : Json Unit) := by
  refine .int (dumpable_int ?_)
  unfold maxForensicEvidenceBytes at h
  omega

theorem referenceFromDict_payload {r : EvidenceReference} (h : r.validate = .ok r) :
    referenceFromDict r.payload = .ok r := by
  unfold referenceFromDict
  simp only [bind_ok, require_ok, exists_const]
  exact ⟨rfl, _, storedText_dict rfl, _, storedText_dict rfl, _, storedText_dict rfl, _, storedText_dict rfl, h⟩

section RoundTrip

variable [PyTime]

theorem CaseRecord.refs_valid {c : CaseRecord} (h : c.validate = .ok c) :
    ∀ r ∈ c.evidenceRefs, r.validate = .ok r := by
  simp only [validate, bind_ok, require_ok, pure_ok, exists_const] at h
  obtain ⟨_, -, -, _, -, _, -, _, -, _, -, -, _, -, refs, hrefs, -, -, _, -, _, -, -, -, -, heq⟩ := h
  intro r hr
  rw [← heq] at hr
  obtain ⟨r₀, -, hr₀⟩ := forall₂_mem_right (mapM_ok.mp hrefs) ((List.mem_insertionSort _).mp hr)
  exact EvidenceReference.validate_validate hr₀

theorem provenanceFromDict_payload {p : EvidenceProvenance} (h : p.validate = .ok p) :
    provenanceFromDict p.payload = .ok p := by
  unfold provenanceFromDict
  simp only [bind_ok, require_ok, exists_const]
  exact ⟨rfl, _, storedText_dict rfl, _, storedText_dict rfl, _, storedText_dict rfl, _, storedText_dict rfl,
    _, storedText_dict rfl, _, storedText_dict rfl, _, storedList_dict rfl, _, mapM_elementText _,
    _, storedText_dict rfl, h⟩

theorem eventTimeFromDict_payload (h : t.validate = .ok t) :
    eventTimeFromDict t.payload = .ok t := by
  unfold eventTimeFromDict
  simp only [bind_ok, require_ok, exists_const]
  exact ⟨rfl, _, storedText_dict rfl, _, storedText_dict rfl, _, storedText_dict rfl, _, storedInt_dict rfl,
    _, storedText_dict rfl, h⟩

theorem optionalEventTime_mem {o : Option ForensicEventTime} (h : optionalEventTime o = .ok o)
    (ht : t ∈ o) : t.validate = .ok t := by
  cases ht
  change some <$> t.validate = .ok (some t) at h
  cases hv : t.validate with
  | error e =>
    rw [hv] at h
    cases h
  | ok s =>
    rw [hv] at h
    cases h
    rfl

theorem optionalEventTimeFromDict_payload {t : Option ForensicEventTime} (h : optionalEventTime t = .ok t) :
    optionalEventTimeFromDict (.ofOption ForensicEventTime.payload t) = .ok t := by
  cases t with
  | none => rfl
  | some t =>
    show some <$> eventTimeFromDict t.payload = .ok (some t)
    rw [eventTimeFromDict_payload (optionalEventTime_mem h rfl)]
    rfl

theorem ForensicEventTime.writable (h : t.validate = .ok t) : Writable t.payload := by
  have hbound : Writable (.int t.uncertaintyMs : Json Unit) := by
    simp only [validate, bind_ok, require_ok, exists_const] at h
    obtain ⟨_, -, _, -, _, -, _, -, _, -, -, hu, -⟩ := h
    refine writable_bounded hu.1 ?_
    unfold maxForensicEvidenceBytes
    omega
  refine .dict ?_
  simp only [List.forall_mem_cons, Writable.str, hbound, true_and]
  simp

theorem EvidenceObject.parts_valid (h : e.validate = .ok e) :
    e.provenance.validate = .ok e.provenance ∧ optionalEventTime e.eventTime = .ok e.eventTime ∧
      0 ≤ e.byteSize ∧ e.byteSize ≤ maxForensicEvidenceBytes := by
  simp only [validate, bind_ok, require_ok, pure_ok, exists_const] at h
  obtain ⟨_, -, -, _, -, hsize, -, p, hprov, t, htime, _, -, -, -, -, -, -, -, heq⟩ := h
  have hp : p = e.provenance := by rw [← heq]
  have ht : t = e.eventTime := by rw [← heq]
  rw [hp] at hprov
  rw [ht] at htime
  exact ⟨EvidenceProvenance.validate_validate hprov, optionalEventTime_optionalEventTime htime, hsize⟩

theorem EvidenceObject.writable (h : e.validate = .ok e) : Writable e.payload := by
  obtain ⟨-, htime, hlow, hhigh⟩ := parts_valid h
  have hsize : Writable (.int e.byteSize : Json Unit) := writable_bounded hlow hhigh
  have ht : Writable (.ofOption ForensicEventTime.payload e.eventTime) :=
    .ofOption fun t ht => ForensicEventTime.writable (optionalEventTime_mem htime ht)
  refine .dict ?_
  simp only [List.forall_mem_cons, Writable.str, Writable.strs, Writable.bool, e.provenance.writable, hsize, ht, true_and]
  simp

theorem evidenceFromDict_payload (h : e.validate = .ok e) :
    evidenceFromDict e.payload = .ok e := by
  obtain ⟨hprov, htime, -⟩ := EvidenceObject.parts_valid h
  unfold evidenceFromDict
  simp only [bind_ok]
  exact ⟨_, storedField_dict rfl, _, provenanceFromDict_payload hprov, _, storedField_dict rfl, _,
    optionalEventTimeFromDict_payload htime, _, storedList_dict rfl, _, storedText_dict rfl, _, storedText_dict rfl,
    _, storedText_dict rfl, _, storedInt_dict rfl, _, storedText_dict rfl, _, mapM_elementText _,
    _, storedBool_dict rfl, _, storedBool_dict rfl, _, storedBool_dict rfl, _, storedText_dict rfl, h⟩

theorem CustodyEvent.identity_eq {e : CustodyEvent} (h : e.validate = .ok e) : e.identity = .ok e.recordSha256 := by
  simp only [validate, bind_ok, require_ok, pure_ok, exists_const] at h
  obtain ⟨-, _, -, -, -, _, -, _, -, _, -, -, record, hrec, hrecord, heq⟩ := h
  rw [heq, ← hrecord] at hrec
  exact hrec

theorem CustodyEvent.writable {e : CustodyEvent} (h : e.validate = .ok e) : Writable e.payload := by
  obtain ⟨t, hdumps, -⟩ := digestOf_ok.mp (identity_eq h)
  have hindex : Writable (.int e.eventIndex : Json Unit) := by
    refine .int (dumpable_get? (d := .dict e.identityEntries) (k := "event_index") (dumpable_of_dumps hdumps) ?_)
    rw [get?_dict]
    rfl
  refine .dict ?_
  simp only [identityEntries, List.cons_append, List.nil_append, List.forall_mem_cons, Writable.str,
    writable_optionalText, hindex, true_and]
  simp

theorem caseFromDict_payload {c : CaseRecord} (h : c.validate = .ok c) : caseFromDict c.payload = .ok c := by
  have hrefs : (c.evidenceRefs.map EvidenceReference.payload).mapM referenceFromDict = .ok c.evidenceRefs := by
    rw [mapM_ok, List.forall₂_map_left_iff, List.forall₂_same]
    intro r hr
    exact referenceFromDict_payload (CaseRecord.refs_valid h r hr)
  unfold caseFromDict
  simp only [bind_ok]
  exact ⟨_, storedList_dict rfl, _, hrefs, _, storedText_dict rfl, _, storedText_dict rfl, _, storedText_dict rfl,
    _, storedText_dict rfl, _, storedText_dict rfl, _, storedOptional_dict rfl, _, storedOptional_dict rfl,
    _, storedBool_dict rfl, _, storedText_dict rfl, _, storedText_dict rfl, h⟩

theorem custodyFromDict_payload {e : CustodyEvent} (h : e.validate = .ok e) : custodyFromDict e.payload = .ok e := by
  unfold custodyFromDict
  simp only [bind_ok]
  exact ⟨_, storedInt_dict rfl, _, storedText_dict rfl, _, storedText_dict rfl, _, storedText_dict rfl,
    _, storedText_dict rfl, _, storedOptional_dict rfl, _, storedOptional_dict rfl, _, storedText_dict rfl,
    _, storedText_dict rfl, h⟩

theorem EvidenceRow.read_of (h : e.validate = .ok e) (fingerprint : String) :
    (EvidenceRow.of e fingerprint).read = .ok e := by
  simp only [read, bind_ok]
  exact ⟨_, storedJson_canonicalJson (EvidenceObject.writable h), evidenceFromDict_payload h⟩

theorem CaseRow.read_of {c : CaseRecord} (h : c.validate = .ok c) (fingerprint : String) :
    (CaseRow.of c fingerprint).read = .ok c := by
  simp only [read, bind_ok]
  exact ⟨_, storedJson_canonicalJson c.writable, caseFromDict_payload h⟩

theorem CustodyRow.read_of {e : CustodyEvent} (h : e.validate = .ok e) (caseId : String) :
    (CustodyRow.of caseId e).read = .ok e := by
  simp only [read, bind_ok]
  exact ⟨_, storedJson_canonicalJson (CustodyEvent.writable h), custodyFromDict_payload h⟩

end RoundTrip

/-! ## Custody chains -/

section Custody

variable [PyTime]

theorem verifyCustodyFrom_cons {e : CustodyEvent} {es : List CustodyEvent}
    (hvalid : e.validate = .ok e) : verifyCustodyFrom index previous (e :: es) = .ok head ↔
      e.eventIndex = index ∧ e.previousEventSha256 = previous ∧
        verifyCustodyFrom (index + 1) (some e.recordSha256) es = .ok head := by
  simp only [verifyCustodyFrom, bind_ok, require_ok, exists_const, hvalid, Except.ok.injEq, exists_eq_left']

/-- Events that were validated and follow one another from the first index on. -/
structure CustodyChain (events : List CustodyEvent) : Prop where
  valid : ∀ e ∈ events, e.validate = .ok e
  linked : ∃ head, verifyCustodyFrom 1 none events = .ok head

theorem CustodyChain.nil : CustodyChain [] := ⟨by simp, none, rfl⟩

theorem indices_of_verify
    (hvalid : ∀ e ∈ events, e.validate = .ok e) (h : verifyCustodyFrom index previous events = .ok head) :
    events.map CustodyEvent.eventIndex = (List.range events.length).map fun i : Nat => index + i := by
  induction events generalizing index previous with
  | nil => rfl
  | cons e es ih =>
    obtain ⟨hindex, -, hrest⟩ := (verifyCustodyFrom_cons (hvalid e (by simp))).mp h
    rw [List.map_cons, ih (fun e he => hvalid e (by simp [he])) hrest, List.length_cons, List.range_succ_eq_map,
      List.map_cons, List.map_map, hindex]
    refine congrArg₂ _ (by simp) (List.map_congr_left fun i _ => ?_)
    simp only [Function.comp, Nat.cast_succ]
    omega

theorem CustodyChain.indices (h : CustodyChain events) :
    events.map CustodyEvent.eventIndex = (List.range events.length).map fun i : Nat => 1 + (i : Int) := by
  obtain ⟨head, hhead⟩ := h.linked
  exact indices_of_verify h.valid hhead

theorem CustodyChain.verify (h : CustodyChain events) (hne : events ≠ []) :
    ∃ head, verifyCustodyChain events = .ok head := by
  obtain ⟨head, hhead⟩ := h.linked
  refine ⟨head.getD "None", ?_⟩
  simp only [verifyCustodyChain, bind_ok, require_ok, pure_ok, exists_const]
  exact ⟨hne, _, hhead, rfl⟩

theorem CustodyChain.of_verify {head : String} (hvalid : ∀ e ∈ events, e.validate = .ok e)
    (h : verifyCustodyChain events = .ok head) : CustodyChain events := by
  simp only [verifyCustodyChain, bind_ok, require_ok, pure_ok, exists_const] at h
  obtain ⟨-, previous, hprevious, -⟩ := h
  exact ⟨hvalid, previous, hprevious⟩

theorem CustodyChain.pairwise (h : CustodyChain events) (caseId : String) :
    (events.map (CustodyRow.of caseId)).Pairwise fun a b => a.eventIndex ≤ b.eventIndex := by
  have hindices : (events.map CustodyEvent.eventIndex).Pairwise (· ≤ ·) := by
    rw [h.indices, List.pairwise_map]
    refine List.pairwise_lt_range.imp ?_
    intro i j hij
    omega
  rw [List.pairwise_map] at hindices ⊢
  exact hindices

theorem mapM_read (hvalid : ∀ e ∈ events, e.validate = .ok e) (caseId : String) :
    (events.map (CustodyRow.of caseId)).mapM CustodyRow.read = .ok events := by
  rw [mapM_ok, List.forall₂_map_left_iff, List.forall₂_same]
  intro e he
  exact CustodyRow.read_of (hvalid e he) caseId

end Custody

/-! ## The tables -/

/-- The tables only grow. -/
structure Extends (s s' : ForensicStore) : Prop where
  evidence : s.evidence <+: s'.evidence
  snapshots : s.snapshots <+: s'.snapshots
  custody : s.custody <+: s'.custody

theorem Extends.refl (s : ForensicStore) : Extends s s :=
  ⟨List.prefix_rfl, List.prefix_rfl, List.prefix_rfl⟩

theorem Extends.trans {s'' : ForensicStore} (h : Extends s s') (h' : Extends s' s'') : Extends s s'' :=
  ⟨h.evidence.trans h'.evidence, h.snapshots.trans h'.snapshots, h.custody.trans h'.custody⟩

/-- A stored object has this id and this content. -/
def Stored (s : ForensicStore) (ref : EvidenceReference) : Prop :=
  ∃ row ∈ s.evidence, row.evidenceId = ref.evidenceId ∧ row.contentSha256 = ref.contentSha256

theorem Stored.mono (h : Extends s s') (hs : Stored s ref) :
    Stored s' ref := by
  obtain ⟨row, hrow, hmatch⟩ := hs
  exact ⟨row, h.evidence.subset hrow, hmatch⟩

/-- A stored object has this id. -/
def Known (s : ForensicStore) (id : String) : Prop := ∃ row ∈ s.evidence, row.evidenceId = id

theorem Known.mono (h : Extends s s') (hs : Known s id) : Known s' id := by
  obtain ⟨row, hrow, hid⟩ := hs
  exact ⟨row, h.evidence.subset hrow, hid⟩

/-- The custody events of a case, in the order they were inserted. -/
def custodyRows (s : ForensicStore) (caseId : String) : List CustodyRow := s.custody.filter fun r => r.caseId = caseId

theorem custodyRows_extends (h : Extends s s') (caseId : String) :
    custodyRows s caseId <+: custodyRows s' caseId := h.custody.filter _

theorem insertEvidence_ok :
    insertEvidence s e fingerprint = .ok s' ↔ (∀ row ∈ s.evidence, row.evidenceId ≠ e.evidenceId) ∧
      { s with evidence := s.evidence ++ [.of e fingerprint] } = s' := by
  simp only [insertEvidence, bind_ok, require_ok, pure_ok, exists_const]

theorem insertCase_ok {c : CaseRecord} :
    insertCase s c fingerprint = .ok s' ↔
      (∀ row ∈ s.snapshots, ¬ (row.caseId = c.caseId ∧ row.caseFingerprint = fingerprint)) ∧
      { s with snapshots := s.snapshots ++ [.of c fingerprint] } = s' := by
  simp only [insertCase, bind_ok, require_ok, pure_ok, exists_const]

theorem insertCustody_ok :
    insertCustody s caseId event = .ok s' ↔
      (∀ row ∈ s.custody, ¬ (row.caseId = caseId ∧ row.eventIndex = event.eventIndex)) ∧
      (∀ row ∈ s.custody, ¬ (row.caseId = caseId ∧ row.recordSha256 = event.recordSha256)) ∧
      { s with custody := s.custody ++ [.of caseId event] } = s' := by
  simp only [insertCustody, bind_ok, require_ok, pure_ok, exists_const]

section Invariant

variable [PyTime]

/-- What the tables hold: validated records, references to stored objects, and whole custody chains. -/
structure Sound (s : ForensicStore) : Prop where
  distinct : (s.evidence.map EvidenceRow.evidenceId).Nodup
  evidence : ∀ row ∈ s.evidence, ∃ e, EvidenceObject.validate e = .ok e ∧ row = .of e (sha256Fingerprint e.payload)
  snapshots : ∀ row ∈ s.snapshots, ∃ c, CaseRecord.validate c = .ok c ∧ row = .of c (sha256Fingerprint c.payload) ∧
    ∀ ref ∈ c.evidenceRefs, Stored s ref
  custody : ∀ caseId, ∃ events, custodyRows s caseId = events.map (CustodyRow.of caseId) ∧ CustodyChain events ∧
    ∀ e ∈ events, Known s e.evidenceId

theorem Sound.empty : Sound {} :=
  ⟨by simp, by simp, by simp, fun _ => ⟨[], rfl, .nil, by simp⟩⟩

/-- What a request that has come so far has found. -/
def Found (s : ForensicStore) : ForensicPhase → Prop
  | .ready | .done _ => True
  | .insertEvidence e fingerprint => e.validate = .ok e ∧ fingerprint = sha256Fingerprint e.payload
  | .requireEvidence c remaining => c.validate = .ok c ∧ ∀ ref ∈ c.evidenceRefs, ref ∈ remaining ∨ Stored s ref
  | .compareHead c | .findExisting c => c.validate = .ok c ∧ ∀ ref ∈ c.evidenceRefs, Stored s ref
  | .findPrevious c fingerprint | .insertCase c fingerprint _ =>
    c.validate = .ok c ∧ (∀ ref ∈ c.evidenceRefs, Stored s ref) ∧ fingerprint = sha256Fingerprint c.payload
  | .findCase _ event | .findEvidence _ event => event.validate = .ok event
  | .readChain _ event => event.validate = .ok event ∧ Known s event.evidenceId
  | .insertCustody caseId event => Known s event.evidenceId ∧ ∃ existing,
      existing.map (CustodyRow.of caseId) <+: custodyRows s caseId ∧ event.eventIndex = existing.length + 1 ∧
        CustodyChain (existing ++ [event])

theorem Found.mono (h : Extends s s') (hf : Found s phase) :
    Found s' phase := by
  cases phase with
  | ready => trivial
  | done reply => trivial
  | insertEvidence e fingerprint => exact hf
  | requireEvidence c remaining => exact ⟨hf.1, fun ref href => (hf.2 ref href).imp_right (Stored.mono h)⟩
  | compareHead c => exact ⟨hf.1, fun ref href => (hf.2 ref href).mono h⟩
  | findExisting c => exact ⟨hf.1, fun ref href => (hf.2 ref href).mono h⟩
  | findPrevious c fingerprint => exact ⟨hf.1, fun ref href => (hf.2.1 ref href).mono h, hf.2.2⟩
  | insertCase c fingerprint previous => exact ⟨hf.1, fun ref href => (hf.2.1 ref href).mono h, hf.2.2⟩
  | findCase caseId event => exact hf
  | findEvidence caseId event => exact hf
  | readChain caseId event => exact ⟨hf.1, hf.2.mono h⟩
  | insertCustody caseId event =>
    obtain ⟨hknown, existing, hpre, hindex, hchain⟩ := hf
    exact ⟨hknown.mono h, existing, hpre.trans (custodyRows_extends h caseId), hindex, hchain⟩

/-! ### The reads -/

section
variable (h : Sound s)
include h

theorem Sound.getEvidence_row
    (hrow : s.evidenceRow? id = some row) : ∃ e, s.getEvidence id = .ok (some e) ∧ e.contentSha256 = row.contentSha256 := by
  obtain ⟨e, hvalid, heq⟩ := h.evidence row (List.mem_of_find?_eq_some hrow)
  refine ⟨e, ?_, ?_⟩
  · simp only [ForensicStore.getEvidence, hrow, bind_ok, require_ok, pure_ok, exists_const]
    rw [heq]
    exact ⟨e, EvidenceRow.read_of hvalid _, _, EvidenceObject.fingerprint_of_validate hvalid, rfl, rfl⟩
  · rw [heq]
    rfl

theorem Sound.getEvidence (id : String) : ∃ r, s.getEvidence id = .ok r := by
  cases hrow : s.evidenceRow? id with
  | none =>
    refine ⟨none, ?_⟩
    simp only [ForensicStore.getEvidence, hrow]
    rfl
  | some row =>
    obtain ⟨e, he, -⟩ := h.getEvidence_row hrow
    exact ⟨some e, he⟩

theorem Sound.stored
    (he : s.getEvidence id = .ok (some e)) :
    ∃ row ∈ s.evidence, row.evidenceId = id ∧ row.contentSha256 = e.contentSha256 := by
  cases hrow : s.evidenceRow? id with
  | none =>
    simp only [ForensicStore.getEvidence, hrow] at he
    cases he
  | some row =>
    obtain ⟨e', he', hcontent⟩ := h.getEvidence_row hrow
    rw [he] at he'
    cases he'
    exact ⟨row, List.mem_of_find?_eq_some hrow, by simpa using List.find?_some hrow, hcontent.symm⟩

theorem Sound.getLatestCase (caseId : String) : ∃ r, s.getLatestCase caseId = .ok r := by
  cases hrow : s.latestRow? caseId with
  | none =>
    refine ⟨none, ?_⟩
    simp only [ForensicStore.getLatestCase, hrow]
    rfl
  | some row =>
    obtain ⟨c, hvalid, heq, -⟩ := h.snapshots row (List.mem_of_mem_filter (List.mem_of_getLast? hrow))
    refine ⟨some c, ?_⟩
    simp only [ForensicStore.getLatestCase, hrow, bind_ok, require_ok, pure_ok, exists_const]
    rw [heq]
    exact ⟨c, CaseRow.read_of hvalid _, _, CaseRecord.fingerprint_of_validate hvalid, rfl, rfl⟩

theorem Sound.custodyOf (caseId : String) :
    ∃ events, s.custodyOf caseId = events.map (CustodyRow.of caseId) ∧ custodyRows s caseId = s.custodyOf caseId ∧
      CustodyChain events ∧ ∀ e ∈ events, Known s e.evidenceId := by
  obtain ⟨events, hrows, hchain, hknown⟩ := h.custody caseId
  have hsort : s.custodyOf caseId = custodyRows s caseId := by
    refine List.Pairwise.insertionSort_eq ?_
    show (custodyRows s caseId).Pairwise _
    rw [hrows]
    exact hchain.pairwise caseId
  exact ⟨events, hsort.trans hrows, hsort.symm, hchain, hknown⟩

theorem Sound.custodyHead (caseId : String) : ∃ r, s.custodyHead caseId = .ok r := by
  obtain ⟨events, hrows, -, hchain, -⟩ := h.custodyOf caseId
  unfold ForensicStore.custodyHead
  cases events with
  | nil =>
    rw [hrows]
    exact ⟨none, rfl⟩
  | cons e es =>
    obtain ⟨head, hhead⟩ := hchain.verify (by simp)
    refine ⟨some head, ?_⟩
    rw [hrows]
    simp only [List.map_cons, bind_ok]
    refine ⟨_, mapM_read hchain.valid caseId, ?_⟩
    rw [hhead]
    rfl

/-! ### The inserts -/

theorem Sound.grow (hext : Extends s s')
    (hdistinct : (s'.evidence.map EvidenceRow.evidenceId).Nodup)
    (hevidence : ∀ row ∈ s'.evidence, row ∈ s.evidence ∨
      ∃ e, EvidenceObject.validate e = .ok e ∧ row = .of e (sha256Fingerprint e.payload))
    (hsnapshots : ∀ row ∈ s'.snapshots, row ∈ s.snapshots ∨ ∃ c, CaseRecord.validate c = .ok c ∧
      row = .of c (sha256Fingerprint c.payload) ∧ ∀ ref ∈ c.evidenceRefs, Stored s' ref)
    (hcustody : ∀ caseId, custodyRows s' caseId = custodyRows s caseId ∨
      ∃ events, custodyRows s' caseId = events.map (CustodyRow.of caseId) ∧ CustodyChain events ∧
        ∀ e ∈ events, Known s' e.evidenceId) : Sound s' := by
  refine ⟨hdistinct, ?_, ?_, ?_⟩
  · intro row hrow
    exact (hevidence row hrow).elim (h.evidence row) id
  · intro row hrow
    rcases hsnapshots row hrow with hold | hnew
    · obtain ⟨c, hvalid, heq, hrefs⟩ := h.snapshots row hold
      exact ⟨c, hvalid, heq, fun ref href => (hrefs ref href).mono hext⟩
    · exact hnew
  · intro caseId
    rcases hcustody caseId with hsame | hnew
    · obtain ⟨events, hrows, hchain, hknown⟩ := h.custody caseId
      exact ⟨events, hsame.trans hrows, hchain, fun e he => (hknown e he).mono hext⟩
    · exact hnew

theorem insertEvidence_sound (hvalid : e.validate = .ok e)
    (hins : insertEvidence s e (sha256Fingerprint e.payload) = .ok s') : Extends s s' ∧ Sound s' := by
  obtain ⟨hfree, rfl⟩ := insertEvidence_ok.mp hins
  have hext : Extends s { s with evidence := s.evidence ++ [.of e (sha256Fingerprint e.payload)] } :=
    ⟨List.prefix_append _ _, List.prefix_rfl, List.prefix_rfl⟩
  refine ⟨hext, h.grow hext (Table.nodup_snoc h.distinct hfree) ?_ (fun row hrow => .inl hrow) fun _ => .inl rfl⟩
  intro row hrow
  rcases List.mem_append.mp hrow with hold | hnew
  · exact .inl hold
  · exact .inr ⟨e, hvalid, List.mem_singleton.mp hnew⟩

theorem insertCase_sound {c : CaseRecord} (hvalid : c.validate = .ok c)
    (hrefs : ∀ ref ∈ c.evidenceRefs, Stored s ref) (hins : insertCase s c (sha256Fingerprint c.payload) = .ok s') :
    Extends s s' ∧ Sound s' := by
  obtain ⟨-, rfl⟩ := insertCase_ok.mp hins
  have hext : Extends s { s with snapshots := s.snapshots ++ [.of c (sha256Fingerprint c.payload)] } :=
    ⟨List.prefix_rfl, List.prefix_append _ _, List.prefix_rfl⟩
  refine ⟨hext, h.grow hext h.distinct (fun row hrow => .inl hrow) ?_ fun _ => .inl rfl⟩
  intro row hrow
  rcases List.mem_append.mp hrow with hold | hnew
  · exact .inl hold
  · exact .inr ⟨c, hvalid, List.mem_singleton.mp hnew, fun ref href => (hrefs ref href).mono hext⟩

end

/-- The index of an event that is inserted is free, so the chain that it was checked against is still the
whole chain. -/
theorem existing_eq {existing : List CustodyEvent} (hchain : CustodyChain events)
    (caseId : String) (hpre : existing.map (CustodyRow.of caseId) <+: events.map (CustodyRow.of caseId))
    (hindex : event.eventIndex = existing.length + 1) (hfree : event.eventIndex ∉ events.map CustodyEvent.eventIndex) :
    existing.length = events.length := by
  have hle : existing.length ≤ events.length := by simpa using hpre.length_le
  refine Nat.le_antisymm hle (Nat.le_of_not_lt fun hlt => hfree ?_)
  rw [hchain.indices, List.mem_map]
  exact ⟨existing.length, List.mem_range.mpr hlt, by omega⟩

theorem insertCustody_sound (h : Sound s)
    (hfound : Found s (.insertCustody caseId event)) (hins : insertCustody s caseId event = .ok s') :
    Extends s s' ∧ Sound s' := by
  obtain ⟨hkey, -, rfl⟩ := insertCustody_ok.mp hins
  have hext : Extends s { s with custody := s.custody ++ [.of caseId event] } :=
    ⟨List.prefix_rfl, List.prefix_rfl, List.prefix_append _ _⟩
  refine ⟨hext, h.grow hext h.distinct (fun row hrow => .inl hrow) (fun row hrow => .inl hrow) ?_⟩
  intro caseId'
  unfold custodyRows
  rw [List.filter_append]
  by_cases hcase : caseId = caseId'
  · right
    subst hcase
    obtain ⟨hknown, existing, hpre, hindex, hchain⟩ := hfound
    obtain ⟨events, hrows, hwhole, hevents⟩ := h.custody caseId
    have hfree : event.eventIndex ∉ events.map CustodyEvent.eventIndex := by
      intro hmem
      obtain ⟨e, he, heq⟩ := List.mem_map.mp hmem
      have hrow : CustodyRow.of caseId e ∈ custodyRows s caseId := by
        rw [hrows]
        exact List.mem_map_of_mem he
      exact hkey _ (List.mem_of_mem_filter hrow) ⟨rfl, heq⟩
    have heq : existing.map (CustodyRow.of caseId) = custodyRows s caseId := by
      refine hpre.eq_of_length ?_
      rw [hrows, List.length_map, List.length_map]
      exact existing_eq hwhole caseId (hrows ▸ hpre) hindex hfree
    refine ⟨existing ++ [event], ?_, hchain, ?_⟩
    · rw [List.map_append, heq]
      simp [custodyRows, CustodyRow.of]
    · intro e he
      rcases List.mem_append.mp he with hold | hnew
      · -- the row of an event that was there names a stored object
        have hrow : CustodyRow.of caseId e ∈ events.map (CustodyRow.of caseId) := by
          rw [← hrows, ← heq]
          exact List.mem_map_of_mem hold
        obtain ⟨e', he', hsame⟩ := List.mem_map.mp hrow
        have hid : e'.evidenceId = e.evidenceId := congrArg CustodyRow.evidenceId hsame
        exact (hid ▸ hevents e' he').mono hext
      · rw [List.mem_singleton.mp hnew]
        exact hknown.mono hext
  · left
    simp [CustodyRow.of, hcase]

/-! ### One block -/

theorem putEvidenceRead_found {evidence : EvidenceObject}
    (h : putEvidenceRead s evidence = .ok phase) : Found s phase := by
  simp only [putEvidenceRead, bind_ok] at h
  obtain ⟨e, hvalid, fingerprint, hfp, h⟩ := h
  rw [EvidenceObject.fingerprint_of_validate hvalid] at hfp
  cases hrow : s.evidenceRow? e.evidenceId with
  | none =>
    simp only [hrow, pure_ok] at h
    rw [← h]
    refine ⟨EvidenceObject.validate_validate hvalid, ?_⟩
    cases hfp
    rfl
  | some row =>
    simp only [hrow, bind_ok, require_ok, pure_ok, exists_const] at h
    rw [← h.2]
    trivial

theorem requireReference_stored (hs : Sound s)
    (hvalid : ref.validate = .ok ref) (h : requireReference s ref = .ok ()) : Stored s ref := by
  simp only [requireReference, bind_ok, require_ok, orRaise_ok, hvalid, Except.ok.injEq, exists_eq_left'] at h
  obtain ⟨_, hget, e, rfl, hcontent⟩ := h
  obtain ⟨row, hrow, hid, hsame⟩ := hs.stored hget
  exact ⟨row, hrow, hid, hsame.trans hcontent⟩

theorem appendToChain_found (hs : Sound s)
    (hvalid : event.validate = .ok event) (hknown : Known s event.evidenceId)
    (h : appendToChain caseId event (s.custodyOf caseId) = .ok phase) : Found s phase := by
  obtain ⟨events, hrows, hsame, hchain, -⟩ := hs.custodyOf caseId
  simp only [appendToChain, bind_ok] at h
  obtain ⟨existing, hread, h⟩ := h
  rw [hrows, mapM_read hchain.valid] at hread
  cases hread
  split at h
  · simp only [bind_ok, require_ok, pure_ok, exists_const] at h
    obtain ⟨_, -, -, rfl⟩ := h
    trivial
  · simp only [bind_ok, require_ok, pure_ok, exists_const] at h
    obtain ⟨hindex, head, hverify, rfl⟩ := h
    refine ⟨hknown, events, ?_, hindex, .of_verify ?_ hverify⟩
    · rw [hsame, hrows]
    · intro e he
      rcases List.mem_append.mp he with hold | hnew
      · exact hchain.valid e hold
      · rw [List.mem_singleton.mp hnew]
        exact hvalid

theorem forensicBlock_sound (hs : Sound s) (hf : Found s phase) (h : forensicBlock s request phase = .ok (s', phase')) :
    Extends s s' ∧ Sound s' ∧ Found s' phase' := by
  cases phase with
  | ready =>
    cases request with
    | putEvidence evidence =>
      simp only [forensicBlock, bind_ok, pure_ok, Prod.mk.injEq] at h
      obtain ⟨_, hread, rfl, rfl⟩ := h
      exact ⟨.refl s, hs, putEvidenceRead_found hread⟩
    | putCaseSnapshot case =>
      simp only [forensicBlock, bind_ok, pure_ok, Prod.mk.injEq] at h
      obtain ⟨c, hvalid, rfl, rfl⟩ := h
      exact ⟨.refl s, hs, CaseRecord.validate_validate hvalid, fun ref href => .inl href⟩
    | appendCustodyEvent caseId event =>
      simp only [forensicBlock, bind_ok, pure_ok, Prod.mk.injEq] at h
      obtain ⟨e, hvalid, rfl, rfl⟩ := h
      exact ⟨.refl s, hs, CustodyEvent.validate_validate hvalid⟩
  | insertEvidence e fingerprint =>
    simp only [forensicBlock, bind_ok, pure_ok, Prod.mk.injEq] at h
    obtain ⟨_, hins, rfl, rfl⟩ := h
    obtain ⟨hvalid, rfl⟩ := hf
    obtain ⟨hext, hsound⟩ := insertEvidence_sound hs hvalid hins
    exact ⟨hext, hsound, trivial⟩
  | requireEvidence c remaining =>
    cases remaining with
    | nil =>
      simp only [forensicBlock, pure_ok, Prod.mk.injEq] at h
      obtain ⟨rfl, rfl⟩ := h
      exact ⟨.refl s, hs, hf.1, fun ref href => (hf.2 ref href).resolve_left (by simp)⟩
    | cons ref remaining =>
      simp only [forensicBlock, bind_ok, pure_ok, Prod.mk.injEq] at h
      obtain ⟨_, hrequire, rfl, rfl⟩ := h
      refine ⟨.refl s, hs, hf.1, ?_⟩
      intro ref' href'
      rcases hf.2 ref' href' with hmem | hstored
      · rcases List.mem_cons.mp hmem with rfl | hmem
        · exact .inr (requireReference_stored hs (CaseRecord.refs_valid hf.1 ref' href') hrequire)
        · exact .inl hmem
      · exact .inr hstored
  | compareHead c =>
    simp only [forensicBlock, bind_ok, pure_ok, Prod.mk.injEq] at h
    obtain ⟨_, -, rfl, rfl⟩ := h
    exact ⟨.refl s, hs, hf⟩
  | findExisting c =>
    simp only [forensicBlock, bind_ok] at h
    obtain ⟨fingerprint, hfp, h⟩ := h
    rw [CaseRecord.fingerprint_of_validate hf.1] at hfp
    cases hfp
    split at h
    · cases h
      exact ⟨.refl s, hs, trivial⟩
    · cases h
      exact ⟨.refl s, hs, hf.1, hf.2, rfl⟩
  | findPrevious c fingerprint =>
    simp only [forensicBlock, bind_ok, pure_ok, Prod.mk.injEq] at h
    obtain ⟨_, -, rfl, rfl⟩ := h
    exact ⟨.refl s, hs, hf⟩
  | insertCase c fingerprint previous =>
    simp only [forensicBlock, bind_ok, pure_ok, Prod.mk.injEq] at h
    obtain ⟨_, hins, rfl, rfl⟩ := h
    obtain ⟨hvalid, hrefs, rfl⟩ := hf
    obtain ⟨hext, hsound⟩ := insertCase_sound hs hvalid hrefs hins
    exact ⟨hext, hsound, trivial⟩
  | findCase caseId event =>
    simp only [forensicBlock, bind_ok, pure_ok, Prod.mk.injEq] at h
    obtain ⟨_, -, _, -, rfl, rfl⟩ := h
    exact ⟨.refl s, hs, hf⟩
  | findEvidence caseId event =>
    simp only [forensicBlock, bind_ok, pure_ok, orRaise_ok, Prod.mk.injEq] at h
    obtain ⟨_, hget, e, rfl, rfl, rfl⟩ := h
    obtain ⟨row, hrow, hid, -⟩ := hs.stored hget
    exact ⟨.refl s, hs, hf, row, hrow, hid⟩
  | readChain caseId event =>
    simp only [forensicBlock, bind_ok, pure_ok, Prod.mk.injEq] at h
    obtain ⟨_, happend, rfl, rfl⟩ := h
    exact ⟨.refl s, hs, appendToChain_found hs hf.1 hf.2 happend⟩
  | insertCustody caseId event =>
    simp only [forensicBlock, bind_ok, pure_ok, Prod.mk.injEq] at h
    obtain ⟨_, hins, rfl, rfl⟩ := h
    obtain ⟨hext, hsound⟩ := insertCustody_sound hs hf hins
    exact ⟨hext, hsound, trivial⟩
  | done reply =>
    cases h
    exact ⟨.refl s, hs, trivial⟩

theorem forensicAct_sound (hs : Sound s) (hf : Found s c.phase) :
    Extends s (forensicAct s c).1 ∧ Sound (forensicAct s c).1 ∧ Found (forensicAct s c).1 (forensicAct s c).2.phase := by
  unfold forensicAct
  cases hblock : forensicBlock s c.request c.phase with
  | error e => exact ⟨.refl s, hs, trivial⟩
  | ok result =>
    obtain ⟨s', phase'⟩ := result
    exact forensicBlock_sound hs hf hblock

/-! ### Whole runs -/

def emptyWorld : World ForensicStore ForensicCall := ⟨{}, []⟩

/-- What the store promises of its tables: the custody events of a case have the indices 1, 2, ... and
their chain verifies, every custody event and every reference of a case names a stored object with the
content that the reference has, and no read raises. -/
structure Intact (s : ForensicStore) : Prop where
  contiguous : ∀ caseId, (s.custodyOf caseId).map CustodyRow.eventIndex =
    (List.range (s.custodyOf caseId).length).map fun i : Nat => 1 + (i : Int)
  verified : ∀ caseId, s.custodyOf caseId ≠ [] →
    ∃ events head, (s.custodyOf caseId).mapM CustodyRow.read = .ok events ∧ verifyCustodyChain events = .ok head
  custody : ∀ row ∈ s.custody, ∃ event e, row.read = .ok event ∧ s.getEvidence event.evidenceId = .ok (some e)
  references : ∀ row ∈ s.snapshots, ∃ c, row.read = .ok c ∧ ∀ ref ∈ c.evidenceRefs,
    ∃ e, s.getEvidence ref.evidenceId = .ok (some e) ∧ e.contentSha256 = ref.contentSha256
  getEvidence : ∀ id, ∃ r, s.getEvidence id = .ok r
  getLatestCase : ∀ caseId, ∃ r, s.getLatestCase caseId = .ok r
  custodyHead : ∀ caseId, ∃ r, s.custodyHead caseId = .ok r

theorem Sound.getEvidence_of_mem (h : Sound s) (hrow : row ∈ s.evidence) :
    ∃ e, s.getEvidence row.evidenceId = .ok (some e) ∧ e.contentSha256 = row.contentSha256 :=
  h.getEvidence_row (Table.find?_key _ h.distinct hrow)

theorem Sound.intact (h : Sound s) : Intact s where
  contiguous := by
    intro caseId
    obtain ⟨events, hrows, -, hchain, -⟩ := h.custodyOf caseId
    rw [hrows, List.map_map, List.length_map]
    exact hchain.indices
  verified := by
    intro caseId hne
    obtain ⟨events, hrows, -, hchain, -⟩ := h.custodyOf caseId
    rw [hrows] at hne ⊢
    obtain ⟨head, hhead⟩ := hchain.verify (by simpa using hne)
    exact ⟨events, head, mapM_read hchain.valid caseId, hhead⟩
  custody := by
    intro row hrow
    obtain ⟨events, hrows, hchain, hknown⟩ := h.custody row.caseId
    have hmem : row ∈ custodyRows s row.caseId := List.mem_filter.mpr ⟨hrow, by simp⟩
    rw [hrows] at hmem
    obtain ⟨event, hevent, heq⟩ := List.mem_map.mp hmem
    obtain ⟨stored, hstored, hid⟩ := hknown event hevent
    obtain ⟨e, he, -⟩ := h.getEvidence_of_mem hstored
    rw [hid] at he
    exact ⟨event, e, heq ▸ CustodyRow.read_of (hchain.valid event hevent) _, he⟩
  references := by
    intro row hrow
    obtain ⟨c, hvalid, heq, hrefs⟩ := h.snapshots row hrow
    refine ⟨c, heq ▸ CaseRow.read_of hvalid _, ?_⟩
    intro ref href
    obtain ⟨stored, hstored, hid, hcontent⟩ := hrefs ref href
    obtain ⟨e, he, hsame⟩ := h.getEvidence_of_mem hstored
    rw [hid] at he
    exact ⟨e, he, hsame.trans hcontent⟩
  getEvidence := h.getEvidence
  getLatestCase := h.getLatestCase
  custodyHead := h.custodyHead

def SoundWorld : World ForensicStore ForensicCall → Prop :=
  Program.Holds Sound fun s c => Found s c.phase

variable {w : World ForensicStore ForensicCall}

theorem SoundWorld.after (h : SoundWorld w) (e : Event ForensicRequest Unit) :
    SoundWorld (forensicProgram.after w e) := by
  refine Program.Holds.after ?_ ?_ ?_ h e
  · exact fun s request _ => trivial
  · intro _ s c hs hf
    exact (forensicAct_sound hs hf).2
  · intro _ s c c' hs hf hf'
    exact hf'.mono (forensicAct_sound hs hf).1

theorem SoundWorld.run (events : List (Event ForensicRequest Unit)) :
    SoundWorld (forensicProgram.run emptyWorld events) := by
  have hinit : SoundWorld emptyWorld := Program.Holds.init Sound.empty
  exact Program.run_invariant (I := SoundWorld) (fun _ e h => SoundWorld.after h e) hinit events

theorem SoundWorld.extends_after (h : SoundWorld w)
    (e : Event ForensicRequest Unit) : Extends w.shared (forensicProgram.after w e).shared := by
  rcases forensicProgram.after_cases w e with ⟨r, -, hafter⟩ | ⟨i, env, c, -, hget, hafter⟩ | ⟨i, env, -, -, hafter⟩
  · rw [hafter]
    exact .refl _
  · rw [hafter]
    exact (forensicAct_sound h.shared (h.calls c (List.mem_of_getElem? hget))).1
  · rw [hafter]
    exact .refl _

theorem SoundWorld.extends_run (h : SoundWorld w)
    (events : List (Event ForensicRequest Unit)) : Extends w.shared (forensicProgram.run w events).shared := by
  induction events generalizing w with
  | nil => exact .refl _
  | cons e events ih => exact (h.extends_after e).trans (ih (h.after e))

/-- In every interleaving of the requests of several connections the store stays intact, and what a table
holds at some point it holds from then on, row for row. -/
theorem store_intact_over_runs (events later : List (Event ForensicRequest Unit)) :
    Intact (forensicProgram.run emptyWorld events).shared ∧
      (forensicProgram.run emptyWorld events).shared.evidence <+:
        (forensicProgram.run emptyWorld (events ++ later)).shared.evidence ∧
      (forensicProgram.run emptyWorld events).shared.custody <+:
        (forensicProgram.run emptyWorld (events ++ later)).shared.custody := by
  have hsound := SoundWorld.run events
  have hext := hsound.extends_run later
  rw [Program.run_append]
  exact ⟨hsound.shared.intact, hext.evidence, hext.custody⟩

end Invariant

/-! ## The snapshots of a case -/

/-- A later snapshot of a case may follow an earlier one: the same authorization and creation, a status
that is not behind, and all the evidence. -/
structure CaseFollows (previous current : CaseRecord) : Prop where
  authorization : current.authorizationFingerprint = previous.authorizationFingerprint
  createdAt : current.createdAt = previous.createdAt
  status : ∃ a b, CaseStatus.ofText? previous.status = some a ∧ CaseStatus.ofText? current.status = some b ∧
    a.rank ≤ b.rank
  evidence : previous.evidenceRefs.map EvidenceReference.evidenceId ⊆
    current.evidenceRefs.map EvidenceReference.evidenceId

theorem CaseFollows.trans {a b c : CaseRecord} (h : CaseFollows a b) (h' : CaseFollows b c) : CaseFollows a c := by
  obtain ⟨x, y, hx, hy, hxy⟩ := h.status
  obtain ⟨y', z, hy', hz, hyz⟩ := h'.status
  rw [hy] at hy'
  cases hy'
  exact ⟨h'.authorization.trans h.authorization, h'.createdAt.trans h.createdAt, ⟨x, z, hx, hz, hxy.trans hyz⟩,
    List.Subset.trans h.evidence h'.evidence⟩

theorem caseFollows_of_transition {previous current : CaseRecord}
    (h : validateCaseTransition previous current = .ok ()) : CaseFollows previous current := by
  simp only [validateCaseTransition, bind_ok, require_ok, orRaise_ok, exists_const] at h
  obtain ⟨-, hauth, a, ha, hstatus, hrefs, hcreated⟩ := h
  refine ⟨hauth.symm, hcreated, ?_, ?_⟩
  · cases hb : CaseStatus.ofText? current.status with
    | none =>
      rw [hb] at hstatus
      cases hstatus
    | some b =>
      rw [hb] at hstatus
      exact ⟨a, b, ha, rfl, (CaseStatus.allows_iff a b).mp hstatus⟩
  · intro id hid
    obtain ⟨ref, href, rfl⟩ := List.mem_map.mp hid
    exact hrefs ref href

section Snapshots

variable [PyTime]

/-- The rows hold snapshots that may follow one another. -/
def RowFollows (a b : CaseRow) : Prop := ∃ p c, a.read = .ok p ∧ b.read = .ok c ∧ CaseFollows p c

instance : IsTrans CaseRow RowFollows where
  trans := by
    intro a b c hab hbc
    obtain ⟨p, q, hp, hq, hpq⟩ := hab
    obtain ⟨q', r, hq', hr, hqr⟩ := hbc
    rw [hq] at hq'
    cases hq'
    exact ⟨p, r, hp, hr, hpq.trans hqr⟩

/-- Of any two snapshots of a case, the later one may follow the earlier one. -/
def SnapshotsMonotone (s : ForensicStore) : Prop := ∀ caseId, (s.snapshotsOf caseId).Pairwise RowFollows

/-- A call that is about to insert a snapshot still finds the row that it checked the snapshot against. -/
def Current (w : World ForensicStore ForensicCall) (e : Event ForensicRequest Unit) : Prop :=
  ∀ i u c, e = .move i u → w.calls[i]? = some c → ∀ record fingerprint previous,
    c.phase = .insertCase record fingerprint previous → w.shared.latestRow? record.caseId = previous

/-- A snapshot that is about to be inserted was checked against the row that was read. -/
def Checked (phase : ForensicPhase) : Prop :=
  ∀ record fingerprint previous, phase = .insertCase record fingerprint previous →
    record.validate = .ok record ∧ ∀ row ∈ previous, ∃ p, CaseRow.read row = .ok p ∧ CaseFollows p record

theorem checkPrevious_follows {c : CaseRecord} {previous : Option CaseRow} (h : checkPrevious c previous = .ok ()) :
    ∀ row ∈ previous, ∃ p, CaseRow.read row = .ok p ∧ CaseFollows p c := by
  intro row hrow
  cases hrow
  simp only [checkPrevious, bind_ok] at h
  obtain ⟨p, hread, htransition⟩ := h
  exact ⟨p, hread, caseFollows_of_transition htransition⟩

theorem forensicBlock_snapshots
    (hf : Found s phase) (h : forensicBlock s request phase = .ok (s', phase')) :
    (s'.snapshots = s.snapshots ∨ ∃ c fingerprint previous, phase = .insertCase c fingerprint previous ∧
      s'.snapshots = s.snapshots ++ [.of c fingerprint]) ∧ Checked phase' := by
  cases phase with
  | ready =>
    cases request with
    | putEvidence evidence =>
      simp only [forensicBlock, bind_ok, pure_ok, Prod.mk.injEq] at h
      obtain ⟨_, hread, rfl, rfl⟩ := h
      refine ⟨.inl rfl, ?_⟩
      intro record fingerprint previous heq
      rw [heq] at hread
      simp only [putEvidenceRead, bind_ok] at hread
      obtain ⟨e, -, fp, -, hread⟩ := hread
      split at hread
      · cases hread
      · simp only [bind_ok, pure_ok, reduceCtorEq, and_false, exists_false] at hread
    | putCaseSnapshot case =>
      simp only [forensicBlock, bind_ok, pure_ok, Prod.mk.injEq] at h
      obtain ⟨_, -, rfl, rfl⟩ := h
      exact ⟨.inl rfl, by simp [Checked]⟩
    | appendCustodyEvent caseId event =>
      simp only [forensicBlock, bind_ok, pure_ok, Prod.mk.injEq] at h
      obtain ⟨_, -, rfl, rfl⟩ := h
      exact ⟨.inl rfl, by simp [Checked]⟩
  | insertEvidence e fingerprint =>
    simp only [forensicBlock, bind_ok, pure_ok, Prod.mk.injEq] at h
    obtain ⟨_, hins, rfl, rfl⟩ := h
    obtain ⟨-, rfl⟩ := insertEvidence_ok.mp hins
    exact ⟨.inl rfl, by simp [Checked]⟩
  | requireEvidence c remaining =>
    cases remaining with
    | nil =>
      simp only [forensicBlock, pure_ok, Prod.mk.injEq] at h
      obtain ⟨rfl, rfl⟩ := h
      exact ⟨.inl rfl, by simp [Checked]⟩
    | cons ref remaining =>
      simp only [forensicBlock, bind_ok, pure_ok, Prod.mk.injEq] at h
      obtain ⟨_, -, rfl, rfl⟩ := h
      exact ⟨.inl rfl, by simp [Checked]⟩
  | compareHead c =>
    simp only [forensicBlock, bind_ok, pure_ok, Prod.mk.injEq] at h
    obtain ⟨_, -, rfl, rfl⟩ := h
    exact ⟨.inl rfl, by simp [Checked]⟩
  | findExisting c =>
    simp only [forensicBlock, bind_ok] at h
    obtain ⟨fingerprint, -, h⟩ := h
    split at h
    · cases h
      exact ⟨.inl rfl, by simp [Checked]⟩
    · cases h
      exact ⟨.inl rfl, by simp [Checked]⟩
  | findPrevious c fingerprint =>
    simp only [forensicBlock, bind_ok, pure_ok, Prod.mk.injEq] at h
    obtain ⟨_, hcheck, rfl, rfl⟩ := h
    refine ⟨.inl rfl, ?_⟩
    intro record fp previous heq
    cases heq
    exact ⟨hf.1, checkPrevious_follows hcheck⟩
  | insertCase c fingerprint previous =>
    simp only [forensicBlock, bind_ok, pure_ok, Prod.mk.injEq] at h
    obtain ⟨_, hins, rfl, rfl⟩ := h
    obtain ⟨-, rfl⟩ := insertCase_ok.mp hins
    exact ⟨.inr ⟨c, fingerprint, previous, rfl, rfl⟩, by simp [Checked]⟩
  | findCase caseId event =>
    simp only [forensicBlock, bind_ok, pure_ok, Prod.mk.injEq] at h
    obtain ⟨_, -, _, -, rfl, rfl⟩ := h
    exact ⟨.inl rfl, by simp [Checked]⟩
  | findEvidence caseId event =>
    simp only [forensicBlock, bind_ok, pure_ok, Prod.mk.injEq] at h
    obtain ⟨_, -, _, -, rfl, rfl⟩ := h
    exact ⟨.inl rfl, by simp [Checked]⟩
  | readChain caseId event =>
    simp only [forensicBlock, bind_ok, pure_ok, Prod.mk.injEq] at h
    obtain ⟨_, happend, rfl, rfl⟩ := h
    refine ⟨.inl rfl, ?_⟩
    intro record fp previous heq
    rw [heq] at happend
    simp only [appendToChain, bind_ok] at happend
    obtain ⟨existing, -, happend⟩ := happend
    split at happend
    · simp only [bind_ok, pure_ok, reduceCtorEq, and_false, exists_false] at happend
    · simp only [bind_ok, pure_ok, reduceCtorEq, and_false, exists_false] at happend
  | insertCustody caseId event =>
    simp only [forensicBlock, bind_ok, pure_ok, Prod.mk.injEq] at h
    obtain ⟨_, hins, rfl, rfl⟩ := h
    obtain ⟨-, -, rfl⟩ := insertCustody_ok.mp hins
    exact ⟨.inl rfl, by simp [Checked]⟩
  | done reply =>
    cases h
    exact ⟨.inl rfl, by simp [Checked]⟩

theorem SnapshotsMonotone.snoc (h : SnapshotsMonotone s) {c : CaseRecord}
    (hvalid : c.validate = .ok c) (hsnap : s'.snapshots = s.snapshots ++ [.of c fingerprint])
    (hlatest : ∀ row ∈ s.latestRow? c.caseId, ∃ p, CaseRow.read row = .ok p ∧ CaseFollows p c) : SnapshotsMonotone s' := by
  intro caseId
  have hrows : s'.snapshotsOf caseId = s.snapshotsOf caseId ++ [CaseRow.of c fingerprint].filter (·.caseId = caseId) := by
    rw [ForensicStore.snapshotsOf, hsnap, List.filter_append]
    rfl
  rw [hrows]
  by_cases hcase : c.caseId = caseId
  · subst hcase
    have hnew : [CaseRow.of c fingerprint].filter (fun r => r.caseId = c.caseId) = [CaseRow.of c fingerprint] := by
      simp [CaseRow.of]
    rw [hnew, ← List.isChain_iff_pairwise]
    refine Succession.isChain_snoc (List.isChain_iff_pairwise.mpr (h c.caseId)) ?_
    intro row hrow
    obtain ⟨p, hread, hfollows⟩ := hlatest row hrow
    exact ⟨p, c, hread, CaseRow.read_of hvalid _, hfollows⟩
  · have hnone : [CaseRow.of c fingerprint].filter (fun r => r.caseId = caseId) = [] := by
      simp [CaseRow.of, hcase]
    rw [hnone, List.append_nil]
    exact h caseId

/-- The invariant of a run whose inserts are current. -/
structure MonotoneWorld (w : World ForensicStore ForensicCall) : Prop where
  sound : SoundWorld w
  snapshots : SnapshotsMonotone w.shared
  checked : ∀ c ∈ w.calls, Checked c.phase

theorem forensicAct_monotone (hf : Found s c.phase)
    (hmono : SnapshotsMonotone s) (hchecked : Checked c.phase)
    (hcurrent : ∀ record fingerprint previous, c.phase = .insertCase record fingerprint previous →
      s.latestRow? record.caseId = previous) :
    SnapshotsMonotone (forensicAct s c).1 ∧ Checked (forensicAct s c).2.phase := by
  unfold forensicAct
  cases hblock : forensicBlock s c.request c.phase with
  | error e => exact ⟨hmono, by simp [Checked]⟩
  | ok result =>
    obtain ⟨s', phase'⟩ := result
    obtain ⟨hsnap, hphase⟩ := forensicBlock_snapshots hf hblock
    refine ⟨?_, hphase⟩
    rcases hsnap with hsame | ⟨record, fingerprint, previous, heq, hnew⟩
    · intro caseId
      show (s'.snapshotsOf caseId).Pairwise RowFollows
      rw [ForensicStore.snapshotsOf, hsame]
      exact hmono caseId
    · obtain ⟨hvalid, hfollows⟩ := hchecked record fingerprint previous heq
      rw [← hcurrent record fingerprint previous heq] at hfollows
      exact hmono.snoc hvalid hnew hfollows

theorem MonotoneWorld.after {e : Event ForensicRequest Unit}
    (h : MonotoneWorld w) (hcurrent : Current w e) : MonotoneWorld (forensicProgram.after w e) := by
  have hsound := SoundWorld.after h.sound e
  rcases forensicProgram.after_cases w e with ⟨r, -, hafter⟩ | ⟨i, env, c, rfl, hget, hafter⟩ | ⟨i, env, -, -, hafter⟩
  · rw [hafter] at hsound ⊢
    refine ⟨hsound, h.snapshots, ?_⟩
    intro c hc
    rcases List.mem_append.mp hc with hc | hc
    · exact h.checked c hc
    · rw [List.mem_singleton.mp hc]
      intro record fingerprint previous heq
      cases heq
  · rw [hafter] at hsound ⊢
    have hc := List.mem_of_getElem? hget
    obtain ⟨hmono, hphase⟩ := forensicAct_monotone (h.sound.calls c hc) h.snapshots (h.checked c hc)
      (hcurrent i env c rfl hget)
    refine ⟨hsound, hmono, ?_⟩
    intro c' hc'
    rcases List.mem_or_eq_of_mem_set hc' with hc' | rfl
    · exact h.checked c' hc'
    · exact hphase
  · rw [hafter]
    exact h

/-- In every run in which a snapshot is inserted only while the row that it was checked against is still
the last one of its case, every later snapshot of a case may follow every earlier one. -/
theorem snapshots_monotone_over_runs (events : List (Event ForensicRequest Unit))
    (hcurrent : forensicProgram.Each Current emptyWorld events) :
    forensicProgram.Always (fun w => SnapshotsMonotone w.shared) emptyWorld events := by
  have hinit : MonotoneWorld emptyWorld :=
    ⟨Program.Holds.init Sound.empty, fun _ => List.Pairwise.nil, by simp [emptyWorld]⟩
  exact (Program.always_of_each (I := MonotoneWorld) (fun w e h hc => h.after hc) hinit hcurrent).mono
    fun w hw => hw.snapshots

/-! ### Two snapshots of a new case -/

section Race

variable {c₁ c₂ : CaseRecord} {calls : List ForensicCall} {i : Nat}

/-- The call at an index puts a snapshot and has come to a phase. -/
def standing (s : ForensicStore) (calls : List ForensicCall) (i : Nat) (c : CaseRecord) (p : ForensicPhase) :
    World ForensicStore ForensicCall :=
  ⟨s, calls.set i ⟨.putCaseSnapshot c, p⟩⟩

omit [PyTime] in
theorem current_start (w : World ForensicStore ForensicCall) (r : ForensicRequest) : Current w (.start r) := by
  intro i u c heq
  cases heq

omit [PyTime] in
theorem current_standing {c : CaseRecord} (hi : i < calls.length)
    (h : ∀ record fingerprint previous, p = .insertCase record fingerprint previous →
      s.latestRow? record.caseId = previous) : Current (standing s calls i c p) (.move i ()) := by
  intro j u d heq hget
  cases heq
  rw [standing, List.getElem?_set_self hi] at hget
  cases hget
  exact h

theorem standing_after {c : CaseRecord} (hi : i < calls.length)
    (h : forensicBlock s (.putCaseSnapshot c) p = .ok (s', p')) :
    forensicProgram.after (standing s calls i c p) (.move i ()) = standing s' calls i c p' := by
  have hact : forensicAct s ⟨.putCaseSnapshot c, p⟩ = (s', ⟨.putCaseSnapshot c, p'⟩) := by
    simp only [forensicAct, h]
  rw [Program.after_move (List.getElem?_set_self hi)]
  simp only [standing, forensicProgram, hact, List.set_set]

/-- A case without evidence and custody, which validates to itself. -/
structure Plain (c : CaseRecord) : Prop where
  valid : c.validate = .ok c
  refs : c.evidenceRefs = []
  head : c.custodyHeadSha256 = none

/-- No snapshot of the tables has the fingerprint of the case. -/
def New (s : ForensicStore) (c : CaseRecord) : Prop :=
  ∀ row ∈ s.snapshots, row.caseFingerprint ≠ sha256Fingerprint c.payload

theorem Plain.prepare {c : CaseRecord} (h : Plain c) (hnew : New s c)
    (hfollows : checkPrevious c (s.latestRow? c.caseId) = .ok ()) :
    forensicBlock s (.putCaseSnapshot c) .ready = .ok (s, .requireEvidence c []) ∧
      forensicBlock s (.putCaseSnapshot c) (.requireEvidence c []) = .ok (s, .compareHead c) ∧
      forensicBlock s (.putCaseSnapshot c) (.compareHead c) = .ok (s, .findExisting c) ∧
      forensicBlock s (.putCaseSnapshot c) (.findExisting c) = .ok (s, .findPrevious c (sha256Fingerprint c.payload)) ∧
      forensicBlock s (.putCaseSnapshot c) (.findPrevious c (sha256Fingerprint c.payload)) =
        .ok (s, .insertCase c (sha256Fingerprint c.payload) (s.latestRow? c.caseId)) := by
  have hany : (s.snapshots.any fun row =>
      row.caseId = c.caseId && row.caseFingerprint = sha256Fingerprint c.payload) = false := by
    simp only [List.any_eq_false, Bool.and_eq_true, decide_eq_true_eq, not_and]
    exact fun row hrow _ => hnew row hrow
  refine ⟨?_, rfl, ?_, ?_, ?_⟩
  · simp only [forensicBlock, bind_ok, pure_ok]
    exact ⟨c, h.valid, by rw [h.refs]⟩
  · simp only [forensicBlock, compareHead, h.head]
    rfl
  · simp only [forensicBlock, CaseRecord.fingerprint_of_validate h.valid, bind, Except.bind, hany]
    rfl
  · simp only [forensicBlock, hfollows]
    rfl

theorem Plain.reads {c : CaseRecord} (h : Plain c) (hnew : New s c)
    (hfollows : checkPrevious c (s.latestRow? c.caseId) = .ok ()) (calls : List ForensicCall) (hi : i < calls.length) :
    forensicProgram.run (standing s calls i c .ready) (List.replicate 5 (.move i ())) =
        standing s calls i c (.insertCase c (sha256Fingerprint c.payload) (s.latestRow? c.caseId)) ∧
      forensicProgram.Each Current (standing s calls i c .ready) (List.replicate 5 (.move i ())) := by
  obtain ⟨h1, h2, h3, h4, h5⟩ := h.prepare hnew hfollows
  simp only [Program.run, Program.Each, List.replicate, List.foldl_cons, List.foldl_nil, standing_after hi h1,
    standing_after hi h2, standing_after hi h3, standing_after hi h4, standing_after hi h5]
  exact ⟨trivial, current_standing hi (by simp), current_standing hi (by simp), current_standing hi (by simp),
    current_standing hi (by simp), current_standing hi (by simp), trivial⟩

theorem insert_run {c : CaseRecord} (hnew : New s c) (previous : Option CaseRow) (calls : List ForensicCall)
    (hi : i < calls.length) :
    forensicProgram.run (standing s calls i c (.insertCase c (sha256Fingerprint c.payload) previous)) [.move i ()] =
      standing { s with snapshots := s.snapshots ++ [.of c (sha256Fingerprint c.payload)] } calls i c
        (.done (forensicReceipt .putCaseSnapshot c.caseId (sha256Fingerprint c.payload) false)) := by
  have hinsert : insertCase s c (sha256Fingerprint c.payload) =
      .ok { s with snapshots := s.snapshots ++ [.of c (sha256Fingerprint c.payload)] } :=
    insertCase_ok.mpr ⟨fun row hrow hsame => hnew row hrow hsame.2, rfl⟩
  refine standing_after hi ?_
  simp only [forensicBlock, hinsert]
  rfl

/-- The tables with the first snapshot. -/
def oneStored (c₁ : CaseRecord) : ForensicStore := { snapshots := [.of c₁ (sha256Fingerprint c₁.payload)] }

omit [PyTime] in
theorem new_empty (c : CaseRecord) : New {} c := fun _ hrow => by cases hrow

omit [PyTime] in
theorem new_oneStored (hne : sha256Fingerprint c₁.payload ≠ sha256Fingerprint c₂.payload) : New (oneStored c₁) c₂ := by
  intro row hrow
  rw [List.mem_singleton.mp hrow]
  exact hne

/-- The first call at a phase, the second one not begun. -/
def bothCalls (c₁ c₂ : CaseRecord) (p : ForensicPhase) : List ForensicCall :=
  [⟨.putCaseSnapshot c₁, p⟩, ⟨.putCaseSnapshot c₂, .ready⟩]

/-- The two calls are started. -/
def bothStarted (c₁ c₂ : CaseRecord) : List (Event ForensicRequest Unit) :=
  [.start (.putCaseSnapshot c₁), .start (.putCaseSnapshot c₂)]

/-- The second call begins when the first one has come to its end. -/
def twoSnapshots (c₁ c₂ : CaseRecord) : List (Event ForensicRequest Unit) :=
  bothStarted c₁ c₂ ++ List.replicate 5 (.move 0 ()) ++ [.move 0 ()] ++ List.replicate 5 (.move 1 ()) ++ [.move 1 ()]

/-- Both snapshots are stored, and each call inserts after the row that it read, where the second snapshot may follow
the first. -/
theorem twoSnapshots_stored (h₁ : Plain c₁) (h₂ : Plain c₂)
    (hne : sha256Fingerprint c₁.payload ≠ sha256Fingerprint c₂.payload)
    (hfollows : checkPrevious c₂ ((oneStored c₁).latestRow? c₂.caseId) = .ok ()) :
    forensicProgram.Each Current emptyWorld (twoSnapshots c₁ c₂) ∧
      (forensicProgram.run emptyWorld (twoSnapshots c₁ c₂)).shared.snapshots =
        [.of c₁ (sha256Fingerprint c₁.payload), .of c₂ (sha256Fingerprint c₂.payload)] := by
  let done₁ : ForensicPhase := .done (forensicReceipt .putCaseSnapshot c₁.caseId (sha256Fingerprint c₁.payload) false)
  have hstart : forensicProgram.run emptyWorld (bothStarted c₁ c₂) =
      standing {} (bothCalls c₁ c₂ .ready) 0 c₁ .ready := rfl
  obtain ⟨hrun₁, heach₁⟩ := h₁.reads (new_empty c₁) rfl (bothCalls c₁ c₂ .ready) Nat.zero_lt_two
  have hput₁ : forensicProgram.run (standing {} (bothCalls c₁ c₂ .ready) 0 c₁
      (.insertCase c₁ (sha256Fingerprint c₁.payload) (({} : ForensicStore).latestRow? c₁.caseId))) [.move 0 ()] =
      standing (oneStored c₁) (bothCalls c₁ c₂ done₁) 1 c₂ .ready :=
    insert_run (new_empty c₁) _ (bothCalls c₁ c₂ .ready) Nat.zero_lt_two
  obtain ⟨hrun₂, heach₂⟩ := h₂.reads (new_oneStored hne) hfollows (bothCalls c₁ c₂ done₁) Nat.one_lt_two
  constructor
  · simp only [twoSnapshots, Program.each_append, Program.run_append, hstart, hrun₁, hput₁, hrun₂]
    refine ⟨⟨⟨⟨⟨current_start _ _, current_start _ _, trivial⟩, heach₁⟩, ?_⟩, heach₂⟩, ?_⟩
    · refine ⟨current_standing Nat.zero_lt_two ?_, trivial⟩
      rintro _ _ _ ⟨⟩
      rfl
    · refine ⟨current_standing Nat.one_lt_two ?_, trivial⟩
      rintro _ _ _ ⟨⟩
      rfl
  · simp only [twoSnapshots, Program.run_append, hstart, hrun₁, hput₁, hrun₂]
    rw [insert_run (new_oneStored hne) _ (bothCalls c₁ c₂ done₁) Nat.one_lt_two]
    rfl

def firstReads : List (Event ForensicRequest Unit) := List.replicate 5 (.move 0 ())

def secondReads : List (Event ForensicRequest Unit) := List.replicate 5 (.move 1 ())

/-- Both calls read before either of them inserts. -/
def race (c₁ c₂ : CaseRecord) : List (Event ForensicRequest Unit) :=
  [.start (.putCaseSnapshot c₁), .start (.putCaseSnapshot c₂)] ++ firstReads ++ secondReads ++ [.move 0 (), .move 1 ()]

theorem race_snapshots (h₁ : Plain c₁) (h₂ : Plain c₂)
    (hne : sha256Fingerprint c₁.payload ≠ sha256Fingerprint c₂.payload) :
    (forensicProgram.run emptyWorld (race c₁ c₂)).shared.snapshots =
      [.of c₁ (sha256Fingerprint c₁.payload), .of c₂ (sha256Fingerprint c₂.payload)] := by
  let done₁ : ForensicPhase := .done (forensicReceipt .putCaseSnapshot c₁.caseId (sha256Fingerprint c₁.payload) false)
  let insert₁ : ForensicPhase := .insertCase c₁ (sha256Fingerprint c₁.payload) none
  let insert₂ : ForensicPhase := .insertCase c₂ (sha256Fingerprint c₂.payload) none
  have hstart : forensicProgram.run emptyWorld [.start (.putCaseSnapshot c₁), .start (.putCaseSnapshot c₂)] =
      standing {} (bothCalls c₁ c₂ .ready) 0 c₁ .ready := rfl
  have hfirst : forensicProgram.run (standing {} (bothCalls c₁ c₂ .ready) 0 c₁ .ready) firstReads =
      standing {} (bothCalls c₁ c₂ insert₁) 1 c₂ .ready :=
    (h₁.reads (new_empty c₁) rfl (bothCalls c₁ c₂ .ready) Nat.zero_lt_two).1
  have hsecond : forensicProgram.run (standing {} (bothCalls c₁ c₂ insert₁) 1 c₂ .ready) secondReads =
      standing {} [⟨.putCaseSnapshot c₁, insert₁⟩, ⟨.putCaseSnapshot c₂, insert₂⟩] 0 c₁ insert₁ :=
    (h₂.reads (new_empty c₂) rfl (bothCalls c₁ c₂ insert₁) Nat.one_lt_two).1
  have hput₁ : forensicProgram.run (standing {} [⟨.putCaseSnapshot c₁, insert₁⟩, ⟨.putCaseSnapshot c₂, insert₂⟩] 0 c₁
      insert₁) [.move 0 ()] = standing (oneStored c₁) (bothCalls c₁ c₂ done₁) 1 c₂ insert₂ :=
    insert_run (new_empty c₁) none [⟨.putCaseSnapshot c₁, insert₁⟩, ⟨.putCaseSnapshot c₂, insert₂⟩] Nat.zero_lt_two
  have hput₂ := insert_run (new_oneStored hne) none (bothCalls c₁ c₂ done₁) (show 1 < _ from Nat.one_lt_two)
  have hputs : ([.move 0 (), .move 1 ()] : List (Event ForensicRequest Unit)) = [.move 0 ()] ++ [.move 1 ()] := rfl
  rw [race, Program.run_append, Program.run_append, Program.run_append, hstart, hfirst, hsecond, hputs,
    Program.run_append, hput₁, hput₂]
  rfl

end Race

end Snapshots

/-- A case of the samples. -/
def sampleCase (status : CaseStatus) : CaseRecord :=
  { caseId := "case:1", status := status.text, createdAt := "2026-01-01T00:00:00Z", updatedAt := "2026-01-01T00:00:00Z",
    authorizationFingerprint := String.ofList ("sha256:".toList ++ List.replicate 64 'a'), evidenceRefs := [] }

theorem sampleCase_plain (status : CaseStatus) : @Plain sampleTime (sampleCase status) := by
  refine @Plain.mk sampleTime _ ?_ rfl rfl
  have hid : kindIdentifier "case:1" "case_id" "case:" = .ok "case:1" := by
    simp only [kindIdentifier, bind_ok, identifier_ok, require_ok, pure_ok, exists_const]
    exact ⟨"case:1", by decide, by decide, rfl⟩
  have hre : sha256Re (sampleCase status).authorizationFingerprint = true := by
    show sha256Re (String.ofList ("sha256:".toList ++ List.replicate 64 'a')) = true
    decide
  have hparse : ∀ field, @parseTimestamp sampleTime "2026-01-01T00:00:00Z" field = .ok 1767225600000000 := by
    intro field
    rw [@parseTimestamp_ok _ _ sampleTime]
    decide
  simp only [CaseRecord.validate, bind_ok, require_ok, pure_ok, exists_const]
  refine ⟨_, hid, by cases status <;> decide, _, normalizedTimestamp_sample _, _, normalizedTimestamp_sample _,
    _, hparse _, _, hparse _, le_refl _, _, fingerprintText_ok.mpr ⟨?_, ?_⟩, [], rfl, Nat.zero_le _, List.nodup_nil,
    none, rfl, none, rfl, rfl, rfl, rfl, rfl⟩
  · rw [strip_of_sha256Re hre]
    exact hre
  · exact strip_of_sha256Re hre

theorem sampleCase_fingerprints : sha256Fingerprint (sampleCase .closed).payload ≠
    sha256Fingerprint (sampleCase .open).payload :=
  hashText_ne (by decide +kernel)

/-- A case that is open, and closed after that. -/
theorem snapshots_monotone_over_two : (@forensicProgram sampleTime).Always
    (fun w => @SnapshotsMonotone sampleTime w.shared) emptyWorld (twoSnapshots (sampleCase .open) (sampleCase .closed)) ∧
    ((@forensicProgram sampleTime).run emptyWorld (twoSnapshots (sampleCase .open) (sampleCase .closed))).shared.snapshots =
      [.of (sampleCase .open) (sha256Fingerprint (sampleCase .open).payload),
        .of (sampleCase .closed) (sha256Fingerprint (sampleCase .closed).payload)] := by
  have hfollows : @checkPrevious sampleTime (sampleCase .closed)
      ((oneStored (sampleCase .open)).latestRow? (sampleCase .closed).caseId) = .ok () := by
    show @checkPrevious sampleTime _ (some (.of (sampleCase .open) _)) = _
    simp only [checkPrevious, @CaseRow.read_of sampleTime _ (@Plain.valid sampleTime _ (sampleCase_plain .open))]
    decide
  obtain ⟨hcurrent, hstored⟩ := @twoSnapshots_stored sampleTime _ _ (sampleCase_plain .open) (sampleCase_plain .closed)
    sampleCase_fingerprints.symm hfollows
  exact ⟨@snapshots_monotone_over_runs sampleTime _ hcurrent, hstored⟩

/-- A snapshot of a closed case is followed by one of the case open. -/
theorem open_after_closed : ¬ (@forensicProgram sampleTime).Always (fun w => @SnapshotsMonotone sampleTime w.shared)
    emptyWorld (race (sampleCase .closed) (sampleCase .open)) := by
  intro h
  have hrows := @race_snapshots sampleTime _ _ (sampleCase_plain .closed) (sampleCase_plain .open) sampleCase_fingerprints
  have hmono := h.last "case:1"
  rw [ForensicStore.snapshotsOf, hrows, List.filter_cons_of_pos (by rfl), List.filter_cons_of_pos (by rfl)] at hmono
  obtain ⟨p, c, hp, hc, hfollows⟩ := (List.pairwise_cons.mp hmono).1 _ List.mem_cons_self
  rw [@CaseRow.read_of sampleTime _ (@Plain.valid sampleTime _ (sampleCase_plain .closed))] at hp
  rw [@CaseRow.read_of sampleTime _ (@Plain.valid sampleTime _ (sampleCase_plain .open))] at hc
  cases hp
  cases hc
  obtain ⟨a, b, ha, hb, hle⟩ := hfollows.status
  have hclosed : CaseStatus.ofText? (sampleCase .closed).status = some .closed := by decide
  have hopen : CaseStatus.ofText? (sampleCase .open).status = some .open := by decide
  rw [hclosed] at ha
  rw [hopen] at hb
  cases ha
  cases hb
  exact absurd hle (by decide)

end SecurityMonitoring

end ThreeAgent
