/-
The edge queue over whole runs: the byte counter and the bounds, calls that
raise, and the chain of all envelopes ever accepted. The hash links hold
however appends and acknowledgements alternate. The sequence numbers are
compared with a pending envelope only, so after acknowledgements have emptied
the queue they are whatever the next envelope brings.
-/
import ThreeAgent.EdgeAgent
import ThreeAgent.Lib.Succession

namespace ThreeAgent.SecurityMonitoring

open PyText Outcome PyJson Action Succession EdgeQueue EdgeEvidenceItem EdgeEvidenceEnvelope

variable {value fieldName : String} {e e' : EdgeEvidenceEnvelope} {a a' : AuthenticatedEdgeEnvelope}
  {q : EdgeQueue} {key : List UInt8}

/-! ## Validation is idempotent -/

variable {t : String}

theorem edgeFingerprint_ok :
    edgeFingerprint value fieldName = .ok t ↔ sha256Re (lower (strip value)) = true ∧ lower (strip value) = t := by
  simp only [edgeFingerprint, bind_ok, require_ok, pure_ok, exists_const]

theorem edgeFingerprint_of_sha256Re {s : String} (h : sha256Re s = true) :
    edgeFingerprint s fieldName = .ok s := by
  rw [edgeFingerprint_ok, strip_of_sha256Re h, lower_of_sha256Re h]
  exact ⟨h, rfl⟩

theorem edgeFingerprint_idem (h : edgeFingerprint value fieldName = .ok t) : edgeFingerprint t fieldName = .ok t := by
  obtain ⟨hre, rfl⟩ := edgeFingerprint_ok.mp h
  exact edgeFingerprint_of_sha256Re hre

theorem optionalFingerprint_idem {value t : Option String}
    (h : optionalFingerprint value fieldName = .ok t) : optionalFingerprint t fieldName = .ok t := by
  cases value with
  | none =>
    obtain rfl : none = t := by simpa [optionalFingerprint] using h
    rfl
  | some value =>
    simp only [optionalFingerprint] at h
    cases hv : edgeFingerprint value fieldName with
    | error e =>
      rw [hv] at h
      cases h
    | ok s =>
      rw [hv] at h
      cases h
      simp only [optionalFingerprint]
      rw [edgeFingerprint_idem hv]
      rfl

theorem assetRef_ok : assetRef value = .ok t ↔ assetRefRe (strip value) = true ∧ strip value = t := by
  simp only [assetRef, bind_ok, require_ok, pure_ok, exists_const]

theorem assetRef_idem (h : assetRef value = .ok t) : assetRef t = .ok t := by
  obtain ⟨hre, rfl⟩ := assetRef_ok.mp h
  rw [assetRef_ok, strip_strip]
  exact ⟨hre, rfl⟩

theorem boundedInt_ok {value minimum maximum : Int} {u : Unit} :
    boundedInt value fieldName minimum maximum = .ok u ↔ minimum ≤ value ∧ value ≤ maximum := by
  rw [boundedInt, require_ok]

section Validation

variable [PyTime]

/-- What `validate` has checked of an item, and what it gives back. -/
structure EdgeEvidenceItem.Checked (i i' : EdgeEvidenceItem) : Prop where
  range : 0 ≤ i.sequence ∧ i.sequence ≤ 2 ^ 63 - 1
  ref : compact i.evidenceRef "evidence_ref" 256 = .ok i'.evidenceRef
  observed : normalizedTimestamp i.observedAt "observed_at" = .ok i'.observedAt
  sha : edgeFingerprint i.payloadSha256 "payload_sha256" = .ok i'.payloadSha256
  bytes : 1 ≤ i.payloadBytes ∧ i.payloadBytes ≤ 1024 * 1024
  schema : i.schemaVersion = edgeEvidenceItemSchema
  kept : i'.sequence = i.sequence ∧ i'.payloadBytes = i.payloadBytes ∧ i'.schemaVersion = i.schemaVersion

theorem EdgeEvidenceItem.validate_ok {i i' : EdgeEvidenceItem} : i.validate = .ok i' ↔ i.Checked i' := by
  simp only [validate, bind_ok, require_ok, pure_ok, boundedInt_ok, exists_const]
  constructor
  · rintro ⟨hseq, r, hr, o, ho, p, hp, hb, hs, rfl⟩
    exact ⟨hseq, hr, ho, hp, hb, hs, rfl, rfl, rfl⟩
  · intro h
    refine ⟨h.range, _, h.ref, _, h.observed, _, h.sha, h.bytes, h.schema, ?_⟩
    rw [← h.kept.1, ← h.kept.2.1, ← h.kept.2.2]

theorem EdgeEvidenceItem.validate_validate {i i' : EdgeEvidenceItem} (h : i.validate = .ok i') :
    i'.validate = .ok i' := by
  rw [validate_ok] at h ⊢
  obtain ⟨hseq, hbytes, hschema⟩ := h.kept
  exact
    { range := hseq ▸ h.range
      ref := compact_compact h.ref
      observed := normalizedTimestamp_normalizedTimestamp h.observed _
      sha := edgeFingerprint_idem h.sha
      bytes := hbytes ▸ h.bytes
      schema := hschema ▸ h.schema
      kept := ⟨rfl, rfl, rfl⟩ }

namespace EdgeEvidenceEnvelope

/-- What `validate` has checked of an envelope, and what it gives back. -/
structure Checked (e e' : EdgeEvidenceEnvelope) : Prop where
  agent : compact e.agentId "agent_id" 128 = .ok e'.agentId
  asset : SecurityMonitoring.assetRef e.assetRef = .ok e'.assetRef
  request : compact e.requestId "request_id" 128 = .ok e'.requestId
  policy : edgeFingerprint e.policyFingerprint "policy_fingerprint" = .ok e'.policyFingerprint
  config : edgeFingerprint e.configFingerprint "config_fingerprint" = .ok e'.configFingerprint
  created : normalizedTimestamp e.createdAt "created_at" = .ok e'.createdAt
  items : e.items.mapM EdgeEvidenceItem.validate = .ok e'.items
  count : e'.items ≠ [] ∧ e'.items.length ≤ 10000
  ordered : bySequence e'.items = e'.items
  unique : (dedup (e'.items.map EdgeEvidenceItem.sequence)).length = (e'.items.map EdgeEvidenceItem.sequence).length
  contiguous : ∀ p ∈ (e'.items.map EdgeEvidenceItem.sequence).zip (e'.items.map EdgeEvidenceItem.sequence).tail,
    p.2 = p.1 + 1
  previous : optionalFingerprint e.previousEnvelopeFingerprint "previous_envelope_fingerprint" =
    .ok e'.previousEnvelopeFingerprint
  authority : e.authority = "evidence_only"
  schema : e.schemaVersion = edgeEvidenceEnvelopeSchema
  kept : e'.authority = e.authority ∧ e'.schemaVersion = e.schemaVersion

theorem validate_ok : e.validate = .ok e' ↔ e.Checked e' := by
  simp only [validate, bind_ok, require_ok, pure_ok, exists_const]
  constructor
  · rintro ⟨a, ha, s, hs, r, hr, p, hp, c, hc, t, ht, items, hitems, hcount, hord, huniq, hcont, prev, hprev, hauth,
      hschema, rfl⟩
    exact ⟨ha, hs, hr, hp, hc, ht, hitems, hcount, hord, huniq, hcont, hprev, hauth, hschema, rfl, rfl⟩
  · intro h
    refine ⟨_, h.agent, _, h.asset, _, h.request, _, h.policy, _, h.config, _, h.created, _, h.items, h.count,
      h.ordered, h.unique, h.contiguous, _, h.previous, h.authority, h.schema, ?_⟩
    rw [← h.kept.1, ← h.kept.2]

theorem validate_validate (h : e.validate = .ok e') : e'.validate = .ok e' := by
  rw [validate_ok] at h ⊢
  have hitems : e'.items.mapM EdgeEvidenceItem.validate = .ok e'.items := by
    rw [mapM_ok, List.forall₂_same]
    intro i hi
    obtain ⟨i₀, -, hi₀⟩ := forall₂_mem_right (mapM_ok.mp h.items) hi
    exact EdgeEvidenceItem.validate_validate hi₀
  exact
    { agent := compact_compact h.agent
      asset := assetRef_idem h.asset
      request := compact_compact h.request
      policy := edgeFingerprint_idem h.policy
      config := edgeFingerprint_idem h.config
      created := normalizedTimestamp_normalizedTimestamp h.created _
      items := hitems
      count := h.count
      ordered := h.ordered
      unique := h.unique
      contiguous := h.contiguous
      previous := optionalFingerprint_idem h.previous
      authority := h.kept.1 ▸ h.authority
      schema := h.kept.2 ▸ h.schema
      kept := ⟨rfl, rfl⟩ }

theorem sequences_of_validate (h : e.validate = .ok e') :
    e'.items.map sequence = e.items.map sequence := by
  have hall := mapM_ok.mp (validate_ok.mp h).items
  generalize e.items = items at hall
  generalize e'.items = items' at hall
  induction hall with
  | nil => rfl
  | cons hi _ ih => rw [List.map_cons, List.map_cons, ih, (EdgeEvidenceItem.validate_ok.mp hi).kept.1]

end EdgeEvidenceEnvelope

end Validation

/-! ## The properties of a validated envelope -/

namespace EdgeEvidenceEnvelope

/-- The bytes of the items. -/
def bytes (e : EdgeEvidenceEnvelope) : Int := (e.items.map EdgeEvidenceItem.payloadBytes).sum

/-- The sequence number of the first item. -/
def first (e : EdgeEvidenceEnvelope) : Int := ((e.items.map EdgeEvidenceItem.sequence).head?).getD 0

/-- The sequence number of the last item. -/
def last (e : EdgeEvidenceEnvelope) : Int := ((e.items.map EdgeEvidenceItem.sequence).getLast?).getD 0

variable [PyTime]

/-- The envelope is in the form that `validate` gives back. -/
def Valid (e : EdgeEvidenceEnvelope) : Prop := e.validate = .ok e

theorem Valid.payloadBytes (h : e.Valid) : e.payloadBytes = .ok e.bytes := by
  unfold EdgeEvidenceEnvelope.payloadBytes
  rw [h]
  rfl

theorem Valid.firstSequence (h : e.Valid) : e.firstSequence = .ok e.first := by
  unfold EdgeEvidenceEnvelope.firstSequence
  rw [h]
  rfl

theorem Valid.lastSequence (h : e.Valid) : e.lastSequence = .ok e.last := by
  unfold EdgeEvidenceEnvelope.lastSequence
  rw [h]
  rfl

theorem Valid.fingerprint (h : e.Valid) :
    e.fingerprint = .ok (sha256Fingerprint e.payload) := by
  unfold EdgeEvidenceEnvelope.fingerprint
  rw [h]
  rfl

theorem Valid.toJson (h : e.Valid) : e.toJson = .ok (canonicalJson e.payload) := by
  unfold EdgeEvidenceEnvelope.toJson
  rw [h]
  rfl

theorem first_of_validate (h : e.validate = .ok e') : e'.first = e.first := by
  rw [first, sequences_of_validate h, first]

end EdgeEvidenceEnvelope

theorem AuthenticatedEdgeEnvelope.envelope_of_validate [PyTime]
    (h : a.validate = .ok a') : a.envelope.validate = .ok a'.envelope := by
  simp only [validate, bind_ok, require_ok, pure_ok, exists_const] at h
  obtain ⟨e, he, k, -, -, -, rfl⟩ := h
  exact he

/-! ## The two operations -/

namespace EdgeQueue

variable [PyTime]

/-- Every pending envelope is in its validated form. -/
def AllValid (q : EdgeQueue) : Prop := ∀ a ∈ q.items, a.envelope.Valid

/-- The fingerprint that the next envelope must name, in a queue of validated envelopes. -/
def expected (q : EdgeQueue) : Option String :=
  match q.items.getLast? with
  | some last => some (sha256Fingerprint last.envelope.payload)
  | none => q.expectedPreviousFingerprint

theorem expectedPrevious_ok (h : q.AllValid) : q.expectedPrevious = .ok q.expected := by
  unfold expectedPrevious expected
  cases hlast : q.items.getLast? with
  | none => rfl
  | some last =>
    simp only
    rw [(h last (List.mem_of_getLast? hlast)).fingerprint]
    rfl

theorem checkSequence_ok (h : q.AllValid) (ha : a.envelope.Valid)
    (hok : q.checkSequence a = .ok ()) : ∀ last ∈ q.items.getLast?, a.envelope.first = last.envelope.last + 1 := by
  intro last hlast
  unfold checkSequence at hok
  rw [hlast] at hok
  simp only [bind_ok, require_ok] at hok
  obtain ⟨first, hfirst, before, hbefore, heq⟩ := hok
  rw [ha.firstSequence, Except.ok.injEq] at hfirst
  rw [(h last (List.mem_of_getLast? hlast)).lastSequence, Except.ok.injEq] at hbefore
  rw [hfirst, hbefore]
  exact heq

theorem admission_ok (h : q.AllValid)
    (ha : a.envelope.Valid) (hok : q.admission a key = .ok ()) :
    a.envelope.previousEnvelopeFingerprint = q.expected ∧
      (∀ last ∈ q.items.getLast?, a.envelope.first = last.envelope.last + 1) ∧
      (q.items.length : Int) + 1 ≤ q.policy.maxEnvelopes ∧
      q.payloadBytes + a.envelope.bytes ≤ q.policy.maxTotalPayloadBytes := by
  simp only [admission, bind_ok, require_ok, exists_const] at hok
  obtain ⟨_, -, -, expected, hexpected, hprev, _, hseq, hcount, bytes, hbytes, htotal⟩ := hok
  rw [expectedPrevious_ok h, Except.ok.injEq] at hexpected
  rw [ha.payloadBytes, Except.ok.injEq] at hbytes
  refine ⟨?_, checkSequence_ok h ha hseq, hcount, ?_⟩
  · rw [hexpected]
    exact hprev
  · rw [hbytes]
    exact htotal

def appended (q : EdgeQueue) (a : AuthenticatedEdgeEnvelope) : EdgeQueue :=
  { q with items := q.items ++ [a], payloadBytes := q.payloadBytes + a.envelope.bytes }

theorem append_admitted
    (hv : a.validate = .ok a') (hadmission : q.admission a' key = .ok ()) :
    append a key q = (.ok (), q.appended a') := by
  have hvalid : a'.envelope.Valid :=
    validate_validate (AuthenticatedEdgeEnvelope.envelope_of_validate hv)
  unfold append
  rw [Act.lift_bind_run hv, Act.get_bind_run, Act.lift_bind_run hadmission, Act.modify_bind_run,
    Act.lift_bind_run hvalid.payloadBytes]
  rfl

theorem append_cases (q : EdgeQueue) (a : AuthenticatedEdgeEnvelope) (key : List UInt8) :
    (∃ e, append a key q = (.error e, q)) ∨
      ∃ a', a.validate = .ok a' ∧ q.admission a' key = .ok () ∧ append a key q = (.ok (), q.appended a') := by
  cases hv : a.validate with
  | error e =>
    refine .inl ⟨e, ?_⟩
    simp only [append, bind, Act.bind, Act.lift, hv]
  | ok a' =>
    cases hadmission : q.admission a' key with
    | error e =>
      refine .inl ⟨e, ?_⟩
      simp only [append, bind, Act.bind, Act.lift, Act.get, hv, hadmission]
    | ok _ =>
      exact .inr ⟨a', rfl, hadmission, append_admitted hv hadmission⟩

/-- The queue without its first `n` envelopes. -/
def acknowledged (q : EdgeQueue) (n : Nat) : EdgeQueue :=
  { q with items := q.items.drop n,
           payloadBytes := q.payloadBytes - ((q.items.take n).map (·.envelope.bytes)).sum,
           expectedPreviousFingerprint := (q.items.take n).getLast?.map (sha256Fingerprint ·.envelope.payload) }

theorem advance_run {removed : List AuthenticatedEdgeEnvelope} {last : AuthenticatedEdgeEnvelope}
    (hlast : removed.getLast? = some last) (hvalid : last.envelope.Valid) (q : EdgeQueue) :
    advance removed q =
      (.ok (), { q with expectedPreviousFingerprint := some (sha256Fingerprint last.envelope.payload) }) := by
  unfold advance
  rw [hlast]
  show (Act.lift last.envelope.fingerprint >>= fun head =>
    Act.modify fun q : EdgeQueue => { q with expectedPreviousFingerprint := some head }) q = _
  rw [Act.lift_bind_run hvalid.fingerprint]
  rfl

theorem ack_admitted (h : q.AllValid) {count : Int} (hcount : 1 ≤ count ∧ count ≤ 256)
    (hle : count ≤ q.items.length) : ∃ fs, ack count q = (.ok fs, q.acknowledged count.toNat) := by
  have hremoved : ∀ a ∈ q.items.take count.toNat, a.envelope.Valid := fun a ha => h a (List.mem_of_mem_take ha)
  have hbytes : (q.items.take count.toNat).mapM (fun a => a.envelope.payloadBytes) =
      .ok ((q.items.take count.toNat).map (·.envelope.bytes)) := by
    rw [mapM_ok, List.forall₂_map_right_iff, List.forall₂_same]
    intro a ha
    exact (hremoved a ha).payloadBytes
  have hprints : (q.items.take count.toNat).mapM (fun a => a.envelope.fingerprint) =
      .ok ((q.items.take count.toNat).map (sha256Fingerprint ·.envelope.payload)) := by
    rw [mapM_ok, List.forall₂_map_right_iff, List.forall₂_same]
    intro a ha
    exact (hremoved a ha).fingerprint
  have hne : q.items.take count.toNat ≠ [] := by
    apply List.ne_nil_of_length_pos
    rw [List.length_take]
    omega
  obtain ⟨last, hlast⟩ := Option.isSome_iff_exists.mp (List.getLast?_isSome.mpr hne)
  have hint : boundedInt count "count" 1 256 = .ok () := boundedInt_ok.mpr hcount
  have hreq : require (count ≤ q.items.length)
      (contractError "cannot acknowledge more edge envelopes than pending") = .ok () := require_ok.mpr hle
  refine ⟨(q.items.take count.toNat).map (sha256Fingerprint ·.envelope.payload), ?_⟩
  unfold ack
  rw [Act.lift_bind_run hint, Act.get_bind_run, Act.lift_bind_run hreq, Act.modify_bind_run,
    Act.lift_bind_run hbytes, Act.modify_bind_run,
    Act.bind_run (advance_run hlast (hremoved last (List.mem_of_getLast? hlast)) _), acknowledged, hlast, hprints]
  rfl

theorem ack_cases (h : q.AllValid) (count : Int) :
    (∃ e, ack count q = (.error e, q)) ∨
      (1 ≤ count.toNat ∧ count.toNat ≤ q.items.length ∧
        ∃ fs, ack count q = (.ok fs, q.acknowledged count.toNat)) := by
  cases hint : boundedInt count "count" 1 256 with
  | error e =>
    refine .inl ⟨e, ?_⟩
    simp only [ack, bind, Act.bind, Act.lift, hint]
  | ok _ =>
    have hcount := boundedInt_ok.mp hint
    by_cases hle : count ≤ q.items.length
    · exact .inr ⟨by omega, by omega, ack_admitted h hcount hle⟩
    · have hreq : (require (count ≤ q.items.length)
          (contractError "cannot acknowledge more edge envelopes than pending") : Except Raised Unit) =
          .error (contractError "cannot acknowledge more edge envelopes than pending") := require_error.mpr ⟨hle, rfl⟩
      refine .inl ⟨contractError "cannot acknowledge more edge envelopes than pending", ?_⟩
      simp only [ack, bind, Act.bind, Act.lift, Act.get, hint, hreq]

end EdgeQueue

/-! ## Runs -/

/-- A call of the queue's interface. -/
inductive EdgeCall where
  | append (a : AuthenticatedEdgeEnvelope) (key : List UInt8)
  | ack (count : Int)

/-- The queue, and every envelope it has accepted so far, acknowledged or not. -/
structure EdgeTrace where
  queue : EdgeQueue
  accepted : List EdgeEvidenceEnvelope := []

variable {t : EdgeTrace}

section Runs

variable [PyTime]

/-- Whether a call raised, and the queue after it. -/
def outcome {α : Type} : Except Raised α × EdgeQueue → Option Raised × EdgeQueue
  | (.ok _, q) => (none, q)
  | (.error e, q) => (some e, q)

def EdgeCall.run (c : EdgeCall) (q : EdgeQueue) : Option Raised × EdgeQueue :=
  match c with
  | .append a key => outcome (q.append a key)
  | .ack count => outcome (q.ack count)

namespace EdgeTrace

/-- The trace after an `append`: one that returned has accepted the envelope it put at the end. -/
def offered (t : EdgeTrace) : Except Raised Unit × EdgeQueue → EdgeTrace
  | (.ok _, q) => ⟨q, t.accepted ++ (q.items.getLast?.map (·.envelope)).toList⟩
  | (.error _, q) => ⟨q, t.accepted⟩

def after (t : EdgeTrace) (c : EdgeCall) : EdgeTrace :=
  match c with
  | .append a key => t.offered (t.queue.append a key)
  | .ack count => ⟨(t.queue.ack count).2, t.accepted⟩

def run (t : EdgeTrace) (calls : List EdgeCall) : EdgeTrace := calls.foldl after t

/-- `b` names the fingerprint of `a` as its predecessor's. -/
def Linked (a b : EdgeEvidenceEnvelope) : Prop :=
  ∃ f, a.fingerprint = .ok f ∧ b.previousEnvelopeFingerprint = some f

/-- The items of `b` are numbered on from those of `a`. -/
def Continues (a b : EdgeEvidenceEnvelope) : Prop :=
  ∃ l f, a.lastSequence = .ok l ∧ b.firstSequence = .ok f ∧ f = l + 1

/-- An envelope offered to a queue that acknowledgements have emptied is numbered on from the last one
that was acknowledged. -/
def Resumes (t : EdgeTrace) (c : EdgeCall) : Prop :=
  match c with
  | .append a _ => t.queue.items = [] → ∀ last ∈ t.accepted.getLast?, a.envelope.first = last.last + 1
  | .ack _ => True

/-- Every call of the run meets that condition in the state it is made in. -/
def Steady : EdgeTrace → List EdgeCall → Prop
  | _, [] => True
  | t, c :: cs => t.Resumes c ∧ Steady (t.after c) cs

/-- What holds of the queue and the envelopes it has accepted. -/
structure Inv (t : EdgeTrace) : Prop where
  valid : ∀ e ∈ t.accepted, e.Valid
  bytes : t.queue.payloadBytes = (t.queue.items.map (·.envelope.bytes)).sum
  count : (t.queue.items.length : Int) ≤ t.queue.policy.maxEnvelopes
  total : t.queue.payloadBytes ≤ t.queue.policy.maxTotalPayloadBytes
  split : ∃ acked, t.accepted = acked ++ t.queue.items.map (·.envelope) ∧
    ∀ last ∈ acked.getLast?, t.queue.expectedPreviousFingerprint = some (sha256Fingerprint last.payload)
  linked : t.accepted.IsChain Linked

theorem Inv.allValid (h : t.Inv) : t.queue.AllValid := by
  intro a ha
  obtain ⟨acked, hsplit, -⟩ := h.split
  apply h.valid
  rw [hsplit]
  exact List.mem_append_right _ (List.mem_map_of_mem ha)

theorem Inv.expected (h : t.Inv) :
    ∀ last ∈ t.accepted.getLast?, t.queue.expected = some (sha256Fingerprint last.payload) := by
  intro last hlast
  obtain ⟨acked, hsplit, hacked⟩ := h.split
  rw [hsplit, List.getLast?_append, List.getLast?_map] at hlast
  unfold EdgeQueue.expected
  cases hitems : t.queue.items.getLast? with
  | none =>
    rw [hitems] at hlast
    exact hacked last hlast
  | some a =>
    rw [hitems] at hlast
    cases hlast
    rfl

theorem after_append
    (h : t.queue.append a key = (.ok (), t.queue.appended a')) :
    t.after (.append a key) = ⟨t.queue.appended a', t.accepted ++ [a'.envelope]⟩ := by
  have hafter : t.after (.append a key) = t.offered (t.queue.append a key) := rfl
  rw [hafter, h]
  simp only [offered, appended, List.getLast?_concat, Option.map_some, Option.toList_some]

theorem after_ack {count : Int} {fs : List String} {n : Nat}
    (h : t.queue.ack count = (.ok fs, t.queue.acknowledged n)) :
    t.after (.ack count) = ⟨t.queue.acknowledged n, t.accepted⟩ := by
  have hafter : t.after (.ack count) = ⟨(t.queue.ack count).2, t.accepted⟩ := rfl
  rw [hafter, h]

section

variable (h : t.Inv)
include h

theorem after_cases (c : EdgeCall) :
    (t.after c = t ∧ ∃ e, c.run t.queue = (some e, t.queue)) ∨
      (∃ a key a', c = .append a key ∧ a.validate = .ok a' ∧ t.queue.admission a' key = .ok () ∧
        c.run t.queue = (none, t.queue.appended a') ∧
        t.after c = ⟨t.queue.appended a', t.accepted ++ [a'.envelope]⟩) ∨
      (∃ n, 1 ≤ n ∧ n ≤ t.queue.items.length ∧ c.run t.queue = (none, t.queue.acknowledged n) ∧
        t.after c = ⟨t.queue.acknowledged n, t.accepted⟩) := by
  cases c with
  | append a key =>
    have hafter : t.after (.append a key) = t.offered (t.queue.append a key) := rfl
    have hrun : EdgeCall.run (.append a key) t.queue = outcome (t.queue.append a key) := rfl
    rcases append_cases t.queue a key with ⟨e, he⟩ | ⟨a', hv, hadmission, hok⟩
    · rw [hafter, hrun, he]
      exact .inl ⟨rfl, e, rfl⟩
    · rw [after_append hok, hrun, hok]
      exact .inr (.inl ⟨a, key, a', rfl, hv, hadmission, rfl, rfl⟩)
  | ack count =>
    have hafter : t.after (.ack count) = ⟨(t.queue.ack count).2, t.accepted⟩ := rfl
    have hrun : EdgeCall.run (.ack count) t.queue = outcome (t.queue.ack count) := rfl
    rcases ack_cases h.allValid count with ⟨e, he⟩ | ⟨hpos, hle, fs, hok⟩
    · rw [hafter, hrun, he]
      exact .inl ⟨rfl, e, rfl⟩
    · rw [after_ack hok, hrun, hok]
      exact .inr (.inr ⟨count.toNat, hpos, hle, rfl, rfl⟩)

theorem run_error {c : EdgeCall} {e : Raised}
    (hrun : c.run t.queue = (some e, q)) : q = t.queue := by
  rcases after_cases h c with ⟨-, e', he⟩ | ⟨a, key, a', -, -, -, hok, -⟩ | ⟨n, -, -, hok, -⟩
  · rw [he] at hrun
    exact (congrArg Prod.snd hrun).symm
  · rw [hok] at hrun
    cases hrun
  · rw [hok] at hrun
    cases hrun

theorem inv_appended (ha : a'.envelope.Valid) (hadmission : t.queue.admission a' key = .ok ()) :
    Inv ⟨t.queue.appended a', t.accepted ++ [a'.envelope]⟩ := by
  obtain ⟨hprev, -, hcount, htotal⟩ := admission_ok h.allValid ha hadmission
  obtain ⟨acked, hsplit, hacked⟩ := h.split
  refine ⟨?_, ?_, ?_, htotal, ⟨acked, ?_, hacked⟩, ?_⟩
  · intro e he
    rcases List.mem_append.mp he with he | he
    · exact h.valid e he
    · obtain rfl : e = a'.envelope := by simpa using he
      exact ha
  · simp only [appended, List.map_append, List.map_singleton, List.sum_append, List.sum_singleton, h.bytes]
  · simpa [appended] using hcount
  · simp only [appended, List.map_append, List.map_singleton, hsplit, List.append_assoc]
  · refine isChain_snoc h.linked ?_
    intro last hlast
    refine ⟨_, (h.valid last (List.mem_of_getLast? hlast)).fingerprint, ?_⟩
    rw [hprev]
    exact h.expected last hlast

theorem inv_acknowledged {n : Nat} (hpos : 1 ≤ n) (hle : n ≤ t.queue.items.length) :
    Inv ⟨t.queue.acknowledged n, t.accepted⟩ := by
  obtain ⟨acked, hsplit, -⟩ := h.split
  have htake := List.take_append_drop n t.queue.items
  have hsum : t.queue.payloadBytes = ((t.queue.items.take n).map (·.envelope.bytes)).sum +
      ((t.queue.items.drop n).map (·.envelope.bytes)).sum := by
    rw [h.bytes, ← List.sum_append, ← List.map_append, htake]
  have hnonneg : 0 ≤ ((t.queue.items.take n).map (·.envelope.bytes)).sum := by
    apply List.sum_nonneg
    intro b hb
    obtain ⟨a, ha, rfl⟩ := List.mem_map.mp hb
    have hvalid := validate_ok.mp (h.allValid a (List.mem_of_mem_take ha))
    apply List.sum_nonneg
    intro b hb
    obtain ⟨i, hi, rfl⟩ := List.mem_map.mp hb
    obtain ⟨i₀, -, hi₀⟩ := forall₂_mem_right (mapM_ok.mp hvalid.items) hi
    have hchecked := validate_ok.mp hi₀
    rw [hchecked.kept.2.1]
    have := hchecked.bytes.1
    omega
  refine ⟨h.valid, ?_, ?_, ?_, ⟨acked ++ (t.queue.items.take n).map (·.envelope), ?_, ?_⟩, h.linked⟩
  · simp only [acknowledged]
    omega
  · have hcount := h.count
    simp only [acknowledged, List.length_drop]
    omega
  · have htotal := h.total
    simp only [acknowledged]
    omega
  · simp only [acknowledged]
    rw [hsplit, List.append_assoc, ← List.map_append, htake]
  · intro last hlast
    have hne : t.queue.items.take n ≠ [] := by
      apply List.ne_nil_of_length_pos
      rw [List.length_take]
      omega
    obtain ⟨a, ha⟩ := Option.isSome_iff_exists.mp (List.getLast?_isSome.mpr hne)
    rw [List.getLast?_append, List.getLast?_map, ha] at hlast
    cases hlast
    simp only [acknowledged, ha, Option.map_some]

theorem Inv.after (c : EdgeCall) : (t.after c).Inv := by
  rcases after_cases h c with ⟨hsame, -⟩ | ⟨a, key, a', -, hv, hadmission, -, hafter⟩ | ⟨n, hpos, hle, -, hafter⟩
  · rw [hsame]
    exact h
  · rw [hafter]
    exact inv_appended h
      (validate_validate (AuthenticatedEdgeEnvelope.envelope_of_validate hv)) hadmission
  · rw [hafter]
    exact inv_acknowledged h hpos hle

theorem Inv.run (calls : List EdgeCall) : (t.run calls).Inv := by
  induction calls generalizing t with
  | nil => exact h
  | cons c calls ih => exact ih (h.after c)

theorem continues_after (hcont : t.accepted.IsChain Continues) {c : EdgeCall}
    (hc : t.Resumes c) : (t.after c).accepted.IsChain Continues := by
  rcases after_cases h c with ⟨hsame, -⟩ | ⟨a, key, a', rfl, hv, hadmission, -, hafter⟩ | ⟨n, -, -, -, hafter⟩
  · rw [hsame]
    exact hcont
  · have henv := AuthenticatedEdgeEnvelope.envelope_of_validate hv
    have hvalid : a'.envelope.Valid := validate_validate henv
    obtain ⟨-, hseq, -, -⟩ := admission_ok h.allValid hvalid hadmission
    rw [hafter]
    refine isChain_snoc hcont ?_
    intro last hlast
    refine ⟨_, _, (h.valid last (List.mem_of_getLast? hlast)).lastSequence, hvalid.firstSequence, ?_⟩
    obtain ⟨acked, hsplit, -⟩ := h.split
    cases hitems : t.queue.items.getLast? with
    | none =>
      -- the queue is empty: only the condition on the call says how the numbering goes on
      rw [first_of_validate henv]
      exact hc (List.getLast?_eq_none_iff.mp hitems) last hlast
    | some pending =>
      rw [hsplit, List.getLast?_append, List.getLast?_map, hitems] at hlast
      cases hlast
      exact hseq pending hitems
  · rw [hafter]
    exact hcont

theorem continues_run (hcont : t.accepted.IsChain Continues) :
    ∀ {calls : List EdgeCall}, t.Steady calls → (t.run calls).accepted.IsChain Continues := by
  intro calls
  induction calls generalizing t with
  | nil => exact fun _ => hcont
  | cons c calls ih => exact fun hs => ih (h.after c) (continues_after h hcont hs.1) hs.2

end

theorem inv_init {descriptor : EdgeAgentDescriptor} {policy : EdgeQueuePolicy} {expected : Option String}
    (h : init descriptor policy expected = .ok q) : Inv ⟨q, []⟩ := by
  simp only [init, bind_ok, pure_ok] at h
  obtain ⟨d, -, _, hpolicy, f, -, rfl⟩ := h
  simp only [EdgeQueuePolicy.validate, bind_ok, boundedInt_ok, exists_const] at hpolicy
  refine ⟨by simp, rfl, ?_, ?_, ⟨[], rfl, by simp⟩, .nil⟩
  · show (0 : Int) ≤ policy.maxEnvelopes
    omega
  · show (0 : Int) ≤ policy.maxTotalPayloadBytes
    omega

/-- Over every run of a queue: the byte counter is the sum over the pending envelopes, both bounds hold,
a call that raises changes nothing, and all envelopes ever accepted form one hash chain; and if every
envelope offered to an emptied queue resumes the numbering, their items are numbered without a gap. -/
theorem queue_over_runs {descriptor : EdgeAgentDescriptor} {policy : EdgeQueuePolicy} {expected : Option String}
    {q : EdgeQueue} (h : EdgeQueue.init descriptor policy expected = .ok q) (calls : List EdgeCall) :
    let t := run ⟨q, []⟩ calls
    (∃ sizes, t.queue.items.mapM (fun a => a.envelope.payloadBytes) = .ok sizes ∧ t.queue.payloadBytes = sizes.sum) ∧
      (t.queue.items.length : Int) ≤ t.queue.policy.maxEnvelopes ∧
      t.queue.payloadBytes ≤ t.queue.policy.maxTotalPayloadBytes ∧
      (∀ (c : EdgeCall) e q', c.run t.queue = (some e, q') → q' = t.queue) ∧
      t.accepted.IsChain Linked ∧ (Steady ⟨q, []⟩ calls → t.accepted.IsChain Continues) := by
  have hinv := (inv_init h).run calls
  refine ⟨⟨_, ?_, hinv.bytes⟩, hinv.count, hinv.total, fun c e q' => run_error hinv, hinv.linked, ?_⟩
  · rw [mapM_ok, List.forall₂_map_right_iff, List.forall₂_same]
    intro a ha
    exact (hinv.allValid a ha).payloadBytes
  · exact continues_run (inv_init h) .nil

end EdgeTrace

/-! ### A run that leaves a gap -/

/-- The envelope with its tag, as `seal_edge_envelope` makes it of a validated one. -/
def sealedWith (e : EdgeEvidenceEnvelope) (authKeyId : String) (key : List UInt8) : AuthenticatedEdgeEnvelope :=
  { envelope := e, authKeyId := authKeyId,
    authTag := "hmac-sha256:" ++ Hmac.hexdigest key (canonicalJson e.payload) }

omit [PyTime] in
theorem hmac_tag (key : List UInt8) (text : String) :
    lower (strip ("hmac-sha256:" ++ Hmac.hexdigest key text)) = "hmac-sha256:" ++ Hmac.hexdigest key text ∧
      hmacRe ("hmac-sha256:" ++ Hmac.hexdigest key text) = true := by
  have hlist : ("hmac-sha256:" ++ Hmac.hexdigest key text).toList =
      "hmac-sha256:".toList ++ (Hmac.hexdigest key text).toList := String.toList_append
  have hdrop : ("hmac-sha256:" ++ Hmac.hexdigest key text).toList.drop 12 = (Hmac.hexdigest key text).toList := by
    rw [hlist]
    rfl
  have hrange : ∀ c ∈ ("hmac-sha256:" ++ Hmac.hexdigest key text).toList,
      (45 ≤ c.toNat ∧ c.toNat ≤ 58) ∨ (97 ≤ c.toNat ∧ c.toNat ≤ 122) := by
    intro c hc
    rw [hlist, List.mem_append] at hc
    rcases hc with hc | hc
    · exact (forall_mem_of_all (by decide) : ∀ c ∈ "hmac-sha256:".toList,
        (45 ≤ c.toNat ∧ c.toNat ≤ 58) ∨ (97 ≤ c.toNat ∧ c.toNat ≤ 122)) c hc
    · have hdigit := Hmac.hexdigest_isHexDigit key text c hc
      simp only [Sha256.isHexDigit, Bool.or_eq_true, Bool.and_eq_true, decide_eq_true_eq] at hdigit
      rcases hdigit with ⟨hlo, hhi⟩ | ⟨hlo, hhi⟩
      · have hlo' : 48 ≤ c.toNat := hlo
        have hhi' : c.toNat ≤ 57 := hhi
        omega
      · have hlo' : 97 ≤ c.toNat := hlo
        have hhi' : c.toNat ≤ 102 := hhi
        omega
  constructor
  · rw [strip_eq_self, lower_eq_self]
    · intro c hc
      have := hrange c hc
      omega
    · intro c hc
      apply isSpace_of_range
      have := hrange c hc
      omega
  · simp only [hmacRe, Bool.and_eq_true, decide_eq_true_eq, List.all_eq_true, hdrop]
    refine ⟨⟨?_, Hmac.hexdigest_length key text⟩, Hmac.hexdigest_isHexDigit key text⟩
    rw [startsWith_iff, hlist]
    exact List.prefix_append _ _

theorem append_sealed {d : EdgeAgentDescriptor} (hqd : q.descriptor = d) (hd : d.validate = .ok d)
    (hq : q.AllValid) (he : e.Valid)
    (hids : e.agentId = d.agentId ∧ e.assetRef = d.assetRef ∧ e.policyFingerprint = d.policyFingerprint ∧
      e.configFingerprint = d.configFingerprint)
    (hkeyId : compact d.authKeyId "auth_key_id" 128 = .ok d.authKeyId)
    (hkey : 32 ≤ key.length ∧ key.length ≤ 128) (hprev : e.previousEnvelopeFingerprint = q.expected)
    (hseq : ∀ last ∈ q.items.getLast?, e.first = last.envelope.last + 1)
    (hcount : (q.items.length : Int) + 1 ≤ q.policy.maxEnvelopes)
    (htotal : q.payloadBytes + e.bytes ≤ q.policy.maxTotalPayloadBytes) :
    q.append (sealedWith e d.authKeyId key) key = (.ok (), q.appended (sealedWith e d.authKeyId key)) := by
  subst hqd
  obtain ⟨htag, hre⟩ := hmac_tag key (canonicalJson e.payload)
  have hsealed : (sealedWith e q.descriptor.authKeyId key).validate =
      .ok (sealedWith e q.descriptor.authKeyId key) := by
    simp only [AuthenticatedEdgeEnvelope.validate, bind_ok, require_ok, pure_ok, exists_const, sealedWith, htag]
    exact ⟨e, he, _, hkeyId, hre, trivial, rfl⟩
  have hverify : verifyEdgeEnvelope (sealedWith e q.descriptor.authKeyId key) q.descriptor key = .ok true := by
    simp only [verifyEdgeEnvelope, bind_ok]
    refine ⟨_, hsealed, _, hd, (), require_ok.mpr hkey, ?_⟩
    simp only [sealedWith, hids.1, hids.2.1, hids.2.2.1, hids.2.2.2, ne_eq, not_true_eq_false, if_false, or_self,
      bind_ok, pure_ok]
    exact ⟨_, he.toJson, by simp⟩
  have hcheck : q.checkSequence (sealedWith e q.descriptor.authKeyId key) = .ok () := by
    unfold checkSequence
    cases hlast : q.items.getLast? with
    | none => rfl
    | some last =>
      simp only [bind_ok, require_ok]
      exact ⟨_, he.firstSequence, _, (hq last (List.mem_of_getLast? hlast)).lastSequence, hseq last hlast⟩
  have hadmission : q.admission (sealedWith e q.descriptor.authKeyId key) key = .ok () := by
    simp only [admission, bind_ok, require_ok, exists_const]
    exact ⟨true, hverify, rfl, _, expectedPrevious_ok hq, hprev, (), hcheck, hcount, _, he.payloadBytes,
      htotal⟩
  exact append_admitted hsealed hadmission

theorem accepted_across_ack {b : AuthenticatedEdgeEnvelope} {fs : List String}
    (ha : q.append a key = (.ok (), q.appended a))
    (hack : (q.appended a).ack 1 = (.ok fs, (q.appended a).acknowledged 1))
    (hb : ((q.appended a).acknowledged 1).append b key = (.ok (), ((q.appended a).acknowledged 1).appended b)) :
    (EdgeTrace.run ⟨q, []⟩ [.append a key, .ack 1, .append b key]).accepted = [a.envelope, b.envelope] ∧
      (b.envelope.first = a.envelope.last + 1 → EdgeTrace.Steady ⟨q, []⟩ [.append a key, .ack 1, .append b key]) := by
  have h₁ := EdgeTrace.after_append (t := ⟨q, []⟩) ha
  have h₂ := EdgeTrace.after_ack (t := ⟨q.appended a, [a.envelope]⟩) hack
  have h₃ := EdgeTrace.after_append (t := ⟨(q.appended a).acknowledged 1, [a.envelope]⟩) hb
  constructor
  · unfold EdgeTrace.run
    rw [List.foldl_cons, h₁, List.foldl_cons, List.nil_append, h₂, List.foldl_cons, h₃, List.foldl_nil]
    rfl
  · intro hnext
    refine ⟨fun _ last hlast => by simp at hlast, trivial, ?_, trivial⟩
    rw [h₁, List.nil_append, h₂]
    rintro _ last ⟨⟩
    exact hnext

end Runs

def sampleDescriptor : EdgeAgentDescriptor where
  agentId := "edge-1"
  assetRef := "asset:gw-1"
  allowedCapabilities := ["local_net_read"]
  policyFingerprint := sampleFingerprint
  configFingerprint := sampleFingerprint
  authKeyId := "key-1"

def sampleQueue : EdgeQueue := ⟨sampleDescriptor, {}, none, [], 0⟩

/-- An envelope of the sample agent with one item of one byte. -/
def sampleEnvelope (sequence : Int) (previous : Option String) : EdgeEvidenceEnvelope where
  agentId := "edge-1"
  assetRef := "asset:gw-1"
  requestId := "req-1"
  policyFingerprint := sampleFingerprint
  configFingerprint := sampleFingerprint
  createdAt := "2026-01-01T00:00:00Z"
  items := [⟨sequence, "evidence-1", "2026-01-01T00:00:00Z", sampleFingerprint, 1, edgeEvidenceItemSchema⟩]
  previousEnvelopeFingerprint := previous

def sampleKey : List UInt8 := List.replicate 32 7

def sampleSealed (e : EdgeEvidenceEnvelope) : AuthenticatedEdgeEnvelope :=
  sealedWith e sampleDescriptor.authKeyId sampleKey

theorem edgeFingerprint_sample (fieldName : String) :
    edgeFingerprint sampleFingerprint fieldName = .ok sampleFingerprint :=
  edgeFingerprint_of_sha256Re (sha256Re_hashText _)

theorem sampleDescriptor_valid : sampleDescriptor.validate = .ok sampleDescriptor := by
  simp only [EdgeAgentDescriptor.validate, bind_ok, require_ok, pure_ok]
  exact ⟨"edge-1", by decide, "asset:gw-1", by decide, (), by decide, _, edgeFingerprint_sample _,
    _, edgeFingerprint_sample _, "key-1", by decide, (), rfl, rfl⟩

theorem sampleEnvelope_valid {sequence : Int} (hseq : 0 ≤ sequence ∧ sequence ≤ 2 ^ 63 - 1) {previous : Option String}
    (hprev : ∀ p ∈ previous, sha256Re p = true) : @EdgeEvidenceEnvelope.Valid sampleTime (sampleEnvelope sequence previous) := by
  let : PyTime := sampleTime
  have hagent : compact "edge-1" "agent_id" 128 = .ok "edge-1" := by decide
  have hasset : assetRef "asset:gw-1" = .ok "asset:gw-1" := by decide
  have hevidence : compact "evidence-1" "evidence_ref" 256 = .ok "evidence-1" := by decide
  have hrequest : compact "req-1" "request_id" 128 = .ok "req-1" := by decide
  refine validate_ok.mpr ?_
  refine ⟨hagent, hasset, hrequest, edgeFingerprint_sample _, edgeFingerprint_sample _, normalizedTimestamp_sample _, ?_,
    by simp [sampleEnvelope], rfl, rfl, by simp [sampleEnvelope], ?_, rfl, rfl, rfl, rfl⟩
  · rw [mapM_ok, List.forall₂_same]
    intro i hi
    obtain rfl := List.mem_singleton.mp hi
    exact validate_ok.mpr
      ⟨hseq, hevidence, normalizedTimestamp_sample _, edgeFingerprint_sample _,
      (by decide : (1 : Int) ≤ 1 ∧ (1 : Int) ≤ 1024 * 1024),
        rfl, rfl, rfl, rfl⟩
  · cases previous with
    | none => rfl
    | some p =>
      simp only [sampleEnvelope, optionalFingerprint]
      rw [edgeFingerprint_of_sha256Re (hprev p rfl)]
      rfl

def firstEnvelope : EdgeEvidenceEnvelope := sampleEnvelope 0 none

/-- An envelope that names the first as its predecessor. -/
def laterEnvelope (sequence : Int) : EdgeEvidenceEnvelope :=
  sampleEnvelope sequence (some (sha256Fingerprint firstEnvelope.payload))

/-- The second envelope: it names the first as its predecessor, and is numbered 5. -/
def gapEnvelope : EdgeEvidenceEnvelope := sampleEnvelope 5 (some (sha256Fingerprint firstEnvelope.payload))

/-- The first envelope, its acknowledgement, and another envelope. -/
def laterCalls (sequence : Int) : List EdgeCall :=
  [.append (sampleSealed firstEnvelope) sampleKey, .ack 1, .append (sampleSealed (laterEnvelope sequence)) sampleKey]

def gapCalls : List EdgeCall :=
  [.append (sampleSealed firstEnvelope) sampleKey, .ack 1,
   .append (sampleSealed gapEnvelope) sampleKey]

theorem firstEnvelope_valid : @EdgeEvidenceEnvelope.Valid sampleTime firstEnvelope :=
  sampleEnvelope_valid (by decide) (by simp)

theorem laterEnvelope_valid {sequence : Int} (hseq : 0 ≤ sequence ∧ sequence ≤ 2 ^ 63 - 1) :
    @EdgeEvidenceEnvelope.Valid sampleTime (laterEnvelope sequence) :=
  sampleEnvelope_valid hseq (by
    intro p hp
    cases hp
    exact sha256Re_hashText _)

theorem sampleQueue_init : init sampleDescriptor {} none = .ok sampleQueue := by
  simp only [init, bind_ok, pure_ok]
  exact ⟨_, sampleDescriptor_valid, (), by decide, none, rfl, rfl⟩

theorem laterCalls_accepted {sequence : Int} (hseq : 0 ≤ sequence ∧ sequence ≤ 2 ^ 63 - 1) :
    (@EdgeTrace.run sampleTime ⟨sampleQueue, []⟩ (laterCalls sequence)).accepted = [firstEnvelope, laterEnvelope sequence] ∧
      (sequence = 1 → @EdgeTrace.Steady sampleTime ⟨sampleQueue, []⟩ (laterCalls sequence)) := by
  let : PyTime := sampleTime
  have hfirst : firstEnvelope.Valid := firstEnvelope_valid
  have hlater : (laterEnvelope sequence).Valid := laterEnvelope_valid hseq
  have hkeyId : compact sampleDescriptor.authKeyId "auth_key_id" 128 = .ok sampleDescriptor.authKeyId := by
    decide
  have h₁ : sampleQueue.append (sampleSealed firstEnvelope) sampleKey =
      (.ok (), sampleQueue.appended (sampleSealed firstEnvelope)) :=
    append_sealed (q := sampleQueue) rfl sampleDescriptor_valid (by simp [EdgeQueue.AllValid, sampleQueue]) hfirst
      ⟨rfl, rfl, rfl, rfl⟩ hkeyId (by decide) rfl (by simp [sampleQueue]) (by decide) (by decide)
  have hvalid₁ : (sampleQueue.appended (sampleSealed firstEnvelope)).AllValid := by
    intro a ha
    obtain rfl : a = sampleSealed firstEnvelope := by simpa [appended, sampleQueue] using ha
    exact hfirst
  obtain ⟨fs, h₂⟩ := ack_admitted hvalid₁ (by decide : (1 : Int) ≤ 1 ∧ (1 : Int) ≤ 256)
    (by simp [appended])
  have hexpected : (laterEnvelope sequence).previousEnvelopeFingerprint =
      ((sampleQueue.appended (sampleSealed firstEnvelope)).acknowledged 1).expected := by
    simp only [expected, acknowledged, appended, sampleQueue, List.nil_append,
      List.take_succ_cons, List.take_zero, List.drop_succ_cons, List.drop_zero, List.getLast?_singleton,
      List.getLast?_nil, Option.map_some, laterEnvelope, sampleEnvelope, sampleSealed, sealedWith]
  have hbytes : ((sampleQueue.appended (sampleSealed firstEnvelope)).acknowledged 1).payloadBytes +
      (sampleEnvelope 0 none).bytes ≤ sampleQueue.policy.maxTotalPayloadBytes := by
    decide
  have h₃ := append_sealed
    (q := (sampleQueue.appended (sampleSealed firstEnvelope)).acknowledged 1) rfl sampleDescriptor_valid
    (by simp [EdgeQueue.AllValid, acknowledged, appended, sampleQueue]) hlater ⟨rfl, rfl, rfl, rfl⟩
    hkeyId (by decide : 32 ≤ sampleKey.length ∧ sampleKey.length ≤ 128) hexpected
    (by simp [acknowledged, appended, sampleQueue]) (by decide) hbytes
  obtain ⟨haccepted, hsteady⟩ := accepted_across_ack h₁ h₂ h₃
  exact ⟨haccepted, fun heq => hsteady (show sequence = 0 + 1 by omega)⟩

/-- The accepted envelopes are not numbered without a gap: the one numbered 5 follows the one numbered 0. -/
theorem accepted_sequences_have_gap : EdgeQueue.init sampleDescriptor {} none = .ok sampleQueue ∧
    ¬ (@EdgeTrace.run sampleTime ⟨sampleQueue, []⟩ gapCalls).accepted.IsChain (@EdgeTrace.Continues sampleTime) := by
  let : PyTime := sampleTime
  refine ⟨sampleQueue_init, ?_⟩
  show ¬ (EdgeTrace.run ⟨sampleQueue, []⟩ (laterCalls 5)).accepted.IsChain EdgeTrace.Continues
  rw [(laterCalls_accepted (by decide)).1]
  intro hchain
  obtain ⟨l, f, hl, hf, heq⟩ := (List.isChain_cons_cons.mp hchain).1
  rw [firstEnvelope_valid.lastSequence, Except.ok.injEq] at hl
  rw [(laterEnvelope_valid (by decide)).firstSequence, Except.ok.injEq] at hf
  rw [← hl, ← hf] at heq
  exact absurd heq (by decide)

/-- Where the other envelope is numbered 1, both are accepted across the acknowledgement and numbered without a gap. -/
theorem queue_over_sample_run :
    let t := @EdgeTrace.run sampleTime ⟨sampleQueue, []⟩ (laterCalls 1)
    EdgeQueue.init sampleDescriptor {} none = .ok sampleQueue ∧ t.accepted = [firstEnvelope, laterEnvelope 1] ∧
      (∃ sizes, t.queue.items.mapM (fun a => @EdgeEvidenceEnvelope.payloadBytes sampleTime a.envelope) = .ok sizes ∧
        t.queue.payloadBytes = sizes.sum) ∧
      t.accepted.IsChain (@EdgeTrace.Linked sampleTime) ∧ t.accepted.IsChain (@EdgeTrace.Continues sampleTime) := by
  obtain ⟨haccepted, hsteady⟩ := laterCalls_accepted (show (0 : Int) ≤ 1 ∧ (1 : Int) ≤ 2 ^ 63 - 1 by decide)
  have h := @EdgeTrace.queue_over_runs sampleTime _ _ _ _ sampleQueue_init (laterCalls 1)
  exact ⟨sampleQueue_init, haccepted, h.1, h.2.2.2.2.1, h.2.2.2.2.2 (hsteady rfl)⟩

end ThreeAgent.SecurityMonitoring
