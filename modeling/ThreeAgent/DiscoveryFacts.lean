/-
When discovery evidence is not lost and no host is enrolled twice
(`discovery_candidate_store.py`, `discovery_enrollment.py`).

A stored candidate is the sum of the puts that returned as long as no put writes
over a candidate that changed since it was read, and as long as the order of the
texts that are merged is the order of their times. An enrollment is right as long
as what its SELECTs found still holds when it writes.
-/
import ThreeAgent.Discovery
import ThreeAgent.Lib.Table
import Mathlib.Order.Bounds.Basic

namespace ThreeAgent

variable {ref kind digest evidence : String}

namespace SecurityMonitoring

open PyText PyJson Outcome Interleaving DiscoveryStore CandidateRow

variable {e : Enrollment} {receipt : DiscoveryEnrollmentReceipt} {asset : AssetInventoryRecord} {row : AssetRow}
  {c' : DiscoveryCall}

variable {refs refs' : List String} {fieldName : String} {existing incoming merged : DiscoveryCandidate}
  {phase : DiscoveryPhase} {request : DiscoveryRequest}

/-! ## Checked candidates -/

section Candidates

variable [PyTime]

omit [PyTime] in
theorem compactRefs_ok (h : compactRefs refs fieldName = .ok refs') :
    refs' = sorted (dedup refs') ∧ ∀ r ∈ refs', compact r fieldName 256 = .ok r := by
  simp only [compactRefs, bind_ok, pure_ok] at h
  obtain ⟨values, hvalues, rfl⟩ := h
  refine ⟨(sorted_dedup_sorted values).symm, ?_⟩
  intro r hr
  rw [mem_sorted, mem_dedup] at hr
  obtain ⟨v, -, hv⟩ := forall₂_mem_right (mapM_ok.mp hvalues) hr
  exact compact_compact hv

omit [PyTime] in
theorem compactRefs_self (hsorted : refs = sorted (dedup refs))
    (hrefs : ∀ r ∈ refs, compact r fieldName 256 = .ok r) : compactRefs refs fieldName = .ok refs := by
  simp only [compactRefs, bind_ok, pure_ok]
  exact ⟨refs, mapM_self hrefs, hsorted.symm⟩

omit [PyTime] in
theorem candidateRef_range (h : candidateRef? ref = some (kind, digest)) :
    ∀ c ∈ ref.toList, (48 ≤ c.toNat ∧ c.toNat ≤ 58) ∨ (97 ≤ c.toNat ∧ c.toNat ≤ 122) := by
  unfold candidateRef? at h
  split at h
  · rename_i kind' digest' hsplit
    split at h
    · rename_i hparts
      cases h
      obtain ⟨hkind, -, hhex⟩ := hparts
      intro c hc
      have hjoin : [':'].intercalate (ref.toList.splitOn ':') = ref.toList := List.intercalate_splitOn ':'
      rw [← hjoin] at hc
      have hword : ∀ t ∈ "candidate" :: "sha256" :: discoveryIdentityKinds, ∀ c ∈ t.toList,
          (48 ≤ c.toNat ∧ c.toNat ≤ 58) ∨ (97 ≤ c.toNat ∧ c.toNat ≤ 122) :=
        forall_char_of_all (by decide)
      rcases mem_intercalate hc with rfl | ⟨seg, hseg, hcs⟩
      · exact .inl (by decide)
      · have hmem : String.ofList seg ∈ split ':' ref := List.mem_map_of_mem hseg
        rw [hsplit] at hmem
        have hcs' : c ∈ (String.ofList seg).toList := by rwa [String.toList_ofList]
        simp only [List.mem_cons, List.not_mem_nil, or_false] at hmem
        rcases hmem with heq | heq | heq | heq
        · rw [heq] at hcs'
          exact hword _ (by simp) c hcs'
        · rw [heq] at hcs'
          exact hword _ (by simp [hkind]) c hcs'
        · rw [heq] at hcs'
          exact hword _ (by simp) c hcs'
        · rw [heq] at hcs'
          have := Sha256.isHexDigit_range (List.all_eq_true.mp hhex c hcs')
          omega
    · cases h
  · cases h

omit [PyTime] in
theorem candidateRef_self (h : candidateRef? ref = some (kind, digest)) :
    lower (strip ref) = ref := by
  have hrange := candidateRef_range h
  have hstrip : strip ref = ref := by
    refine strip_eq_self fun c hc => isSpace_of_range ?_
    have := hrange c hc
    omega
  rw [hstrip]
  refine lower_eq_self fun c hc => ?_
  have := hrange c hc
  omega

/-- What is known of a candidate that was checked. -/
structure DiscoveryCandidate.Checked (c : DiscoveryCandidate) : Prop where
  candidateId : compact c.candidateId "candidate_id" 128 = .ok c.candidateId
  identityRef : lower (strip c.identityRef) = c.identityRef
  derived : ∃ kind digest, candidateRef? c.identityRef = some (kind, digest) ∧ c.candidateId = candidateIdOf digest
  firstSeen : normalizedTimestamp c.firstSeen "first_seen" = .ok c.firstSeen
  lastSeen : normalizedTimestamp c.lastSeen "last_seen" = .ok c.lastSeen
  ordered : precedes c.lastSeen c.firstSeen = false
  count : 1 ≤ c.observationCount ∧ c.observationCount ≤ maxObservationCount
  confidence : 0 ≤ c.confidenceBasisPoints ∧ c.confidenceBasisPoints ≤ 10000
  provenance : compactRefs c.provenanceRefs "provenance_ref" = .ok c.provenanceRefs
  evidence : compactRefs c.evidenceRefs "evidence_ref" = .ok c.evidenceRefs
  provenanceBound : c.provenanceRefs ≠ [] ∧ c.provenanceRefs.length ≤ maxCandidateProvenanceRefs
  evidenceBound : c.evidenceRefs ≠ [] ∧ c.evidenceRefs.length ≤ maxCandidateEvidenceRefs
  trustState : c.trustState = "untrusted"
  inventoryStatus : c.inventoryStatus = "not_enrolled"
  authority : c.authority = "none"
  schemaVersion : c.schemaVersion = discoveryCandidateSchema

variable {c : DiscoveryCandidate}

theorem validate_checked {v : DiscoveryCandidate} (h : c.validate = .ok v) : v.Checked := by
  simp only [DiscoveryCandidate.validate, bind_ok, require_ok, orRaise_ok, pure_ok, exists_const] at h
  obtain ⟨candidateId, h1, ⟨kind, digest⟩, href, hid, first, hfirst, last, hlast, hordered, hcount, hconfidence, provenance,
    hprovenance, evidence, hevidence, hpb, heb, ht, hi, ha, hs, rfl⟩ := h
  exact {
    candidateId := compact_compact h1
    identityRef := candidateRef_self href
    derived := ⟨kind, digest, href, hid⟩
    firstSeen := normalizedTimestamp_normalizedTimestamp hfirst _
    lastSeen := normalizedTimestamp_normalizedTimestamp hlast _
    ordered := hordered
    count := hcount
    confidence := hconfidence
    provenance := compactRefs_self (compactRefs_ok hprovenance).1 (compactRefs_ok hprovenance).2
    evidence := compactRefs_self (compactRefs_ok hevidence).1 (compactRefs_ok hevidence).2
    provenanceBound := hpb
    evidenceBound := heb
    trustState := ht
    inventoryStatus := hi
    authority := ha
    schemaVersion := hs }

theorem DiscoveryCandidate.Checked.validate (h : c.Checked) : c.validate = .ok c := by
  obtain ⟨kind, digest, href, hid⟩ := h.derived
  simp only [DiscoveryCandidate.validate, bind_ok, require_ok, orRaise_ok, pure_ok, exists_const]
  refine ⟨_, h.candidateId, (kind, digest), by rw [h.identityRef]; exact href, hid, _, h.firstSeen, _, h.lastSeen, h.ordered,
    h.count, h.confidence, _, h.provenance, _, h.evidence, h.provenanceBound, h.evidenceBound, h.trustState,
    h.inventoryStatus, h.authority, h.schemaVersion, ?_⟩
  rw [h.identityRef]

theorem read_of (h : c.Checked) : (of c).read = .ok c := by
  have hself : ({ candidateId := c.candidateId, identityRef := c.identityRef, firstSeen := c.firstSeen,
                  lastSeen := c.lastSeen, observationCount := c.observationCount,
                  confidenceBasisPoints := c.confidenceBasisPoints, provenanceRefs := c.provenanceRefs,
                  evidenceRefs := c.evidenceRefs } : DiscoveryCandidate) = c := by
    rw [← h.trustState, ← h.inventoryStatus, ← h.authority, ← h.schemaVersion]
  simp only [CandidateRow.read, bind_ok, require_ok, pure_ok, exists_const]
  refine ⟨h.schemaVersion, c, ?_, rfl, rfl⟩
  exact (congrArg DiscoveryCandidate.validate hself).trans h.validate

/-! ## Sums of puts -/

/-- A candidate is the sum of puts: of their counts, their references, their confidence and their times. -/
structure Sums (puts : List DiscoveryCandidate) (c : DiscoveryCandidate) : Prop where
  count : c.observationCount = (puts.map (·.observationCount)).sum
  evidence : ∀ r, r ∈ c.evidenceRefs ↔ ∃ p ∈ puts, r ∈ p.evidenceRefs
  provenance : ∀ r, r ∈ c.provenanceRefs ↔ ∃ p ∈ puts, r ∈ p.provenanceRefs
  confidence : IsGreatest {n | ∃ p ∈ puts, p.confidenceBasisPoints = n} c.confidenceBasisPoints
  firstSeen : ∃ t, PyTime.instant? c.firstSeen = some t ∧ IsLeast {t | ∃ p ∈ puts, PyTime.instant? p.firstSeen = some t} t
  lastSeen : ∃ t, PyTime.instant? c.lastSeen = some t ∧ IsGreatest {t | ∃ p ∈ puts, PyTime.instant? p.lastSeen = some t} t

theorem DiscoveryCandidate.Checked.instants (h : c.Checked) :
    (∃ t, PyTime.instant? c.firstSeen = some t) ∧ ∃ t, PyTime.instant? c.lastSeen = some t := by
  obtain ⟨t, -, -, ht⟩ := instant?_of_normalizedTimestamp h.firstSeen
  obtain ⟨t', -, -, ht'⟩ := instant?_of_normalizedTimestamp h.lastSeen
  exact ⟨⟨t, ht⟩, t', ht'⟩

theorem Sums.single (h : c.Checked) : Sums [c] c := by
  obtain ⟨⟨t, ht⟩, t', ht'⟩ := h.instants
  refine ⟨by simp, by simp, by simp, ?_, ⟨t, ht, ?_⟩, t', ht', ?_⟩
  · exact ⟨⟨c, by simp, rfl⟩, fun n ⟨p, hp, hn⟩ => by rw [← hn, List.mem_singleton.mp hp]⟩
  · refine ⟨⟨c, by simp, ht⟩, fun u ⟨p, hp, hu⟩ => ?_⟩
    rw [List.mem_singleton.mp hp, ht] at hu
    exact (Option.some.inj hu).le
  · refine ⟨⟨c, by simp, ht'⟩, fun u ⟨p, hp, hu⟩ => ?_⟩
    rw [List.mem_singleton.mp hp, ht'] at hu
    exact (Option.some.inj hu).ge

/-- The order of two texts is the order of their times. -/
def TimesAgree (a b : String) : Prop :=
  ∀ x y, PyTime.instant? a = some x → PyTime.instant? b = some y → (a ≤ b ↔ x ≤ y)

theorem instant?_minText {a b : String} {x y : Int} (h : TimesAgree a b) (ha : PyTime.instant? a = some x)
    (hb : PyTime.instant? b = some y) : PyTime.instant? (min a b) = some (min x y) := by
  by_cases hle : a ≤ b
  · rw [min_eq_left hle, min_eq_left ((h x y ha hb).mp hle), ha]
  · have hxy : ¬ x ≤ y := fun hxy => hle ((h x y ha hb).mpr hxy)
    rw [min_eq_right (not_le.mp hle).le, min_eq_right (not_le.mp hxy).le, hb]

theorem instant?_maxText {a b : String} {x y : Int} (h : TimesAgree a b) (ha : PyTime.instant? a = some x)
    (hb : PyTime.instant? b = some y) : PyTime.instant? (max a b) = some (max x y) := by
  by_cases hle : a ≤ b
  · rw [max_eq_right hle, max_eq_right ((h x y ha hb).mp hle), hb]
  · have hxy : ¬ x ≤ y := fun hxy => hle ((h x y ha hb).mpr hxy)
    rw [max_eq_left (not_le.mp hle).le, max_eq_left (not_le.mp hxy).le, ha]

/-- What is kept of two candidates of one identity. -/
structure MergeOf (existing incoming merged : DiscoveryCandidate) : Prop where
  checked : merged.Checked
  candidateId : merged.candidateId = existing.candidateId
  identityRef : merged.identityRef = existing.identityRef
  count : merged.observationCount = existing.observationCount + incoming.observationCount
  evidence : ∀ r, r ∈ merged.evidenceRefs ↔ r ∈ existing.evidenceRefs ∨ r ∈ incoming.evidenceRefs
  provenance : ∀ r, r ∈ merged.provenanceRefs ↔ r ∈ existing.provenanceRefs ∨ r ∈ incoming.provenanceRefs
  confidence : merged.confidenceBasisPoints = max existing.confidenceBasisPoints incoming.confidenceBasisPoints
  firstSeen : merged.firstSeen = min existing.firstSeen incoming.firstSeen
  lastSeen : merged.lastSeen = max existing.lastSeen incoming.lastSeen

theorem Sums.merge {puts : List DiscoveryCandidate} (h : Sums puts existing)
    (hincoming : incoming.Checked) (hmerge : MergeOf existing incoming merged)
    (hfirst : TimesAgree existing.firstSeen incoming.firstSeen) (hlast : TimesAgree existing.lastSeen incoming.lastSeen) :
    Sums (puts ++ [incoming]) merged := by
  have hone := Sums.single hincoming
  have hset : ∀ {α : Type} (f : DiscoveryCandidate → α → Prop), {x | ∃ p ∈ puts ++ [incoming], f p x} =
      {x | ∃ p ∈ puts, f p x} ∪ {x | ∃ p ∈ [incoming], f p x} := by
    intro α f
    ext x
    simp only [Set.mem_ofPred_eq, Set.mem_union, List.mem_append]
    constructor
    · rintro ⟨p, hp | hp, hx⟩
      · exact .inl ⟨p, hp, hx⟩
      · exact .inr ⟨p, hp, hx⟩
    · rintro (⟨p, hp, hx⟩ | ⟨p, hp, hx⟩)
      · exact ⟨p, .inl hp, hx⟩
      · exact ⟨p, .inr hp, hx⟩
  obtain ⟨x, hx, hleast⟩ := h.firstSeen
  obtain ⟨y, hy, hleast'⟩ := hone.firstSeen
  obtain ⟨x', hx', hgreatest⟩ := h.lastSeen
  obtain ⟨y', hy', hgreatest'⟩ := hone.lastSeen
  refine ⟨?_, ?_, ?_, ?_, ⟨min x y, ?_, ?_⟩, max x' y', ?_, ?_⟩
  · rw [hmerge.count, h.count]
    simp
  · intro r
    rw [hmerge.evidence, h.evidence]
    simp [or_and_right, exists_or]
  · intro r
    rw [hmerge.provenance, h.provenance]
    simp [or_and_right, exists_or]
  · rw [hmerge.confidence, hset fun p n => p.confidenceBasisPoints = n]
    exact h.confidence.union hone.confidence
  · rw [hmerge.firstSeen]
    exact instant?_minText hfirst hx hy
  · rw [hset fun p t => PyTime.instant? p.firstSeen = some t]
    exact hleast.union hleast'
  · rw [hmerge.lastSeen]
    exact instant?_maxText hlast hx' hy'
  · rw [hset fun p t => PyTime.instant? p.lastSeen = some t]
    exact hgreatest.union hgreatest'

/-! ## The merge of two -/

theorem normalizedTimestamp_min {a b : String} (ha : normalizedTimestamp a fieldName = .ok a)
    (hb : normalizedTimestamp b fieldName = .ok b) : normalizedTimestamp (min a b) fieldName = .ok (min a b) := by
  rcases min_choice a b with h | h
  · rw [h]
    exact ha
  · rw [h]
    exact hb

theorem normalizedTimestamp_max {a b : String} (ha : normalizedTimestamp a fieldName = .ok a)
    (hb : normalizedTimestamp b fieldName = .ok b) : normalizedTimestamp (max a b) fieldName = .ok (max a b) := by
  rcases max_choice a b with h | h
  · rw [h]
    exact ha
  · rw [h]
    exact hb

omit [PyTime] in
theorem compactRefs_union (h : compactRefs refs fieldName = .ok refs)
    (h' : compactRefs refs' fieldName = .ok refs') :
    compactRefs (sorted (dedup (refs ++ refs'))) fieldName = .ok (sorted (dedup (refs ++ refs'))) := by
  refine compactRefs_self (sorted_dedup_sorted _).symm fun r hr => ?_
  rw [mem_sorted, mem_dedup, List.mem_append] at hr
  rcases hr with hr | hr
  · exact (compactRefs_ok h).2 r hr
  · exact (compactRefs_ok h').2 r hr

omit [PyTime] in
theorem compactRefs_append {merged : List String} (h : compactRefs refs fieldName = .ok refs)
    (h' : compactRefs refs' fieldName = .ok refs') (hm : compactRefs (sorted (dedup (refs ++ refs'))) fieldName = .ok merged) :
    ∀ r, r ∈ merged ↔ r ∈ refs ∨ r ∈ refs' := by
  rw [compactRefs_union h h'] at hm
  intro r
  rw [← Except.ok.inj hm, mem_sorted, mem_dedup, List.mem_append]

theorem mergeMembers_two (he : existing.Checked) (hi : incoming.Checked)
    (h : mergeMembers existing.identityRef existing [incoming] = .ok merged) : MergeOf existing incoming merged := by
  simp only [mergeMembers, bind_ok, require_ok, exists_const] at h
  obtain ⟨-, -, h⟩ := h
  have hchecked := validate_checked h
  simp only [DiscoveryCandidate.validate, bind_ok, require_ok, orRaise_ok, pure_ok, exists_const] at h
  obtain ⟨candidateId, h1, ⟨kind, digest⟩, href, hid, first, hfirst, last, hlast, -, -, -, provenance, hprovenance, evidence,
    hevidence, -, -, -, -, -, -, rfl⟩ := h
  rw [he.identityRef] at href
  obtain ⟨kind', digest', href', hid'⟩ := he.derived
  rw [href'] at href
  cases href
  refine {
    checked := hchecked
    candidateId := hid.trans hid'.symm
    identityRef := he.identityRef
    count := by simp
    evidence := ?_
    provenance := ?_
    confidence := rfl
    firstSeen := ?_
    lastSeen := ?_ }
  · simp only [List.flatMap_cons, List.flatMap_nil, List.append_nil] at hevidence
    exact compactRefs_append he.evidence hi.evidence hevidence
  · simp only [List.flatMap_cons, List.flatMap_nil, List.append_nil] at hprovenance
    exact compactRefs_append he.provenance hi.provenance hprovenance
  · exact Except.ok.inj (hfirst.symm.trans (normalizedTimestamp_min he.firstSeen hi.firstSeen))
  · exact Except.ok.inj (hlast.symm.trans (normalizedTimestamp_max he.lastSeen hi.lastSeen))

theorem deduplicate_two {first : DiscoveryCandidate} {merged : List DiscoveryCandidate} (he : existing.Checked)
    (hi : incoming.Checked) (hsame : existing.identityRef = incoming.identityRef)
    (h : deduplicateDiscoveryCandidates [existing, incoming] 2 1 = .ok merged) (hfirst : merged.head? = some first) :
    MergeOf existing incoming first := by
  simp only [deduplicateDiscoveryCandidates, List.foldlM_cons, List.foldlM_nil, he.validate, hi.validate, bind_ok, require_ok,
    pure_ok, exists_const, Except.ok.injEq, exists_eq_left'] at h
  obtain ⟨-, -, valid, ⟨_, ⟨-, rfl⟩, _, ⟨-, rfl⟩, rfl⟩, -, h⟩ := h
  have hone : sorted (dedup (([] ++ [existing] ++ [incoming] : List DiscoveryCandidate).map (·.identityRef))) =
      [existing.identityRef] := by
    simp [dedup, hsame, sorted]
  have hfilter : ([] ++ [existing] ++ [incoming] : List DiscoveryCandidate).filter (·.identityRef = existing.identityRef) =
      [existing, incoming] := by
    simp [hsame]
  rw [hone] at h
  simp only [List.mapM_cons, List.mapM_nil, hfilter, bind_ok, pure_ok] at h
  obtain ⟨first', hmerge, _, rfl, rfl⟩ := h
  cases hfirst
  exact mergeMembers_two he hi hmerge

/-! ## The store -/

/-- What holds of the tables and the histories. -/
structure DiscoveryOK (s : DiscoveryStore) : Prop where
  rows : ∀ row ∈ s.candidates, ∃ c : DiscoveryCandidate, c.Checked ∧ row = CandidateRow.of c ∧
    Sums (s.returned.filter (·.identityRef = c.identityRef)) c
  ids : (s.candidates.map (·.candidateId)).Nodup
  identities : (s.candidates.map (·.identityRef)).Nodup
  kept : ∀ p ∈ s.returned, ∃ row ∈ s.candidates, row.identityRef = p.identityRef
  assetIds : (s.assets.map (·.asset.assetId)).Nodup
  hosts : ∀ row ∈ s.assets, ∀ row' ∈ s.assets, row.asset.managementHost = row'.asset.managementHost →
    row.asset.assetId = row'.asset.assetId
  commits : ∀ e ∈ s.commits, e.2 = some e.1.candidateFingerprint
  receipts : s.receipts = s.commits.map Prod.fst

variable {s s' : DiscoveryStore} {c : DiscoveryCall}

theorem get_some (hs : DiscoveryOK s) {id : String} (h : s.get id = .ok (some existing)) :
    existing.Checked ∧ existing.candidateId = id ∧ s.candidate? id = some (of existing) ∧
      Sums (s.returned.filter (·.identityRef = existing.identityRef)) existing := by
  cases hfind : s.candidate? id with
  | none =>
    rw [DiscoveryStore.get, hfind] at h
    cases h
  | some row =>
    obtain ⟨c, hc, rfl, hsums⟩ := hs.rows row (List.mem_of_find?_eq_some hfind)
    rw [DiscoveryStore.get, hfind] at h
    dsimp only at h
    rw [read_of hc] at h
    cases h
    have hid : (of existing).candidateId = id := by simpa using List.find?_some hfind
    exact ⟨hc, hid, rfl, hsums⟩

/-- The put of a call, as it was checked. -/
def FromPut (request : DiscoveryRequest) (p : DiscoveryCandidate) : Prop :=
  ∃ candidate, request = .put candidate ∧ candidate.validate = .ok p

/-- What holds of a call at each of its phases. -/
def DiscoveryCallOK (s : DiscoveryStore) (c : DiscoveryCall) : Prop :=
  match c.phase with
  | .inserting incoming => incoming.Checked ∧ FromPut c.request incoming
  | .replayed existing incoming => incoming.Checked ∧ FromPut c.request incoming ∧
      ∀ r ∈ existing.evidenceRefs, ∃ p ∈ s.returned, p.identityRef = existing.identityRef ∧ r ∈ p.evidenceRefs
  | .replacing existing incoming merged => existing.Checked ∧ incoming.Checked ∧ FromPut c.request incoming ∧
      existing.identityRef = incoming.identityRef ∧ MergeOf existing incoming merged
  | .rereading e | .seekingReceipt e | .confirming e _ | .seekingAsset e | .seekingOwner e => e.candidate.Checked
  | .writing e receipt => e.candidate.Checked ∧ e.receipt = .ok receipt
  | .ready | .done _ => True

/-- What a step of a call does. -/
inductive DiscoveryMove (s : DiscoveryStore) (c : DiscoveryCall) : DiscoveryStore → DiscoveryPhase → Prop
  | quiet {phase : DiscoveryPhase} (ok : DiscoveryCallOK s { c with phase })
      (stays : ∀ result, c.phase = .done result → phase = .done result) :
      DiscoveryMove s c s phase
  | inserted {s' : DiscoveryStore} (incoming : DiscoveryCandidate) (start : c.phase = .inserting incoming)
      (put : s.insert incoming = .ok s') :
      DiscoveryMove s c { s' with returned := s'.returned ++ [incoming] } (.done (.ok (.candidate incoming)))
  | replayed (existing incoming : DiscoveryCandidate) (start : c.phase = .replayed existing incoming) :
      DiscoveryMove s c { s with returned := s.returned ++ [incoming] } (.done (.ok (.candidate existing)))
  | replaced {s' : DiscoveryStore} (existing incoming merged : DiscoveryCandidate)
      (start : c.phase = .replacing existing incoming merged)
      (put : s.replace merged = .ok s') :
      DiscoveryMove s c { s' with returned := s'.returned ++ [incoming] } (.done (.ok (.candidate merged)))
  | enrolled {s' : DiscoveryStore} (e : Enrollment) (receipt : DiscoveryEnrollmentReceipt) (start : c.phase = .writing e receipt)
      (put : (s.writeAssetRow e.approved.asset).insertReceipt receipt = .ok s') :
      DiscoveryMove s c s' (.done (.ok (.receipt receipt)))

theorem beginPut_ok (hs : DiscoveryOK s) {candidate : DiscoveryCandidate}
    (h : beginPut candidate s = .ok phase) : DiscoveryCallOK s ⟨.put candidate, phase⟩ := by
  simp only [beginPut, bind_ok] at h
  obtain ⟨incoming, hincoming, existing, hget, h⟩ := h
  have hchecked := validate_checked hincoming
  have hfrom : FromPut (.put candidate) incoming := ⟨candidate, rfl, hincoming⟩
  cases existing with
  | none =>
    cases h
    exact ⟨hchecked, hfrom⟩
  | some existing =>
    obtain ⟨he, -, -, hsums⟩ := get_some hs hget
    simp only [bind_ok, require_ok, exists_const] at h
    obtain ⟨hsame, h⟩ := h
    split at h
    · cases h
      refine ⟨hchecked, hfrom, fun r hr => ?_⟩
      obtain ⟨p, hp, hrp⟩ := (hsums.evidence r).mp hr
      rw [List.mem_filter, decide_eq_true_eq] at hp
      exact ⟨p, hp.1, hp.2, hrp⟩
    · simp only [bind_ok, require_ok, orRaise_ok, pure_ok, exists_const] at h
      obtain ⟨-, merged, hmerged, first, hfirst, rfl⟩ := h
      exact ⟨he, hchecked, hfrom, hsame, deduplicate_two he hchecked hsame hmerged hfirst⟩

theorem beginEnroll_ok (hs : DiscoveryOK s) {request : DiscoveryEnrollmentRequest} {enrolledAt : String}
    (h : beginEnroll request enrolledAt s = .ok e) : e.candidate.Checked := by
  simp only [beginEnroll, bind_ok, require_ok, orRaise_ok, pure_ok] at h
  obtain ⟨approved, -, timestamp, -, existing, hget, candidate, rfl, -, -, -, -, rfl⟩ := h
  exact (get_some hs hget).1

theorem DiscoveryMove.raised (e : Raised)
    (h : ∀ result, phase ≠ .done result) : DiscoveryMove s ⟨request, phase⟩ s (.done (.error e)) :=
  .quiet trivial fun result hdone => absurd hdone (h result)

theorem DiscoveryMove.orRaise {α : Type} {x : Except Raised α}
    {next : α → DiscoveryPhase} (h : ∀ result, phase ≠ .done result)
    (hok : ∀ a, x = .ok a → DiscoveryCallOK s ⟨request, next a⟩) :
    DiscoveryMove s ⟨request, phase⟩ s (DiscoveryPhase.orRaise x next) := by
  cases x with
  | error e => exact .raised e h
  | ok a => exact .quiet (hok a rfl) fun result hdone => absurd hdone (h result)

theorem discoveryAct_move (hs : DiscoveryOK s)
    (hc : DiscoveryCallOK s ⟨request, phase⟩) : ∃ phase', (discoveryAct () s ⟨request, phase⟩).2 = ⟨request, phase'⟩ ∧
      DiscoveryMove s ⟨request, phase⟩ (discoveryAct () s ⟨request, phase⟩).1 phase' := by
  cases phase with
  | ready =>
    cases request with
    | put candidate => exact ⟨_, rfl, .orRaise (fun _ h => by cases h) fun phase h => beginPut_ok hs h⟩
    | enroll approval enrolledAt => exact ⟨_, rfl, .orRaise (fun _ h => by cases h) fun e h => beginEnroll_ok hs h⟩
  | inserting incoming =>
    simp only [discoveryAct]
    cases hput : s.insert incoming with
    | error e => exact ⟨_, rfl, .raised e fun _ h => by cases h⟩
    | ok s' => exact ⟨_, rfl, .inserted incoming rfl hput⟩
  | replayed existing incoming => exact ⟨_, rfl, .replayed existing incoming rfl⟩
  | replacing existing incoming merged =>
    simp only [discoveryAct]
    cases hput : s.replace merged with
    | error e => exact ⟨_, rfl, .raised e fun _ h => by cases h⟩
    | ok s' => exact ⟨_, rfl, .replaced existing incoming merged rfl hput⟩
  | rereading e => exact ⟨_, rfl, .orRaise (fun _ h => by cases h) fun _ _ => hc⟩
  | seekingReceipt e =>
    simp only [discoveryAct]
    cases s.receipts.find? (·.enrollmentId = e.enrollmentId) with
    | some row => exact ⟨_, rfl, .orRaise (fun _ h => by cases h) fun _ _ => hc⟩
    | none => exact ⟨_, rfl, .quiet hc fun _ h => by cases h⟩
  | confirming e prior =>
    simp only [discoveryAct]
    split
    · exact ⟨_, rfl, .quiet trivial fun _ h => by cases h⟩
    · exact ⟨_, rfl, .raised _ fun _ h => by cases h⟩
  | seekingAsset e =>
    simp only [discoveryAct]
    split
    · exact ⟨_, rfl, .quiet hc fun _ h => by cases h⟩
    · exact ⟨_, rfl, .raised _ fun _ h => by cases h⟩
  | seekingOwner e =>
    simp only [discoveryAct]
    split
    · exact ⟨_, rfl, .orRaise (fun _ h => by cases h) fun receipt h => ⟨hc, h⟩⟩
    · exact ⟨_, rfl, .raised _ fun _ h => by cases h⟩
  | writing e receipt =>
    simp only [discoveryAct]
    cases hput : (s.writeAssetRow e.approved.asset).insertReceipt receipt with
    | error _ => exact ⟨_, rfl, .raised _ fun _ h => by cases h⟩
    | ok s' => exact ⟨_, rfl, .enrolled e receipt rfl hput⟩
  | done result => exact ⟨_, rfl, .quiet trivial fun _ h => h⟩

/-! ## What the writes keep -/

theorem DiscoveryOK.insert (hs : DiscoveryOK s) (hi : incoming.Checked)
    (h : s.insert incoming = .ok s') : DiscoveryOK { s' with returned := s'.returned ++ [incoming] } := by
  simp only [DiscoveryStore.insert, bind_ok, require_ok, pure_ok, exists_const] at h
  obtain ⟨hid, hidentity, rfl⟩ := h
  refine ⟨?_, Table.nodup_snoc hs.ids hid, Table.nodup_snoc hs.identities hidentity, ?_, hs.assetIds, hs.hosts, hs.commits,
    hs.receipts⟩
  · intro row hrow
    rcases List.mem_append.mp hrow with hrow | hrow
    · obtain ⟨c, hc, rfl, hsums⟩ := hs.rows row hrow
      refine ⟨c, hc, rfl, ?_⟩
      have hne : incoming.identityRef ≠ c.identityRef := fun heq => hidentity _ hrow heq.symm
      rw [List.filter_append, List.filter_cons_of_neg (by simpa using hne), List.filter_nil, List.append_nil]
      exact hsums
    · rw [List.mem_singleton.mp hrow]
      refine ⟨incoming, hi, rfl, ?_⟩
      have hnone : s.returned.filter (·.identityRef = incoming.identityRef) = [] := by
        rw [List.filter_eq_nil_iff]
        intro p hp heq
        obtain ⟨row', hrow', hrow''⟩ := hs.kept p hp
        exact hidentity row' hrow' (hrow''.trans (by simpa using heq))
      rw [List.filter_append, hnone, List.nil_append, List.filter_cons_of_pos (by simp), List.filter_nil]
      exact .single hi
  · intro p hp
    rcases List.mem_append.mp hp with hp | hp
    · obtain ⟨row, hrow, heq⟩ := hs.kept p hp
      exact ⟨row, List.mem_append_left _ hrow, heq⟩
    · rw [List.mem_singleton.mp hp]
      exact ⟨of incoming, by simp, rfl⟩

theorem DiscoveryOK.replace (hs : DiscoveryOK s) (he : existing.Checked)
    (hi : incoming.Checked) (hsame : existing.identityRef = incoming.identityRef) (hmerge : MergeOf existing incoming merged)
    (hcurrent : s.candidate? existing.candidateId = some (of existing))
    (hfirst : TimesAgree existing.firstSeen incoming.firstSeen) (hlast : TimesAgree existing.lastSeen incoming.lastSeen)
    (h : s.replace merged = .ok s') : DiscoveryOK { s' with returned := s'.returned ++ [incoming] } := by
  simp only [DiscoveryStore.replace, bind_ok, require_ok, pure_ok, exists_const] at h
  obtain ⟨-, rfl⟩ := h
  have hthere : of existing ∈ s.candidates := List.mem_of_find?_eq_some hcurrent
  have hids : (s.candidates.map fun row =>
      if row.candidateId = merged.candidateId ∧ row.identityRef = merged.identityRef then of merged else row).map
        (·.candidateId) = s.candidates.map (·.candidateId) := by
    rw [List.map_map]
    refine List.map_congr_left fun row _ => ?_
    show (if _ then _ else _ : CandidateRow).candidateId = row.candidateId
    split
    · rename_i heq
      exact heq.1.symm
    · rfl
  have hidentities : (s.candidates.map fun row =>
      if row.candidateId = merged.candidateId ∧ row.identityRef = merged.identityRef then of merged else row).map
        (·.identityRef) = s.candidates.map (·.identityRef) := by
    rw [List.map_map]
    refine List.map_congr_left fun row _ => ?_
    show (if _ then _ else _ : CandidateRow).identityRef = row.identityRef
    split
    · rename_i heq
      exact heq.2.symm
    · rfl
  refine ⟨?_, by rw [hids]; exact hs.ids, by rw [hidentities]; exact hs.identities, ?_, hs.assetIds, hs.hosts, hs.commits,
    hs.receipts⟩
  · intro row hrow
    obtain ⟨row₀, hrow₀, rfl⟩ := List.mem_map.mp hrow
    obtain ⟨c, hc, hof, hsums⟩ := hs.rows row₀ hrow₀
    by_cases heq : row₀.candidateId = merged.candidateId ∧ row₀.identityRef = merged.identityRef
    · rw [if_pos heq]
      have hrow₁ : row₀ = of existing := by
        refine List.inj_on_of_nodup_map hs.ids hrow₀ hthere ?_
        exact heq.1.trans hmerge.candidateId
      have hce : c = existing := by
        have hread := read_of hc
        rw [← hof, hrow₁, read_of he] at hread
        exact (Except.ok.inj hread).symm
      subst hce
      refine ⟨merged, hmerge.checked, rfl, ?_⟩
      rw [hmerge.identityRef, List.filter_append, List.filter_cons_of_pos (by simpa using hsame.symm), List.filter_nil]
      exact hsums.merge hi hmerge hfirst hlast
    · rw [if_neg heq]
      refine ⟨c, hc, hof, ?_⟩
      have hne : incoming.identityRef ≠ c.identityRef := by
        intro hci
        have hrow₁ : row₀ = of existing := by
          refine List.inj_on_of_nodup_map hs.identities hrow₀ hthere ?_
          rw [hof]
          exact hci.symm.trans hsame.symm
        refine heq ⟨?_, ?_⟩
        · rw [hrow₁, hmerge.candidateId]
          rfl
        · rw [hrow₁, hmerge.identityRef]
          rfl
      rw [List.filter_append, List.filter_cons_of_neg (by simpa using hne), List.filter_nil, List.append_nil]
      exact hsums
  · intro p hp
    have hrows : ∀ ref, (∃ row ∈ s.candidates, row.identityRef = ref) → ∃ row ∈ s.candidates.map fun row =>
        if row.candidateId = merged.candidateId ∧ row.identityRef = merged.identityRef then of merged else row,
          row.identityRef = ref := by
      rintro ref ⟨row, hrow, heq⟩
      refine ⟨_, List.mem_map.mpr ⟨row, hrow, rfl⟩, ?_⟩
      split
      · rename_i hrow'
        exact hrow'.2.symm.trans heq
      · exact heq
    rcases List.mem_append.mp hp with hp | hp
    · exact hrows _ (hs.kept p hp)
    · rw [List.mem_singleton.mp hp]
      exact hrows _ ⟨_, hthere, hsame⟩

omit [PyTime] in
theorem digestText_fingerprint (c : DiscoveryCandidate) (fieldName : String) {t : String}
    (h : digestText c.fingerprint fieldName = .ok t) : t = c.fingerprint := by
  have hre : sha256Re c.fingerprint = true := sha256Re_hashText _
  simp only [digestText, bind_ok, require_ok, pure_ok, exists_const] at h
  rw [← h.2, strip_of_sha256Re hre, lower_of_sha256Re hre]

theorem receipt_names (hc : e.candidate.Checked)
    (h : e.receipt = .ok receipt) :
    receipt.candidateId = e.candidate.candidateId ∧ receipt.candidateFingerprint = e.candidate.fingerprint := by
  simp only [Enrollment.receipt, DiscoveryEnrollmentReceipt.validate, bind_ok, require_ok, pure_ok, exists_const] at h
  obtain ⟨_, -, candidateId, hid, _, -, fingerprint, hfp, _, -, _, -, _, -, -, -, -, rfl⟩ := h
  exact ⟨Except.ok.inj (hid.symm.trans hc.candidateId), digestText_fingerprint _ _ hfp⟩

omit [PyTime] in
theorem mem_writeAssetRow (h : row ∈ (s.writeAssetRow asset).assets) :
    row = ⟨asset, asset.fingerprint⟩ ∨ (row ∈ s.assets ∧ row.asset.assetId ≠ asset.assetId) := by
  unfold writeAssetRow at h
  split at h
  · obtain ⟨row₀, hrow₀, rfl⟩ := List.mem_map.mp h
    split
    · exact .inl rfl
    · rename_i hne
      exact .inr ⟨hrow₀, hne⟩
  · rename_i hnone
    rcases List.mem_append.mp h with h | h
    · exact .inr ⟨h, fun heq => hnone ⟨row, h, heq⟩⟩
    · exact .inl (List.mem_singleton.mp h)

omit [PyTime] in
theorem nodup_writeAssetRow (h : (s.assets.map (·.asset.assetId)).Nodup) (asset : AssetInventoryRecord) :
    ((s.writeAssetRow asset).assets.map (·.asset.assetId)).Nodup := by
  unfold writeAssetRow
  split
  · have hids : (s.assets.map fun row => if row.asset.assetId = asset.assetId then ⟨asset, asset.fingerprint⟩ else row).map
        (·.asset.assetId) = s.assets.map (·.asset.assetId) := by
      rw [List.map_map]
      refine List.map_congr_left fun row _ => ?_
      show (if _ then _ else _ : AssetRow).asset.assetId = row.asset.assetId
      split
      · rename_i heq
        exact heq.symm
      · rfl
    rw [← hids] at h
    exact h
  · rename_i hnone
    exact Table.nodup_snoc h fun row hrow heq => hnone ⟨row, hrow, heq⟩

omit [PyTime] in
theorem writeAssetRow_keeps
    (hagree : ∀ row ∈ s.assets, row.asset.assetId = asset.assetId → row.assetFingerprint = asset.fingerprint)
    (hrow : row ∈ s.assets) : ∃ row' ∈ (s.writeAssetRow asset).assets,
      row'.asset.assetId = row.asset.assetId ∧ row'.assetFingerprint = row.assetFingerprint := by
  unfold writeAssetRow
  split
  · refine ⟨_, List.mem_map.mpr ⟨row, hrow, rfl⟩, ?_⟩
    split
    · rename_i heq
      exact ⟨heq.symm, (hagree row hrow heq).symm⟩
    · exact ⟨rfl, rfl⟩
  · exact ⟨row, List.mem_append_left _ hrow, rfl, rfl⟩

/-- What an enrollment has checked still holds. -/
structure StillHolds (s : DiscoveryStore) (e : Enrollment) : Prop where
  candidate : (s.candidate? e.candidate.candidateId).map (·.candidateFingerprint) = some e.candidate.fingerprint
  asset : ∀ row ∈ s.assets, row.asset.assetId = e.approved.asset.assetId → row.assetFingerprint = e.approved.asset.fingerprint
  host : ∀ row ∈ s.assets, row.asset.managementHost = e.approved.asset.managementHost →
    row.asset.assetId = e.approved.asset.assetId

omit [PyTime] in
theorem insertReceipt_ok {r : DiscoveryEnrollmentReceipt} (h : s.insertReceipt r = .ok s') :
    s' = { s with receipts := s.receipts ++ [r]
                  commits := s.commits ++ [(r, (s.candidate? r.candidateId).map (·.candidateFingerprint))] } := by
  simp only [insertReceipt, bind_ok, require_ok, pure_ok, exists_const] at h
  exact h.2.2.symm

omit [PyTime] in
theorem writeAssetRow_frame (asset : AssetInventoryRecord) : (s.writeAssetRow asset).candidates = s.candidates ∧
    (s.writeAssetRow asset).receipts = s.receipts ∧ (s.writeAssetRow asset).returned = s.returned ∧
      (s.writeAssetRow asset).commits = s.commits := by
  unfold writeAssetRow
  split
  · exact ⟨rfl, rfl, rfl, rfl⟩
  · exact ⟨rfl, rfl, rfl, rfl⟩

theorem DiscoveryOK.enroll (hs : DiscoveryOK s)
    (hc : e.candidate.Checked) (hreceipt : e.receipt = .ok receipt) (hholds : StillHolds s e)
    (h : (s.writeAssetRow e.approved.asset).insertReceipt receipt = .ok s') : DiscoveryOK s' := by
  obtain ⟨hcandidates, hreceipts, hreturned, hcommits⟩ := writeAssetRow_frame (s := s) e.approved.asset
  rw [insertReceipt_ok h]
  refine ⟨?_, ?_, ?_, ?_, nodup_writeAssetRow hs.assetIds _, ?_, ?_, ?_⟩
  · rw [hcandidates, hreturned]
    exact hs.rows
  · rw [hcandidates]
    exact hs.ids
  · rw [hcandidates]
    exact hs.identities
  · rw [hcandidates, hreturned]
    exact hs.kept
  · intro row hrow row' hrow' hhost
    rcases mem_writeAssetRow hrow with rfl | ⟨hrow, -⟩
    · rcases mem_writeAssetRow hrow' with rfl | ⟨hrow', -⟩
      · rfl
      · exact (hholds.host row' hrow' hhost.symm).symm
    · rcases mem_writeAssetRow hrow' with rfl | ⟨hrow', -⟩
      · exact hholds.host row hrow hhost
      · exact hs.hosts row hrow row' hrow' hhost
  · intro entry hentry
    rw [hcommits] at hentry
    rcases List.mem_append.mp hentry with hentry | hentry
    · exact hs.commits entry hentry
    · obtain ⟨hid, hfp⟩ := receipt_names hc hreceipt
      have hsame : (s.writeAssetRow e.approved.asset).candidate? = s.candidate? := by
        funext id
        rw [candidate?, hcandidates]
        rfl
      rw [List.mem_singleton.mp hentry, hsame, hid, hfp]
      exact hholds.candidate
  · rw [hreceipts, hcommits, hs.receipts, List.map_append]
    rfl

/-! ## Runs -/

/-- The evidence of two puts of one identity is disjoint. -/
def DisjointEvidence (request request' : DiscoveryRequest) : Prop :=
  ∀ p p', FromPut request p → FromPut request' p' → p.identityRef = p'.identityRef → p.evidenceRefs.Disjoint p'.evidenceRefs

/-- A put that starts brings evidence that no put before it brought for its identity. -/
def FreshEvidence (w : World DiscoveryStore DiscoveryCall) : Event DiscoveryRequest Unit → Prop
  | .start request => ∀ c ∈ w.calls, DisjointEvidence c.request request
  | .move _ _ => True

/-- No two candidates have one fingerprint; a put writes over the candidate that it read, whose times stand to the put's as
their texts do; what an enrollment has checked still holds when it writes. -/
def Undisturbed (w : World DiscoveryStore DiscoveryCall) : Event DiscoveryRequest Unit → Prop
  | .start _ => True
  | .move i _ => ∀ c, w.calls[i]? = some c → match c.phase with
    | .replayed existing incoming => existing = incoming
    | .replacing existing incoming _ => w.shared.candidate? existing.candidateId = some (CandidateRow.of existing) ∧
        TimesAgree existing.firstSeen incoming.firstSeen ∧ TimesAgree existing.lastSeen incoming.lastSeen
    | .writing e _ => StillHolds w.shared e
    | _ => True

/-- The puts that returned are those of calls that are over. -/
def Sourced (w : World DiscoveryStore DiscoveryCall) : Prop :=
  ∀ p ∈ w.shared.returned, ∃ (i : Nat) (c : DiscoveryCall), w.calls[i]? = some c ∧ FromPut c.request p ∧
    ∃ result, c.phase = .done result

/-- The evidence of any two calls is disjoint. -/
def Apart (w : World DiscoveryStore DiscoveryCall) : Prop :=
  ∀ (i j : Nat) (c c' : DiscoveryCall), i ≠ j → w.calls[i]? = some c → w.calls[j]? = some c' →
    DisjointEvidence c.request c'.request

/-- What holds all along a run. -/
structure DiscoveryInv (w : World DiscoveryStore DiscoveryCall) : Prop where
  holds : Program.Holds DiscoveryOK DiscoveryCallOK w
  sourced : Sourced w
  apart : Apart w

theorem DisjointEvidence.symm {request' : DiscoveryRequest} (h : DisjointEvidence request request') :
    DisjointEvidence request' request := by
  intro p p' hp hp' hsame r hr hr'
  exact h p' p hp' hp hsame.symm hr' hr

theorem DiscoveryMove.returned (h : DiscoveryMove s c s' phase) : s.returned ⊆ s'.returned := by
  cases h with
  | quiet _ _ => exact fun _ h => h
  | inserted incoming _ put =>
    simp only [DiscoveryStore.insert, bind_ok, require_ok, pure_ok, exists_const] at put
    obtain ⟨-, -, rfl⟩ := put
    exact List.subset_append_left _ _
  | replayed existing incoming _ => exact List.subset_append_left _ _
  | replaced existing incoming merged _ put =>
    simp only [DiscoveryStore.replace, bind_ok, require_ok, pure_ok, exists_const] at put
    obtain ⟨-, rfl⟩ := put
    exact List.subset_append_left _ _
  | enrolled e receipt _ put =>
    rw [insertReceipt_ok put]
    exact fun _ h => by rwa [← (writeAssetRow_frame e.approved.asset).2.2.1] at h

theorem DiscoveryCallOK.mono (hsub : s.returned ⊆ s'.returned) (h : DiscoveryCallOK s c) : DiscoveryCallOK s' c := by
  obtain ⟨request, phase⟩ := c
  cases phase with
  | replayed existing incoming =>
    obtain ⟨hi, hfrom, hevidence⟩ := h
    refine ⟨hi, hfrom, fun r hr => ?_⟩
    obtain ⟨p, hp, hpr⟩ := hevidence r hr
    exact ⟨p, hsub hp, hpr⟩
  | _ => exact h

variable {w : World DiscoveryStore DiscoveryCall} {i : Nat}

theorem not_replayed (hw : DiscoveryInv w) (hget : w.calls[i]? = some c)
    (hphase : c.phase = .replayed existing incoming) : existing ≠ incoming := by
  intro heq
  subst heq
  have hc := hw.holds.calls c (List.mem_of_getElem? hget)
  rw [DiscoveryCallOK, hphase] at hc
  obtain ⟨hchecked, hfrom, hevidence⟩ := hc
  obtain ⟨r, hr⟩ := List.exists_mem_of_ne_nil _ hchecked.evidenceBound.1
  obtain ⟨p, hp, hidentity, hrp⟩ := hevidence r hr
  obtain ⟨j, c', hget', hfrom', result, hdone⟩ := hw.sourced p hp
  have hne : j ≠ i := by
    intro hji
    rw [hji, hget] at hget'
    cases hget'
    rw [hphase] at hdone
    cases hdone
  exact hw.apart j i c' c hne hget' hget p existing hfrom' hfrom hidentity hrp hr

theorem DiscoveryMove.ok (hw : DiscoveryInv w) (hget : w.calls[i]? = some c)
    (hcond : Undisturbed w (.move i ())) (h : DiscoveryMove w.shared c s' phase) : DiscoveryOK s' := by
  have hs := hw.holds.shared
  have hc := hw.holds.calls c (List.mem_of_getElem? hget)
  have hcond := hcond c hget
  cases h with
  | quiet _ _ => exact hs
  | inserted incoming start put =>
    rw [DiscoveryCallOK, start] at hc
    exact hs.insert hc.1 put
  | replayed existing incoming start =>
    rw [start] at hcond
    exact absurd hcond (not_replayed hw hget start)
  | replaced existing incoming merged start put =>
    rw [start] at hcond
    rw [DiscoveryCallOK, start] at hc
    obtain ⟨he, hi, -, hsame, hmerge⟩ := hc
    obtain ⟨hcurrent, hfirst, hlast⟩ := hcond
    exact hs.replace he hi hsame hmerge hcurrent hfirst hlast put
  | enrolled e receipt start put =>
    rw [start] at hcond
    rw [DiscoveryCallOK, start] at hc
    exact hs.enroll hc.1 hc.2 hcond put

theorem DiscoveryMove.sourced (hc : DiscoveryCallOK s c) (h : DiscoveryMove s c s' phase) :
    ∀ p ∈ s'.returned, p ∈ s.returned ∨ (FromPut c.request p ∧ ∃ result, phase = .done result) := by
  cases h with
  | quiet _ _ => exact fun p hp => .inl hp
  | inserted incoming start put =>
    rw [DiscoveryCallOK, start] at hc
    simp only [DiscoveryStore.insert, bind_ok, require_ok, pure_ok, exists_const] at put
    obtain ⟨-, -, rfl⟩ := put
    intro p hp
    rcases List.mem_append.mp hp with hp | hp
    · exact .inl hp
    · rw [List.mem_singleton.mp hp]
      exact .inr ⟨hc.2, _, rfl⟩
  | replayed existing incoming start =>
    rw [DiscoveryCallOK, start] at hc
    intro p hp
    rcases List.mem_append.mp hp with hp | hp
    · exact .inl hp
    · rw [List.mem_singleton.mp hp]
      exact .inr ⟨hc.2.1, _, rfl⟩
  | replaced existing incoming merged start put =>
    rw [DiscoveryCallOK, start] at hc
    simp only [DiscoveryStore.replace, bind_ok, require_ok, pure_ok, exists_const] at put
    obtain ⟨-, rfl⟩ := put
    intro p hp
    rcases List.mem_append.mp hp with hp | hp
    · exact .inl hp
    · rw [List.mem_singleton.mp hp]
      exact .inr ⟨hc.2.2.1, _, rfl⟩
  | enrolled e receipt start put =>
    rw [insertReceipt_ok put]
    exact fun p hp => .inl (by rwa [← (writeAssetRow_frame e.approved.asset).2.2.1])

theorem DiscoveryMove.callOK (h : DiscoveryMove s c s' phase) :
    DiscoveryCallOK s' { c with phase } := by
  cases h with
  | quiet ok _ => exact ok
  | _ => exact trivial

theorem DiscoveryMove.stays_done (h : DiscoveryMove s c s' phase) {result : Except Raised DiscoveryResult}
    (hdone : c.phase = .done result) : phase = .done result := by
  cases h with
  | quiet _ stays => exact stays result hdone
  | inserted incoming start _ =>
    rw [start] at hdone
    cases hdone
  | replayed existing incoming start =>
    rw [start] at hdone
    cases hdone
  | replaced existing incoming merged start _ =>
    rw [start] at hdone
    cases hdone
  | enrolled e receipt start _ =>
    rw [start] at hdone
    cases hdone

omit [PyTime] in
theorem getElem?_set_request {j : Nat} (hget : w.calls[i]? = some c)
    (h : (w.calls.set i { c with phase })[j]? = some c') :
    ∃ c₀, w.calls[j]? = some c₀ ∧ c₀.request = c'.request ∧ (j ≠ i → c₀ = c') := by
  rw [List.getElem?_set] at h
  split at h
  · rename_i heq
    subst heq
    split at h
    · cases h
      exact ⟨c, hget, rfl, fun hne => absurd rfl hne⟩
    · cases h
  · exact ⟨c', h, rfl, fun _ => rfl⟩

theorem DiscoveryInv.start (hw : DiscoveryInv w) (hfresh : FreshEvidence w (.start request)) :
    DiscoveryInv (discoveryProgram.after w (.start request)) := by
  refine ⟨hw.holds.after_start request trivial, ?_, ?_⟩
  · intro p hp
    obtain ⟨j, c, hget, hc⟩ := hw.sourced p hp
    refine ⟨j, c, ?_, hc⟩
    show (w.calls ++ [_])[j]? = some c
    rw [List.getElem?_append_left (List.getElem?_eq_some_iff.mp hget).1]
    exact hget
  · have hold : ∀ {j : Nat} {c : DiscoveryCall}, (w.calls ++ [⟨request, .ready⟩])[j]? = some c →
        w.calls[j]? = some c ∨ (j = w.calls.length ∧ c.request = request) := by
      intro j c hget
      rw [List.getElem?_append] at hget
      split at hget
      · exact .inl hget
      · rename_i hlt
        obtain ⟨hlt', hc⟩ := List.getElem?_eq_some_iff.mp hget
        simp only [List.length_singleton] at hlt'
        refine .inr ⟨by omega, ?_⟩
        rw [List.getElem_singleton] at hc
        rw [← hc]
    intro j k c c' hne hget hget'
    rcases hold hget with hj | ⟨hj, hrequest⟩
    · rcases hold hget' with hk | ⟨-, hrequest'⟩
      · exact hw.apart j k c c' hne hj hk
      · rw [hrequest']
        exact hfresh c (List.mem_of_getElem? hj)
    · rcases hold hget' with hk | ⟨hk, -⟩
      · rw [hrequest]
        exact (hfresh c' (List.mem_of_getElem? hk)).symm
      · exact absurd (hj.trans hk.symm) hne

theorem DiscoveryInv.after (hw : DiscoveryInv w) {e : Event DiscoveryRequest Unit} (hfresh : FreshEvidence w e)
    (hcond : Undisturbed w e) : DiscoveryInv (discoveryProgram.after w e) := by
  cases e with
  | start request => exact hw.start hfresh
  | move i env =>
    cases hget : w.calls[i]? with
    | none =>
      rw [Program.after_move_none hget]
      exact hw
    | some c =>
      have hc := hw.holds.calls c (List.mem_of_getElem? hget)
      obtain ⟨phase, hphase, hmove⟩ := discoveryAct_move hw.holds.shared (show DiscoveryCallOK _ ⟨c.request, c.phase⟩ from hc)
      have hlt := (List.getElem?_eq_some_iff.mp hget).1
      have hafter : discoveryProgram.after w (.move i env) =
          ⟨(discoveryAct () w.shared c).1, w.calls.set i { c with phase }⟩ := by
        rw [Program.after_move hget, ← hphase]
        rfl
      refine ⟨Program.Holds.of_step hget (hmove.ok hw hget hcond) ?_ ?_, ?_, ?_⟩
      · show DiscoveryCallOK _ (discoveryAct () w.shared c).2
        rw [hphase]
        exact hmove.callOK
      · exact fun j c' _ hget' => (hw.holds.calls c' (List.mem_of_getElem? hget')).mono hmove.returned
      · intro p hp
        rw [hafter] at hp ⊢
        have hself : (w.calls.set i { c with phase })[i]? = some { c with phase } := by
          rw [List.getElem?_set_self hlt]
        rcases hmove.sourced hc p hp with hp | ⟨hfrom, hdone⟩
        · obtain ⟨j, c', hget', hfrom, result, hdone⟩ := hw.sourced p hp
          by_cases hji : j = i
          · subst hji
            rw [hget] at hget'
            cases hget'
            exact ⟨j, _, hself, hfrom, result, hmove.stays_done hdone⟩
          · refine ⟨j, c', ?_, hfrom, result, hdone⟩
            show (w.calls.set i { c with phase })[j]? = some c'
            rw [List.getElem?_set_ne fun h => hji h.symm]
            exact hget'
        · exact ⟨i, _, hself, hfrom, hdone⟩
      · intro j k c₁ c₂ hne hget₁ hget₂
        rw [hafter] at hget₁ hget₂
        obtain ⟨d₁, hd₁, hr₁, -⟩ := getElem?_set_request hget hget₁
        obtain ⟨d₂, hd₂, hr₂, -⟩ := getElem?_set_request hget hget₂
        rw [← hr₁, ← hr₂]
        exact hw.apart j k d₁ d₂ hne hd₁ hd₂

/-! ## The laws -/

/-- The stored candidates are the sums of the puts that returned, none of which is missing. -/
structure Accounted (s : DiscoveryStore) : Prop where
  sums : ∀ row ∈ s.candidates, ∃ c, row.read = .ok c ∧ Sums (s.returned.filter (·.identityRef = row.identityRef)) c
  kept : ∀ p ∈ s.returned, ∃ row ∈ s.candidates, row.identityRef = p.identityRef

/-- A host is of one asset at most, and a receipt names the fingerprint that was stored when it was committed. -/
structure Enrolled (s : DiscoveryStore) : Prop where
  owners : ∀ row ∈ s.assets, ∀ row' ∈ s.assets, row.asset.managementHost = row'.asset.managementHost → row = row'
  receipts : ∀ r ∈ s.receipts, (r, some r.candidateFingerprint) ∈ s.commits

/-- An asset that is approved keeps its definition. -/
def KeepsAssets (w : World DiscoveryStore DiscoveryCall) (e : Event DiscoveryRequest Unit) : Prop :=
  ∀ row ∈ w.shared.assets, ∃ row' ∈ (discoveryProgram.after w e).shared.assets,
    row'.asset.assetId = row.asset.assetId ∧ row'.assetFingerprint = row.assetFingerprint

theorem DiscoveryOK.laws (hs : DiscoveryOK s) : Accounted s ∧ Enrolled s := by
  refine ⟨⟨?_, hs.kept⟩, ?_, ?_⟩
  · intro row hrow
    obtain ⟨c, hc, rfl, hsums⟩ := hs.rows row hrow
    exact ⟨c, read_of hc, hsums⟩
  · intro row hrow row' hrow' hhost
    exact List.inj_on_of_nodup_map hs.assetIds hrow hrow' (hs.hosts row hrow row' hrow' hhost)
  · intro r hr
    rw [hs.receipts] at hr
    obtain ⟨⟨r', stored⟩, hentry, rfl⟩ := List.mem_map.mp hr
    rw [← show stored = some r'.candidateFingerprint from hs.commits _ hentry]
    exact hentry

theorem DiscoveryInv.keepsAssets (hw : DiscoveryInv w) {e : Event DiscoveryRequest Unit} (hcond : Undisturbed w e) :
    KeepsAssets w e := by
  intro row hrow
  cases e with
  | start request => exact ⟨row, hrow, rfl, rfl⟩
  | move i env =>
    cases hget : w.calls[i]? with
    | none =>
      rw [Program.after_move_none hget]
      exact ⟨row, hrow, rfl, rfl⟩
    | some c =>
      have hc := hw.holds.calls c (List.mem_of_getElem? hget)
      obtain ⟨phase, -, hmove⟩ := discoveryAct_move hw.holds.shared (show DiscoveryCallOK _ ⟨c.request, c.phase⟩ from hc)
      rw [Program.after_move hget]
      change ∃ row' ∈ (discoveryAct () w.shared c).1.assets, _
      have hcond := hcond c hget
      generalize (discoveryAct () w.shared c).1 = s' at hmove
      cases hmove with
      | quiet _ _ => exact ⟨row, hrow, rfl, rfl⟩
      | inserted incoming _ put =>
        simp only [DiscoveryStore.insert, bind_ok, require_ok, pure_ok, exists_const] at put
        obtain ⟨-, -, rfl⟩ := put
        exact ⟨row, hrow, rfl, rfl⟩
      | replayed existing incoming _ => exact ⟨row, hrow, rfl, rfl⟩
      | replaced existing incoming merged _ put =>
        simp only [DiscoveryStore.replace, bind_ok, require_ok, pure_ok, exists_const] at put
        obtain ⟨-, rfl⟩ := put
        exact ⟨row, hrow, rfl, rfl⟩
      | enrolled e receipt start put =>
        rw [start] at hcond
        rw [insertReceipt_ok put]
        exact writeAssetRow_keeps hcond.asset hrow

/-- A database with approved assets and no candidates. -/
def freshDiscovery (assets : List AssetRow) : World DiscoveryStore DiscoveryCall := ⟨{ assets }, []⟩

/-- No discovery evidence is lost and no host is enrolled twice, in every run of which each step meets the condition. -/
theorem discovery_lawful (assets : List AssetRow) (hids : (assets.map (·.asset.assetId)).Nodup)
    (hhosts : ∀ row ∈ assets, ∀ row' ∈ assets, row.asset.managementHost = row'.asset.managementHost → row = row')
    (events : List (Event DiscoveryRequest Unit)) (hfresh : discoveryProgram.Each FreshEvidence (freshDiscovery assets) events)
    (hcond : discoveryProgram.Each Undisturbed (freshDiscovery assets) events) :
    discoveryProgram.Always (fun w => Accounted w.shared ∧ Enrolled w.shared) (freshDiscovery assets) events ∧
      discoveryProgram.Each KeepsAssets (freshDiscovery assets) events := by
  have hstart : DiscoveryInv (freshDiscovery assets) := by
    refine ⟨.init ⟨?_, .nil, .nil, ?_, hids, ?_, ?_, rfl⟩, ?_, ?_⟩
    · exact fun row hrow => by cases hrow
    · exact fun p hp => by cases hp
    · exact fun row hrow row' hrow' hhost => congrArg (·.asset.assetId) (hhosts row hrow row' hrow' hhost)
    · exact fun e he => by cases he
    · exact fun p hp => by cases hp
    · exact fun j k c c' _ hget => by cases hget
  have hboth := Program.each_and hfresh hcond
  have hstep : ∀ w e, DiscoveryInv w → FreshEvidence w e ∧ Undisturbed w e → DiscoveryInv (discoveryProgram.after w e) :=
    fun _ _ hw hq => hw.after hq.1 hq.2
  constructor
  · exact (Program.always_of_each hstep hstart hboth).mono fun _ hw => hw.holds.shared.laws
  · exact Program.each_of_each hstep (fun _ _ hw hq => hw.keepsAssets hq.2) hstart hboth

end Candidates

/-! ## Puts of one identity -/

section Puts

variable [PyTime] {a b c : DiscoveryCandidate} {s : DiscoveryStore} {calls : List DiscoveryCall} {i : Nat}

/-- Two candidates of one identity whose merge is within the bounds. -/
structure Mergeable (a b : DiscoveryCandidate) : Prop where
  left : a.Checked
  right : b.Checked
  candidateId : a.candidateId = b.candidateId
  identityRef : a.identityRef = b.identityRef
  fingerprint : a.fingerprint ≠ b.fingerprint
  disjoint : a.evidenceRefs.Disjoint b.evidenceRefs
  count : a.observationCount + b.observationCount ≤ maxObservationCount
  provenance : (dedup (a.provenanceRefs ++ b.provenanceRefs)).length ≤ maxCandidateProvenanceRefs
  evidence : (dedup (a.evidenceRefs ++ b.evidenceRefs)).length ≤ maxCandidateEvidenceRefs
  ordered : precedes (max a.lastSeen b.lastSeen) (min a.firstSeen b.firstSeen) = false

omit [PyTime] in
theorem digest_of_candidateRef (h : candidateRef? ref = some (kind, digest)) :
    (split ':' ref).getLastD "" = digest := by
  unfold candidateRef? at h
  split at h
  · rename_i kind' digest' hsplit
    split at h
    · cases h
      rw [hsplit]
      rfl
    · cases h
  · cases h

theorem Mergeable.merges (h : Mergeable a b) : ∃ merged, mergeMembers a.identityRef a [b] = .ok merged := by
  obtain ⟨kind, digest, href, hid⟩ := h.left.derived
  have hlast : candidateIdOf ((split ':' a.identityRef).getLastD "") = a.candidateId := by
    rw [digest_of_candidateRef href, hid]
  simp only [mergeMembers, DiscoveryCandidate.validate, bind_ok, require_ok, orRaise_ok, pure_ok, exists_const,
    List.map_cons, List.map_nil, List.sum_cons, List.sum_nil, Int.add_zero, List.flatMap_cons, List.flatMap_nil,
    List.append_nil, length_sorted, minText, maxText, List.foldl_cons, List.foldl_nil, hlast, h.left.identityRef]
  have hconfidence : 0 ≤ max a.confidenceBasisPoints b.confidenceBasisPoints ∧
      max a.confidenceBasisPoints b.confidenceBasisPoints ≤ 10000 := by
    have := h.left.confidence
    have := h.right.confidence
    omega
  have hcount : 1 ≤ a.observationCount + b.observationCount := by
    have := h.left.count.1
    have := h.right.count.1
    omega
  exact ⟨_, h.count, ⟨h.provenance, h.evidence⟩, _, h.left.candidateId, _, href, hid, _,
    normalizedTimestamp_min h.left.firstSeen h.right.firstSeen, _, normalizedTimestamp_max h.left.lastSeen h.right.lastSeen,
    h.ordered, ⟨hcount, h.count⟩, hconfidence, _, compactRefs_union h.left.provenance h.right.provenance, _,
    compactRefs_union h.left.evidence h.right.evidence,
    ⟨sorted_dedup_ne_nil (List.append_ne_nil_of_left_ne_nil h.left.provenanceBound.1 _),
    by rw [length_sorted]; exact h.provenance⟩,
    ⟨sorted_dedup_ne_nil (List.append_ne_nil_of_left_ne_nil h.left.evidenceBound.1 _), by rw [length_sorted]; exact h.evidence⟩,
    trivial, trivial, trivial, trivial, rfl⟩

theorem Mergeable.deduplicates (h : Mergeable a b) :
    ∃ merged, deduplicateDiscoveryCandidates [a, b] 2 1 = .ok [merged] ∧ MergeOf a b merged := by
  obtain ⟨merged, hmerged⟩ := h.merges
  refine ⟨merged, ?_, mergeMembers_two h.left h.right hmerged⟩
  have hone : dedup (([] ++ [a] ++ [b] : List DiscoveryCandidate).map (·.identityRef)) = [a.identityRef] := by
    simp [dedup, h.identityRef]
  have hfilter : ([] ++ [a] ++ [b] : List DiscoveryCandidate).filter (·.identityRef = a.identityRef) = [a, b] := by
    simp [h.identityRef]
  simp only [deduplicateDiscoveryCandidates, List.foldlM_cons, List.foldlM_nil, h.left.validate, h.right.validate, bind_ok,
    require_ok, pure_ok, exists_const, Except.ok.injEq, exists_eq_left']
  refine ⟨by decide, by decide, [] ++ [a] ++ [b], ⟨[] ++ [a], ⟨by simp, rfl⟩, _, ⟨by simp, rfl⟩, rfl⟩, ?_, ?_⟩
  · rw [hone]
    exact le_refl 1
  · rw [hone]
    simp only [sorted, List.insertionSort_cons, List.insertionSort_nil, List.orderedInsert_nil, List.mapM_cons, List.mapM_nil,
      hfilter, bind_ok, pure_ok]
    exact ⟨merged, hmerged, [], rfl, rfl⟩

theorem Mergeable.begins (h : Mergeable a b) (hs : s.candidate? a.candidateId = some (of a)) :
    ∃ merged, MergeOf a b merged ∧ beginPut b s = .ok (.replacing a b merged) := by
  obtain ⟨merged, hmerged, hmerge⟩ := h.deduplicates
  refine ⟨merged, hmerge, ?_⟩
  have hget : s.get b.candidateId = .ok (some a) := by
    rw [DiscoveryStore.get, ← h.candidateId, hs]
    exact congrArg (Except.map some) (read_of h.left)
  simp only [beginPut, bind_ok]
  refine ⟨b, h.right.validate, some a, hget, ?_⟩
  simp only [bind_ok, require_ok, exists_const]
  refine ⟨h.identityRef, ?_⟩
  rw [if_neg h.fingerprint]
  simp only [bind_ok, require_ok, orRaise_ok, pure_ok, exists_const]
  exact ⟨fun r hr hr' => h.disjoint hr hr', [merged], hmerged, merged, rfl, rfl⟩

/-! ### Runs of puts -/

def firstPut (a : DiscoveryCandidate) : List (Event DiscoveryRequest Unit) := [.start (.put a), .move 0 (), .move 0 ()]

def twoPuts (a b : DiscoveryCandidate) : List (Event DiscoveryRequest Unit) :=
  firstPut a ++ [.start (.put b), .move 1 (), .move 1 ()]

/-- Two puts read one candidate before either writes. -/
def lostUpdate (a b c : DiscoveryCandidate) : List (Event DiscoveryRequest Unit) :=
  firstPut a ++ [.start (.put b), .start (.put c), .move 1 (), .move 2 (), .move 1 (), .move 2 ()]

theorem after_act {w : World DiscoveryStore DiscoveryCall} {c : DiscoveryCall} {s' : DiscoveryStore}
    (hget : w.calls[i]? = some c) (hact : discoveryAct () w.shared c = (s', c')) :
    discoveryProgram.after w (.move i ()) = ⟨s', w.calls.set i c'⟩ := by
  rw [Program.after_move hget]
  show (⟨(discoveryAct () w.shared c).1, w.calls.set i (discoveryAct () w.shared c).2⟩ : World _ _) = _
  rw [hact]

def putDone (a result : DiscoveryCandidate) : DiscoveryCall := ⟨.put a, .done (.ok (.candidate result))⟩

/-- The store after the puts, which holds one candidate. -/
def storeOf (result : DiscoveryCandidate) (returned : List DiscoveryCandidate) : DiscoveryStore :=
  { candidates := [CandidateRow.of result], returned }

omit [PyTime] in
theorem storeOf_candidate? (a : DiscoveryCandidate) (returned : List DiscoveryCandidate) :
    (storeOf a returned).candidate? a.candidateId = some (of a) := by
  simp [storeOf, candidate?, of]

theorem act_begin (h : beginPut a s = .ok phase) :
    discoveryAct () s ⟨.put a, .ready⟩ = (s, ⟨.put a, phase⟩) := by
  show (s, (⟨.put a, DiscoveryPhase.orRaise (beginPut a s) id⟩ : DiscoveryCall)) = _
  rw [h]
  rfl

theorem firstPut_begins (ha : a.Checked) : beginPut a {} = .ok (.inserting a) := by
  simp only [beginPut, bind_ok]
  exact ⟨a, ha.validate, none, rfl, rfl⟩

theorem firstPut_after (ha : a.Checked) :
    discoveryProgram.after ⟨{}, [⟨.put a, .ready⟩]⟩ (.move 0 ()) = ⟨{}, [⟨.put a, .inserting a⟩]⟩ ∧
      discoveryProgram.after ⟨{}, [⟨.put a, .inserting a⟩]⟩ (.move 0 ()) = ⟨storeOf a [a], [putDone a a]⟩ :=
  ⟨after_act rfl (act_begin (firstPut_begins ha)), after_act rfl rfl⟩

theorem act_replacing {result : DiscoveryCandidate} {returned : List DiscoveryCandidate}
    (hid : result.candidateId = merged.candidateId) (hidentity : result.identityRef = merged.identityRef) :
    discoveryAct () (storeOf result returned) ⟨.put b, .replacing existing b merged⟩ =
      (storeOf merged (returned ++ [b]), putDone b merged) := by
  have hput : (storeOf result returned).replace merged = .ok (storeOf merged returned) := by
    simp only [DiscoveryStore.replace, bind_ok, require_ok, pure_ok, exists_const]
    refine ⟨⟨of result, by simp [storeOf], hid, hidentity⟩, ?_⟩
    simp [storeOf, of, hid, hidentity]
  simp only [discoveryAct, hput]
  rfl

theorem starts_after (s : DiscoveryStore) (calls : List DiscoveryCall) (b : DiscoveryCandidate) :
    discoveryProgram.after ⟨s, calls⟩ (.start (.put b)) = ⟨s, calls ++ [⟨.put b, .ready⟩]⟩ := rfl

theorem DisjointEvidence.of_puts (ha : a.Checked) (hb : b.Checked) (h : a.evidenceRefs.Disjoint b.evidenceRefs) :
    DisjointEvidence (.put a) (.put b) := by
  intro p p' hp hp' _
  obtain ⟨candidate, hrequest, hp⟩ := hp
  obtain ⟨candidate', hrequest', hp'⟩ := hp'
  have hca : a = candidate := DiscoveryRequest.put.inj hrequest
  have hcb : b = candidate' := DiscoveryRequest.put.inj hrequest'
  subst hca
  subst hcb
  have hpa : a = p := Except.ok.inj (ha.validate.symm.trans hp)
  have hpb : b = p' := Except.ok.inj (hb.validate.symm.trans hp')
  rw [← hpa, ← hpb]
  exact h

theorem lostUpdate_run (hb : Mergeable a b) (hc : Mergeable a c) (hbc : b.evidenceRefs.Disjoint c.evidenceRefs) :
    discoveryProgram.Each FreshEvidence (freshDiscovery []) (lostUpdate a b c) ∧
      ∃ merged, MergeOf a c merged ∧ (discoveryProgram.run (freshDiscovery []) (lostUpdate a b c)).shared =
        storeOf merged [a, b, c] := by
  obtain ⟨mb, hmb, hbeginb⟩ := hb.begins (storeOf_candidate? a [a])
  obtain ⟨mc, hmc, hbeginc⟩ := hc.begins (storeOf_candidate? a [a])
  obtain ⟨hfirst, hsecond⟩ := firstPut_after hb.left
  have h₁ : discoveryProgram.after ⟨storeOf a [a], [putDone a a, ⟨.put b, .ready⟩, ⟨.put c, .ready⟩]⟩ (.move 1 ()) =
      ⟨storeOf a [a], [putDone a a, ⟨.put b, .replacing a b mb⟩, ⟨.put c, .ready⟩]⟩ := after_act rfl (act_begin hbeginb)
  have h₂ : discoveryProgram.after ⟨storeOf a [a], [putDone a a, ⟨.put b, .replacing a b mb⟩, ⟨.put c, .ready⟩]⟩ (.move 2 ()) =
      ⟨storeOf a [a], [putDone a a, ⟨.put b, .replacing a b mb⟩, ⟨.put c, .replacing a c mc⟩]⟩ :=
    after_act rfl (act_begin hbeginc)
  have h₃ : discoveryProgram.after ⟨storeOf a [a], [putDone a a, ⟨.put b, .replacing a b mb⟩, ⟨.put c, .replacing a c mc⟩]⟩
      (.move 1 ()) = ⟨storeOf mb [a, b], [putDone a a, putDone b mb, ⟨.put c, .replacing a c mc⟩]⟩ :=
    after_act rfl (act_replacing hmb.candidateId.symm hmb.identityRef.symm)
  have h₄ : discoveryProgram.after ⟨storeOf mb [a, b], [putDone a a, putDone b mb, ⟨.put c, .replacing a c mc⟩]⟩ (.move 2 ()) =
      ⟨storeOf mc [a, b, c], [putDone a a, putDone b mb, putDone c mc]⟩ :=
    after_act rfl (act_replacing (hmb.candidateId.trans hmc.candidateId.symm) (hmb.identityRef.trans hmc.identityRef.symm))
  have hac := DisjointEvidence.of_puts hc.left hc.right hc.disjoint
  have hab := DisjointEvidence.of_puts hb.left hb.right hb.disjoint
  have hbc' := DisjointEvidence.of_puts hb.right hc.right hbc
  simp only [lostUpdate, firstPut, Program.Each, Program.run, List.cons_append, List.nil_append, List.foldl_cons,
    List.foldl_nil, freshDiscovery, starts_after, hfirst, hsecond, h₁, h₂, h₃, h₄]
  refine ⟨⟨by simp [FreshEvidence], trivial, trivial, ?_, ?_, trivial, trivial, trivial, trivial, trivial⟩, mc, hmc, rfl⟩
  · simpa [FreshEvidence, putDone] using hab
  · simpa [FreshEvidence, putDone] using ⟨hac, hbc'⟩

theorem twoPuts_run (h : Mergeable a b) (hfirst : TimesAgree a.firstSeen b.firstSeen) (hlast : TimesAgree a.lastSeen b.lastSeen) :
    discoveryProgram.Each FreshEvidence (freshDiscovery []) (twoPuts a b) ∧
      discoveryProgram.Each Undisturbed (freshDiscovery []) (twoPuts a b) := by
  obtain ⟨merged, hmerged, hbegin⟩ := h.begins (storeOf_candidate? a [a])
  obtain ⟨hfirst', hsecond⟩ := firstPut_after h.left
  have h₁ : discoveryProgram.after ⟨storeOf a [a], [putDone a a, ⟨.put b, .ready⟩]⟩ (.move 1 ()) =
      ⟨storeOf a [a], [putDone a a, ⟨.put b, .replacing a b merged⟩]⟩ := after_act rfl (act_begin hbegin)
  have hab := DisjointEvidence.of_puts h.left h.right h.disjoint
  simp only [twoPuts, firstPut, Program.Each, List.cons_append, List.nil_append, freshDiscovery, starts_after, hfirst',
    hsecond, h₁]
  refine ⟨⟨by simp [FreshEvidence], trivial, trivial, ?_, trivial, trivial, trivial⟩, trivial, ?_, ?_, trivial, ?_, ?_, trivial⟩
  · simpa [FreshEvidence, putDone] using hab
  · intro c hc
    cases hc
    trivial
  · intro c hc
    cases hc
    trivial
  · intro c hc
    cases hc
    trivial
  · intro c hc
    cases hc
    exact ⟨storeOf_candidate? a [a], hfirst, hlast⟩

end Puts

/-! ### The samples -/

namespace DiscoverySample

/-- A candidate of one device, with one reference of evidence. -/
def sighting (evidence : String) : DiscoveryCandidate where
  candidateId := "candidate-aaaaaaaaaaaaaaaaaaaaaaaa"
  identityRef := "candidate:device:sha256:aaaaaaaaaaaaaaaaaaaaaaaaaaaaaaaaaaaaaaaaaaaaaaaaaaaaaaaaaaaaaaaa"
  firstSeen := "2026-01-01T00:00:00Z"
  lastSeen := "2026-01-01T00:00:00Z"
  observationCount := 1
  confidenceBasisPoints := 5000
  provenanceRefs := ["collector:local"]
  evidenceRefs := [evidence]

theorem sighting_checked (h : compact evidence "evidence_ref" 256 = .ok evidence) :
    @DiscoveryCandidate.Checked sampleTime (sighting evidence) := by
  let : PyTime := sampleTime
  have hid : compact (sighting "").candidateId "candidate_id" 128 = .ok (sighting "").candidateId := by decide
  have hidentity : lower (strip (sighting "").identityRef) = (sighting "").identityRef := by decide
  have href : candidateRef? (sighting "").identityRef =
      some ("device", "aaaaaaaaaaaaaaaaaaaaaaaaaaaaaaaaaaaaaaaaaaaaaaaaaaaaaaaaaaaaaaaa") := by decide
  have hprovenance : compactRefs ["collector:local"] "provenance_ref" = .ok ["collector:local"] := by decide
  exact {
    candidateId := hid
    identityRef := hidentity
    derived := ⟨_, _, href, by simp only [sighting]; decide⟩
    firstSeen := normalizedTimestamp_sample _
    lastSeen := normalizedTimestamp_sample _
    ordered := by simp only [sighting]; decide
    count := by simp only [sighting]; decide
    confidence := by simp only [sighting]; decide
    provenance := hprovenance
    evidence := compactRefs_self rfl (by simpa [sighting] using h)
    provenanceBound := by simp [sighting, maxCandidateProvenanceRefs]
    evidenceBound := by simp [sighting, maxCandidateEvidenceRefs]
    trustState := rfl
    inventoryStatus := rfl
    authority := rfl
    schemaVersion := rfl }

theorem sighting_mergeable {evidence' : String} (h : compact evidence "evidence_ref" 256 = .ok evidence)
    (h' : compact evidence' "evidence_ref" 256 = .ok evidence') (hne : evidence ≠ evidence')
    (hfingerprint : (sighting evidence).fingerprint ≠ (sighting evidence').fingerprint) :
    @Mergeable sampleTime (sighting evidence) (sighting evidence') := by
  let : PyTime := sampleTime
  exact {
    left := sighting_checked h
    right := sighting_checked h'
    candidateId := rfl
    identityRef := rfl
    fingerprint := hfingerprint
    disjoint := by simpa [sighting] using hne.symm
    count := by simp only [sighting]; decide
    provenance := by simp only [sighting]; decide
    evidence := by simp [sighting, dedup, hne.symm, maxCandidateEvidenceRefs]
    ordered := by simp only [sighting, max_self, min_self]; decide }

theorem mergeable_b : @Mergeable sampleTime (sighting "evidence-a") (sighting "evidence-b") :=
  sighting_mergeable (by decide) (by decide) (by decide) (hashText_ne (by decide +kernel))

theorem mergeable_c : @Mergeable sampleTime (sighting "evidence-a") (sighting "evidence-c") :=
  sighting_mergeable (by decide) (by decide) (by decide) (hashText_ne (by decide +kernel))

theorem times_agree : @TimesAgree sampleTime "2026-01-01T00:00:00Z" "2026-01-01T00:00:00Z" := by
  intro x y hx hy
  rw [hx] at hy
  cases hy
  exact ⟨fun _ => le_refl x, fun _ => le_refl _⟩

theorem discovery_lawful_twoPuts :
    (@discoveryProgram sampleTime).Always (fun w => @Accounted sampleTime w.shared ∧ Enrolled w.shared)
        (freshDiscovery []) (twoPuts (sighting "evidence-a") (sighting "evidence-b")) ∧
      (@discoveryProgram sampleTime).Each (@KeepsAssets sampleTime) (freshDiscovery [])
        (twoPuts (sighting "evidence-a") (sighting "evidence-b")) :=
  have h := @twoPuts_run sampleTime _ _ mergeable_b times_agree times_agree
  @discovery_lawful sampleTime [] List.nodup_nil (fun _ hrow => by cases hrow) _ h.1 h.2

/-- Two puts that both read the candidate of a third leave the evidence of one of them out. -/
theorem lost_evidence :
    (@discoveryProgram sampleTime).Each (@FreshEvidence sampleTime) (freshDiscovery [])
        (lostUpdate (sighting "evidence-a") (sighting "evidence-b") (sighting "evidence-c")) ∧
      ¬ (@discoveryProgram sampleTime).Always (fun w => @Accounted sampleTime w.shared ∧ Enrolled w.shared)
        (freshDiscovery []) (lostUpdate (sighting "evidence-a") (sighting "evidence-b") (sighting "evidence-c")) := by
  let : PyTime := sampleTime
  obtain ⟨hfresh, merged, hmerge, hrun⟩ := lostUpdate_run mergeable_b mergeable_c (by simp [sighting])
  refine ⟨hfresh, ?_⟩
  intro halways
  have hlast := halways.last.1
  rw [hrun] at hlast
  obtain ⟨c, hread, hsums⟩ := hlast.sums (CandidateRow.of merged) (List.mem_singleton_self _)
  rw [read_of hmerge.checked] at hread
  cases hread
  have hcount := hsums.count
  rw [hmerge.count] at hcount
  have hall : (storeOf merged [sighting "evidence-a", sighting "evidence-b", sighting "evidence-c"]).returned.filter
      (·.identityRef = (CandidateRow.of merged).identityRef) =
      [sighting "evidence-a", sighting "evidence-b", sighting "evidence-c"] := by
    have hidentity : (CandidateRow.of merged).identityRef = (sighting "evidence-a").identityRef := hmerge.identityRef
    rw [hidentity]
    rfl
  rw [hall] at hcount
  exact absurd hcount (by decide)

end DiscoverySample

end SecurityMonitoring

end ThreeAgent
