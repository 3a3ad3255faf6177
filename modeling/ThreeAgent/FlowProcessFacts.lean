/-
What `attribute` answers, over every batch. Each distinct flow has one
assessment, whose status counts the identities of the sockets that match the
flow, unless the check of an assessment ends the batch: it allows 64
identities and 256 references, and the configuration far more sockets.
-/
import ThreeAgent.FlowProcess

namespace ThreeAgent

variable {value fieldName ref : String}

namespace SecurityMonitoring

open PyText Outcome PyJson PyDict Keyed SocketProcessObservation

variable {raw : SocketProcessObservation} {config : FlowProcessAttributionConfig} {flows' : List FlowTupleEvidence}
  {sockets' : List SocketProcessObservation}

variable {item : SocketProcessObservation}

/-! ## Evidence that was checked -/

theorem validateEndpointRef_ok :
    validateEndpointRef value fieldName = .ok ref ↔ endpointRefRe (lower (strip value)) = true ∧ lower (strip value) = ref := by
  simp only [validateEndpointRef, bind_unit_ok, require_ok, pure_ok]

/-! ## References -/

theorem deltaMicroseconds_eq (left right : Int) : deltaMicroseconds left right = |left - right| :=
  (Int.abs_eq_natAbs _).symm

theorem matchDirection_isSome {flow : FlowTupleEvidence} :
    (∃ direction, matchDirection flow item = some direction) ↔
      (item.localEndpointRef = flow.sourceEndpointRef ∧ item.remoteEndpointRef = flow.destinationEndpointRef) ∨
        (item.localEndpointRef = flow.destinationEndpointRef ∧ item.remoteEndpointRef = flow.sourceEndpointRef) := by
  unfold matchDirection
  split
  · rename_i h
    exact ⟨fun _ => .inl h, fun _ => ⟨_, rfl⟩⟩
  · rename_i h
    split
    · rename_i h'
      exact ⟨fun _ => .inr h', fun _ => ⟨_, rfl⟩⟩
    · rename_i h'
      refine ⟨?_, fun hor => absurd hor (not_or.mpr ⟨h, h'⟩)⟩
      intro ⟨_, hnone⟩
      cases hnone

theorem matchDirection_mem {flow : FlowTupleEvidence} {direction : String}
    (h : matchDirection flow item = some direction) : direction = "direct" ∨ direction = "reverse" := by
  unfold matchDirection at h
  split at h
  · exact .inl (Option.some.inj h).symm
  · split at h
    · exact .inr (Option.some.inj h).symm
    · cases h

theorem refs_ne_nil {α : Type*} {f : α → String} {xs : List α} (h : xs ≠ []) : sorted (dedup (xs.map f)) ≠ [] :=
  sorted_dedup_ne_nil (mt List.map_eq_nil_iff.mp h)

theorem compact_bounds {t : String} {maxLen : Nat} (h : compact value fieldName maxLen = .ok t) :
    t ≠ "" ∧ t.toList.length ≤ maxLen := by
  obtain ⟨⟨hne, hlen, -⟩, -, rfl⟩ := compact_ok.mp h
  exact ⟨hne, hlen⟩

theorem sortedUnique_ok {refs : List String} {u : Unit} :
    FlowProcessAttributionAssessment.sortedUnique refs fieldName = .ok u ↔ sorted (dedup refs) = refs := by
  rw [FlowProcessAttributionAssessment.sortedUnique, require_ok]

section

variable [PyTime]

namespace FlowTupleEvidence

theorem validate_ok {flow item : FlowTupleEvidence} : flow.validate = .ok item ↔
    compact flow.eventId "event_id" 128 = .ok item.eventId ∧
    normalizedTimestamp flow.observedAt "observed_at" = .ok item.observedAt ∧
    validateEndpointRef flow.sourceEndpointRef "source_endpoint_ref" = .ok item.sourceEndpointRef ∧
    validateEndpointRef flow.destinationEndpointRef "destination_endpoint_ref" = .ok item.destinationEndpointRef ∧
    protocolOf item.sourceEndpointRef = protocolOf item.destinationEndpointRef ∧
    item.sourceEndpointRef ≠ item.destinationEndpointRef ∧
    compact flow.evidenceRef "evidence_ref" 256 = .ok item.evidenceRef ∧
    (flow.authority = "evidence_only" ∧ item.authority = flow.authority) ∧
    flow.schemaVersion = flowTupleSchema ∧ item.schemaVersion = flow.schemaVersion := by
  simp only [validate, bind_ok, require_ok, pure_ok, exists_const]
  constructor
  · rintro ⟨eventId, hid, observedAt, hat, source, hsource, destination, hdestination, hprotocol, hne, evidenceRef, href,
      hauthority, hschema, rfl⟩
    exact ⟨hid, hat, hsource, hdestination, hprotocol, hne, href, ⟨hauthority, rfl⟩, hschema, rfl⟩
  · rintro ⟨hid, hat, hsource, hdestination, hprotocol, hne, href, ⟨hauthority, hkept⟩, hschema, hkept'⟩
    refine ⟨_, hid, _, hat, _, hsource, _, hdestination, hprotocol, hne, _, href, hauthority, hschema, ?_⟩
    cases item
    cases hkept
    cases hkept'
    rfl

end FlowTupleEvidence

namespace SocketProcessObservation

theorem validate_ok : raw.validate = .ok item ↔
    (strip raw.assetRef = item.assetRef ∧ socketAssetRefRe item.assetRef = true) ∧
    normalizedTimestamp raw.observedAt "observed_at" = .ok item.observedAt ∧
    validateEndpointRef raw.localEndpointRef "local_endpoint_ref" = .ok item.localEndpointRef ∧
    validateEndpointRef raw.remoteEndpointRef "remote_endpoint_ref" = .ok item.remoteEndpointRef ∧
    protocolOf item.localEndpointRef = protocolOf item.remoteEndpointRef ∧
    item.localEndpointRef ≠ item.remoteEndpointRef ∧
    (lower (strip raw.processRef) = item.processRef ∧ processRefRe item.processRef = true) ∧
    checkedUser raw.userRef = .ok item.userRef ∧
    compact raw.evidenceRef "evidence_ref" 256 = .ok item.evidenceRef ∧
    (raw.authority = "evidence_only" ∧ item.authority = raw.authority) ∧
    raw.schemaVersion = socketProcessSchema ∧ item.schemaVersion = raw.schemaVersion := by
  simp only [validate, bind_ok, require_ok, pure_ok, exists_const]
  constructor
  · rintro ⟨hasset, observedAt, hat, localRef, hlocal, remoteRef, hremote, hprotocol, hne, hprocess, user, huser, evidenceRef,
      href, hauthority, hschema, rfl⟩
    exact ⟨⟨rfl, hasset⟩, hat, hlocal, hremote, hprotocol, hne, ⟨rfl, hprocess⟩, huser, href, ⟨hauthority, rfl⟩, hschema, rfl⟩
  · rintro ⟨⟨hstrip, hasset⟩, hat, hlocal, hremote, hprotocol, hne, ⟨hlower, hprocess⟩, huser, href, ⟨hauthority, hkept⟩,
      hschema, hkept'⟩
    refine ⟨hstrip ▸ hasset, _, hat, _, hlocal, _, hremote, hprotocol, hne, hlower ▸ hprocess, _, huser, _, href, hauthority,
      hschema, ?_⟩
    rw [hstrip, hlower, ← hkept, ← hkept']

end SocketProcessObservation

/-! ## The purpose of an attribution -/

/-- A socket that a flow may belong to. -/
def Candidate (skewSeconds : Int) (flow : FlowTupleEvidence) (item : SocketProcessObservation) : Prop :=
  item.protocol = flow.protocol ∧
    ((item.localEndpointRef = flow.sourceEndpointRef ∧ item.remoteEndpointRef = flow.destinationEndpointRef) ∨
      (item.localEndpointRef = flow.destinationEndpointRef ∧ item.remoteEndpointRef = flow.sourceEndpointRef)) ∧
    |dt item.observedAt - dt flow.observedAt| ≤ skewSeconds * 1000000

instance (skewSeconds : Int) (flow : FlowTupleEvidence) (item : SocketProcessObservation) :
    Decidable (Candidate skewSeconds flow item) :=
  inferInstanceAs (Decidable (_ ∧ _))

def candidates (skewSeconds : Int) (flow : FlowTupleEvidence) (sockets : List SocketProcessObservation) :
    List SocketProcessObservation :=
  sockets.filter fun item => Candidate skewSeconds flow item

/-- The distinct identities of the sockets that a flow may belong to. -/
def identitiesOf (skewSeconds : Int) (flow : FlowTupleEvidence) (sockets : List SocketProcessObservation) :
    List (String × String × Option String) :=
  dedup ((candidates skewSeconds flow sockets).map (·.identity))

/-- Their distinct evidence. -/
def evidenceOf (skewSeconds : Int) (flow : FlowTupleEvidence) (sockets : List SocketProcessObservation) : List String :=
  dedup ((candidates skewSeconds flow sockets).map (·.evidenceRef))

/-- The status for a number of identities. -/
def statusFor (identities : Nat) : String :=
  if identities = 0 then "unmatched" else if identities = 1 then "attributed" else "ambiguous"

namespace DeterministicFlowProcessAttributor

variable (self : DeterministicFlowProcessAttributor)

/-- What the claim of the engine is for one batch: it answers, with one assessment of each distinct flow and the status
of its identities, and answers every order of the batch alike. -/
def Attributes (rawFlows : List FlowTupleEvidence) (rawSockets : List SocketProcessObservation)
    (flows : List FlowTupleEvidence) (sockets : List SocketProcessObservation) : Prop :=
  ∃ assessments, self.attributeFlows rawFlows rawSockets = .ok assessments ∧
    (∃ distinct : List FlowTupleEvidence, distinct.Nodup ∧ (∀ flow, flow ∈ distinct ↔ flow ∈ flows) ∧
      List.Forall₂ (fun flow a => a.flowEventId = flow.eventId ∧ a.flowFingerprint = flow.fingerprint ∧
        a.status = statusFor (identitiesOf self.config.maxTimeSkewSeconds flow sockets).length) distinct assessments) ∧
    ∀ rawFlows' rawSockets', rawFlows'.Perm rawFlows → rawSockets'.Perm rawSockets →
      self.attributeFlows rawFlows' rawSockets' = .ok assessments

/-- No flow has more candidates than an assessment may hold. -/
def WithinAssessment (flows : List FlowTupleEvidence) (sockets : List SocketProcessObservation) : Prop :=
  ∀ flow ∈ flows, (identitiesOf self.config.maxTimeSkewSeconds flow sockets).length ≤ 64 ∧
    (evidenceOf self.config.maxTimeSkewSeconds flow sockets).length ≤ 256

/-- No candidate of a flow shares its fingerprint with another socket. -/
def Unshadowed (flows : List FlowTupleEvidence) (sockets : List SocketProcessObservation) : Prop :=
  ∀ flow ∈ flows, ∀ item ∈ sockets, Candidate self.config.maxTimeSkewSeconds flow item →
    ∀ other ∈ sockets, other.fingerprint = item.fingerprint → other = item

/-! ## The loops over the evidence -/

/-- A batch of flows without conflicts, within the bound. -/
structure FlowBatch (config : FlowProcessAttributionConfig) (rawFlows flows : List FlowTupleEvidence) : Prop where
  checked : rawFlows.mapM FlowTupleEvidence.validate = .ok flows
  agree : Determines FlowTupleEvidence.eventId flows
  bounded : ((dedup flows).length : Int) ≤ config.maxFlows

/-- A batch of sockets without conflicts, within the bound. -/
structure SocketBatch (config : FlowProcessAttributionConfig) (rawSockets sockets : List SocketProcessObservation) : Prop where
  checked : rawSockets.mapM SocketProcessObservation.validate = .ok sockets
  agree : Determines SocketProcessObservation.evidenceRef sockets
  bounded : (sockets.length : Int) ≤ config.maxSocketObservations

variable {self} {rawFlows flows : List FlowTupleEvidence} {rawSockets sockets : List SocketProcessObservation}

theorem keepFlow_returns {d : Dict FlowTupleEvidence} {done rest : List FlowTupleEvidence} {raw item : FlowTupleEvidence}
    (hitem : raw.validate = .ok item) (hd : Keeps FlowTupleEvidence.eventId d done)
    (hagree : Determines FlowTupleEvidence.eventId (done ++ item :: rest))
    (hbound : ((dedup (done ++ item :: rest)).length : Int) ≤ self.config.maxFlows) :
    ∃ d', self.keepFlow d raw = .ok d' ∧ Keeps FlowTupleEvidence.eventId d' (done ++ [item]) := by
  rw [keepFlow, hitem]
  cases hget : get? d item.eventId with
  | some previous =>
    obtain ⟨hmem, hkey⟩ := hd.get?_iff.mp hget
    have hsame : previous = item := hagree previous (by simp [hmem]) item (by simp) hkey
    subst hsame
    refine ⟨d, ?_, hd.skip hmem⟩
    simp [hget, Except.bind, require, bind, pure, Except.pure]
  | none =>
    have hkeeps := hd.set_new hget
    refine ⟨_, ?_, hkeeps⟩
    have hlen : (PyDict.set d item.eventId item).length ≤ (dedup (done ++ item :: rest)).length := by
      refine hkeeps.length_le ?_
      intro a ha
      rw [mem_dedup]
      rcases List.mem_append.mp ha with ha | ha
      · exact List.mem_append_left _ ha
      · rw [List.mem_singleton.mp ha]
        simp
    have hle : ((PyDict.set d item.eventId item).length : Int) ≤ self.config.maxFlows := by omega
    simp [hget, require, hle, bind, Except.bind, pure, Except.pure]

theorem foldlM_keepFlow : ∀ {rawFlows flows done : List FlowTupleEvidence} {d : Dict FlowTupleEvidence},
    List.Forall₂ (fun raw item => raw.validate = .ok item) rawFlows flows → Keeps FlowTupleEvidence.eventId d done →
      Determines FlowTupleEvidence.eventId (done ++ flows) → ((dedup (done ++ flows)).length : Int) ≤ self.config.maxFlows →
      ∃ d', rawFlows.foldlM self.keepFlow d = .ok d' ∧ Keeps FlowTupleEvidence.eventId d' (done ++ flows)
  | [], _, done, d, .nil, hd, _, _ => ⟨d, rfl, by rwa [List.append_nil]⟩
  | raw :: rawFlows, item :: flows, done, d, .cons hitem hrest, hd, hagree, hbound => by
    obtain ⟨d₁, hd₁, hkeeps⟩ := keepFlow_returns hitem hd hagree hbound
    have hshift : done ++ item :: flows = done ++ [item] ++ flows := by simp
    rw [hshift] at hagree hbound ⊢
    obtain ⟨d₂, hd₂, hkeeps₂⟩ := foldlM_keepFlow hrest hkeeps hagree hbound
    refine ⟨d₂, ?_, hkeeps₂⟩
    rw [List.foldlM_cons]
    exact bind_ok.mpr ⟨d₁, hd₁, hd₂⟩

/-- The order of the flows. -/
def flowKey (item : FlowTupleEvidence) : Int ×ₗ String := toLex (dt item.observedAt, item.eventId)

theorem determines_flowKey (h : Determines FlowTupleEvidence.eventId flows) : Determines flowKey flows := by
  intro a ha b hb hkey
  exact h a ha b hb (congrArg (fun k => (ofLex k).2) hkey)

theorem determines_socketKey (h : Determines evidenceRef sockets) : Determines socketKey sockets := by
  intro a ha b hb hkey
  exact h a ha b hb (congrArg (fun k => (ofLex (ofLex (ofLex k).2).2).2) hkey)

theorem dedupeFlows_eq (h : FlowBatch self.config rawFlows flows) :
    self.dedupeFlows rawFlows = .ok (sortedBy flowKey (dedup flows)) := by
  obtain ⟨d, hd, hkeeps⟩ := foldlM_keepFlow (mapM_ok.mp h.checked) Keeps.nil h.agree h.bounded
  rw [dedupeFlows, hd]
  refine congrArg Except.ok (sortedBy_congr ?_ hkeeps.nodup_values (dedup_nodup _) ?_)
  · exact (determines_flowKey h.agree).mono fun a ha => hkeeps.mem_values.mp ha
  · intro a
    rw [hkeeps.mem_values, mem_dedup]
    rfl

theorem keepSocket_returns {kept : Sockets} {done rest : List SocketProcessObservation} (hitem : raw.validate = .ok item)
    (hevidence : Keeps evidenceRef kept.byEvidence done)
    (hfingerprint : kept.byFingerprint = Keyed.latest fingerprint done)
    (hcount : kept.count = done.length) (hagree : Determines evidenceRef (done ++ item :: rest))
    (hbound : ((done ++ item :: rest).length : Int) ≤ self.config.maxSocketObservations) :
    ∃ kept', self.keepSocket kept raw = .ok kept' ∧
      Keeps evidenceRef kept'.byEvidence (done ++ [item]) ∧
      kept'.byFingerprint = Keyed.latest fingerprint (done ++ [item]) ∧
      kept'.count = (done ++ [item]).length := by
  have hsame : ∀ b ∈ done, b.evidenceRef = item.evidenceRef → b = item :=
    fun b hb hkey => hagree b (by simp [hb]) item (by simp) hkey
  have hexisting : ∀ existing ∈ get? kept.byEvidence item.evidenceRef, existing = item := by
    intro existing hget
    obtain ⟨hmem, hkey⟩ := hevidence.get?_iff.mp hget
    exact hsame existing hmem hkey
  have hle : kept.count + 1 ≤ self.config.maxSocketObservations := by
    rw [List.length_append, List.length_cons] at hbound
    omega
  refine ⟨⟨PyDict.set kept.byEvidence item.evidenceRef item, PyDict.set kept.byFingerprint item.fingerprint item,
    kept.count + 1⟩, ?_, hevidence.set hsame, ?_, ?_⟩
  · rw [keepSocket, hitem]
    simp only [bind, Except.bind, require, if_pos hle, if_pos hexisting]
    rfl
  · rw [latest_snoc, hfingerprint]
  · rw [hcount, List.length_append]
    rfl

theorem foldlM_keepSocket : ∀ {rawSockets sockets done : List SocketProcessObservation} {kept : Sockets},
    List.Forall₂ (fun raw item => raw.validate = .ok item) rawSockets sockets →
      Keeps evidenceRef kept.byEvidence done →
      kept.byFingerprint = Keyed.latest fingerprint done → kept.count = done.length →
      Determines evidenceRef (done ++ sockets) →
      ((done ++ sockets).length : Int) ≤ self.config.maxSocketObservations →
      ∃ kept', rawSockets.foldlM self.keepSocket kept = .ok kept' ∧
        kept'.byFingerprint = Keyed.latest fingerprint (done ++ sockets)
  | [], _, done, kept, .nil, _, hfingerprint, _, _, _ => ⟨kept, rfl, by rwa [List.append_nil]⟩
  | raw :: rawSockets, item :: sockets, done, kept, .cons hitem hrest, hevidence, hfingerprint, hcount, hagree, hbound => by
    obtain ⟨kept₁, hkept₁, hevidence₁, hfingerprint₁, hcount₁⟩ :=
      keepSocket_returns hitem hevidence hfingerprint hcount hagree hbound
    have hshift : done ++ item :: sockets = done ++ [item] ++ sockets := by simp
    rw [hshift] at hagree hbound ⊢
    obtain ⟨kept₂, hkept₂, hfingerprint₂⟩ := foldlM_keepSocket hrest hevidence₁ hfingerprint₁ hcount₁ hagree hbound
    refine ⟨kept₂, ?_, hfingerprint₂⟩
    rw [List.foldlM_cons]
    exact bind_ok.mpr ⟨kept₁, hkept₁, hkept₂⟩

/-- The sockets that are left of a batch: of those with one fingerprint, the last. -/
def remaining (sockets : List SocketProcessObservation) : List SocketProcessObservation :=
  sortedBy socketKey (values (Keyed.latest SocketProcessObservation.fingerprint sockets))

theorem dedupeSockets_eq (h : SocketBatch self.config rawSockets sockets) :
    self.dedupeSockets rawSockets = .ok (remaining sockets) := by
  obtain ⟨kept, hkept, hfingerprint⟩ := @foldlM_keepSocket _ self rawSockets sockets [] {}
      (mapM_ok.mp h.checked) Keeps.nil rfl rfl
    h.agree h.bounded
  rw [dedupeSockets, hkept]
  refine congrArg Except.ok ?_
  rw [hfingerprint]
  rfl

/-! ## One assessment -/

variable {flow : FlowTupleEvidence} {found : List MatchedSocket}

theorem matched_eq_some {found : MatchedSocket} :
    self.matched flow item = some found ↔ Candidate self.config.maxTimeSkewSeconds flow item ∧
      ∃ direction, matchDirection flow item = some direction ∧
        found = ⟨item, direction, deltaMicroseconds (dt item.observedAt) (dt flow.observedAt)⟩ := by
  rw [matched, Candidate, ← matchDirection_isSome, ← deltaMicroseconds_eq]
  by_cases hprotocol : item.protocol = flow.protocol
  · rw [if_neg (not_not.mpr hprotocol)]
    cases hdirection : matchDirection flow item with
    | none => simp [hprotocol]
    | some direction =>
      by_cases hdelta : deltaMicroseconds (dt item.observedAt) (dt flow.observedAt) ≤ self.config.maxTimeSkewSeconds * 1000000
      · simp [hprotocol, hdelta, eq_comm]
      · simp [hdelta]
  · rw [if_pos hprotocol]
    simp [hprotocol]

theorem matched_isSome :
    (self.matched flow item).isSome = decide (Candidate self.config.maxTimeSkewSeconds flow item) := by
  rw [Bool.eq_iff_iff, Option.isSome_iff_exists, decide_eq_true_iff]
  constructor
  · intro ⟨_, h⟩
    exact (matched_eq_some.mp h).1
  · intro h
    obtain ⟨direction, hdirection⟩ := matchDirection_isSome.mpr h.2.1
    exact ⟨_, matched_eq_some.mpr ⟨h, direction, hdirection, rfl⟩⟩

theorem matchesOf_candidates (flow : FlowTupleEvidence) (sockets : List SocketProcessObservation) :
    self.matchesOf flow sockets = self.matchesOf flow (candidates self.config.maxTimeSkewSeconds flow sockets) := by
  rw [matchesOf, matchesOf, candidates, List.filterMap_filter]
  refine List.filterMap_congr ?_
  intro item _
  by_cases h : Candidate self.config.maxTimeSkewSeconds flow item
  · rw [if_pos (decide_eq_true h)]
  · rw [if_neg (by simpa using h)]
    have hnone : (self.matched flow item).isSome = decide (Candidate self.config.maxTimeSkewSeconds flow item) := matched_isSome
    rw [decide_eq_false h, Option.isSome_eq_false_iff, Option.isNone_iff_eq_none] at hnone
    exact hnone

theorem map_matchesOf (flow : FlowTupleEvidence) (sockets : List SocketProcessObservation) :
    (self.matchesOf flow sockets).map (·.observation) = candidates self.config.maxTimeSkewSeconds flow sockets := by
  rw [matchesOf, List.map_filterMap, candidates, ← List.filterMap_eq_filter]
  refine List.filterMap_congr ?_
  intro item _
  cases hmatched : self.matched flow item with
  | none =>
    have hnot : (self.matched flow item).isSome = decide (Candidate self.config.maxTimeSkewSeconds flow item) := matched_isSome
    rw [hmatched] at hnot
    have hnot' : ¬ Candidate self.config.maxTimeSkewSeconds flow item := of_decide_eq_false hnot.symm
    simp [Option.guard, hnot']
  | some found =>
    obtain ⟨hcandidate, direction, -, rfl⟩ := matched_eq_some.mp hmatched
    simp [Option.guard, hcandidate]

/-- What every match has. -/
def Sound (found : List MatchedSocket) : Prop :=
  ∀ m ∈ found, (m.direction = "direct" ∨ m.direction = "reverse") ∧ 0 ≤ m.deltaMicroseconds

theorem matchesOf_sound (flow : FlowTupleEvidence) (sockets : List SocketProcessObservation) :
    Sound (self.matchesOf flow sockets) := by
  intro m hm
  obtain ⟨item, -, hitem⟩ := List.mem_filterMap.mp hm
  obtain ⟨-, direction, hdirection, rfl⟩ := matched_eq_some.mp hitem
  exact ⟨matchDirection_mem hdirection, Int.natCast_nonneg _⟩

variable (self) in
/-- The assessment of a flow with its id. -/
def assessed (flow : FlowTupleEvidence) (found : List MatchedSocket) : FlowProcessAttributionAssessment :=
  { self.payload flow found with attributionId := (self.payload flow found).derivedId }

/-- The sizes that the check of an assessment bounds. -/
def Fits (found : List MatchedSocket) : Prop :=
  (dedup (found.map (·.observation.identity))).length ≤ 64 ∧ (dedup (found.map (·.observation.evidenceRef))).length ≤ 256

omit [PyTime] in
theorem checkStatus_assessed : (self.assessed flow found).checkStatus = .ok () := by
  by_cases hempty : found = []
  · rw [assessed, payload, if_pos hempty]
    rfl
  · have hids : (dedup (found.map (·.observation.identity))) ≠ [] := by
      obtain ⟨m, hm⟩ := List.exists_mem_of_ne_nil found hempty
      exact List.ne_nil_of_mem (mem_dedup.mpr (List.mem_map_of_mem hm))
    have hdelta : (found.map (·.deltaMicroseconds)).min? ≠ none := by
      rw [Ne, List.min?_eq_none_iff, List.map_eq_nil_iff]
      exact hempty
    rw [assessed, payload, if_neg hempty]
    by_cases hone : (dedup (found.map (·.observation.identity))).length = 1
    · obtain ⟨identity, hidentity⟩ := List.length_eq_one_iff.mp hone
      simp only [FlowProcessAttributionAssessment.checkStatus, hidentity]
      refine bind_ok.mpr ⟨⟨⟩, rfl, bind_ok.mpr ⟨⟨⟩, rfl, ?_⟩⟩
      simp only [bind_ok, require_ok, exists_const]
      exact ⟨⟨refs_ne_nil hempty, refs_ne_nil hempty⟩, hdelta⟩
    · simp only [FlowProcessAttributionAssessment.checkStatus, if_neg hone]
      have hpos := List.length_pos_iff.mpr hids
      rw [if_neg (by decide), if_neg (by decide)]
      simp only [bind_ok, require_ok, exists_const]
      refine ⟨by omega, ⟨refs_ne_nil hids, refs_ne_nil hids⟩, ⟨refs_ne_nil hempty, refs_ne_nil hempty⟩, hdelta⟩

theorem validate_assessed {raw : FlowTupleEvidence} (hflow : raw.validate = .ok flow)
    (hfound : Sound found) : (self.assessed flow found).validate = .ok () ↔ Fits found := by
  obtain ⟨hid, -, -, -, -, -, href, -⟩ := FlowTupleEvidence.validate_ok.mp hflow
  have hstatus : (self.assessed flow found).checkStatus = .ok () := checkStatus_assessed
  simp only [FlowProcessAttributionAssessment.validate, bind_ok, require_ok, exists_const, sortedUnique_ok, hstatus]
  by_cases hempty : found = []
  · subst hempty
    simp only [assessed, payload, if_pos]
    refine ⟨fun _ => ⟨by decide, by decide⟩, fun _ => ?_⟩
    exact ⟨by decide, compact_bounds hid, sha256Fingerprint_shape _, compact_bounds href, by decide, by decide, by decide,
      rfl, rfl, rfl, rfl, rfl, by simp, by simp, sha256Fingerprint_shape _, trivial, trivial, trivial, rfl⟩
  · simp only [assessed, payload, if_neg hempty, sorted_dedup_sorted, length_sorted]
    refine ⟨?_, ?_⟩
    · rintro ⟨-, -, -, -, hids, -, hevidence, -⟩
      exact ⟨by omega, hevidence⟩
    · rintro ⟨hids, hevidence⟩
      refine ⟨?_, compact_bounds hid, sha256Fingerprint_shape _, compact_bounds href, ⟨by omega, by omega⟩, ?_, hevidence,
        trivial, trivial, trivial, trivial, trivial, ?_, ?_, sha256Fingerprint_shape _, trivial, trivial, trivial, rfl⟩
      · split <;> decide
      · refine ⟨(length_dedup_le _).trans ?_, (length_dedup_le _).trans ?_, (length_dedup_le _).trans ?_⟩
        · rw [List.length_map]
          exact hids
        · rw [List.length_map]
          exact hids
        · exact (List.length_filterMap_le _ _).trans hids
      · intro direction hdirection
        obtain ⟨m, hm, rfl⟩ := List.mem_map.mp (mem_dedup.mp (mem_sorted.mp hdirection))
        exact (hfound m hm).1
      · intro delta hdelta
        obtain ⟨m, hm, rfl⟩ := List.mem_map.mp (List.min?_mem hdelta)
        exact (hfound m hm).2

theorem assessment_ok {raw : FlowTupleEvidence} {a : FlowProcessAttributionAssessment}
    (hflow : raw.validate = .ok flow) (hfound : Sound found) :
    self.assessment flow found = .ok a ↔ Fits found ∧ self.assessed flow found = a := by
  rw [← @validate_assessed _ self _ _ _ hflow hfound]
  exact bind_unit_ok.trans (and_congr_right fun _ => pure_ok)

/-! ## The whole batch -/

omit [PyTime] in
theorem sortedBy_dedup_perm {α κ : Type*} [DecidableEq α] [LinearOrder κ] {key : α → κ} {items items' : List α}
    (h : Determines key items) (hperm : items'.Perm items) : sortedBy key (dedup items') = sortedBy key (dedup items) := by
  refine sortedBy_congr (h.mono fun _ ha => hperm.subset (mem_dedup.mp ha)) (dedup_nodup _) (dedup_nodup _) ?_
  intro a
  rw [mem_dedup, mem_dedup, hperm.mem_iff]

variable (self) in
/-- The assessments that are made where nothing ends the batch. -/
def settled (flows : List FlowTupleEvidence) (sockets : List SocketProcessObservation) : List FlowProcessAttributionAssessment :=
  (sortedBy flowKey (dedup flows)).map fun flow => self.assessed flow (self.matchesOf flow (sortedBy socketKey (dedup sockets)))

theorem attributeFlows_eq (hflows : FlowBatch self.config rawFlows flows)
    (hsockets : SocketBatch self.config rawSockets sockets) :
    self.attributeFlows rawFlows rawSockets =
      (sortedBy flowKey (dedup flows)).mapM fun flow => self.assessment flow (self.matchesOf flow (remaining sockets)) := by
  have hmax : self.config.maxFlows ≤ self.config.maxAssessments := by
    have hvalid := self.valid
    simp only [FlowProcessAttributionConfig.validate, bind_unit_ok, require_ok] at hvalid
    exact hvalid.2.2.2.2
  have hlen : ((sortedBy flowKey (dedup flows)).length : Int) ≤ self.config.maxAssessments := by
    rw [sortedBy_perm.length_eq]
    exact hflows.bounded.trans hmax
  rw [attributeFlows, dedupeFlows_eq hflows, dedupeSockets_eq hsockets]
  simp only [bind, Except.bind, require, if_pos hlen]

theorem matchesOf_remaining (hagree : Determines evidenceRef sockets)
    (halone : ∀ item ∈ sockets, Candidate self.config.maxTimeSkewSeconds flow item →
      ∀ other ∈ sockets, other.fingerprint = item.fingerprint → other = item) :
    self.matchesOf flow (remaining sockets) = self.matchesOf flow (sortedBy socketKey (dedup sockets)) := by
  have hfilter : candidates self.config.maxTimeSkewSeconds flow (remaining sockets) =
      candidates self.config.maxTimeSkewSeconds flow (sortedBy socketKey (dedup sockets)) := by
    refine filter_sortedBy_congr ((determines_socketKey hagree).mono values_latest_subset) nodup_values_latest (dedup_nodup _) ?_
    intro item hitem
    rw [mem_dedup]
    refine ⟨fun h => values_latest_subset h, fun h => ?_⟩
    exact mem_values_latest_of_alone h (halone item h (of_decide_eq_true hitem))
  rw [matchesOf_candidates, hfilter, ← matchesOf_candidates]

theorem length_found {α : Type} [DecidableEq α] (f : SocketProcessObservation → α) :
    (dedup ((self.matchesOf flow (sortedBy socketKey (dedup sockets))).map fun m => f m.observation)).length =
      (dedup ((candidates self.config.maxTimeSkewSeconds flow sockets).map f)).length := by
  refine ((List.perm_ext_iff_of_nodup (dedup_nodup _) (dedup_nodup _)).mpr ?_).length_eq
  intro a
  have hmap := @map_matchesOf _ self flow (sortedBy socketKey (dedup sockets))
  rw [show (fun m : MatchedSocket => f m.observation) = f ∘ (·.observation) from rfl, ← List.map_map, hmap]
  simp only [mem_dedup, List.mem_map, candidates, List.mem_filter, mem_sortedBy]

theorem fits_iff : Fits (self.matchesOf flow (sortedBy socketKey (dedup sockets))) ↔
    (identitiesOf self.config.maxTimeSkewSeconds flow sockets).length ≤ 64 ∧
      (evidenceOf self.config.maxTimeSkewSeconds flow sockets).length ≤ 256 := by
  rw [Fits, length_found identity, length_found evidenceRef]
  rfl

theorem status_assessed : (self.assessed flow (self.matchesOf flow (sortedBy socketKey (dedup sockets)))).status =
      statusFor (identitiesOf self.config.maxTimeSkewSeconds flow sockets).length := by
  have hlen : (dedup ((self.matchesOf flow (sortedBy socketKey (dedup sockets))).map (·.observation.identity))).length =
      (identitiesOf self.config.maxTimeSkewSeconds flow sockets).length := length_found identity
  rw [← hlen, assessed, payload, statusFor]
  by_cases hempty : self.matchesOf flow (sortedBy socketKey (dedup sockets)) = []
  · rw [if_pos hempty, hempty]
    rfl
  · obtain ⟨m, hm⟩ := List.exists_mem_of_ne_nil _ hempty
    have hne := List.ne_nil_of_mem (mem_dedup.mpr (List.mem_map_of_mem (f := (·.observation.identity)) hm))
    rw [if_neg hempty, if_neg (List.length_pos_iff.mpr hne).ne']

theorem attributeFlows_settled (hflows : FlowBatch self.config rawFlows flows)
    (hsockets : SocketBatch self.config rawSockets sockets) (hfit : self.WithinAssessment flows sockets)
    (halone : self.Unshadowed flows sockets) : self.attributeFlows rawFlows rawSockets = .ok (self.settled flows sockets) := by
  rw [attributeFlows_eq hflows hsockets, settled]
  refine mapM_ok.mpr (List.forall₂_map_right_iff.mpr (List.forall₂_same.mpr ?_))
  intro flow hflow
  have hmem : flow ∈ flows := mem_dedup.mp (mem_sortedBy.mp hflow)
  obtain ⟨raw, -, hraw⟩ := forall₂_mem_right (mapM_ok.mp hflows.checked) hmem
  rw [matchesOf_remaining hsockets.agree (halone flow hmem)]
  exact (assessment_ok hraw (matchesOf_sound _ _)).mpr ⟨fits_iff.mpr (hfit flow hmem), rfl⟩

theorem FlowBatch.perm {rawFlows rawFlows' flows : List FlowTupleEvidence}
    (h : FlowBatch config rawFlows flows) (hchecked : rawFlows'.mapM FlowTupleEvidence.validate = .ok flows')
    (hperm : flows'.Perm flows) : FlowBatch config rawFlows' flows' where
  checked := hchecked
  agree := h.agree.mono hperm.subset
  bounded := by
    have hlen : (dedup flows').length = (dedup flows).length := by
      refine ((List.perm_ext_iff_of_nodup (dedup_nodup _) (dedup_nodup _)).mpr ?_).length_eq
      intro flow
      rw [mem_dedup, mem_dedup, hperm.mem_iff]
    rw [hlen]
    exact h.bounded

theorem SocketBatch.perm
    {rawSockets rawSockets' sockets : List SocketProcessObservation} (h : SocketBatch config rawSockets sockets)
    (hchecked : rawSockets'.mapM validate = .ok sockets') (hperm : sockets'.Perm sockets) :
    SocketBatch config rawSockets' sockets' where
  checked := hchecked
  agree := h.agree.mono hperm.subset
  bounded := by
    rw [hperm.length_eq]
    exact h.bounded

theorem settled_perm
    (hflows : Determines FlowTupleEvidence.eventId flows) (hsockets : Determines evidenceRef sockets)
    (hperm : flows'.Perm flows) (hperm' : sockets'.Perm sockets) : self.settled flows' sockets' = self.settled flows sockets := by
  rw [settled, settled, sortedBy_dedup_perm (determines_flowKey hflows) hperm,
    sortedBy_dedup_perm (determines_socketKey hsockets) hperm']

theorem exists_last (hsockets : SocketBatch self.config rawSockets sockets)
    (hitem : item ∈ sockets) : ∃ rawSockets' sockets', rawSockets'.Perm rawSockets ∧ sockets'.Perm sockets ∧
      SocketBatch self.config rawSockets' sockets' ∧
      ∀ other, other ∈ remaining sockets' ∧ other.fingerprint = item.fingerprint ↔ other = item := by
  obtain ⟨front, back, rfl⟩ := List.append_of_mem hitem
  have hperm : (front ++ back ++ [item]).Perm (front ++ item :: back) :=
    (List.perm_append_singleton item (front ++ back)).trans List.perm_middle.symm
  obtain ⟨rawSockets', hraw, hchecked⟩ := exists_mapM_perm hsockets.checked hperm
  refine ⟨rawSockets', _, hraw, hperm, hsockets.perm hchecked hperm, ?_⟩
  intro other
  rw [remaining, mem_sortedBy]
  exact mem_values_latest_snoc

theorem mem_socketEvidenceRefs {left : List SocketProcessObservation} :
    ref ∈ (self.assessed flow (self.matchesOf flow left)).socketEvidenceRefs ↔
      ∃ item ∈ left, Candidate self.config.maxTimeSkewSeconds flow item ∧ item.evidenceRef = ref := by
  have hmap : (self.matchesOf flow left).map (·.observation.evidenceRef) =
      (candidates self.config.maxTimeSkewSeconds flow left).map (·.evidenceRef) := by
    rw [← map_matchesOf, List.map_map]
    rfl
  have hmem : ref ∈ (self.assessed flow (self.matchesOf flow left)).socketEvidenceRefs ↔
      ref ∈ (candidates self.config.maxTimeSkewSeconds flow left).map (·.evidenceRef) := by
    rw [← hmap]
    by_cases hempty : self.matchesOf flow left = []
    · simp [assessed, payload, hempty]
    · simp only [assessed, payload, if_neg hempty, mem_sorted, mem_dedup]
  rw [hmem, List.mem_map]
  simp only [candidates, List.mem_filter, decide_eq_true_iff, and_assoc]

theorem Attributes.unshadowed (hflows : FlowBatch self.config rawFlows flows)
    (hsockets : SocketBatch self.config rawSockets sockets) (h : self.Attributes rawFlows rawSockets flows sockets) :
    self.Unshadowed flows sockets := by
  obtain ⟨assessments, -, -, hperms⟩ := h
  intro flow hflow item hitem hcandidate other hother hsame
  by_contra hne
  obtain ⟨raw₁, sockets₁, hraw₁, hperm₁, hbatch₁, hlast₁⟩ := exists_last hsockets hitem
  obtain ⟨raw₂, sockets₂, hraw₂, hperm₂, hbatch₂, hlast₂⟩ := exists_last hsockets hother
  have hrun₁ := hperms rawFlows raw₁ (List.Perm.refl _) hraw₁
  have hrun₂ := hperms rawFlows raw₂ (List.Perm.refl _) hraw₂
  rw [attributeFlows_eq hflows hbatch₁] at hrun₁
  rw [attributeFlows_eq hflows hbatch₂] at hrun₂
  obtain ⟨a, ha₁, ha₂⟩ := mapM_agree hrun₁ hrun₂ flow (mem_sortedBy.mpr (mem_dedup.mpr hflow))
  obtain ⟨raw, -, hraw⟩ := forall₂_mem_right (mapM_ok.mp hflows.checked) hflow
  obtain ⟨-, rfl⟩ := (assessment_ok hraw (matchesOf_sound _ _)).mp ha₁
  obtain ⟨-, heq⟩ := (assessment_ok hraw (matchesOf_sound _ _)).mp ha₂
  have hfound : item.evidenceRef ∈ (self.assessed flow (self.matchesOf flow (remaining sockets₂))).socketEvidenceRefs := by
    rw [heq, mem_socketEvidenceRefs]
    exact ⟨item, ((hlast₁ item).mpr rfl).1, hcandidate, rfl⟩
  obtain ⟨item', hitem', -, hevidence⟩ := mem_socketEvidenceRefs.mp hfound
  have hmem' : item' ∈ sockets := hperm₂.subset (values_latest_subset (mem_sortedBy.mp hitem'))
  rw [hsockets.agree item' hmem' item hitem hevidence] at hitem'
  exact hne ((hlast₂ item).mp ⟨hitem', hsame.symm⟩).symm

theorem Attributes.withinAssessment (hflows : FlowBatch self.config rawFlows flows)
    (hsockets : SocketBatch self.config rawSockets sockets) (h : self.Attributes rawFlows rawSockets flows sockets) :
    self.WithinAssessment flows sockets := by
  have halone := h.unshadowed hflows hsockets
  obtain ⟨assessments, hrun, -⟩ := h
  rw [attributeFlows_eq hflows hsockets] at hrun
  intro flow hflow
  obtain ⟨a, -, ha⟩ := forall₂_mem_left (mapM_ok.mp hrun) (mem_sortedBy.mpr (mem_dedup.mpr hflow))
  obtain ⟨raw, -, hraw⟩ := forall₂_mem_right (mapM_ok.mp hflows.checked) hflow
  rw [matchesOf_remaining hsockets.agree (halone flow hflow)] at ha
  exact fits_iff.mp ((assessment_ok hraw (matchesOf_sound _ _)).mp ha).1

/-- **The attribution of a batch**, for every batch of evidence within the configured bounds and without conflicts. It is
what it should be if and only if no flow has candidates of more than 64 identities or 256 references, and no candidate
shares the fingerprint of another socket. -/
theorem attributes_iff (attributor : DeterministicFlowProcessAttributor) (rawFlows flows : List FlowTupleEvidence)
    (rawSockets sockets : List SocketProcessObservation)
    (hflows : FlowBatch attributor.config rawFlows flows) (hsockets : SocketBatch attributor.config rawSockets sockets) :
    attributor.Attributes rawFlows rawSockets flows sockets ↔
      attributor.WithinAssessment flows sockets ∧ attributor.Unshadowed flows sockets := by
  refine ⟨fun h => ⟨h.withinAssessment hflows hsockets, h.unshadowed hflows hsockets⟩, ?_⟩
  intro ⟨hfit, halone⟩
  refine ⟨_, attributeFlows_settled hflows hsockets hfit halone, ?_, ?_⟩
  · refine ⟨sortedBy flowKey (dedup flows), sortedBy_perm.nodup_iff.mpr (dedup_nodup _), ?_, ?_⟩
    · intro flow
      rw [mem_sortedBy, mem_dedup]
    · refine List.forall₂_map_right_iff.mpr (List.forall₂_same.mpr ?_)
      intro flow _
      refine ⟨?_, ?_, status_assessed⟩
      · rw [assessed, payload]
        split <;> rfl
      · rw [assessed, payload]
        split <;> rfl
  · intro rawFlows' rawSockets' hperm hperm'
    obtain ⟨flows', hchecked, hflows'⟩ := mapM_perm hflows.checked hperm
    obtain ⟨sockets', hchecked', hsockets'⟩ := mapM_perm hsockets.checked hperm'
    rw [← settled_perm hflows.agree hsockets.agree hflows' hsockets']
    refine attributeFlows_settled (hflows.perm hchecked hflows') (hsockets.perm hchecked' hsockets') ?_ ?_
    · intro flow hflow
      rw [← fits_iff, sortedBy_dedup_perm (determines_socketKey hsockets.agree) hsockets']
      exact fits_iff.mpr (hfit flow (hflows'.subset hflow))
    · intro flow hflow item hitem hcandidate other hother
      exact halone flow (hflows'.subset hflow) item (hsockets'.subset hitem) hcandidate other (hsockets'.subset hother)

end DeterministicFlowProcessAttributor

end

namespace DeterministicFlowProcessAttributor

/-! ### A flow with many candidates -/

namespace Crowded

local instance : PyTime := sampleTime

/-- A reference that is typed with its head. -/
def hashRef (head : String) (digit : Char) : String := head ++ String.ofList (List.replicate 64 digit)

def flow : FlowTupleEvidence where
  eventId := "flow"
  observedAt := "2026-01-01T00:00:00Z"
  sourceEndpointRef := hashRef "endpoint:tcp:sha256:" 'a'
  destinationEndpointRef := hashRef "endpoint:tcp:sha256:" 'b'
  evidenceRef := "ref"

/-- The socket of an asset, with its one process, at the ends of the flow. -/
def socketOf (asset : String) : SocketProcessObservation where
  assetRef := asset
  observedAt := "2026-01-01T00:00:00Z"
  localEndpointRef := hashRef "endpoint:tcp:sha256:" 'a'
  remoteEndpointRef := hashRef "endpoint:tcp:sha256:" 'b'
  processRef := hashRef "entity:process:sha256:" 'c'
  evidenceRef := asset

theorem endpoint_valid {digit : Char} (h : digit = 'a' ∨ digit = 'b') (fieldName : String) :
    validateEndpointRef (hashRef "endpoint:tcp:sha256:" digit) fieldName = .ok (hashRef "endpoint:tcp:sha256:" digit) := by
  rw [validateEndpointRef_ok]
  rcases h with rfl | rfl
  · decide +kernel
  · decide +kernel

theorem endpoints_differ : protocolOf (hashRef "endpoint:tcp:sha256:" 'a') = protocolOf (hashRef "endpoint:tcp:sha256:" 'b') ∧
    hashRef "endpoint:tcp:sha256:" 'a' ≠ hashRef "endpoint:tcp:sha256:" 'b' := by decide +kernel

def assets (n : Nat) : List String := (List.range n).map fun i => "asset:a" ++ Nat.repr i

def attributor : DeterministicFlowProcessAttributor where
  config := {}
  valid := by decide

theorem flow_valid : flow.validate = .ok flow :=
  FlowTupleEvidence.validate_ok.mpr ⟨by decide +kernel, normalizedTimestamp_sample _, endpoint_valid (.inl rfl) _,
    endpoint_valid (.inr rfl) _, endpoints_differ.1, endpoints_differ.2, by decide, ⟨rfl, rfl⟩, rfl, rfl⟩

theorem socketOf_valid {asset : String} (hasset : socketAssetRefRe (strip asset) = true)
    (hevidence : compact asset "evidence_ref" 256 = .ok asset) : (socketOf asset).validate = .ok (socketOf asset) := by
  have hstrip : strip asset = asset := (compact_ok.mp hevidence).2.2
  have hprocess : lower (strip (hashRef "entity:process:sha256:" 'c')) = hashRef "entity:process:sha256:" 'c' ∧
      processRefRe (hashRef "entity:process:sha256:" 'c') = true := by decide +kernel
  exact validate_ok.mpr ⟨⟨hstrip, hstrip ▸ hasset⟩, normalizedTimestamp_sample _,
    endpoint_valid (.inl rfl) _, endpoint_valid (.inr rfl) _, endpoints_differ.1, endpoints_differ.2, hprocess, rfl,
    hevidence, ⟨rfl, rfl⟩, rfl, rfl⟩

theorem assets_valid : ∀ asset ∈ assets 65, socketAssetRefRe (strip asset) = true ∧
    compact asset "evidence_ref" 256 = .ok asset := by
  decide +kernel

theorem candidate_socketOf (asset : String) : Candidate 5 flow (socketOf asset) := by
  refine ⟨rfl, .inl ⟨rfl, rfl⟩, ?_⟩
  rw [show (socketOf asset).observedAt = flow.observedAt from rfl, sub_self]
  decide

theorem flowBatch : FlowBatch attributor.config [flow] [flow] where
  checked := by
    rw [mapM_ok]
    exact .cons flow_valid .nil
  agree := by
    intro a ha b hb _
    rw [List.mem_singleton.mp ha, List.mem_singleton.mp hb]
  bounded := by decide

theorem socketBatch (names : List String) (h : ∀ asset ∈ names, asset ∈ assets 65) (hlen : names.length ≤ 65) :
    SocketBatch attributor.config (names.map socketOf) (names.map socketOf) where
  checked := by
    refine mapM_self ?_
    intro item hitem
    obtain ⟨asset, hasset, rfl⟩ := List.mem_map.mp hitem
    obtain ⟨hre, hevidence⟩ := assets_valid asset (h asset hasset)
    exact socketOf_valid hre hevidence
  agree := by
    intro a ha b hb hkey
    obtain ⟨asset, -, rfl⟩ := List.mem_map.mp ha
    obtain ⟨asset', -, rfl⟩ := List.mem_map.mp hb
    exact congrArg socketOf hkey
  bounded := by
    rw [List.length_map]
    have hmax : attributor.config.maxSocketObservations = 10000 := rfl
    omega

/-- With one process each on 65 assets the flow has more identities than an assessment may hold: nothing is answered. -/
theorem crowded_not_attributed : FlowBatch attributor.config [flow] [flow] ∧
    SocketBatch attributor.config ((assets 65).map socketOf) ((assets 65).map socketOf) ∧
      ¬ attributor.Attributes [flow] ((assets 65).map socketOf) [flow] ((assets 65).map socketOf) := by
  have hbatch := socketBatch (assets 65) (fun _ h => h) (by decide)
  refine ⟨flowBatch, hbatch, ?_⟩
  intro h
  have hfits := (h.withinAssessment flowBatch hbatch flow (by simp)).1
  have hall : candidates 5 flow ((assets 65).map socketOf) = (assets 65).map socketOf := by
    refine List.filter_eq_self.mpr ?_
    intro item hitem
    obtain ⟨asset, -, rfl⟩ := List.mem_map.mp hitem
    exact decide_eq_true (candidate_socketOf asset)
  have hnodup : (((assets 65).map socketOf).map (·.identity)).Nodup := by
    rw [List.map_map]
    refine List.Nodup.map ?_ (by decide)
    intro asset asset' heq
    exact congrArg Prod.fst heq
  have hlen : (identitiesOf attributor.config.maxTimeSkewSeconds flow ((assets 65).map socketOf)).length = 65 := by
    rw [identitiesOf, show attributor.config.maxTimeSkewSeconds = 5 from rfl, hall, dedup_of_nodup hnodup]
    simp [assets]
  omega

/-- Three sockets match the flow, each of another asset. -/
def threeSockets : List SocketProcessObservation := ["asset:a0", "asset:a1", "asset:a2"].map socketOf

theorem attributes_iff_three : (∀ item ∈ threeSockets, Candidate 5 flow item) ∧
    (attributor.Attributes [flow] threeSockets [flow] threeSockets ↔
      attributor.WithinAssessment [flow] threeSockets ∧ attributor.Unshadowed [flow] threeSockets) := by
  constructor
  · intro item hitem
    obtain ⟨asset, -, rfl⟩ := List.mem_map.mp hitem
    exact candidate_socketOf asset
  · exact attributes_iff attributor [flow] [flow] _ _ flowBatch (socketBatch _ (by decide) (by decide))

end Crowded

end DeterministicFlowProcessAttributor

end SecurityMonitoring

end ThreeAgent
