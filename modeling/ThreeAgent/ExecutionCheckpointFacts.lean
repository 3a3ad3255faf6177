/-
What the checkpoint repository keeps. A payload's text reads back as the
payload, a ticket's payload as the ticket; an appended event extends the
chain that `load` verifies; and a successful load returns the tickets and the
observations of its two row tables.

`load` ties the two tables to each other but not to the events: it returns
what the events carry exactly when the rows do.
-/
import ThreeAgent.ExecutionCheckpoint
import ThreeAgent.ExecutionSchedulerFacts

namespace ThreeAgent

open PyText Outcome PyJson ExecutionObservation

variable {t : DispatchTicket} {s' : TaskStore}

/-! ## Payload texts -/

variable {json : String}

section Texts

variable {F : Type} [PyRuntime F]

/-- The stored text is the canonical text of the payload, with its digest. -/
structure PayloadText (json sha256 : String) (payload : Json F) : Prop where
  canonical : Canonical payload
  text : dumps payload = some json
  digest : sha256 = hashText json

variable {payload : Json F}

theorem checkpointText_ok {t : String} : checkpointText payload = .ok t ↔ dumps payload = some t :=
  canonicalText_ok

theorem checkpointDigest_of {t d : String} (h : dumps payload = some t) :
    checkpointDigest payload = .ok d ↔ d = hashText t := by
  rw [checkpointDigest, digestOf_ok]
  constructor
  · rintro ⟨t', ht', rfl⟩
    rw [h] at ht'
    cases ht'
    rfl
  · rintro rfl
    exact ⟨t, h, rfl⟩

theorem parse_ok {sha256 kind : String} :
    parseCanonicalPayload json sha256 kind = .ok payload ↔ PayloadText json sha256 payload := by
  simp only [parseCanonicalPayload, bind_ok, orRaise_ok, require_ok, pure_ok]
  constructor
  · rintro ⟨p, hloads, t, htext, _, rfl, d, hdigest, _, rfl, rfl⟩
    rw [checkpointText_ok] at htext
    exact ⟨canonical_loads hloads, htext, (checkpointDigest_of htext).mp hdigest⟩
  · rintro ⟨hc, htext, rfl⟩
    exact ⟨payload, loads_dumps hc htext, json, checkpointText_ok.mpr htext, ⟨⟩, rfl, _,
      (checkpointDigest_of htext).mpr rfl, ⟨⟩, rfl, rfl⟩

end Texts

/-! ## Tickets -/

section Tickets

variable {F : Type} [PyRuntime F]

omit [PyRuntime F] in
theorem canonical_dispatchEntries (t : DispatchTicket) : Canonical (Json.dict (dispatchEntries t) : Json F) := by
  refine canonical_dict ?_
  intro e he
  simp only [dispatchEntries, List.mem_cons, List.not_mem_nil, or_false] at he
  rcases he with rfl | rfl | rfl | rfl | rfl | rfl | rfl | rfl | rfl | rfl | rfl
  all_goals try trivial
  exact canonical_strs _

omit [PyRuntime F] in
theorem dispatchPayload_ok {p : Json F} :
    dispatchPayload t = .ok p ↔ t.validate = .ok ⟨⟩ ∧ validateDispatchFingerprints t = .ok ⟨⟩ ∧
      p = Json.dict (dispatchEntries t) := by
  simp only [dispatchPayload, bind_ok, pure_ok]
  constructor
  · rintro ⟨_, hv, _, hf, rfl⟩
    exact ⟨hv, hf, rfl⟩
  · rintro ⟨hv, hf, rfl⟩
    exact ⟨⟨⟩, hv, ⟨⟩, hf, rfl⟩

theorem validateDispatchFingerprints_ok :
    validateDispatchFingerprints t = .ok ⟨⟩ ↔ sha256Re t.planFingerprint = true ∧ sha256Re t.nodeFingerprint = true ∧
      sha256Re t.authorityFingerprint = true ∧ ∀ d ∈ t.dependencyObservationFingerprints, sha256Re d = true := by
  simp only [validateDispatchFingerprints, requireSha256, checkSha256, bind_ok, require_ok, pure_ok]
  constructor
  · rintro ⟨_, hp, _, hn, _, ha, us, hd, -⟩
    refine ⟨hp, hn, ha, ?_⟩
    intro d hmem
    obtain ⟨_, -, h⟩ := forall₂_mem_left (mapM_ok.mp hd) hmem
    exact require_ok.mp h
  · rintro ⟨hp, hn, ha, hd⟩
    refine ⟨⟨⟩, hp, ⟨⟩, hn, ⟨⟩, ha, t.dependencyObservationFingerprints.map fun _ => ⟨⟩, mapM_ok.mpr ?_, trivial⟩
    rw [List.forall₂_map_right_iff]
    exact List.forall₂_same.mpr fun d hmem => require_ok.mpr (hd d hmem)

omit [PyRuntime F] in
theorem fingerprintList_strs {ds : List String} (h : ∀ d ∈ ds, sha256Re d = true) :
    fingerprintList (Json.strs ds : Json F) = some ds := by
  show ((ds.map Json.str).mapM _ : Option (List String)) = some ds
  induction ds with
  | nil => rfl
  | cons d ds ih =>
    have hd := h d (by simp)
    simp only [List.map_cons, List.mapM_cons, hd, ite_true]
    rw [ih fun d' hd' => h d' (by simp [hd'])]
    rfl

theorem dispatchFromPayload_entries (hv : t.validate = .ok ⟨⟩)
    (hf : validateDispatchFingerprints t = .ok ⟨⟩) :
    dispatchFromPayload (Json.dict (dispatchEntries t) : Json F) = .ok t := by
  have hschema : t.schemaVersion = dispatchTicketSchema := by
    simp only [DispatchTicket.validate, bind_ok, require_ok] at hv
    obtain ⟨_, h, -⟩ := hv
    exact h
  obtain ⟨hp, hn, ha, hd⟩ := validateDispatchFingerprints_ok.mp hf
  have hitem : ∀ k v, (dispatchEntries t : List (String × Json F)).reverse.lookup k = some v →
      (Json.dict (dispatchEntries t) : Json F).item k = v := by
    intro k v h
    rw [Json.item, get?_dict, h]
    rfl
  simp only [dispatchFromPayload, bind_ok, require_ok, orRaise_ok, rethrow_ok]
  refine ⟨⟨⟩, rfl, ⟨⟩, hasKeys_dict rfl, ⟨⟩, ?_, ⟨⟩, ?_, t.dependencyObservationFingerprints, ?_, ?_⟩
  · rw [hitem "schema_version" (.str t.schemaVersion) rfl]
    simp [Json.isText, hschema]
  · rw [hitem "dispatch_authorized" (.bool true) rfl]
    rfl
  · rw [hitem "dependency_observation_fingerprints" (Json.strs t.dependencyObservationFingerprints) rfl]
    exact fingerprintList_strs hd
  · simp only [ticketOfPayload, sha256Item, intItem, requireSha256, checkSha256, bind_ok, require_ok, orRaise_ok, pure_ok]
    rw [hitem "plan_fingerprint" (.str t.planFingerprint) rfl, hitem "node_fingerprint" (.str t.nodeFingerprint) rfl,
      hitem "authority_fingerprint" (.str t.authorityFingerprint) rfl,
      hitem "dispatch_sequence" (.int t.dispatchSequence) rfl, hitem "execution_level" (.int t.executionLevel) rfl,
      hitem "ticket_id" (.str t.ticketId) rfl, hitem "task_id" (.str t.taskId) rfl,
      hitem "node_id" (.str t.nodeId) rfl, hitem "schema_version" (.str t.schemaVersion) rfl]
    exact ⟨_, ⟨⟨⟩, hp, rfl⟩, _, ⟨⟨⟩, hn, rfl⟩, _, ⟨⟨⟩, ha, rfl⟩, _, rfl, _, rfl, ⟨⟩, hv, ⟨⟩, hf, rfl⟩

end Tickets

/-! ## Observations -/

section Observations

variable {F : Type} [PyRuntime F]

theorem EvidenceBinding.canonical_canonicalDict {F : Type} {b : EvidenceBinding} {v : Json F}
    (h : b.canonicalDict = .ok v) : Canonical v := by
  simp only [EvidenceBinding.canonicalDict, bind_ok, pure_ok] at h
  obtain ⟨_, -, rfl⟩ := h
  refine canonical_dict ?_
  intro e he
  simp only [List.mem_cons, List.not_mem_nil, or_false] at he
  rcases he with rfl | rfl | rfl | rfl
  all_goals try trivial
  cases b.requirement <;> trivial

variable {v : Json F}

theorem ObservationCost.canonical_canonicalDict {c : ObservationCost F} (h : c.canonicalDict = .ok v) :
    Canonical v := by
  simp only [ObservationCost.canonicalDict, bind_ok, pure_ok] at h
  obtain ⟨_, -, _, -, cost, -, rfl⟩ := h
  refine canonical_dict ?_
  intro e he
  simp only [List.mem_cons, List.not_mem_nil, or_false] at he
  rcases he with rfl | rfl | rfl | rfl
  all_goals try trivial
  cases cost <;> trivial

variable {o : ExecutionObservation F}

theorem ExecutionObservation.canonical_normalizedOutput
    (h : o.normalizedOutput = .ok v) : Canonical v := by
  unfold normalizedOutput at h
  split at h
  · cases h
    trivial
  · split at h
    · rename_i hloads
      cases h
      exact canonical_loads hloads
    · cases h
    · cases h

theorem ExecutionObservation.canonical_costDict (h : o.costDict = .ok v) :
    Canonical v := by
  unfold costDict at h
  split at h
  · cases h
    trivial
  · exact ObservationCost.canonical_canonicalDict h

theorem ExecutionObservation.canonical_canonicalDict (o : ExecutionObservation F)
    (h : o.canonicalDict = .ok v) : Canonical v := by
  simp only [canonicalDict, identityEntries, bind_ok, pure_ok] at h
  obtain ⟨_, -, _, ⟨output, hout, bindings, hbind, cost, hcost, rfl⟩, rfl⟩ := h
  refine canonical_dict ?_
  intro e he
  simp only [List.mem_cons, List.not_mem_nil, or_false] at he
  rcases he with rfl | rfl | rfl | rfl | rfl | rfl | rfl | rfl | rfl | rfl | rfl | rfl | rfl | rfl | rfl | rfl
  all_goals try trivial
  · exact canonical_normalizedOutput hout
  · cases o.normalizedOutputJson <;> trivial
  · cases o.errorClass <;> trivial
  · refine elemsCanonical_iff.mpr ?_
    intro b hb
    obtain ⟨_, -, hdict⟩ := forall₂_mem_right (mapM_ok.mp hbind) hb
    exact EvidenceBinding.canonical_canonicalDict hdict
  · exact canonical_costDict hcost

end Observations

variable {id sha : String} {ts : List DispatchTicket}

namespace ExecutionCheckpoint

/-! ## The event log -/

section Events

variable {F : Type} [PyRuntime F]

/-- The text that an event's hash is over. -/
def eventText (previousHash : String) (e : EventRow) : String :=
  String.ofList (text (Json.dict
    [("task_id", .str e.taskId), ("plan_fingerprint", .str e.planFingerprint), ("event_type", .str e.eventType),
     ("subject_id", .str e.subjectId), ("payload_json", .str e.payloadJson), ("payload_sha256", .str e.payloadSha256),
     ("previous_hash", .str previousHash), ("recorded_at", .str e.recordedAt)] : Json Unit))

theorem checkEvent_ok {previousHash h : String} {e : EventRow} :
    checkEvent F previousHash e = .ok (some h) ↔
      (∃ p : Json F, PayloadText e.payloadJson e.payloadSha256 p) ∧ e.previousHash = previousHash ∧
        e.eventHash = hashText (eventText previousHash e) ∧ h = e.eventHash := by
  unfold checkEvent
  constructor
  · intro hc
    split at hc
    · cases hc
    · rename_i p hloads
      simp only [bind_ok] at hc
      obtain ⟨t, ht, hc⟩ := hc
      rw [checkpointText_ok] at ht
      split at hc
      · cases hc
      · rename_i hsame
        rw [ne_eq, not_not] at hsame
        subst hsame
        simp only [bind_ok, checkpointDigest_of ht] at hc
        obtain ⟨_, rfl, hc⟩ := hc
        split at hc
        · rename_i hall
          obtain ⟨hsha, hprev, hhash⟩ := hall
          cases hc
          refine ⟨⟨p, canonical_loads hloads, ht, hsha⟩, hprev, ?_, hhash.symm⟩
          rw [eventText, hsha]
          exact hhash
        · cases hc
  · rintro ⟨⟨p, hcan, ht, hsha⟩, hprev, hhash, rfl⟩
    have hexpected : eventHash e.taskId e.planFingerprint e.eventType e.subjectId e.payloadJson
        (hashText e.payloadJson) previousHash e.recordedAt = e.eventHash := by
      rw [hhash, eventText, hsha]
      rfl
    rw [loads_dumps hcan ht]
    simp only [bind_ok]
    refine ⟨e.payloadJson, checkpointText_ok.mpr ht, ?_⟩
    rw [if_neg (by simp)]
    simp only [bind_ok]
    refine ⟨_, (checkpointDigest_of ht).mpr rfl, ?_⟩
    rw [hexpected, if_pos ⟨hsha, hprev, rfl⟩]
    rfl

theorem checkEvent_hash (previousHash : String) (e : EventRow) (h : String)
    (hc : checkEvent F previousHash e = .ok (some h)) : h = EventRow.eventHash e :=
  (checkEvent_ok.mp hc).2.2.2

/-- The events are numbered in order, and the chain of every task and plan holds. -/
structure EventLog (F : Type) [PyRuntime F] (s : TaskStore) : Prop where
  ordered : s.events.Pairwise fun a b => a.sequence < b.sequence
  bounded : ∀ e ∈ s.events, e.sequence ≤ s.eventSequence
  intact : ∀ taskId planFingerprint, verifyEventChain F s taskId planFingerprint = .ok true

variable {s : TaskStore}

theorem eventsOf_ordered (h : s.events.Pairwise fun a b => a.sequence < b.sequence)
    (taskId planFingerprint : String) :
    s.eventsOf taskId planFingerprint =
      s.events.filter fun e => e.taskId = taskId ∧ e.planFingerprint = planFingerprint := by
  refine List.Pairwise.insertionSort_eq ?_
  exact (h.filter _).imp fun hlt => le_of_lt hlt

section Append

variable {s : TaskStore} {taskId planFingerprint eventType subjectId payloadJson payloadSha256 now : String}

def newEvent (s : TaskStore) (taskId planFingerprint eventType subjectId payloadJson payloadSha256 now : String) :
    EventRow :=
  let previousHash := HashChain.lastHash EventRow.eventHash zeroHash (s.eventsOf taskId planFingerprint)
  { sequence := s.eventSequence + 1, taskId, planFingerprint, eventType, subjectId, payloadJson, payloadSha256
    previousHash
    eventHash := eventHash taskId planFingerprint eventType subjectId payloadJson payloadSha256 previousHash now
    recordedAt := now }

theorem appendEvent_events : (appendEvent s taskId planFingerprint eventType subjectId payloadJson payloadSha256 now).events =
    s.events ++ [newEvent s taskId planFingerprint eventType subjectId payloadJson payloadSha256 now] := rfl

theorem appendEvent_ordered (hord : s.events.Pairwise fun a b => a.sequence < b.sequence)
    (hmax : ∀ e ∈ s.events, e.sequence ≤ s.eventSequence) :
    (appendEvent s taskId planFingerprint eventType subjectId payloadJson payloadSha256 now).events.Pairwise
      fun a b => a.sequence < b.sequence := by
  rw [appendEvent_events, List.pairwise_append]
  refine ⟨hord, by simp, ?_⟩
  intro a ha b hb
  rw [List.mem_singleton.mp hb]
  exact Nat.lt_succ_of_le (hmax a ha)

theorem appendEvent_bounded (hmax : ∀ e ∈ s.events, e.sequence ≤ s.eventSequence) :
    ∀ e ∈ (appendEvent s taskId planFingerprint eventType subjectId payloadJson payloadSha256 now).events,
      e.sequence ≤ s.eventSequence + 1 := by
  intro e he
  rw [appendEvent_events, List.mem_append, List.mem_singleton] at he
  rcases he with he | rfl
  · exact Nat.le_succ_of_le (hmax e he)
  · exact le_refl _

theorem eventsOf_appendEvent (hord : s.events.Pairwise fun a b => a.sequence < b.sequence)
    (hmax : ∀ e ∈ s.events, e.sequence ≤ s.eventSequence) (t p : String) :
    (appendEvent s taskId planFingerprint eventType subjectId payloadJson payloadSha256 now).eventsOf t p =
      s.eventsOf t p ++ (if taskId = t ∧ planFingerprint = p then
        [newEvent s taskId planFingerprint eventType subjectId payloadJson payloadSha256 now] else []) := by
  rw [eventsOf_ordered (appendEvent_ordered hord hmax), eventsOf_ordered hord, appendEvent_events, List.filter_append]
  congr 1
  simp only [List.filter_cons, List.filter_nil, newEvent, decide_eq_true_eq]

theorem checkEvent_newEvent {p : Json F} (hp : PayloadText payloadJson payloadSha256 p) :
    checkEvent F (HashChain.lastHash EventRow.eventHash zeroHash (s.eventsOf taskId planFingerprint))
      (newEvent s taskId planFingerprint eventType subjectId payloadJson payloadSha256 now) =
      .ok (some (newEvent s taskId planFingerprint eventType subjectId payloadJson payloadSha256 now).eventHash) := by
  refine checkEvent_ok.mpr ⟨⟨p, hp⟩, rfl, ?_, rfl⟩
  simp only [newEvent, eventHash, eventText]

theorem EventLog.append (h : EventLog F s) {p : Json F} (hp : PayloadText payloadJson payloadSha256 p) :
    EventLog F (appendEvent s taskId planFingerprint eventType subjectId payloadJson payloadSha256 now) where
  ordered := appendEvent_ordered h.ordered h.bounded
  bounded := appendEvent_bounded h.bounded
  intact := by
    intro t q
    rw [verifyEventChain, eventsOf_appendEvent h.ordered h.bounded]
    split
    · rename_i hscope
      obtain ⟨rfl, rfl⟩ := hscope
      have hold := h.intact taskId planFingerprint
      rw [verifyEventChain] at hold
      rw [HashChain.follow_snoc checkEvent_hash]
      exact ⟨hold, _, checkEvent_newEvent hp⟩
    · rw [List.append_nil]
      exact h.intact t q

end Append

end Events

/-! ## Recording -/

section Recording

variable {F : Type} [PyRuntime F]

def dispatchRow (t : DispatchTicket) (json now : String) : DispatchRow :=
  ⟨t.ticketId, t.taskId, t.planFingerprint, t.nodeId, t.dispatchSequence, json, hashText json, now⟩

def observationRow (o : ExecutionObservation F) (json now : String) : ObservationRow :=
  ⟨o.observationId, o.taskId, o.planFingerprint, o.nodeId, json, hashText json, now⟩

variable {s : TaskStore}

theorem sameDispatch_ok {b : Bool} (h : sameDispatch F s id sha = .ok b) :
    (b = false ∧ ∀ row ∈ s.dispatches, row.ticketId ≠ id) ∨
      (b = true ∧ ∃ row ∈ s.dispatches, row.ticketId = id ∧
        (∃ p : Json F, PayloadText row.ticketJson row.ticketSha256 p) ∧ hashText row.ticketJson = sha) := by
  unfold sameDispatch at h
  split at h
  · rename_i hnone
    cases h
    refine .inl ⟨rfl, ?_⟩
    simpa using hnone
  · rename_i row hsome
    simp only [bind_ok, require_ok, pure_ok] at h
    obtain ⟨p, hp, d, hd, _, hsha, rfl⟩ := h
    rw [parse_ok] at hp
    rw [checkpointDigest_of hp.text] at hd
    have hid := List.find?_some hsome
    exact .inr ⟨rfl, row, List.mem_of_find?_eq_some hsome, by simpa using hid, ⟨p, hp⟩, by rw [← hd, hsha]⟩

theorem sameObservation_ok {b : Bool} (h : sameObservation F s id sha = .ok b) :
    (b = false ∧ ∀ row ∈ s.observations, row.observationId ≠ id) ∨
      (b = true ∧ ∃ row ∈ s.observations, row.observationId = id ∧
        (∃ p : Json F, PayloadText row.observationJson row.observationSha256 p) ∧ hashText row.observationJson = sha) := by
  unfold sameObservation at h
  split at h
  · rename_i hnone
    cases h
    refine .inl ⟨rfl, ?_⟩
    simpa using hnone
  · rename_i row hsome
    simp only [bind_ok, require_ok, pure_ok] at h
    obtain ⟨p, hp, d, hd, _, hsha, rfl⟩ := h
    rw [parse_ok] at hp
    rw [checkpointDigest_of hp.text] at hd
    have hid := List.find?_some hsome
    exact .inr ⟨rfl, row, List.mem_of_find?_eq_some hsome, by simpa using hid, ⟨p, hp⟩, by rw [← hd, hsha]⟩

theorem recordDispatch_cases {now : String} (h : recordDispatch F now t s = .ok s') :
    ∃ json, t.validate = .ok ⟨⟩ ∧ validateDispatchFingerprints t = .ok ⟨⟩ ∧
      PayloadText json (hashText json) (Json.dict (dispatchEntries t) : Json F) ∧ t.taskId ∈ s.tasks ∧
      ((s' = s ∧ ∃ row ∈ s.dispatches, row.ticketId = t.ticketId ∧
          (∃ p : Json F, PayloadText row.ticketJson row.ticketSha256 p) ∧ hashText row.ticketJson = hashText json) ∨
        ((∀ row ∈ s.dispatches, row.ticketId ≠ t.ticketId) ∧
          s.dispatchOf? t.taskId t.planFingerprint t.nodeId = none ∧ t.dispatchSequence ≤ maxSqlInteger ∧
          s' = appendEvent { s with dispatches := s.dispatches ++ [dispatchRow t json now] } t.taskId t.planFingerprint
            "DISPATCH_RECORDED" t.ticketId json (hashText json) now)) := by
  simp only [recordDispatch, bind_ok, checkpointText_ok, requireTask, require_ok] at h
  obtain ⟨p, hp, json, htext, sha, hsha, _, htask, b, hb, h⟩ := h
  obtain ⟨hv, hf, rfl⟩ := dispatchPayload_ok.mp hp
  rw [checkpointDigest_of htext] at hsha
  subst hsha
  refine ⟨json, hv, hf, ⟨canonical_dispatchEntries t, htext, rfl⟩, htask, ?_⟩
  rcases sameDispatch_ok hb with ⟨rfl, hnew⟩ | ⟨rfl, hold⟩
  · simp only [Bool.false_eq_true, ite_false, insertDispatch, bind_ok, require_ok, pure_ok] at h
    obtain ⟨_, hnode, _, ⟨_, hseq, rfl⟩, rfl⟩ := h
    exact .inr ⟨hnew, hnode, hseq, rfl⟩
  · simp only [ite_true, pure_ok] at h
    exact .inl ⟨h.symm, hold⟩

theorem recordObservation_cases {now : String} {o : ExecutionObservation F} (h : recordObservation now o s = .ok s') :
    ∃ payload json dispatch, o.validateSelf = .ok ⟨⟩ ∧ o.canonicalDict = .ok payload ∧ dumps payload = some json ∧
      o.taskId ∈ s.tasks ∧ s.dispatchOf? o.taskId o.planFingerprint o.nodeId = some dispatch ∧
      checkSettles o dispatch = .ok ⟨⟩ ∧
      ((s' = s ∧ ∃ row ∈ s.observations, row.observationId = o.observationId ∧
          (∃ p : Json F, PayloadText row.observationJson row.observationSha256 p) ∧
          hashText row.observationJson = hashText json) ∨
        ((∀ row ∈ s.observations, row.observationId ≠ o.observationId) ∧
          s.observationOf? o.taskId o.planFingerprint o.nodeId = none ∧
          s' = appendEvent { s with observations := s.observations ++ [observationRow o json now] } o.taskId
            o.planFingerprint "OBSERVATION_RECORDED" o.observationId json (hashText json) now)) := by
  simp only [recordObservation, bind_ok, checkpointText_ok, requireTask, require_ok, orRaise_ok] at h
  obtain ⟨_, hv, payload, hp, json, htext, sha, hsha, _, htask, row, hrow, _, hset, b, hb, h⟩ := h
  rw [checkpointDigest_of htext] at hsha
  subst hsha
  refine ⟨payload, json, row, hv, hp, htext, htask, hrow, hset, ?_⟩
  rcases sameObservation_ok hb with ⟨rfl, hnew⟩ | ⟨rfl, hold⟩
  · simp only [Bool.false_eq_true, ite_false, bind_ok, require_ok, pure_ok] at h
    obtain ⟨_, hnode, rfl⟩ := h
    exact .inr ⟨hnew, hnode, rfl⟩
  · simp only [ite_true, pure_ok] at h
    exact .inl ⟨h.symm, hold⟩

omit [PyRuntime F] in
theorem canonical_cancellation (reason : String) : Canonical (cancellationPayload F reason) := by
  refine canonical_dict ?_
  intro e he
  rw [List.mem_singleton.mp he]
  trivial

theorem recordCancellation_cases {now taskId planFingerprint reasonCode : String}
    (h : recordCancellation F now taskId planFingerprint reasonCode s = .ok s') :
    s' = s ∨ ∃ json, strip reasonCode ≠ "" ∧
      PayloadText json (hashText json) (cancellationPayload F (strip reasonCode)) ∧
      s' = appendEvent s taskId planFingerprint "CANCELLED" taskId json (hashText json) now := by
  simp only [recordCancellation, bind_ok, checkpointText_ok, require_ok] at h
  obtain ⟨_, -, _, hreason, json, htext, sha, hsha, _, -, b, -, h⟩ := h
  rw [checkpointDigest_of htext] at hsha
  subst hsha
  cases b with
  | true =>
    simp only [ite_true, pure_ok] at h
    exact .inl h.symm
  | false =>
    simp only [Bool.false_eq_true, ite_false, pure_ok] at h
    exact .inr ⟨json, hreason, ⟨canonical_cancellation _, htext, rfl⟩, h.symm⟩

theorem recordCancellation_new {now taskId planFingerprint reasonCode : String} (hsha : sha256Re planFingerprint = true)
    (hreason : strip reasonCode ≠ "") (htext : dumps (cancellationPayload F (strip reasonCode)) = some json)
    (htask : taskId ∈ s.tasks) (hnone : s.eventsOf taskId planFingerprint = []) :
    recordCancellation F now taskId planFingerprint reasonCode s =
      .ok (appendEvent s taskId planFingerprint "CANCELLED" taskId json (hashText json) now) := by
  have hlatest : latestCancellation s taskId planFingerprint = none := by
    rw [latestCancellation, hnone]
    rfl
  simp only [recordCancellation, bind_ok, checkpointText_ok, requireSha256, checkSha256, requireTask, require_ok]
  refine ⟨⟨⟩, hsha, ⟨⟩, hreason, json, htext, _, (checkpointDigest_of htext).mpr rfl, ⟨⟩, htask, false, ?_, ?_⟩
  · rw [sameCancellation, hlatest]
    rfl
  · simp only [Bool.false_eq_true, ite_false, pure_ok]

end Recording

/-! ## Runs of the repository -/

section Runs

variable (F : Type) [PyRuntime F]

/-- A call of the repository, at a time. -/
inductive Call where
  | dispatch (now : String) (ticket : DispatchTicket)
  | observation (now : String) (observation : ExecutionObservation F)
  | cancellation (now taskId planFingerprint reasonCode : String)

variable {F}

def Call.run : Call F → TaskStore → Except Raised TaskStore
  | .dispatch now t, s => recordDispatch F now t s
  | .observation now o, s => recordObservation now o s
  | .cancellation now taskId planFingerprint reasonCode, s =>
    recordCancellation F now taskId planFingerprint reasonCode s

/-- The store after a call, whether it commits or raises. -/
def Call.after (c : Call F) (s : TaskStore) : TaskStore :=
  match c.run s with
  | .ok s' => s'
  | .error _ => s

/-- The stores that calls produce from one with empty checkpoint tables. -/
inductive Recorded (F : Type) [PyRuntime F] : TaskStore → Prop where
  | fresh {s : TaskStore} : s.dispatches = [] → s.observations = [] → s.events = [] → Recorded F s
  | call {s : TaskStore} (c : Call F) : Recorded F s → Recorded F (c.after s)

theorem Call.after_of {P : TaskStore → Prop} {c : Call F} (h : P s)
    (hrun : ∀ s', c.run s = .ok s' → P s') : P (c.after s) := by
  unfold Call.after
  split
  · rename_i s' hs'
    exact hrun s' hs'
  · exact h

theorem EventLog.fresh {s : TaskStore} (h : s.events = []) : EventLog F s where
  ordered := by simp [h]
  bounded := by simp [h]
  intact := by
    intro t p
    have hnone : s.eventsOf t p = [] := by simp [TaskStore.eventsOf, h]
    rw [verifyEventChain, hnone]
    rfl

theorem EventLog.call (h : EventLog F s) (c : Call F) : EventLog F (c.after s) := by
  refine Call.after_of h ?_
  intro s' hrun
  cases c with
  | dispatch now t =>
    obtain ⟨json, -, -, hp, -, ⟨rfl, -⟩ | ⟨-, -, -, rfl⟩⟩ := recordDispatch_cases hrun
    · exact h
    · exact EventLog.append ⟨h.ordered, h.bounded, h.intact⟩ hp
  | observation now o =>
    obtain ⟨payload, json, _, -, hdict, htext, -, -, -, ⟨rfl, -⟩ | ⟨-, -, rfl⟩⟩ := recordObservation_cases hrun
    · exact h
    · exact EventLog.append ⟨h.ordered, h.bounded, h.intact⟩ ⟨o.canonical_canonicalDict hdict, htext, rfl⟩
  | cancellation now t p reason =>
    rcases recordCancellation_cases hrun with rfl | ⟨json, -, hp, rfl⟩
    · exact h
    · exact h.append hp

theorem Recorded.eventLog (h : Recorded F s) : EventLog F s := by
  induction h with
  | fresh _ _ he => exact EventLog.fresh he
  | call c _ ih => exact ih.call c

end Runs

/-! ## Binding -/

section Binding

variable {F : Type} [PyRuntime F]

/-- The dictionary an event's hash is over. -/
def eventJson (e : EventRow) : Json Unit :=
  Json.dict
    [("task_id", .str e.taskId), ("plan_fingerprint", .str e.planFingerprint), ("event_type", .str e.eventType),
     ("subject_id", .str e.subjectId), ("payload_json", .str e.payloadJson), ("payload_sha256", .str e.payloadSha256),
     ("previous_hash", .str e.previousHash), ("recorded_at", .str e.recordedAt)]

/-- What an event names as the hash before it: the digest of an event, or `ZERO_HASH` for none. -/
def link : Option (Json Unit) → String
  | none => zeroHash
  | some v => hashText (String.ofList (text v))

/-- The events of a task and plan agree in everything but their numbers. -/
structure SameEvent (a b : EventRow) : Prop where
  eventType : a.eventType = b.eventType
  subjectId : a.subjectId = b.subjectId
  payloadJson : a.payloadJson = b.payloadJson
  payloadSha256 : a.payloadSha256 = b.payloadSha256
  previousHash : a.previousHash = b.previousHash
  recordedAt : a.recordedAt = b.recordedAt

/-- What the reader of an event sees under a key. -/
def textAt (v : Json Unit) (k : String) : String :=
  match v.get? k with
  | some (.str s) => s
  | _ => ""

theorem sameEvent_of_json {a b : EventRow} (h : eventJson a = eventJson b) : SameEvent a b := by
  have hkey : ∀ k, textAt (eventJson a) k = textAt (eventJson b) k := fun k => by rw [h]
  simp only [textAt, eventJson, get?_dict] at hkey
  exact ⟨hkey "event_type", hkey "subject_id", hkey "payload_json", hkey "payload_sha256", hkey "previous_hash",
    hkey "recorded_at"⟩

theorem checkEvent_link (previousHash : String) (e : EventRow) (h : String)
    (hc : checkEvent F previousHash e = .ok (some h)) :
    textAt (eventJson e) "previous_hash" = previousHash ∧ e.eventHash = link (some (eventJson e)) := by
  obtain ⟨-, hprev, hhash, -⟩ := checkEvent_ok.mp hc
  refine ⟨?_, ?_⟩
  · rw [textAt, eventJson, get?_dict]
    exact hprev
  · rw [hhash, ← hprev]
    rfl

theorem events_eq {taskId planFingerprint : String} (h : verifyEventChain F s taskId planFingerprint = .ok true)
    (h' : verifyEventChain F s' taskId planFingerprint = .ok true)
    (hinj : Set.InjOn link (insert none
      {v | ∃ e ∈ s.eventsOf taskId planFingerprint ++ s'.eventsOf taskId planFingerprint, v = some (eventJson e)}))
    (hlast : (s.eventsOf taskId planFingerprint).getLast?.map EventRow.eventHash =
      (s'.eventsOf taskId planFingerprint).getLast?.map EventRow.eventHash) :
    List.Forall₂ SameEvent (s.eventsOf taskId planFingerprint) (s'.eventsOf taskId planFingerprint) := by
  have hlast' : HashChain.lastHash EventRow.eventHash (link none) (s.eventsOf taskId planFingerprint) =
      HashChain.lastHash EventRow.eventHash (link none) (s'.eventsOf taskId planFingerprint) := by
    unfold HashChain.lastHash
    revert hlast
    cases (s.eventsOf taskId planFingerprint).getLast? with
    | none =>
      cases (s'.eventsOf taskId planFingerprint).getLast? with
      | none => exact fun _ => rfl
      | some e => exact fun he => nomatch he
    | some e =>
      cases (s'.eventsOf taskId planFingerprint).getLast? with
      | none => exact fun he => nomatch he
      | some e' => exact fun he => Option.some.inj he
  have hmem : ∀ e ∈ s.eventsOf taskId planFingerprint ++ s'.eventsOf taskId planFingerprint,
      some (eventJson e) ∈ insert none
        {v | ∃ e ∈ s.eventsOf taskId planFingerprint ++ s'.eventsOf taskId planFingerprint, v = some (eventJson e)} :=
    fun e he => .inr ⟨e, he, rfl⟩
  have hkeys := HashChain.keys_eq (fun v => textAt v "previous_hash") checkEvent_hash checkEvent_link hinj (.inl rfl)
    (fun e he => hmem e (by simp [he])) (fun e he => hmem e (by simp [he])) h h' hlast'
  rw [← List.forall₂_eq_eq_eq, List.forall₂_map_left_iff, List.forall₂_map_right_iff] at hkeys
  exact hkeys.imp fun _ _ => sameEvent_of_json

/-- A verified chain binds its events, and every chain that the repository wrote is verified. -/
theorem event_chain_binds (F : Type) [PyRuntime F] :
    (∀ (s s' : TaskStore) (taskId planFingerprint : String),
      verifyEventChain F s taskId planFingerprint = .ok true →
      verifyEventChain F s' taskId planFingerprint = .ok true →
      Set.InjOn link (insert none
        {v | ∃ e ∈ s.eventsOf taskId planFingerprint ++ s'.eventsOf taskId planFingerprint, v = some (eventJson e)}) →
      (s.eventsOf taskId planFingerprint).getLast?.map EventRow.eventHash =
        (s'.eventsOf taskId planFingerprint).getLast?.map EventRow.eventHash →
      List.Forall₂ SameEvent (s.eventsOf taskId planFingerprint) (s'.eventsOf taskId planFingerprint)) ∧
    ∀ s, Recorded F s → ∀ taskId planFingerprint, verifyEventChain F s taskId planFingerprint = .ok true :=
  ⟨fun _ _ _ _ h h' hinj hlast => events_eq h h' hinj hlast, fun _ h => h.eventLog.intact⟩

def stopCall (taskId : String) : Call WholeFloat := .cancellation "2026-01-01T00:00:00Z" taskId zeroHash "stop"

def cancelledStore : TaskStore := (stopCall "t1").after { tasks := ["t1"] }

/-- One in which another task was cancelled before it. -/
def secondStore : TaskStore := (stopCall "t1").after ((stopCall "t0").after { tasks := ["t0", "t1"] })

def stopText : String := String.ofList (text (cancellationPayload WholeFloat "stop"))

/-- The event of the cancellation, but for its number. -/
def stopJson (taskId : String) : Json Unit :=
  Json.dict
    [("task_id", .str taskId), ("plan_fingerprint", .str zeroHash), ("event_type", .str "CANCELLED"),
     ("subject_id", .str taskId), ("payload_json", .str stopText), ("payload_sha256", .str (hashText stopText)),
     ("previous_hash", .str zeroHash), ("recorded_at", .str "2026-01-01T00:00:00Z")]

theorem cancel_after (taskId : String) (htask : taskId ∈ s.tasks) (hnone : s.eventsOf taskId zeroHash = []) :
    (stopCall taskId).after s =
      appendEvent s taskId zeroHash "CANCELLED" taskId stopText (hashText stopText) "2026-01-01T00:00:00Z" := by
  have hrun : (stopCall taskId).run s = .ok _ :=
    recordCancellation_new (by decide) (by decide) (dumps_of_dumpable (by decide)) htask hnone
  rw [Call.after, hrun]
  rfl

theorem cancel_event (taskId : String) (hlog : EventLog WholeFloat s) (htask : taskId ∈ s.tasks)
    (hnone : s.eventsOf taskId zeroHash = []) : ∃ e, ((stopCall taskId).after s).eventsOf taskId zeroHash = [e] ∧
      e.sequence = s.eventSequence + 1 ∧ eventJson e = stopJson taskId ∧ e.eventHash = link (some (stopJson taskId)) := by
  have hprevious : HashChain.lastHash EventRow.eventHash zeroHash (s.eventsOf taskId zeroHash) = zeroHash := by
    rw [hnone]
    rfl
  refine ⟨newEvent s taskId zeroHash "CANCELLED" taskId stopText (hashText stopText) "2026-01-01T00:00:00Z", ?_, rfl, ?_, ?_⟩
  · rw [cancel_after taskId htask hnone, eventsOf_appendEvent hlog.ordered hlog.bounded, if_pos ⟨rfl, rfl⟩, hnone,
      List.nil_append]
  · simp only [eventJson, newEvent, hprevious, stopJson]
  · simp only [newEvent, hprevious, eventHash, link, stopJson]

theorem link_stopJson : link (some (stopJson "t1")) ≠ link none := by
  have hpayload : hashText stopText =
      String.ofList ("sha256:".toList ++ Sha256.fastDigest (charBytes (text (cancellationPayload WholeFloat "stop")))) := by
    rw [hashText, stopText, Sha256.hexdigest_ofList, String.ofList_append, String.ofList_toList]
    rfl
  intro heq
  have hlist := congrArg String.toList heq
  simp only [link, zeroHash, hashText, Sha256.hexdigest_ofList, String.toList_append, String.toList_ofList] at hlist
  have hdigest := List.append_cancel_left hlist
  rw [stopJson, hpayload] at hdigest
  revert hdigest
  decide +kernel

/-- Two databases record the cancellation of the task, the second after that of another one: their chains of the task are
verified, and they are the same but for the numbers of the rows. -/
theorem cancelledStore_chain : verifyEventChain WholeFloat cancelledStore "t1" zeroHash = .ok true ∧
    verifyEventChain WholeFloat secondStore "t1" zeroHash = .ok true ∧
    (cancelledStore.eventsOf "t1" zeroHash).map EventRow.sequence = [1] ∧
    (secondStore.eventsOf "t1" zeroHash).map EventRow.sequence = [2] ∧
    List.Forall₂ SameEvent (cancelledStore.eventsOf "t1" zeroHash) (secondStore.eventsOf "t1" zeroHash) := by
  have hfresh : ∀ tasks, Recorded WholeFloat { tasks := tasks } := fun _ => .fresh rfl rfl rfl
  have hfirst : Recorded WholeFloat cancelledStore := .call _ (hfresh _)
  have hother : Recorded WholeFloat ((stopCall "t0").after { tasks := ["t0", "t1"] }) := .call _ (hfresh _)
  have hafter := cancel_after (s := { tasks := ["t0", "t1"] }) "t0" (by simp) rfl
  obtain ⟨e, hevents, hsequence, hjson, hhash⟩ :=
    cancel_event (s := { tasks := ["t1"] }) "t1" (hfresh _).eventLog (by simp) rfl
  obtain ⟨e', hevents', hsequence', hjson', hhash'⟩ :=
    cancel_event "t1" hother.eventLog (by rw [hafter]; simp [appendEvent]) (by
      rw [hafter, eventsOf_appendEvent (by simp) (by simp), if_neg (by simp)]
      rfl)
  have hverified := (event_chain_binds WholeFloat).2 _ hfirst "t1" zeroHash
  have hverified' := (event_chain_binds WholeFloat).2 secondStore (.call _ hother) "t1" zeroHash
  refine ⟨hverified, hverified', ?_, ?_, (event_chain_binds WholeFloat).1 _ _ _ _ hverified hverified' ?_ ?_⟩
  · rw [cancelledStore, hevents, List.map_singleton, hsequence]
  · rw [secondStore, hevents', List.map_singleton, hsequence', hafter]
    rfl
  · rw [cancelledStore, secondStore, hevents, hevents']
    have hcases : ∀ v ∈ insert none {v | ∃ a ∈ [e] ++ [e'], v = some (eventJson a)}, v = none ∨ v = some (stopJson "t1") := by
      rintro v (rfl | ⟨a, ha, rfl⟩)
      · exact .inl rfl
      · rcases List.mem_pair.mp ha with rfl | rfl
        · exact .inr (congrArg some hjson)
        · exact .inr (congrArg some hjson')
    intro v hv v' hv' heq
    rcases hcases v hv with rfl | rfl
    · rcases hcases v' hv' with rfl | rfl
      · rfl
      · exact absurd heq.symm link_stopJson
    · rcases hcases v' hv' with rfl | rfl
      · exact absurd heq link_stopJson
      · rfl
  · rw [cancelledStore, secondStore, hevents, hevents', List.getLast?_singleton, List.getLast?_singleton, Option.map_some,
      Option.map_some, hhash, hhash']

end Binding

/-! ## Loading -/

section Loading

variable {F : Type} [PyRuntime F] {taskId planFingerprint : String} {s : TaskStore}

/-- A dispatch row holds a ticket of its task and plan. -/
def HoldsTicket (F : Type) [PyRuntime F] (taskId planFingerprint : String) (row : DispatchRow) (t : DispatchTicket) :
    Prop :=
  ticketOf F row.ticketJson row.ticketSha256 = .ok t ∧ t.taskId = taskId ∧ t.planFingerprint = planFingerprint

/-- The dictionary of tickets by node. -/
def ticketsByNode (ts : List DispatchTicket) : PyDict.Dict DispatchTicket := ts.map fun t => (t.nodeId, t)

theorem has_ticketsByNode :
    PyDict.has (ticketsByNode ts) id = true ↔ ∃ t ∈ ts, t.nodeId = id := by
  rw [← PyDict.mem_keys]
  simp [ticketsByNode, PyDict.keys]

theorem loadDispatch_ok {row : DispatchRow} {d : PyDict.Dict DispatchTicket} :
    loadDispatch F taskId planFingerprint (ticketsByNode ts) row = .ok d ↔
      ∃ t, HoldsTicket F taskId planFingerprint row t ∧ (∀ t' ∈ ts, t'.nodeId ≠ t.nodeId) ∧
        d = ticketsByNode (ts ++ [t]) := by
  have hfresh : ∀ t : DispatchTicket, PyDict.has (ticketsByNode ts) t.nodeId = false ↔
      ∀ t' ∈ ts, t'.nodeId ≠ t.nodeId := by
    intro t
    rw [← Bool.not_eq_true, has_ticketsByNode]
    simp
  simp only [loadDispatch, bind_ok, require_ok, pure_ok, HoldsTicket]
  constructor
  · rintro ⟨t, ht, _, hscope, _, hnew, rfl⟩
    refine ⟨t, ⟨ht, hscope.1, hscope.2⟩, (hfresh t).mp hnew, ?_⟩
    rw [PyDict.set_of_absent hnew]
    simp [ticketsByNode]
  · rintro ⟨t, ⟨ht, h1, h2⟩, hnew, rfl⟩
    refine ⟨t, ht, ⟨⟩, ⟨h1, h2⟩, ⟨⟩, (hfresh t).mpr hnew, ?_⟩
    rw [PyDict.set_of_absent ((hfresh t).mpr hnew)]
    simp [ticketsByNode]

theorem loadDispatches_ok {rows : List DispatchRow} : ∀ {ts : List DispatchTicket} {d : PyDict.Dict DispatchTicket},
    ts.Pairwise (fun t t' => t.nodeId ≠ t'.nodeId) →
    (rows.foldlM (loadDispatch F taskId planFingerprint) (ticketsByNode ts) = .ok d ↔
      ∃ us, List.Forall₂ (HoldsTicket F taskId planFingerprint) rows us ∧
        (ts ++ us).Pairwise (fun t t' => t.nodeId ≠ t'.nodeId) ∧ d = ticketsByNode (ts ++ us)) := by
  induction rows with
  | nil =>
    intro ts d hts
    simp only [List.foldlM_nil, pure_ok, List.forall₂_nil_left_iff]
    constructor
    · rintro rfl
      exact ⟨[], rfl, by simpa using hts, by simp⟩
    · rintro ⟨us, rfl, -, rfl⟩
      simp
  | cons row rows ih =>
    intro ts d hts
    have hext : ∀ t : DispatchTicket, (∀ t' ∈ ts, t'.nodeId ≠ t.nodeId) →
        (ts ++ [t]).Pairwise fun t t' => t.nodeId ≠ t'.nodeId := by
      intro t hnew
      rw [List.pairwise_append]
      refine ⟨hts, by simp, ?_⟩
      intro a ha b hb
      rw [List.mem_singleton.mp hb]
      exact hnew a ha
    simp only [List.foldlM_cons, bind_ok, loadDispatch_ok]
    constructor
    · rintro ⟨_, ⟨t, ht, hnew, rfl⟩, hrest⟩
      obtain ⟨us, hus, hpair, rfl⟩ := (ih (hext t hnew)).mp hrest
      rw [List.append_assoc, List.singleton_append] at hpair ⊢
      exact ⟨t :: us, .cons ht hus, hpair, rfl⟩
    · rintro ⟨us, hus, hpair, rfl⟩
      cases hus with
      | @cons _ t _ us ht hus =>
        have hnew : ∀ t' ∈ ts, t'.nodeId ≠ t.nodeId := by
          intro t' ht'
          exact (List.pairwise_append.mp hpair).2.2 t' ht' t (by simp)
        refine ⟨_, ⟨t, ht, hnew, rfl⟩, (ih (hext t hnew)).mpr ⟨us, hus, ?_, ?_⟩⟩
        · rw [List.append_assoc, List.singleton_append]
          exact hpair
        · rw [List.append_assoc, List.singleton_append]

variable {st : RecoveredExecutionState F}

/-- What a load returns: the tickets of the dispatch rows in the order of their sequence numbers, and
the observations of the observation rows in the order of their nodes. -/
theorem load_ok : load taskId planFingerprint s = .ok st ↔
    sha256Re planFingerprint = true ∧ verifyEventChain F s taskId planFingerprint = .ok true ∧ taskId ∈ s.tasks ∧
    ∃ ts os reason,
      List.Forall₂ (HoldsTicket F taskId planFingerprint)
        ((s.dispatchesOf taskId planFingerprint).insertionSort fun a b => a.dispatchSequence ≤ b.dispatchSequence) ts ∧
      ts.Pairwise (fun t t' => t.nodeId ≠ t'.nodeId) ∧
      List.Forall₂ (fun row o => loadObservation taskId planFingerprint (ticketsByNode ts) row = .ok o)
        ((s.observationsOf taskId planFingerprint).insertionSort fun a b => a.nodeId ≤ b.nodeId) os ∧
      loadCancellation F (latestCancellation s taskId planFingerprint) = .ok reason ∧
      st = ⟨taskId, planFingerprint, ts, os, (ts.filter fun t => t.nodeId ∉ os.map nodeId).map
        DispatchTicket.ticketId, reason⟩ := by
  have hloop : ∀ d, ((s.dispatchesOf taskId planFingerprint).insertionSort fun a b =>
      a.dispatchSequence ≤ b.dispatchSequence).foldlM (loadDispatch F taskId planFingerprint) [] = .ok d ↔
      ∃ us : List DispatchTicket, List.Forall₂ (HoldsTicket F taskId planFingerprint)
          ((s.dispatchesOf taskId planFingerprint).insertionSort fun a b => a.dispatchSequence ≤ b.dispatchSequence) us ∧
        us.Pairwise (fun t t' => t.nodeId ≠ t'.nodeId) ∧ d = ticketsByNode us :=
    fun d => loadDispatches_ok .nil
  have hvalues : ∀ ts, (ticketsByNode ts).map Prod.snd = ts := by
    intro ts
    rw [ticketsByNode, List.map_map]
    exact List.map_id ts
  simp only [load, requireSha256, checkSha256, requireTask, bind_ok, require_ok, pure_ok, hloop]
  constructor
  · rintro ⟨_, hsha, _, hchain, _, rfl, _, htask, _, ⟨ts, hts, hpair, rfl⟩, os, hos, reason, hreason, rfl⟩
    rw [hvalues]
    exact ⟨hsha, hchain, htask, ts, os, reason, hts, hpair, mapM_ok.mp hos, hreason, rfl⟩
  · rintro ⟨hsha, hchain, htask, ts, os, reason, hts, hpair, hos, hreason, rfl⟩
    refine ⟨⟨⟩, hsha, true, hchain, ⟨⟩, rfl, ⟨⟩, htask, _, ⟨ts, hts, hpair, rfl⟩, os, mapM_ok.mpr hos, reason, hreason, ?_⟩
    rw [hvalues]

/-- An event records a ticket: it is about it and carries its payload. -/
def RecordsTicket (F : Type) [PyRuntime F] (e : EventRow) (t : DispatchTicket) : Prop :=
  e.eventType = "DISPATCH_RECORDED" ∧ e.subjectId = t.ticketId ∧ ticketOf F e.payloadJson e.payloadSha256 = .ok t

def RecordsObservation (e : EventRow) (o : ExecutionObservation F) : Prop :=
  e.eventType = "OBSERVATION_RECORDED" ∧ e.subjectId = o.observationId ∧
    observationOf e.payloadJson e.payloadSha256 = .ok o

/-- The recovered dispatches and observations are those that the events record. -/
structure MatchesEvents (s : TaskStore) (taskId planFingerprint : String) (st : RecoveredExecutionState F) : Prop where
  dispatches : ∀ t, t ∈ st.dispatches ↔ ∃ e ∈ s.eventsOf taskId planFingerprint, RecordsTicket F e t
  observations : ∀ o, o ∈ st.observations ↔ ∃ e ∈ s.eventsOf taskId planFingerprint, RecordsObservation e o

/-- Every row has an event that records what the row holds, and every recorded ticket or observation
has a row that holds it. -/
structure RowsMatchEvents (F : Type) [PyRuntime F] (s : TaskStore) (taskId planFingerprint : String) : Prop where
  dispatch_event : ∀ row ∈ s.dispatchesOf taskId planFingerprint, ∀ t, ticketOf F row.ticketJson row.ticketSha256 = .ok t →
    ∃ e ∈ s.eventsOf taskId planFingerprint, RecordsTicket F e t
  dispatch_row : ∀ e ∈ s.eventsOf taskId planFingerprint, ∀ t, RecordsTicket F e t →
    ∃ row ∈ s.dispatchesOf taskId planFingerprint, ticketOf F row.ticketJson row.ticketSha256 = .ok t
  observation_event : ∀ row ∈ s.observationsOf taskId planFingerprint, ∀ o : ExecutionObservation F,
    observationOf row.observationJson row.observationSha256 = .ok o →
      ∃ e ∈ s.eventsOf taskId planFingerprint, RecordsObservation e o
  observation_row : ∀ e ∈ s.eventsOf taskId planFingerprint, ∀ o : ExecutionObservation F, RecordsObservation e o →
    ∃ row ∈ s.observationsOf taskId planFingerprint, observationOf row.observationJson row.observationSha256 = .ok o

theorem mem_loaded_dispatches (h : load taskId planFingerprint s = .ok st)
    (t : DispatchTicket) :
    t ∈ st.dispatches ↔
      ∃ row ∈ s.dispatchesOf taskId planFingerprint, ticketOf F row.ticketJson row.ticketSha256 = .ok t := by
  obtain ⟨-, -, -, ts, os, reason, hts, -, -, -, rfl⟩ := load_ok.mp h
  constructor
  · intro ht
    obtain ⟨row, hrow, hholds⟩ := forall₂_mem_right hts ht
    exact ⟨row, (List.mem_insertionSort _).mp hrow, hholds.1⟩
  · rintro ⟨row, hrow, hticket⟩
    obtain ⟨t', ht', hholds⟩ := forall₂_mem_left hts ((List.mem_insertionSort _).mpr hrow)
    have := hholds.1
    rw [hticket] at this
    cases this
    exact ht'

theorem mem_loaded_observations (h : load taskId planFingerprint s = .ok st)
    (o : ExecutionObservation F) :
    o ∈ st.observations ↔
      ∃ row ∈ s.observationsOf taskId planFingerprint, observationOf row.observationJson row.observationSha256 = .ok o := by
  obtain ⟨-, -, -, ts, os, reason, -, -, hos, -, rfl⟩ := load_ok.mp h
  have hread : ∀ row o, loadObservation taskId planFingerprint (ticketsByNode ts) row = .ok (o : ExecutionObservation F) →
      observationOf row.observationJson row.observationSha256 = .ok o := by
    intro row o hrow
    simp only [loadObservation, bind_ok, require_ok, orRaise_ok, pure_ok] at hrow
    obtain ⟨o', ho', _, -, _, -, _, -, _, -, rfl⟩ := hrow
    exact ho'
  constructor
  · intro ho
    obtain ⟨row, hrow, hholds⟩ := forall₂_mem_right hos ho
    exact ⟨row, (List.mem_insertionSort _).mp hrow, hread row o hholds⟩
  · rintro ⟨row, hrow, hobs⟩
    obtain ⟨o', ho', hholds⟩ := forall₂_mem_left hos ((List.mem_insertionSort _).mpr hrow)
    have := hread row o' hholds
    rw [hobs] at this
    cases this
    exact ho'

/-- A load that returns gives back what the events record exactly when the row tables do. -/
theorem load_matches_events {st : RecoveredExecutionState F} (h : load taskId planFingerprint s = .ok st) :
    MatchesEvents s taskId planFingerprint st ↔ RowsMatchEvents F s taskId planFingerprint := by
  have hd := mem_loaded_dispatches h
  have ho := mem_loaded_observations h
  constructor
  · intro hm
    refine ⟨?_, ?_, ?_, ?_⟩
    · intro row hrow t ht
      exact (hm.dispatches t).mp ((hd t).mpr ⟨row, hrow, ht⟩)
    · intro e he t ht
      exact (hd t).mp ((hm.dispatches t).mpr ⟨e, he, ht⟩)
    · intro row hrow o hobs
      exact (hm.observations o).mp ((ho o).mpr ⟨row, hrow, hobs⟩)
    · intro e he o hobs
      exact (ho o).mp ((hm.observations o).mpr ⟨e, he, hobs⟩)
  · intro hr
    refine ⟨?_, ?_⟩
    · intro t
      rw [hd t]
      constructor
      · rintro ⟨row, hrow, ht⟩
        exact hr.dispatch_event row hrow t ht
      · rintro ⟨e, he, ht⟩
        exact hr.dispatch_row e he t ht
    · intro o
      rw [ho o]
      constructor
      · rintro ⟨row, hrow, hobs⟩
        exact hr.observation_event row hrow o hobs
      · rintro ⟨e, he, hobs⟩
        exact hr.observation_row e he o hobs

end Loading

/-! ## A dispatch that is recorded, and one that is deleted -/

section Deleted

variable {F : Type} [PyRuntime F]

theorem validateDispatchFingerprints_issued {plan : ExecutionPlan F} {node : ExecutionNode F}
    (h : ExecutionScheduler.IssuedFor plan node t)
    (hdeps : ∀ f ∈ t.dependencyObservationFingerprints, ∃ o : ExecutionObservation F, o.fingerprint = .ok f) :
    validateDispatchFingerprints t = .ok ⟨⟩ := by
  have hplan := h.planFingerprint
  have hnode := h.nodeFingerprint
  simp only [ExecutionPlan.fingerprint, bind_ok] at hplan
  simp only [ExecutionNode.fingerprint, ExecutionNode.canonicalDict, bind_ok, checkSha256, require_ok] at hnode
  obtain ⟨_, -, hplan⟩ := hplan
  obtain ⟨_, ⟨_, hauth, -⟩, hnode⟩ := hnode
  refine validateDispatchFingerprints_ok.mpr ⟨sha256Re_digestOf hplan, sha256Re_digestOf hnode, ?_, ?_⟩
  · rw [h.authority]
    exact hauth
  · intro f hf
    obtain ⟨o, ho⟩ := hdeps f hf
    simp only [fingerprint, bind_ok] at ho
    obtain ⟨_, -, ho⟩ := ho
    exact sha256Re_digestOf ho

theorem recordDispatch_new {now : String} (hv : t.validate = .ok ⟨⟩)
    (hf : validateDispatchFingerprints t = .ok ⟨⟩) (htext : dumps (Json.dict (dispatchEntries t) : Json F) = some json)
    (htask : t.taskId ∈ s.tasks) (hnew : ∀ row ∈ s.dispatches, row.ticketId ≠ t.ticketId)
    (hnode : s.dispatchOf? t.taskId t.planFingerprint t.nodeId = none) (hseq : t.dispatchSequence ≤ maxSqlInteger) :
    recordDispatch F now t s = .ok (appendEvent { s with dispatches := s.dispatches ++ [dispatchRow t json now] }
      t.taskId t.planFingerprint "DISPATCH_RECORDED" t.ticketId json (hashText json) now) := by
  have hfind : sameDispatch F s t.ticketId (hashText json) = .ok false := by
    have hnone : s.dispatches.find? (·.ticketId = t.ticketId) = none := by
      rw [List.find?_eq_none]
      intro row hrow
      simpa using hnew row hrow
    rw [sameDispatch, hnone]
    rfl
  simp only [recordDispatch, bind_ok, checkpointText_ok, requireTask, require_ok]
  refine ⟨_, dispatchPayload_ok.mpr ⟨hv, hf, rfl⟩, json, htext, _, (checkpointDigest_of htext).mpr rfl, ⟨⟩, htask,
    false, hfind, ?_⟩
  simp only [Bool.false_eq_true, ite_false, insertDispatch, bind_ok, require_ok, pure_ok]
  exact ⟨⟨⟩, hnode, _, ⟨⟨⟩, hseq, rfl⟩, rfl⟩

theorem dumpable_dispatchEntries {F : Type} [PyFloat F] (hs : t.dispatchSequence.natAbs < 2 ^ 64)
    (hl : t.executionLevel.natAbs < 2 ^ 64) : dumpable (Json.dict (dispatchEntries t) : Json F) = true := by
  refine dumpable_dict ?_
  intro e he
  simp only [dispatchEntries, List.mem_cons, List.not_mem_nil, or_false] at he
  rcases he with rfl | rfl | rfl | rfl | rfl | rfl | rfl | rfl | rfl | rfl | rfl
  all_goals try rfl
  · exact dumpable_strs _
  · exact dumpable_int hs
  · exact dumpable_int hl

/-- The store of one recorded ticket, with whatever dispatch rows it has. -/
def ticketStore (t : DispatchTicket) (json : String) (dispatches : List DispatchRow) : TaskStore :=
  appendEvent { tasks := ["t1"], dispatches := dispatches } "t1" t.planFingerprint "DISPATCH_RECORDED" t.ticketId json
    (hashText json) "2026-01-01T00:00:00Z"

def ticketEvent (t : DispatchTicket) (json : String) : EventRow :=
  newEvent { tasks := ["t1"] } "t1" t.planFingerprint "DISPATCH_RECORDED" t.ticketId json (hashText json)
    "2026-01-01T00:00:00Z"

theorem ticketStore_events (t : DispatchTicket) (json : String) (dispatches : List DispatchRow) :
    (ticketStore t json dispatches).eventsOf "t1" t.planFingerprint = [ticketEvent t json] := by
  rw [ticketStore, eventsOf_appendEvent (by simp) (by simp), if_pos ⟨rfl, rfl⟩]
  rfl

theorem recorded_ticket : ∃ (t : DispatchTicket) (json : String), t.taskId = "t1" ∧ sha256Re t.planFingerprint = true ∧
    recordDispatch WholeFloat "2026-01-01T00:00:00Z" t { tasks := ["t1"] } =
      .ok (ticketStore t json [dispatchRow t json "2026-01-01T00:00:00Z"]) ∧
    ticketOf WholeFloat json (hashText json) = .ok t ∧
    ∀ dispatches, EventLog WholeFloat (ticketStore t json dispatches) := by
  obtain ⟨dp, da, id, hnew⟩ := Sample.ticketed
  obtain ⟨hissued, -, -⟩ := ExecutionScheduler.newTicket_ok hnew
  have hv := hissued.valid
  have hf : validateDispatchFingerprints (Sample.ticketA dp da id) = .ok ⟨⟩ :=
    validateDispatchFingerprints_issued hissued (by simp [Sample.ticketA])
  have htext := dumps_of_dumpable (dumpable_dispatchEntries (F := WholeFloat) (t := Sample.ticketA dp da id)
    (show (1 : Int).natAbs < 2 ^ 64 by decide) (show (0 : Int).natAbs < 2 ^ 64 by decide))
  have hp : PayloadText _ _ (Json.dict (dispatchEntries (Sample.ticketA dp da id)) : Json WholeFloat) :=
    ⟨canonical_dispatchEntries _, htext, rfl⟩
  generalize String.ofList (text (Json.dict (dispatchEntries (Sample.ticketA dp da id)) : Json WholeFloat)) = json
    at htext hp
  have hrec : recordDispatch WholeFloat "2026-01-01T00:00:00Z" (Sample.ticketA dp da id) { tasks := ["t1"] } = .ok _ :=
    recordDispatch_new hv hf htext (by simp [Sample.ticketA]) (by simp) rfl (show (1 : Int) ≤ 2 ^ 63 - 1 by decide)
  have hticket : ticketOf WholeFloat json (hashText json) = .ok (Sample.ticketA dp da id) := by
    simp only [ticketOf, bind_ok]
    exact ⟨_, parse_ok.mpr hp, dispatchFromPayload_entries hv hf⟩
  exact ⟨Sample.ticketA dp da id, json, rfl, (validateDispatchFingerprints_ok.mp hf).1, hrec, hticket,
    fun _ => EventLog.append (EventLog.fresh rfl) hp⟩

/-- The rows and the events agree on a recorded dispatch, and a load gives its ticket back. -/
theorem recorded_dispatch_loads : ∃ (t : DispatchTicket) (s : TaskStore) (st : RecoveredExecutionState WholeFloat),
    recordDispatch WholeFloat "2026-01-01T00:00:00Z" t { tasks := ["t1"] } = .ok s ∧
    load "t1" t.planFingerprint s = .ok st ∧ st.dispatches = [t] ∧ MatchesEvents s "t1" t.planFingerprint st := by
  obtain ⟨t, json, htask, hsha, hrec, hticket, hlog⟩ := recorded_ticket
  have hrows : (ticketStore t json [dispatchRow t json "2026-01-01T00:00:00Z"]).dispatchesOf "t1" t.planFingerprint =
      [dispatchRow t json "2026-01-01T00:00:00Z"] := by
    simp [TaskStore.dispatchesOf, ticketStore, appendEvent, dispatchRow, htask]
  have hevents := ticketStore_events t json [dispatchRow t json "2026-01-01T00:00:00Z"]
  have hload : load "t1" t.planFingerprint (ticketStore t json [dispatchRow t json "2026-01-01T00:00:00Z"]) =
      .ok (⟨"t1", t.planFingerprint, [t], [], [t.ticketId], none⟩ : RecoveredExecutionState WholeFloat) := by
    refine load_ok.mpr ⟨hsha, (hlog _).intact _ _, by simp [ticketStore, appendEvent], [t], [], none, ?_, by simp, .nil,
      ?_, by simp⟩
    · rw [hrows]
      exact .cons ⟨hticket, htask, rfl⟩ .nil
    · rw [latestCancellation, hevents]
      rfl
  refine ⟨t, _, _, hrec, hload, rfl, (load_matches_events hload).mpr ⟨?_, ?_, ?_, ?_⟩⟩
  · intro row hrow t' ht'
    rw [hrows, List.mem_singleton] at hrow
    subst hrow
    obtain rfl : t = t' := Except.ok.inj (hticket.symm.trans ht')
    exact ⟨ticketEvent t json, by rw [hevents]; exact List.mem_singleton_self _, rfl, rfl, hticket⟩
  · intro e he t' ht'
    rw [hevents, List.mem_singleton] at he
    subst he
    have hsame : ticketOf WholeFloat json (hashText json) = .ok t' := ht'.2.2
    exact ⟨dispatchRow t json "2026-01-01T00:00:00Z", by rw [hrows]; exact List.mem_singleton_self _, hsame⟩
  · intro row hrow
    cases hrow
  · intro e he o ho
    rw [hevents, List.mem_singleton] at he
    subst he
    exact absurd (show "DISPATCH_RECORDED" = "OBSERVATION_RECORDED" from ho.1) (by decide)

/-- Once the row of the only dispatch is deleted, a load returns as if nothing had been dispatched,
although the verified events record the ticket. -/
theorem deleted_dispatch_loads : ∃ (t : DispatchTicket) (s : TaskStore) (st : RecoveredExecutionState WholeFloat),
    recordDispatch WholeFloat "2026-01-01T00:00:00Z" t { tasks := ["t1"] } = .ok s ∧
    load "t1" t.planFingerprint { s with dispatches := [] } = .ok st ∧ st.dispatches = [] ∧
    ¬ MatchesEvents { s with dispatches := [] } "t1" t.planFingerprint st := by
  obtain ⟨t, json, -, hsha, hrec, hticket, hlog⟩ := recorded_ticket
  have hevents := ticketStore_events t json []
  have hload : load "t1" t.planFingerprint (ticketStore t json []) =
      .ok (⟨"t1", t.planFingerprint, [], [], [], none⟩ : RecoveredExecutionState WholeFloat) := by
    refine load_ok.mpr ⟨hsha, (hlog _).intact _ _, by simp [ticketStore, appendEvent], [], [], none, .nil, .nil, .nil, ?_,
      rfl⟩
    rw [latestCancellation, hevents]
    rfl
  have hdeleted : { ticketStore t json [dispatchRow t json "2026-01-01T00:00:00Z"] with dispatches := [] } =
      ticketStore t json [] := rfl
  refine ⟨t, _, _, hrec, hload, rfl, ?_⟩
  rw [hdeleted]
  intro hmatch
  have hin := (hmatch.dispatches t).mpr
    ⟨ticketEvent t json, by rw [hevents]; exact List.mem_singleton_self _, rfl, rfl, hticket⟩
  cases hin

end Deleted

end ExecutionCheckpoint

end ThreeAgent
