/-
The pure scheduler in closed form. The loop over the observations collects, of
every node, its terminal status and whether it is partial; what it collects, and
whether it raises, depends on the set of the observations alone. The loop over the
nodes reads the states of the dependencies, which are already there because the
plan lists its nodes in topological order.

An observation that repeats an id is dropped when its fingerprint is the same, so
the facts are stated for observations among which no two different payloads have
the same SHA-256.
-/
import ThreeAgent.ExecutionPlanFacts
import ThreeAgent.ObservationFacts
import ThreeAgent.Lib.Table

namespace ThreeAgent

open PyText Outcome PyJson PyDict ExecutionObservation

variable {states : PyDict.Dict NodeState} {approved : List String} {d : SchedulingDecision}

/-! ## Payloads and fingerprints -/

section Payloads

variable {F : Type} [PyRuntime F] {o o' : ExecutionObservation F} {v : Json F}

omit [PyRuntime F] in
theorem dumpable_get? [PyFloat F] {v w : Json F} {k : String} (hv : dumpable v = true) (h : v.get? k = some w) :
    dumpable w = true := by
  cases v with
  | obj kvs =>
    obtain ⟨before, after, rfl, -⟩ := List.lookup_eq_some_iff.mp h
    exact entriesDumpable_iff.mp hv (k, w) (by simp)
  | _ => cases h

namespace ExecutionObservation

theorem fingerprint_of_validate {plan : ExecutionPlan F} {parent : TaskCapabilityAuthority}
    (h : o.validate plan parent = .ok ()) : ∃ f, o.fingerprint = .ok f := by
  have hself := validateSelf_of_validate h
  obtain ⟨-, hidentity⟩ := validateSelf_ok.mp hself
  simp only [checkIdentity, bind_ok, require_ok] at hidentity
  obtain ⟨entries, hentries, digest, hdigest, -⟩ := hidentity
  obtain ⟨t, ht, -⟩ := digestOf_ok.mp hdigest
  have hdump := dumpable_of_dumps ht
  have hall : ∀ e ∈ entries, dumpable e.2 = true := by
    simp only [identityEntries, bind_ok, pure_ok] at hentries
    obtain ⟨output, -, bindings, -, cost, -, rfl⟩ := hentries
    intro e he
    refine dumpable_get? (k := e.1) hdump ?_
    rw [get?_dict]
    simp only [List.mem_cons, List.not_mem_nil, or_false] at he
    rcases he with rfl | rfl | rfl | rfl | rfl | rfl | rfl | rfl | rfl | rfl | rfl | rfl | rfl | rfl | rfl <;> rfl
  have hwhole : ∀ e ∈ ("observation_id", .str o.observationId) :: entries, dumpable e.2 = true := by
    intro e he
    rcases List.mem_cons.mp he with rfl | he
    · rfl
    · exact hall e he
  obtain ⟨f, hf⟩ := digestOf_dumpable (e := observationError "OBSERVATION_NOT_CANONICAL_JSON") (dumpable_dict hwhole)
  refine ⟨f, ?_⟩
  simp only [fingerprint, canonicalDict, bind_ok, pure_ok]
  exact ⟨_, ⟨(), hself, entries, hentries, rfl⟩, hf⟩

theorem get?_canonicalDict (h : o.canonicalDict = .ok v) :
    v.get? "node_id" = some (.str o.nodeId) ∧ v.get? "status" = some (.str o.status) := by
  simp only [canonicalDict, identityEntries, bind_ok, pure_ok] at h
  obtain ⟨_, -, _, ⟨output, -, bindings, -, cost, -, rfl⟩, rfl⟩ := h
  constructor <;> (rw [get?_dict]; rfl)

end ExecutionObservation

/-- No two different payloads of the observations have the same digest. -/
def FingerprintsFree (observations : List (ExecutionObservation F)) : Prop :=
  ∀ o ∈ observations, ∀ o' ∈ observations, ∀ v v' t t', o.canonicalDict = .ok v → o'.canonicalDict = .ok v' →
    dumps v = some t → dumps v' = some t' → hashText t = hashText t' → t = t'

variable {os os' : List (ExecutionObservation F)}

theorem FingerprintsFree.subset (h : FingerprintsFree os') (hsub : os ⊆ os') :
    FingerprintsFree os := fun o ho o' ho' => h o (hsub ho) o' (hsub ho')

theorem FingerprintsFree.same (h : FingerprintsFree os) (ho : o ∈ os)
    (ho' : o' ∈ os) {f : String} (hf : o.fingerprint = .ok f) (hf' : o'.fingerprint = .ok f) :
    o.nodeId = o'.nodeId ∧ o.status = o'.status := by
  simp only [fingerprint, bind_ok] at hf hf'
  obtain ⟨v, hv, hd⟩ := hf
  obtain ⟨v', hv', hd'⟩ := hf'
  obtain ⟨t, ht, rfl⟩ := digestOf_ok.mp hd
  obtain ⟨t', ht', heq⟩ := digestOf_ok.mp hd'
  have htext := h o ho o' ho' v v' t t' hv hv' ht ht' heq
  have hload := loads_dumps (o.canonical_canonicalDict hv) ht
  have hload' := loads_dumps (o'.canonical_canonicalDict hv') ht'
  rw [htext, hload'] at hload
  obtain ⟨hnode, hstatus⟩ := get?_canonicalDict hv
  obtain ⟨hnode', hstatus'⟩ := get?_canonicalDict hv'
  rw [← Option.some.inj hload] at hnode hstatus
  exact ⟨Json.str.inj (Option.some.inj (hnode.symm.trans hnode')),
    Json.str.inj (Option.some.inj (hstatus.symm.trans hstatus'))⟩

end Payloads

/-! ## What the loop over the observations collects -/

namespace RuntimeScheduler

variable {F : Type} [PyRuntime F] {plan : ExecutionPlan F} {parent : TaskCapabilityAuthority} {approvals : List String}

/-- The observations that the loop lets through. -/
structure Admissible (plan : ExecutionPlan F) (parent : TaskCapabilityAuthority) (approvals : List String)
    (os : List (ExecutionObservation F)) : Prop where
  valid : ∀ o ∈ os, o.validate plan parent = .ok ()
  approved : ∀ o ∈ os, ∃ node, plan.node? o.nodeId = some node ∧ (node.approvalRequired = true → o.nodeId ∈ approvals)
  ids : ∀ o ∈ os, ∀ o' ∈ os, o.observationId = o'.observationId → o.fingerprint = o'.fingerprint
  terminal : ∀ o ∈ os, ∀ o' ∈ os, o.status ∈ terminalStatuses → o'.status ∈ terminalStatuses → o.nodeId = o'.nodeId →
    o.observationId = o'.observationId

/-- What has been collected of the observations so far. -/
structure Collects (os : List (ExecutionObservation F)) (c : Collected F) : Prop where
  unique_mem : ∀ id e, PyDict.get? c.unique id = some e → e ∈ os ∧ e.observationId = id
  unique_has : ∀ o ∈ os, ∃ e, PyDict.get? c.unique o.observationId = some e
  terminal_mem : ∀ id e, PyDict.get? c.terminal id = some e → e ∈ os ∧ e.nodeId = id ∧ e.status ∈ terminalStatuses
  terminal_has : ∀ o ∈ os, o.status ∈ terminalStatuses → ∃ e, PyDict.get? c.terminal o.nodeId = some e
  partialNodes : ∀ id, id ∈ c.partialNodes ↔ ∃ o ∈ os, o.status = "PARTIAL" ∧ o.nodeId = id

theorem Admissible.subset (h : Admissible plan parent approvals os')
    (hsub : os ⊆ os') : Admissible plan parent approvals os :=
  ⟨fun o ho => h.valid o (hsub ho), fun o ho => h.approved o (hsub ho),
    fun o ho o' ho' => h.ids o (hsub ho) o' (hsub ho'), fun o ho o' ho' => h.terminal o (hsub ho) o' (hsub ho')⟩

omit [PyRuntime F] in
theorem collects_nil : Collects ([] : List (ExecutionObservation F)) ⟨[], [], []⟩ :=
  ⟨by simp, by simp, by simp, by simp, by simp⟩

theorem admissible_nil : Admissible plan parent approvals ([] : List (ExecutionObservation F)) :=
  ⟨by simp, by simp, by simp, by simp⟩

section Step

variable {done : List (ExecutionObservation F)} {c c' : Collected F} {o : ExecutionObservation F}

theorem partial_not_terminal : "PARTIAL" ∉ terminalStatuses := by decide

/-- What one observation has to meet. -/
structure Passes (plan : ExecutionPlan F) (parent : TaskCapabilityAuthority) (approvals : List String)
    (done : List (ExecutionObservation F)) (o : ExecutionObservation F) : Prop where
  valid : o.validate plan parent = .ok ()
  approved : ∃ node, plan.node? o.nodeId = some node ∧ (node.approvalRequired = true → o.nodeId ∈ approvals)
  ids : ∀ e ∈ done, e.observationId = o.observationId → e.fingerprint = o.fingerprint
  terminal : ∀ e ∈ done, e.status ∈ terminalStatuses → o.status ∈ terminalStatuses → e.nodeId = o.nodeId →
    e.observationId = o.observationId

theorem Admissible.snoc (h : Admissible plan parent approvals done) (ho : Passes plan parent approvals done o) :
    Admissible plan parent approvals (done ++ [o]) := by
  have hcases : ∀ e ∈ done ++ [o], e ∈ done ∨ e = o := fun e he => by simpa using he
  refine ⟨?_, ?_, ?_, ?_⟩
  · intro e he
    rcases hcases e he with he | rfl
    · exact h.valid e he
    · exact ho.valid
  · intro e he
    rcases hcases e he with he | rfl
    · exact h.approved e he
    · exact ho.approved
  · intro e he e' he' hid
    rcases hcases e he with hold | rfl
    · rcases hcases e' he' with hold' | rfl
      · exact h.ids e hold e' hold' hid
      · exact ho.ids e hold hid
    · rcases hcases e' he' with hold' | rfl
      · exact (ho.ids e' hold' hid.symm).symm
      · rfl
  · intro e he e' he' hst hst' hnode
    rcases hcases e he with hold | rfl
    · rcases hcases e' he' with hold' | rfl
      · exact h.terminal e hold e' hold' hst hst' hnode
      · exact ho.terminal e hold hst hst' hnode
    · rcases hcases e' he' with hold' | rfl
      · exact (ho.terminal e' hold' hst' hst hnode.symm).symm
      · rfl

theorem Admissible.passes (h : Admissible plan parent approvals (done ++ [o])) : Passes plan parent approvals done o := by
  have ho : o ∈ done ++ [o] := by simp
  refine ⟨h.valid o ho, h.approved o ho, ?_, ?_⟩
  · exact fun e he => h.ids e (List.mem_append_left _ he) o ho
  · exact fun e he hst hst' => h.terminal e (List.mem_append_left _ he) o ho hst hst'

theorem place_ok (hc : Collects done c) (ha : Admissible plan parent approvals done)
    (hstatus : o.status ∈ observationStatuses)
    {unique : PyDict.Dict (ExecutionObservation F)} :
    Collected.place { c with unique := unique } o = .ok c' ↔
      (∀ e ∈ done, e.status ∈ terminalStatuses → o.status ∈ terminalStatuses → e.nodeId = o.nodeId →
        e.observationId = o.observationId) ∧
      c' = (if o.status = "PARTIAL" then { c with unique := unique, partialNodes := o.nodeId :: c.partialNodes }
        else { c with unique := unique, terminal := set c.terminal o.nodeId o }) := by
  unfold Collected.place
  by_cases hpart : o.status = "PARTIAL"
  · rw [if_pos hpart, if_pos hpart]
    simp only [pure_ok]
    constructor
    · intro h
      refine ⟨?_, h.symm⟩
      intro e _ _ hterminal
      rw [hpart] at hterminal
      exact absurd hterminal partial_not_terminal
    · exact fun h => h.2.symm
  · have hterminal : o.status ∈ terminalStatuses := by
      simp only [observationStatuses, terminalStatuses, List.mem_cons, List.not_mem_nil, or_false] at hstatus ⊢
      tauto
    rw [if_neg hpart, if_pos hterminal, if_neg hpart]
    simp only [bind_ok, require_ok, pure_ok, exists_const]
    refine and_congr ?_ eq_comm
    constructor
    · intro h e he hst _ hnode
      obtain ⟨e', he'⟩ := hc.terminal_has e he hst
      obtain ⟨hmem, hnode', hst'⟩ := hc.terminal_mem _ _ he'
      rw [ha.terminal e he e' hmem hst hst' hnode'.symm]
      exact h e' (by rw [← hnode]; exact he')
    · intro h previous hprevious
      obtain ⟨hmem, hnode, hst⟩ := hc.terminal_mem _ _ hprevious
      exact h previous hmem hst hterminal hnode

theorem status_of_validate (h : o.validate plan parent = .ok ()) : o.status ∈ observationStatuses := by
  obtain ⟨hfields, -⟩ := validate_ok.mp h
  simp only [checkFields, bind_ok, require_ok] at hfields
  obtain ⟨_, -, _, -, _, -, _, -, _, -, _, -, _, -, _, hstatus, -⟩ := hfields
  exact hstatus

omit [PyRuntime F] in
theorem Collects.repeated (hc : Collects done c) {e : ExecutionObservation F} (he : e ∈ done)
    (hid : e.observationId = o.observationId) (hsame : e.nodeId = o.nodeId ∧ e.status = o.status) :
    Collects (done ++ [o]) c := by
  refine ⟨?_, ?_, ?_, ?_, ?_⟩
  · intro id e' he'
    obtain ⟨hmem, hid'⟩ := hc.unique_mem id e' he'
    exact ⟨List.mem_append_left _ hmem, hid'⟩
  · intro x hx
    rcases List.mem_append.mp hx with hx | hx
    · exact hc.unique_has x hx
    · rw [List.mem_singleton.mp hx, ← hid]
      exact hc.unique_has e he
  · intro id e' he'
    obtain ⟨hmem, hrest⟩ := hc.terminal_mem id e' he'
    exact ⟨List.mem_append_left _ hmem, hrest⟩
  · intro x hx hst
    rcases List.mem_append.mp hx with hx | hx
    · exact hc.terminal_has x hx hst
    · rw [List.mem_singleton.mp hx] at hst ⊢
      rw [← hsame.1]
      exact hc.terminal_has e he (hsame.2 ▸ hst)
  · intro id
    rw [hc.partialNodes]
    constructor
    · intro ⟨x, hx, hpart, hnode⟩
      exact ⟨x, List.mem_append_left _ hx, hpart, hnode⟩
    · intro ⟨x, hx, hpart, hnode⟩
      rcases List.mem_append.mp hx with hx | hx
      · exact ⟨x, hx, hpart, hnode⟩
      · rw [List.mem_singleton.mp hx] at hpart hnode
        exact ⟨e, he, hsame.2.trans hpart, hsame.1.trans hnode⟩

omit [PyRuntime F] in
theorem Collects.new (hc : Collects done c) (hstatus : o.status ∈ observationStatuses) :
    Collects (done ++ [o]) (if o.status = "PARTIAL" then
        { c with unique := set c.unique o.observationId o, partialNodes := o.nodeId :: c.partialNodes }
      else { c with
        unique := set c.unique o.observationId o
        terminal := set c.terminal o.nodeId o }) := by
  have hmem : ∀ x, x ∈ done ++ [o] ↔ x ∈ done ∨ x = o := by simp
  have hunique : ∀ id e, get? (set c.unique o.observationId o) id = some e →
      e ∈ done ++ [o] ∧ e.observationId = id := by
    intro id e he
    rw [get?_set] at he
    split at he
    · rename_i hid
      cases he
      exact ⟨by simp, hid⟩
    · obtain ⟨he, hid⟩ := hc.unique_mem id e he
      exact ⟨List.mem_append_left _ he, hid⟩
  have hhas : ∀ x ∈ done ++ [o], ∃ e, get? (set c.unique o.observationId o) x.observationId = some e := by
    intro x hx
    rw [get?_set]
    by_cases hid : o.observationId = x.observationId
    · exact ⟨o, if_pos hid⟩
    · rw [if_neg hid]
      rcases (hmem x).mp hx with hx | rfl
      · exact hc.unique_has x hx
      · exact absurd rfl hid
  by_cases hpart : o.status = "PARTIAL"
  · rw [if_pos hpart]
    refine ⟨hunique, hhas, ?_, ?_, ?_⟩
    · intro id e he
      obtain ⟨he, hrest⟩ := hc.terminal_mem id e he
      exact ⟨List.mem_append_left _ he, hrest⟩
    · intro x hx hst
      rcases (hmem x).mp hx with hx | rfl
      · exact hc.terminal_has x hx hst
      · rw [hpart] at hst
        exact absurd hst partial_not_terminal
    · intro id
      rw [List.mem_cons, hc.partialNodes]
      constructor
      · intro hor
        rcases hor with rfl | ⟨x, hx, hrest⟩
        · exact ⟨o, by simp, hpart, rfl⟩
        · exact ⟨x, List.mem_append_left _ hx, hrest⟩
      · rintro ⟨x, hx, hrest⟩
        rcases (hmem x).mp hx with hx | rfl
        · exact .inr ⟨x, hx, hrest⟩
        · exact .inl hrest.2.symm
  · have hterminal : o.status ∈ terminalStatuses := by
      simp only [observationStatuses, terminalStatuses, List.mem_cons, List.not_mem_nil, or_false] at hstatus ⊢
      tauto
    rw [if_neg hpart]
    refine ⟨hunique, hhas, ?_, ?_, ?_⟩
    · intro id e he
      rw [get?_set] at he
      split at he
      · rename_i hid
        cases he
        exact ⟨by simp, hid, hterminal⟩
      · obtain ⟨he, hrest⟩ := hc.terminal_mem id e he
        exact ⟨List.mem_append_left _ he, hrest⟩
    · intro x hx hst
      rw [get?_set]
      by_cases hnode : o.nodeId = x.nodeId
      · exact ⟨o, if_pos hnode⟩
      · rw [if_neg hnode]
        rcases (hmem x).mp hx with hx | rfl
        · exact hc.terminal_has x hx hst
        · exact absurd rfl hnode
    · intro id
      rw [hc.partialNodes]
      constructor
      · rintro ⟨x, hx, hrest⟩
        exact ⟨x, List.mem_append_left _ hx, hrest⟩
      · rintro ⟨x, hx, hrest⟩
        rcases (hmem x).mp hx with hx | rfl
        · exact ⟨x, hx, hrest⟩
        · exact absurd hrest.1 hpart

theorem admission_ok (hc : Collects done c) (ha : Admissible plan parent approvals done)
    (hfree : FingerprintsFree (done ++ [o])) :
    (∀ c', Collected.admission plan parent approvals c o = .ok c' →
      Passes plan parent approvals done o ∧ Collects (done ++ [o]) c') ∧
    (Passes plan parent approvals done o → ∃ c', Collected.admission plan parent approvals c o = .ok c') := by
  have hmem : ∀ e ∈ done, e ∈ done ++ [o] := fun e he => List.mem_append_left _ he
  have hmemo : o ∈ done ++ [o] := by simp
  cases hget : get? c.unique o.observationId with
  | none =>
    have hnew : ∀ e ∈ done, e.observationId ≠ o.observationId := by
      intro e he hid
      obtain ⟨e', he'⟩ := hc.unique_has e he
      rw [hid, hget] at he'
      cases he'
    have hadmission : ∀ c', Collected.admission plan parent approvals c o = .ok c' ↔ o.validate plan parent = .ok () ∧
        (∃ node, plan.node? o.nodeId = some node ∧ (node.approvalRequired = true → o.nodeId ∈ approvals)) ∧
        Collected.place { c with unique := set c.unique o.observationId o } o = .ok c' := by
      intro c'
      simp only [Collected.admission, hget, bind_ok, rethrow_ok, orRaise_ok, require_ok, exists_const]
      constructor
      · rintro ⟨_, hvalid, node, hnode, happroved, hplace⟩
        exact ⟨hvalid, ⟨node, hnode, happroved⟩, hplace⟩
      · rintro ⟨hvalid, ⟨node, hnode, happroved⟩, hplace⟩
        exact ⟨(), hvalid, node, hnode, happroved, hplace⟩
    constructor
    · intro c' h
      obtain ⟨hvalid, happroved, hplace⟩ := (hadmission c').mp h
      obtain ⟨hterminal, rfl⟩ := (place_ok hc ha (status_of_validate hvalid)).mp hplace
      exact ⟨⟨hvalid, happroved, fun e he hid => absurd hid (hnew e he), hterminal⟩, hc.new (status_of_validate hvalid)⟩
    · intro h
      exact ⟨_, (hadmission _).mpr ⟨h.valid, h.approved, (place_ok hc ha (status_of_validate h.valid)).mpr
        ⟨h.terminal, rfl⟩⟩⟩
  | some e =>
    obtain ⟨he, hid⟩ := hc.unique_mem _ _ hget
    obtain ⟨f, hf⟩ := fingerprint_of_validate (ha.valid e he)
    have hadmission : ∀ c', Collected.admission plan parent approvals c o = .ok c' ↔ o.validate plan parent = .ok () ∧
        (∃ node, plan.node? o.nodeId = some node ∧ (node.approvalRequired = true → o.nodeId ∈ approvals)) ∧
        o.fingerprint = .ok f ∧ c = c' := by
      intro c'
      simp only [Collected.admission, hget, bind_ok, rethrow_ok, orRaise_ok, require_ok, pure_ok, exists_const, hf,
        Except.ok.injEq]
      constructor
      · rintro ⟨_, hvalid, node, hnode, happroved, _, hold, f', hf', hsame, hcc⟩
        exact ⟨hvalid, ⟨node, hnode, happroved⟩, by rw [hf', ← hsame, hold], hcc⟩
      · rintro ⟨hvalid, ⟨node, hnode, happroved⟩, hf', hcc⟩
        exact ⟨(), hvalid, node, hnode, happroved, f, rfl, f, hf', rfl, hcc⟩
    constructor
    · intro c' h
      obtain ⟨hvalid, happroved, hf', rfl⟩ := (hadmission c').mp h
      have hsame := hfree.same (hmem e he) hmemo hf hf'
      refine ⟨⟨hvalid, happroved, ?_, ?_⟩, hc.repeated he hid hsame⟩
      · intro e' he' hid'
        rw [ha.ids e' he' e he (hid'.trans hid.symm), hf, hf']
      · intro e' he' hst hst' hnode
        rw [ha.terminal e' he' e he hst (hsame.2 ▸ hst') (hnode.trans hsame.1.symm), hid]
    · intro h
      refine ⟨c, (hadmission c).mpr ⟨h.valid, h.approved, ?_, rfl⟩⟩
      rw [← h.ids e he hid, hf]

end Step

theorem collect_ok {done : List (ExecutionObservation F)} {c : Collected F} (hc : Collects done c)
    (ha : Admissible plan parent approvals done) (hfree : FingerprintsFree (done ++ os)) :
    (∀ c', os.foldlM (Collected.admission plan parent approvals) c = .ok c' →
      Admissible plan parent approvals (done ++ os) ∧ Collects (done ++ os) c') ∧
    (Admissible plan parent approvals (done ++ os) →
      ∃ c', os.foldlM (Collected.admission plan parent approvals) c = .ok c') := by
  induction os generalizing done c with
  | nil =>
    rw [List.append_nil]
    constructor
    · intro c' h
      simp only [List.foldlM_nil, pure_ok] at h
      rw [← h]
      exact ⟨ha, hc⟩
    · exact fun _ => ⟨c, rfl⟩
  | cons o os ih =>
    have hsplit : done ++ o :: os = (done ++ [o]) ++ os := by simp
    have hsub : done ++ [o] ⊆ (done ++ [o]) ++ os := fun x hx => List.mem_append_left _ hx
    rw [hsplit] at hfree ⊢
    obtain ⟨hforth, hback⟩ := admission_ok hc ha (hfree.subset hsub)
    constructor
    · intro c' h
      simp only [List.foldlM_cons, bind_ok] at h
      obtain ⟨c₁, hone, hrest⟩ := h
      obtain ⟨hpasses, hcollects⟩ := hforth c₁ hone
      exact (ih hcollects (ha.snoc hpasses) hfree).1 c' hrest
    · intro h
      have hone := h.subset hsub
      obtain ⟨c₁, hstep⟩ := hback hone.passes
      obtain ⟨-, hcollects⟩ := hforth c₁ hstep
      obtain ⟨c', hrest⟩ := (ih hcollects hone hfree).2 h
      exact ⟨c', by simp only [List.foldlM_cons, bind_ok]; exact ⟨c₁, hstep, hrest⟩⟩

/-! ## The statuses of the nodes -/

/-- A terminal observation of the node has the status. -/
def TerminalStatus (os : List (ExecutionObservation F)) (id status : String) : Prop :=
  ∃ o ∈ os, o.nodeId = id ∧ o.status = status ∧ status ∈ terminalStatuses

def PartiallyObserved (os : List (ExecutionObservation F)) (id : String) : Prop :=
  ∃ o ∈ os, o.nodeId = id ∧ o.status = "PARTIAL"

section Statuses

variable {os os' : List (ExecutionObservation F)} {c c' : Collected F}

theorem terminal_status (ha : Admissible plan parent approvals os) (hc : Collects os c) (hfree : FingerprintsFree os)
    {id status : String} : TerminalStatus os id status ↔ ∃ o, get? c.terminal id = some o ∧ o.status = status := by
  constructor
  · intro ⟨o, ho, hid, hstatus, hterminal⟩
    obtain ⟨e, he⟩ := hc.terminal_has o ho (hstatus ▸ hterminal)
    obtain ⟨hmem, hnode, hst⟩ := hc.terminal_mem _ _ he
    obtain ⟨f, hf⟩ := fingerprint_of_validate (ha.valid o ho)
    have hsame := ha.terminal o ho e hmem (hstatus ▸ hterminal) hst hnode.symm
    have hf' := (ha.ids o ho e hmem hsame).symm.trans hf
    exact ⟨e, hid ▸ he, ((hfree.same ho hmem hf hf').2.symm).trans hstatus⟩
  · intro ⟨o, ho, hstatus⟩
    obtain ⟨hmem, hnode, hst⟩ := hc.terminal_mem _ _ ho
    exact ⟨o, hmem, hnode, hstatus, hstatus ▸ hst⟩

omit [PyRuntime F] in
theorem terminal_none (hc : Collects os c) {id : String} :
    get? c.terminal id = none ↔ ∀ status, ¬ TerminalStatus os id status := by
  constructor
  · intro hnone status ⟨o, ho, hid, hstatus, hterminal⟩
    obtain ⟨e, he⟩ := hc.terminal_has o ho (hstatus ▸ hterminal)
    rw [hid, hnone] at he
    cases he
  · intro h
    cases hget : get? c.terminal id with
    | none => rfl
    | some e =>
      obtain ⟨hmem, hnode, hst⟩ := hc.terminal_mem _ _ hget
      exact absurd ⟨e, hmem, hnode, rfl, hst⟩ (h e.status)

omit [PyRuntime F] in
theorem partial_iff (hc : Collects os c) {id : String} : id ∈ c.partialNodes ↔ PartiallyObserved os id := by
  rw [hc.partialNodes]
  exact exists_congr fun o => and_congr_right fun _ => and_comm

theorem statuses_congr (ha : Admissible plan parent approvals os) (ha' : Admissible plan parent approvals os')
    (hc : Collects os c) (hc' : Collects os' c') (hfree : FingerprintsFree os) (hmem : ∀ o, o ∈ os ↔ o ∈ os') :
    (∀ id, (get? c.terminal id).map status =
      (get? c'.terminal id).map status) ∧
    ∀ id, id ∈ c.partialNodes ↔ id ∈ c'.partialNodes := by
  have hfree' : FingerprintsFree os' := hfree.subset fun o ho => (hmem o).mpr ho
  constructor
  · intro id
    refine Option.ext fun status => ?_
    simp only [Option.map_eq_some_iff]
    rw [← terminal_status ha hc hfree, ← terminal_status ha' hc' hfree']
    exact exists_congr fun o => and_congr_left fun _ => hmem o
  · intro id
    rw [partial_iff hc, partial_iff hc']
    exact exists_congr fun o => and_congr_left fun _ => hmem o

end Statuses

omit [PyRuntime F] in
theorem nodeState_congr {c c' : Collected F} {states' : PyDict.Dict NodeState} {n : ExecutionNode F}
    (hterminal : ∀ id, (get? c.terminal id).map status =
      (get? c'.terminal id).map status)
    (hpart : ∀ id, id ∈ c.partialNodes ↔ id ∈ c'.partialNodes)
    (hstates : ∀ d ∈ n.dependsOn, get? states d = get? states' d) :
    nodeState c approvals states n = nodeState c' approvals states' n := by
  have hfailed : (n.dependsOn.any fun d => decide ((get? states d).getD .waiting ∈
      [NodeState.failed, .cancelled, .blocked])) = n.dependsOn.any fun d =>
        decide ((get? states' d).getD .waiting ∈ [NodeState.failed, .cancelled, .blocked]) := by
    rw [Bool.eq_iff_iff, List.any_eq_true, List.any_eq_true]
    exact exists_congr fun d => and_congr_right fun hd => by rw [hstates d hd]
  have hsucceeded : (n.dependsOn.all fun d => (get? c.terminal d).any fun o => decide (o.status = "SUCCEEDED")) =
      n.dependsOn.all fun d => (get? c'.terminal d).any fun o => decide (o.status = "SUCCEEDED") := by
    have hone : ∀ (t : Option (ExecutionObservation F)), (t.any fun o => decide (o.status = "SUCCEEDED")) =
        (t.map status).any fun st => decide (st = "SUCCEEDED") := by
      intro t
      cases t <;> rfl
    exact List.all_congr rfl fun d => by rw [hone, hone, hterminal]
  unfold nodeState
  have hown := hterminal n.nodeId
  cases hget : get? c.terminal n.nodeId with
  | some o =>
    rw [hget] at hown
    obtain ⟨o', ho', hstatus⟩ := Option.map_eq_some_iff.mp hown.symm
    rw [ho']
    show (NodeState.ofStatus o.status, _) = (NodeState.ofStatus o'.status, _)
    rw [hstatus]
  | none =>
    rw [hget] at hown
    rw [Option.map_eq_none_iff.mp hown.symm]
    simp only [hpart n.nodeId, hfailed, hsucceeded]

theorem nodeRecords_congr {c c' : Collected F}
    (hterminal : ∀ id, (get? c.terminal id).map status =
      (get? c'.terminal id).map status)
    (hpart : ∀ id, id ∈ c.partialNodes ↔ id ∈ c'.partialNodes) (states : PyDict.Dict NodeState)
    (ns : List (ExecutionNode F)) : nodeRecords c approvals states ns = nodeRecords c' approvals states ns := by
  induction ns generalizing states with
  | nil => rfl
  | cons n ns ih =>
    simp only [nodeRecords, nodeState_congr hterminal hpart fun _ _ => rfl, ih]

/-! ## The order of the observations -/

variable {context : TaskContext F}

theorem evaluate_ok : evaluate context plan parent os approved = .ok d ↔
      checkBinding context plan parent = .ok () ∧ ∃ approvals, checkApprovals plan approved = .ok approvals ∧
        ∃ c, os.foldlM (Collected.admission plan parent approvals) ⟨[], [], []⟩ = .ok c ∧
        ∃ records, nodeRecords c approvals [] plan.nodes = .ok records ∧
        ∃ contextFingerprint, context.fingerprint = .ok contextFingerprint ∧
        ∃ planFingerprint, plan.fingerprint = .ok planFingerprint ∧
        d = ⟨plan.taskId, contextFingerprint, planFingerprint, decisionStatus records, records, approvals⟩ ∧
          d.check = .ok () := by
  simp only [evaluate, bind_ok, pure_ok]
  constructor
  · rintro ⟨_, hbinding, approvals, happrovals, c, hc, records, hrecords, cf, hcf, pf, hpf, _, hcheck, hd⟩
    exact ⟨hbinding, approvals, happrovals, c, hc, records, hrecords, cf, hcf, pf, hpf, hd.symm, hd ▸ hcheck⟩
  · rintro ⟨hbinding, approvals, happrovals, c, hc, records, hrecords, cf, hcf, pf, hpf, hd, hcheck⟩
    exact ⟨(), hbinding, approvals, happrovals, c, hc, records, hrecords, cf, hcf, pf, hpf, (), hd ▸ hcheck, hd.symm⟩

theorem collect_iff (hfree : FingerprintsFree os) :
    (∀ c, os.foldlM (Collected.admission plan parent approvals) ⟨[], [], []⟩ = .ok c →
      Admissible plan parent approvals os ∧ Collects os c) ∧
    (Admissible plan parent approvals os →
      ∃ c, os.foldlM (Collected.admission plan parent approvals) ⟨[], [], []⟩ = .ok c) :=
  collect_ok collects_nil admissible_nil hfree

theorem evaluate_of_same (hfree : FingerprintsFree os) (hmem : ∀ o, o ∈ os ↔ o ∈ os')
    (h : evaluate context plan parent os approved = .ok d) : evaluate context plan parent os' approved = .ok d := by
  obtain ⟨hbinding, approvals, happrovals, c, hc, records, hrecords, hrest⟩ := evaluate_ok.mp h
  obtain ⟨ha, hcollects⟩ := (collect_iff hfree).1 c hc
  have hfree' : FingerprintsFree os' := hfree.subset fun o ho => (hmem o).mpr ho
  have ha' : Admissible plan parent approvals os' := ha.subset fun o ho => (hmem o).mpr ho
  obtain ⟨c', hc'⟩ := (collect_iff hfree').2 ha'
  obtain ⟨-, hcollects'⟩ := (collect_iff hfree').1 c' hc'
  obtain ⟨hterminal, hpart⟩ := statuses_congr ha ha' hcollects hcollects' hfree hmem
  refine evaluate_ok.mpr ⟨hbinding, approvals, happrovals, c', hc', records, ?_, hrest⟩
  rw [← hrecords, nodeRecords_congr hterminal hpart]

/-! ## The records -/

/-- The node's record, the states of all nodes given. -/
structure RecordOf (c : Collected F) (approvals : List String) (states : PyDict.Dict NodeState) (n : ExecutionNode F)
    (r : NodeSchedulingRecord) : Prop where
  id : r.nodeId = n.nodeId
  approvalRequired : r.approvalRequired = n.approvalRequired
  state : (r.state, r.reasonCode) = nodeState c approvals states n
  listed : PyDict.get? states n.nodeId = some r.state

/-- The records are those of the nodes under the states that the loop ends with: a node's dependencies come
before it, and no state is changed later. -/
theorem nodeRecords_ok {c : Collected F} {ns : List (ExecutionNode F)}
    {records : List NodeSchedulingRecord} (hnodup : (ns.map ExecutionNode.nodeId).Nodup)
    (hdeps : ∀ n ∈ ns, ∀ d ∈ n.dependsOn, d ∈ ns.map ExecutionNode.nodeId →
      (ns.map ExecutionNode.nodeId).idxOf d < (ns.map ExecutionNode.nodeId).idxOf n.nodeId)
    (h : nodeRecords c approvals states ns = .ok records) :
    ∃ final, (∀ id, id ∉ ns.map ExecutionNode.nodeId → get? final id = get? states id) ∧
      List.Forall₂ (RecordOf c approvals final) ns records := by
  induction ns generalizing states records with
  | nil =>
    cases h
    exact ⟨states, fun _ _ => rfl, .nil⟩
  | cons n ns ih =>
    rw [List.map_cons, List.nodup_cons] at hnodup
    simp only [nodeRecords, bind_ok, pure_ok] at h
    obtain ⟨fp, -, rest, hrest, rfl⟩ := h
    have htail : ∀ m ∈ ns, ∀ d ∈ m.dependsOn, d ∈ ns.map ExecutionNode.nodeId →
        (ns.map ExecutionNode.nodeId).idxOf d < (ns.map ExecutionNode.nodeId).idxOf m.nodeId := by
      intro m hm d hd hmem
      have hne : n.nodeId ≠ d := fun heq => hnodup.1 (heq ▸ hmem)
      have hne' : n.nodeId ≠ m.nodeId := fun heq => hnodup.1 (heq ▸ List.mem_map_of_mem hm)
      have hlt := hdeps m (by simp [hm]) d hd (by simp [hmem])
      rw [List.map_cons, List.idxOf_cons_ne _ hne, List.idxOf_cons_ne _ hne'] at hlt
      omega
    obtain ⟨final, hfinal, hrecords⟩ := ih hnodup.2 htail hrest
    refine ⟨final, ?_, .cons ⟨rfl, rfl, ?_, ?_⟩ hrecords⟩
    · intro id hid
      rw [List.map_cons, List.mem_cons, not_or] at hid
      rw [hfinal id hid.2, get?_set_ne fun heq => hid.1 heq.symm]
    · -- the dependencies are not among the nodes that follow
      refine nodeState_congr (fun _ => rfl) (fun _ => Iff.rfl) ?_
      intro d hd
      by_cases hlisted : d ∈ (n :: ns).map ExecutionNode.nodeId
      · have hlt := hdeps n (by simp) d hd hlisted
        rw [List.map_cons, List.idxOf_cons_self] at hlt
        omega
      · rw [List.map_cons, List.mem_cons, not_or] at hlisted
        rw [hfinal d hlisted.2, get?_set_ne fun heq => hlisted.1 heq.symm]
    · rw [hfinal n.nodeId hnodup.1, get?_set_self]

/-! ## The closed form -/

def stopping : List NodeState := [.failed, .cancelled, .blocked]

/-- The state in the node's record. -/
def stateOf (d : SchedulingDecision) (id : String) : Option NodeState :=
  (d.records.find? fun r => r.nodeId = id).map NodeSchedulingRecord.state

/-- No observation of the node is terminal or partial. -/
def Unobserved (os : List (ExecutionObservation F)) (id : String) : Prop :=
  (∀ status, ¬ TerminalStatus os id status) ∧ ¬ PartiallyObserved os id

/-- The second node depends on the first and is unobserved. -/
def Awaits (plan : ExecutionPlan F) (os : List (ExecutionObservation F)) (p c : String) : Prop :=
  ∃ n ∈ plan.nodes, n.nodeId = c ∧ p ∈ n.dependsOn ∧ Unobserved os c

/-- A dependency has stopped. -/
def DependencyStopped (d : SchedulingDecision) (n : ExecutionNode F) : Prop :=
  ∃ p ∈ n.dependsOn, ∃ st ∈ stopping, stateOf d p = some st

/-- Every dependency has succeeded. -/
def DependenciesDone (d : SchedulingDecision) (n : ExecutionNode F) : Prop :=
  ∀ p ∈ n.dependsOn, stateOf d p = some .succeeded

/-- An approval that the node needs is not given. -/
def ApprovalMissing (approved : List String) (n : ExecutionNode F) : Prop :=
  n.approvalRequired = true ∧ n.nodeId ∉ approved

instance (approved : List String) (n : ExecutionNode F) : Decidable (ApprovalMissing approved n) :=
  inferInstanceAs (Decidable (_ ∧ _))

/-- The states of a decision, from the observations and the approvals. -/
structure ClosedForm (plan : ExecutionPlan F) (os : List (ExecutionObservation F)) (approved : List String)
    (d : SchedulingDecision) : Prop where
  listed : d.records.map NodeSchedulingRecord.nodeId = plan.nodes.map ExecutionNode.nodeId
  terminal : ∀ n ∈ plan.nodes, ∀ status, TerminalStatus os n.nodeId status →
    stateOf d n.nodeId = some (.ofStatus status)
  partialNode : ∀ n ∈ plan.nodes, (∀ status, ¬ TerminalStatus os n.nodeId status) → PartiallyObserved os n.nodeId →
    stateOf d n.nodeId = some .waiting
  blocked : ∀ n ∈ plan.nodes, Unobserved os n.nodeId →
    (stateOf d n.nodeId = some .blocked ↔ DependencyStopped d n ∨ (DependenciesDone d n ∧ ApprovalMissing approved n))
  ready : ∀ n ∈ plan.nodes, Unobserved os n.nodeId →
    (stateOf d n.nodeId = some .ready ↔ DependenciesDone d n ∧ ¬ ApprovalMissing approved n)
  waiting : ∀ n ∈ plan.nodes, Unobserved os n.nodeId →
    (stateOf d n.nodeId = some .waiting ↔ ¬ DependencyStopped d n ∧ ¬ DependenciesDone d n)
  spreads : ∀ p c, Relation.TransGen (Awaits plan os) p c → (∃ st ∈ stopping, stateOf d p = some st) →
    stateOf d c = some .blocked

omit [PyRuntime F] in
theorem mem_checkApprovals {approvals : List String} (h : checkApprovals plan approved = .ok approvals)
    {id : String} : id ∈ approvals ↔ id ∈ approved := by
  simp only [checkApprovals, normalizedIds, bind_ok, require_ok, pure_ok, exists_const] at h
  obtain ⟨_, ⟨-, rfl⟩, -, -, rfl⟩ := h
  rw [mem_sorted, mem_dedup]

section Closed

variable {os : List (ExecutionObservation F)} {c : Collected F} {n : ExecutionNode F}

omit [PyRuntime F] in
theorem nodeState_terminal {o : ExecutionObservation F}
    (h : get? c.terminal n.nodeId = some o) : (nodeState c approvals states n).1 = .ofStatus o.status := by
  rw [nodeState, h]

omit [PyRuntime F] in
theorem nodeState_halfway (hnone : get? c.terminal n.nodeId = none)
    (h : n.nodeId ∈ c.partialNodes) : (nodeState c approvals states n).1 = .waiting := by
  rw [nodeState, hnone]
  simp only [if_pos h]

omit [PyRuntime F] in
theorem nodeState_open (hnone : get? c.terminal n.nodeId = none)
    (h : n.nodeId ∉ c.partialNodes) : (nodeState c approvals states n).1 =
      if ∃ p ∈ n.dependsOn, (get? states p).getD .waiting ∈ stopping then .blocked
      else if ¬ ∀ p ∈ n.dependsOn, ∃ o, get? c.terminal p = some o ∧ o.status = "SUCCEEDED" then .waiting
      else if ApprovalMissing approvals n then .blocked else .ready := by
  have hany : (n.dependsOn.any fun d => decide ((get? states d).getD .waiting ∈
      [NodeState.failed, .cancelled, .blocked])) = true ↔
        ∃ p ∈ n.dependsOn, (get? states p).getD .waiting ∈ stopping := by
    rw [List.any_eq_true]
    exact exists_congr fun p => and_congr_right fun _ => decide_eq_true_iff
  have hall : (n.dependsOn.all fun d => (get? c.terminal d).any fun o => decide (o.status = "SUCCEEDED")) = true ↔
      ∀ p ∈ n.dependsOn, ∃ o, get? c.terminal p = some o ∧ o.status = "SUCCEEDED" := by
    rw [List.all_eq_true]
    refine forall_congr' fun p => imp_congr_right fun _ => ?_
    cases get? c.terminal p with
    | none => simp
    | some o => simp
  rw [nodeState, hnone]
  simp only [if_neg h, hany, hall]
  split
  · rfl
  · split
    · rfl
    · by_cases hmissing : ApprovalMissing approvals n
      · rw [if_pos hmissing]
        exact congrArg Prod.fst (if_pos hmissing)
      · rw [if_neg hmissing]
        exact congrArg Prod.fst (if_neg hmissing)

end Closed

theorem ofStatus_succeeded {status : String} (h : status ∈ terminalStatuses) :
    NodeState.ofStatus status = .succeeded ↔ status = "SUCCEEDED" := by
  simp only [terminalStatuses, List.mem_cons, List.not_mem_nil, or_false] at h
  rcases h with rfl | rfl | rfl <;> decide

theorem evaluate_closed (hfree : FingerprintsFree os) (h : evaluate context plan parent os approved = .ok d) :
    ClosedForm plan os approved d := by
  obtain ⟨hbinding, approvals, happrovals, c, hc, records, hrecords, _, -, _, -, rfl, -⟩ := evaluate_ok.mp h
  obtain ⟨ha, hcollects⟩ := (collect_iff hfree).1 c hc
  have hplan : plan.validateSelf = .ok () := by
    simp only [checkBinding, bind_ok, rethrow_ok, require_ok, exists_const] at hbinding
    obtain ⟨_, ⟨_, -, hvalid⟩, -⟩ := hbinding
    exact ExecutionPlan.validateSelf_of_validate hvalid
  obtain ⟨workflow, hworkflow⟩ := ExecutionPlan.workflowOf_validateSelf hplan
  obtain ⟨final, -, hall⟩ := nodeRecords_ok hworkflow.nodup
    (fun n hn dep hdep _ => (hworkflow.dependsOn hn dep hdep).2) hrecords
  have hmap : records.map NodeSchedulingRecord.nodeId = plan.nodes.map ExecutionNode.nodeId := by
    have hids : List.Forall₂ Eq (records.map NodeSchedulingRecord.nodeId) (plan.nodes.map ExecutionNode.nodeId) := by
      rw [List.forall₂_map_left_iff, List.forall₂_map_right_iff]
      exact hall.flip.imp fun r n hr => hr.id
    rwa [List.forall₂_eq_eq_eq] at hids
  have hnodup : (records.map NodeSchedulingRecord.nodeId).Nodup := hmap ▸ hworkflow.nodup
  generalize hd : (⟨plan.taskId, _, _, decisionStatus records, records, approvals⟩ : SchedulingDecision) = d
  have hstate : ∀ n ∈ plan.nodes, stateOf d n.nodeId = some (nodeState c approvals final n).1 ∧
      stateOf d n.nodeId = get? final n.nodeId := by
    intro n hn
    obtain ⟨r, hr, hof⟩ := forall₂_mem_left hall hn
    have hfind := Table.find?_key _ hnodup hr
    have hown : stateOf d n.nodeId = some r.state := by
      rw [stateOf, ← hd, ← hof.id]
      exact congrArg (Option.map _) hfind
    rw [hown, ← hof.state, hof.listed]
    exact ⟨rfl, rfl⟩
  have hdep : ∀ n ∈ plan.nodes, ∀ p ∈ n.dependsOn, ∃ m ∈ plan.nodes, m.nodeId = p :=
    fun n hn p hp => List.mem_map.mp (hworkflow.dependsOn hn p hp).1
  have hsome : ∀ {n status}, TerminalStatus os n status → ∃ o, get? c.terminal n = some o ∧ o.status = status :=
    fun h => (terminal_status ha hcollects hfree).mp h
  -- an unobserved node by the states of its dependencies
  have hopen : ∀ n ∈ plan.nodes, Unobserved os n.nodeId → stateOf d n.nodeId =
      some (if ∃ p ∈ n.dependsOn, (get? final p).getD .waiting ∈ stopping then .blocked
        else if ¬ ∀ p ∈ n.dependsOn, ∃ o, get? c.terminal p = some o ∧ o.status = "SUCCEEDED" then .waiting
        else if ApprovalMissing approvals n then .blocked else .ready) := by
    intro n hn hun
    rw [(hstate n hn).1, nodeState_open ((terminal_none hcollects).mpr hun.1) (mt (partial_iff hcollects).mp hun.2)]
  have hsucceeded : ∀ m ∈ plan.nodes, (∃ o, get? c.terminal m.nodeId = some o ∧ o.status = "SUCCEEDED") ↔
      stateOf d m.nodeId = some .succeeded := by
    intro m hm
    rw [(hstate m hm).1, Option.some.injEq]
    cases hget : get? c.terminal m.nodeId with
    | some o =>
      rw [nodeState_terminal hget, ofStatus_succeeded (hcollects.terminal_mem _ _ hget).2.2]
      simp
    | none =>
      by_cases hpart : m.nodeId ∈ c.partialNodes
      · rw [nodeState_halfway hget hpart]
        simp
      · rw [nodeState_open hget hpart]
        simp only [reduceCtorEq, false_and, exists_false, false_iff]
        split_ifs <;> simp
  have hstopped : ∀ n ∈ plan.nodes, (∃ p ∈ n.dependsOn, (get? final p).getD .waiting ∈ stopping) ↔
      DependencyStopped d n := by
    intro n hn
    refine exists_congr fun p => and_congr_right fun hp => ?_
    obtain ⟨m, hm, rfl⟩ := hdep n hn p hp
    obtain ⟨hown, hfinal⟩ := hstate m hm
    rw [← hfinal, hown]
    simp
  have hdone : ∀ n ∈ plan.nodes, (∀ p ∈ n.dependsOn, ∃ o, get? c.terminal p = some o ∧ o.status = "SUCCEEDED") ↔
      DependenciesDone d n := by
    intro n hn
    refine forall_congr' fun p => imp_congr_right fun hp => ?_
    obtain ⟨m, hm, rfl⟩ := hdep n hn p hp
    exact hsucceeded m hm
  have hmissing : ∀ n : ExecutionNode F, ApprovalMissing approvals n ↔ ApprovalMissing approved n := fun n =>
    and_congr_right fun _ => not_congr (mem_checkApprovals happrovals)
  have hexclusive : ∀ n : ExecutionNode F, DependencyStopped d n → ¬ DependenciesDone d n := by
    rintro n ⟨p, hp, st, hst, hstate⟩ hall
    rw [hall p hp] at hstate
    cases hstate
    revert hst
    decide
  have hunobserved : ∀ n ∈ plan.nodes, Unobserved os n.nodeId →
      (stateOf d n.nodeId = some .blocked ↔
          DependencyStopped d n ∨ (DependenciesDone d n ∧ ApprovalMissing approved n)) ∧
        (stateOf d n.nodeId = some .ready ↔ DependenciesDone d n ∧ ¬ ApprovalMissing approved n) ∧
        (stateOf d n.nodeId = some .waiting ↔ ¬ DependencyStopped d n ∧ ¬ DependenciesDone d n) := by
    intro n hn hun
    have hex := hexclusive n
    rw [hopen n hn hun]
    simp only [hstopped n hn, hdone n hn, hmissing n]
    split_ifs <;> simp_all
  have hblocked := fun n hn hun => (hunobserved n hn hun).1
  refine ⟨by rw [← hd]; exact hmap, ?_, ?_, hblocked, fun n hn hun => (hunobserved n hn hun).2.1,
    fun n hn hun => (hunobserved n hn hun).2.2, ?_⟩
  · intro n hn status hterminal
    obtain ⟨o, ho, hstatus⟩ := hsome hterminal
    rw [(hstate n hn).1, nodeState_terminal ho, hstatus]
  · intro n hn hnone hpart
    rw [(hstate n hn).1, nodeState_halfway ((terminal_none hcollects).mpr hnone) ((partial_iff hcollects).mpr hpart)]
  · intro p b hpath hstop
    induction hpath with
    | single hb =>
      obtain ⟨n, hn, rfl, hp, hun⟩ := hb
      exact (hblocked n hn hun).mpr (.inl ⟨p, hp, hstop⟩)
    | tail _ hb ih =>
      obtain ⟨n, hn, rfl, hp, hun⟩ := hb
      exact (hblocked n hn hun).mpr (.inl ⟨_, hp, .blocked, by decide, ih⟩)

/-- `evaluate` in closed form: the decision is the one determined by the observations and the approvals, and
permuting or repeating the observations changes neither whether it raises nor what it returns. -/
theorem evaluate_determined (context : TaskContext F) (plan : ExecutionPlan F) (parent : TaskCapabilityAuthority)
    (os : List (ExecutionObservation F)) (approved : List String) (hfree : FingerprintsFree os) :
    (∀ d, evaluate context plan parent os approved = .ok d → ClosedForm plan os approved d) ∧
      ∀ os', (∀ o, o ∈ os ↔ o ∈ os') → ∀ d, evaluate context plan parent os approved = .ok d ↔
        evaluate context plan parent os' approved = .ok d := by
  refine ⟨fun d h => evaluate_closed hfree h, ?_⟩
  intro os' hmem d
  have hfree' : FingerprintsFree os' := hfree.subset fun o ho => (hmem o).mpr ho
  exact ⟨evaluate_of_same hfree hmem, evaluate_of_same hfree' fun o => (hmem o).symm⟩

end RuntimeScheduler

namespace Sample

open RuntimeScheduler

/-- The first node has succeeded, so that the second one is ready; the observation given twice decides the same. -/
theorem observed_determined : ∃ (o : ExecutionObservation WholeFloat) (d : SchedulingDecision), o.nodeId = "a" ∧
    evaluate context plan parent [o] [] = .ok d ∧ stateOf d "a" = some .succeeded ∧ stateOf d "b" = some .ready ∧
    evaluate context plan parent [o, o] [] = .ok d := by
  obtain ⟨dp, da, -, id, -, hvalid⟩ := observed
  obtain ⟨d, hd⟩ := evaluate_observed hvalid
  have hfree : FingerprintsFree [observationA dp da id] := by
    intro o ho o' ho' v v' t t' hv hv' ht ht' _
    rw [List.mem_singleton] at ho ho'
    subst ho ho'
    obtain rfl := Except.ok.inj (hv.symm.trans hv')
    exact Option.some.inj (ht.symm.trans ht')
  obtain ⟨hclosed, hsame⟩ := evaluate_determined context plan parent [observationA dp da id] [] hfree
  have hterminal : TerminalStatus [observationA dp da id] "a" "SUCCEEDED" :=
    ⟨_, List.mem_singleton_self _, rfl, rfl, by decide⟩
  have hsucceeded : stateOf d "a" = some .succeeded := (hclosed d hd).terminal nodeA (by simp [plan]) _ hterminal
  have hother : ∀ o ∈ [observationA dp da id], o.nodeId ≠ "b" := by
    intro o ho
    rw [List.mem_singleton.mp ho]
    exact show "a" ≠ "b" by decide
  have hun : Unobserved [observationA dp da id] "b" :=
    ⟨fun _ ⟨o, ho, hid, _⟩ => hother o ho hid, fun ⟨o, ho, hid, _⟩ => hother o ho hid⟩
  refine ⟨_, d, rfl, hd, hsucceeded, ((hclosed d hd).ready nodeB (by simp [plan]) hun).mpr ⟨?_, ?_⟩, ?_⟩
  · intro p hp
    rw [List.mem_singleton.mp hp]
    exact hsucceeded
  · exact fun hmissing => absurd hmissing.1 (by decide)
  · exact (hsame _ (by simp) d).mp hd

end Sample

end ThreeAgent
