/-
One dispatch, call by call. Everything that the scheduler itself can refuse is
refused before the first call into the environment; after it a dispatch is the
answers of the guards and of the repository, in a fixed order, and the in-memory
record comes last.

The step that a budget guard has reserved is not given back when the repository
then refuses the ticket.
-/
import ThreeAgent.RuntimeSchedulerFacts

namespace ThreeAgent

open PyText Outcome PyJson Action PyDict Act

namespace ExecutionScheduler

variable {σ F : Type} [PyRuntime F]

/-! ## The calls into the environment -/

/-- `record_dispatch`, when there is a repository. -/
def recordCall (cfg : SchedulerConfig σ F) (t : DispatchTicket) : Act σ Raised PUnit :=
  match cfg.checkpointRepository with
  | none => return ⟨⟩
  | some repository => repository.recordDispatch t

omit [PyRuntime F] in
theorem persist_record (cfg : SchedulerConfig σ F) (failed : String) (t : DispatchTicket) :
    persist cfg failed (·.recordDispatch t) =
      SchedulerWorld.call ((recordCall cfg t).mapError fun _ => schedulerError failed) := by
  unfold persist recordCall
  cases cfg.checkpointRepository with
  | none => rfl
  | some repository => rfl

variable {w : SchedulerWorld σ F}

theorem revalidateRuntime_env (cfg : SchedulerConfig σ F) (node : ExecutionNode F) (w : SchedulerWorld σ F) :
    (revalidateRuntime cfg node w).2 = { w with env := (revalidateRuntime cfg node w).2.env } := by
  have h := revalidateRuntime_at cfg node w (⟨rfl, rfl⟩ : At w.sched w.issued w)
  obtain ⟨r, hr⟩ : ∃ r, revalidateRuntime cfg node w = r := ⟨_, rfl⟩
  rw [hr] at h ⊢
  cases r with
  | mk r w' =>
    cases r with
    | ok u => exact eq_of_at h
    | error e => exact eq_of_at h

/-! ## One dispatch -/

/-- The ways that a dispatch can go: the part it raises in, or the ticket. -/
inductive DispatchRun (cfg : SchedulerConfig σ F) (id : String) (granted : Bool) (w : SchedulerWorld σ F) :
    Except Raised DispatchTicket × SchedulerWorld σ F → Prop where
  | refused {e : Raised} : admission cfg w.sched id granted = .error e → DispatchRun cfg id granted w (.error e, w)
  | unready {node : ExecutionNode F} {os : List (ExecutionObservation F)} {e : Raised} {e₁ : σ} :
      admission cfg w.sched id granted = .ok (node, os) →
      revalidateRuntime cfg node w = (.error e, { w with env := e₁ }) →
      DispatchRun cfg id granted w (.error e, { w with env := e₁ })
  | unpaid {node : ExecutionNode F} {os : List (ExecutionObservation F)} {e : Raised} {e₁ e₂ : σ} :
      admission cfg w.sched id granted = .ok (node, os) →
      revalidateRuntime cfg node w = (.ok ⟨⟩, { w with env := e₁ }) → cfg.reserveStep e₁ = (.error e, e₂) →
      DispatchRun cfg id granted w
        (.error (budgetFailure "SCHEDULER_BUDGET_RESERVATION_FAILED" e), { w with env := e₂ })
  | unticketed {node : ExecutionNode F} {os : List (ExecutionObservation F)} {e : Raised} {e₁ e₂ : σ} :
      admission cfg w.sched id granted = .ok (node, os) →
      revalidateRuntime cfg node w = (.ok ⟨⟩, { w with env := e₁ }) → cfg.reserveStep e₁ = (.ok ⟨⟩, e₂) →
      newTicket cfg.plan node os (w.sched.dispatchSequence + 1) = .error e →
      DispatchRun cfg id granted w (.error e, advanceSequence { w with env := e₂ })
  | unrecorded {node : ExecutionNode F} {os : List (ExecutionObservation F)} {t : DispatchTicket} {e : Raised}
      {e₁ e₂ e₃ : σ} :
      admission cfg w.sched id granted = .ok (node, os) →
      revalidateRuntime cfg node w = (.ok ⟨⟩, { w with env := e₁ }) → cfg.reserveStep e₁ = (.ok ⟨⟩, e₂) →
      newTicket cfg.plan node os (w.sched.dispatchSequence + 1) = .ok t → recordCall cfg t e₂ = (.error e, e₃) →
      DispatchRun cfg id granted w
        (.error (schedulerError ("SCHEDULER_CHECKPOINT_DISPATCH_FAILED:" ++ id)), advanceSequence { w with env := e₃ })
  | issued {node : ExecutionNode F} {os : List (ExecutionObservation F)} {t : DispatchTicket} {e₁ e₂ e₃ : σ} :
      admission cfg w.sched id granted = .ok (node, os) →
      revalidateRuntime cfg node w = (.ok ⟨⟩, { w with env := e₁ }) → cfg.reserveStep e₁ = (.ok ⟨⟩, e₂) →
      newTicket cfg.plan node os (w.sched.dispatchSequence + 1) = .ok t → recordCall cfg t e₂ = (.ok ⟨⟩, e₃) →
      DispatchRun cfg id granted w (.ok t, enterFlight node t (advanceSequence { w with env := e₃ }))

variable {x : Act σ Raised PUnit}

omit [PyRuntime F] in
theorem call_mapError_ok {f : Raised → Raised} {e' : σ}
    (h : x w.env = (.ok ⟨⟩, e')) : SchedulerWorld.call (x.mapError f) w = (.ok ⟨⟩, { w with env := e' }) := by
  have hmap : x.mapError f w.env = (.ok ⟨⟩, e') := mapError_returns.mpr h
  simp only [SchedulerWorld.call, hmap]

omit [PyRuntime F] in
theorem call_mapError_error {f : Raised → Raised} {e : Raised} {e' : σ}
    (h : x w.env = (.error e, e')) : SchedulerWorld.call (x.mapError f) w = (.error (f e), { w with env := e' }) := by
  have hmap : x.mapError f w.env = (.error (f e), e') := by
    unfold mapError
    rw [h]
  simp only [SchedulerWorld.call, hmap]

theorem issueDispatch_run (cfg : SchedulerConfig σ F) (id : String) (granted : Bool) (w : SchedulerWorld σ F) :
    DispatchRun cfg id granted w (issueDispatch cfg id granted w) := by
  -- `hrest` is what is left of the call after each part
  obtain ⟨r, hrest⟩ : ∃ r, issueDispatch cfg id granted w = r := ⟨_, rfl⟩
  rw [hrest]
  unfold issueDispatch at hrest
  rw [get_bind_run] at hrest
  cases hadmission : admission cfg w.sched id granted with
  | error e =>
    rw [hadmission, lift_bind_raises rfl] at hrest
    exact hrest ▸ .refused hadmission
  | ok admitted =>
    obtain ⟨node, os⟩ := admitted
    rw [hadmission] at hrest
    replace hrest := (lift_bind_run rfl).symm.trans hrest
    have henv := revalidateRuntime_env cfg node w
    obtain ⟨⟨answer, w₁⟩, hruntime⟩ : ∃ r, revalidateRuntime cfg node w = r := ⟨_, rfl⟩
    obtain ⟨e₁, rfl⟩ : ∃ e₁, w₁ = { w with env := e₁ } := ⟨_, by rw [hruntime] at henv; exact henv⟩
    cases answer with
    | error e => exact (bind_raises hruntime).symm.trans hrest ▸ .unready hadmission hruntime
    | ok _ =>
      replace hrest := (bind_run hruntime).symm.trans hrest
      obtain ⟨⟨answer, e₂⟩, hreserve⟩ : ∃ r, cfg.reserveStep e₁ = r := ⟨_, rfl⟩
      cases answer with
      | error e =>
        exact (bind_raises (call_mapError_error hreserve)).symm.trans hrest ▸ .unpaid hadmission hruntime hreserve
      | ok _ =>
        replace hrest := (bind_run (call_mapError_ok hreserve)).symm.trans hrest
        rw [modify_bind_run, get_bind_run] at hrest
        cases hticket : newTicket cfg.plan node os (w.sched.dispatchSequence + 1) with
        | error e =>
          exact (lift_bind_raises hticket).symm.trans hrest ▸ .unticketed hadmission hruntime hreserve hticket
        | ok t =>
          replace hrest := (lift_bind_run hticket).symm.trans hrest
          rw [persist_record] at hrest
          obtain ⟨⟨answer, e₃⟩, hrecord⟩ : ∃ r, recordCall cfg t e₂ = r := ⟨_, rfl⟩
          cases answer with
          | error e =>
            exact (bind_raises (call_mapError_error hrecord)).symm.trans hrest ▸
              .unrecorded hadmission hruntime hreserve hticket hrecord
          | ok _ =>
            exact (bind_run (call_mapError_ok hrecord)).symm.trans hrest ▸
              .issued hadmission hruntime hreserve hticket hrecord

/-! ## What the calls change -/

/-- The assignments that the calls on a scheduler are made of. -/
inductive Change (plan : ExecutionPlan F) : SchedulerState F → SchedulerState F → Prop where
  | sequence (s : SchedulerState F) : Change plan s { s with dispatchSequence := s.dispatchSequence + 1 }
  | enter {s : SchedulerState F} {node : ExecutionNode F} (t : DispatchTicket) :
      plan.node? node.nodeId = some node → ¬ s.Dispatched node.nodeId →
      Change plan s { s with
        approvedNodes := if node.approvalRequired then s.approvedNodes ++ [node.nodeId] else s.approvedNodes
        inFlight := PyDict.set s.inFlight node.nodeId t }
  | settle {s : SchedulerState F} {o : ExecutionObservation F} : (openTicket s o.nodeId).isSome = true →
      Change plan s { s with
        observations := PyDict.set s.observations o.nodeId o
        inFlight := PyDict.pop s.inFlight o.nodeId
        recoveryRequired := PyDict.pop s.recoveryRequired o.nodeId }
  | cancel (s : SchedulerState F) (reason : String) :
      Change plan s { s with cancelled := true, cancellationReason := some reason }

/-- The scheduler has come from a state by such assignments. -/
def ChangedFrom (plan : ExecutionPlan F) (s : SchedulerState F) (w : SchedulerWorld σ F) : Prop :=
  Relation.ReflTransGen (Change plan) s w.sched

section

variable (cfg : SchedulerConfig σ F)

theorem issueDispatch_changes (id : String) (granted : Bool) (s : SchedulerState F) :
    Act.Triple (ChangedFrom cfg.plan s) (issueDispatch cfg id granted) (fun _ => ChangedFrom cfg.plan s)
      (ChangedFrom cfg.plan s) := by
  intro w hw
  have hrun := issueDispatch_run cfg id granted w
  obtain ⟨r, hr⟩ : ∃ r, issueDispatch cfg id granted w = r := ⟨_, rfl⟩
  rw [hr] at hrun ⊢
  cases hrun with
  | refused => exact hw
  | unready => exact hw
  | unpaid => exact hw
  | unticketed => exact hw.tail (.sequence _)
  | unrecorded => exact hw.tail (.sequence _)
  | issued hadmission =>
    obtain ⟨hnode, hnew, -⟩ := admission_ok hadmission
    have hid := node?_nodeId hnode
    exact (hw.tail (.sequence _)).tail (.enter _ (hid ▸ hnode) (hid ▸ hnew))

theorem acceptObservation_changes (o : ExecutionObservation F) (s : SchedulerState F) :
    Act.Triple (ChangedFrom cfg.plan s) (acceptObservation cfg o) (fun _ => ChangedFrom cfg.plan s)
      (ChangedFrom cfg.plan s) := by
  refine triple_iff_last.mpr fun w hw => ?_
  obtain ⟨e, h | ⟨hopen, h⟩⟩ := acceptObservation_ends cfg o w
  · rw [h]
    exact hw
  · rw [h]
    exact hw.tail (.settle hopen)

theorem cancel_changes (reasonCode : String) (s : SchedulerState F) :
    Act.Triple (ChangedFrom cfg.plan s) (cancel cfg reasonCode) (fun _ => ChangedFrom cfg.plan s)
      (ChangedFrom cfg.plan s) := by
  refine triple_iff_last.mpr fun w hw => ?_
  obtain ⟨e, h | h⟩ := cancel_ends cfg reasonCode w
  · rw [h]
    exact hw
  · rw [h]
    exact hw.tail (.cancel _ _)

theorem after_changes (op : SchedulerOp F) (w : SchedulerWorld σ F) :
    Relation.ReflTransGen (Change cfg.plan) w.sched (after cfg op w).sched := by
  cases op with
  | issueDispatch id granted => exact triple_iff_last.mp (issueDispatch_changes cfg id granted _) w .refl
  | issueReady approvedNodes =>
    have hready : Act.Triple (ChangedFrom cfg.plan w.sched) (issueReady cfg approvedNodes)
        (fun _ => ChangedFrom cfg.plan w.sched) (ChangedFrom cfg.plan w.sched) := by
      refine Act.Triple.get_bind fun w₀ h₀ => ?_
      refine Act.Triple.bind (R := fun _ => ChangedFrom cfg.plan w.sched)
        (Act.Triple.lift (fun _ w _ hw => hw ▸ h₀) fun w hw => hw ▸ h₀) fun ids => ?_
      exact Act.Triple.mapM (fun id => issueDispatch_changes cfg id _ _) ids
    exact triple_iff_last.mp hready w .refl
  | acceptObservation o => exact triple_iff_last.mp (acceptObservation_changes cfg o _) w .refl
  | cancel reason => exact triple_iff_last.mp (cancel_changes cfg reason _) w .refl

end

/-- What else the fields of a scheduler agree on. -/
structure Coherent (plan : ExecutionPlan F) (s : SchedulerState F) : Prop where
  sequence : 0 ≤ s.dispatchSequence
  approved : ∀ id ∈ s.approvedNodes, s.Dispatched id ∧ ∃ node, plan.node? id = some node ∧ node.approvalRequired = true
  observed : ∀ id o, PyDict.get? s.observations id = some o → o.nodeId = id

variable {s : SchedulerState F} {plan : ExecutionPlan F}

omit [PyRuntime F] in
theorem Coherent.change {s' : SchedulerState F} (h : Coherent plan s) (hstep : Change plan s s') : Coherent plan s' := by
  cases hstep with
  | sequence =>
    have hpos := h.sequence
    exact { h with sequence := by show 0 ≤ s.dispatchSequence + 1; omega }
  | enter t hnode hnew =>
    rename_i node
    have hkept : ∀ id, s.Dispatched id →
        has s.observations id = true ∨ has (set s.inFlight node.nodeId t) id = true ∨
          has s.recoveryRequired id = true := by
      intro id hid
      rw [has_set, Bool.or_eq_true]
      rcases hid with hid | hid | hid
      · exact .inl hid
      · exact .inr (.inl (.inr hid))
      · exact .inr (.inr hid)
    refine { h with approved := ?_ }
    intro id hid
    by_cases hrequired : node.approvalRequired = true
    · rw [if_pos hrequired, List.mem_append, List.mem_singleton] at hid
      rcases hid with hid | rfl
      · exact ⟨hkept id (h.approved id hid).1, (h.approved id hid).2⟩
      · exact ⟨.inr (.inl (by simp [has_set])), node, hnode, hrequired⟩
    · rw [if_neg hrequired] at hid
      exact ⟨hkept id (h.approved id hid).1, (h.approved id hid).2⟩
  | settle hopen =>
    rename_i o
    refine { h with approved := ?_, observed := ?_ }
    · intro id hid
      refine ⟨?_, (h.approved id hid).2⟩
      simp only [SchedulerState.Dispatched, has_set, has_pop, Bool.or_eq_true, Bool.and_eq_true,
        decide_eq_true_eq]
      by_cases he : o.nodeId = id
      · exact .inl (.inl he)
      · rcases (h.approved id hid).1 with ho | hf | hr
        · exact .inl (.inr ho)
        · exact .inr (.inl ⟨by simpa using he, hf⟩)
        · exact .inr (.inr ⟨by simpa using he, hr⟩)
    · intro id o' ho'
      by_cases he : o.nodeId = id
      · subst he
        rw [get?_set_self] at ho'
        cases ho'
        rfl
      · rw [get?_set_ne he] at ho'
        exact h.observed id o' ho'
  | cancel => exact { h with }

omit [PyRuntime F] in
theorem coherent_fresh (plan : ExecutionPlan F) : Coherent plan {} :=
  ⟨le_refl 0, fun id hid => absurd hid (by simp), fun id o ho => by simp at ho⟩

variable {cfg : SchedulerConfig σ F}

theorem coherent_restored {fp : String} {recovered : RecoveredExecutionState F}
    (h : restoreFrom cfg fp recovered = .ok s) : Coherent cfg.plan s := by
  simp only [restoreFrom, bind_ok, require_ok, pure_ok] at h
  obtain ⟨_, -, _, -, r, hr, _, -, _, -, observations, hobs, _, -, _, -, reason, -, _, -, rfl⟩ := h
  have hrestored : 0 ≤ r.dispatchSequence ∧ ∀ id ∈ r.approvalNodes, has r.dispatches id = true ∧
      ∃ node, cfg.plan.node? id = some node ∧ node.approvalRequired = true := by
    refine foldlM_ok (I := fun _ (r : Restored) => 0 ≤ r.dispatchSequence ∧ ∀ id ∈ r.approvalNodes,
      has r.dispatches id = true ∧ ∃ node, cfg.plan.node? id = some node ∧ node.approvalRequired = true)
      ?_ (l := []) ⟨le_refl 0, by simp⟩ hr
    intro _ r t r' hI hstep
    simp only [restoreDispatch, bind_ok, require_ok, orRaise_ok, pure_ok] at hstep
    obtain ⟨_, -, _, -, _, -, node, hnode, _, -, _, -, _, -, _, -, _, -, _, -, rfl⟩ := hstep
    refine ⟨le_trans hI.1 (le_max_left _ _), ?_⟩
    have hkept : ∀ id ∈ r.approvalNodes, has (set r.dispatches t.nodeId t) id = true ∧
        ∃ node, cfg.plan.node? id = some node ∧ node.approvalRequired = true := by
      intro id hid
      obtain ⟨hhas, hn⟩ := hI.2 id hid
      exact ⟨by simp [has_set, hhas], hn⟩
    intro id hid
    by_cases hrequired : node.approvalRequired = true
    · rw [if_pos hrequired, List.mem_append, List.mem_singleton] at hid
      rcases hid with hid | rfl
      · exact hkept id hid
      · rw [node?_nodeId hnode]
        exact ⟨by simp [has_set], node, hnode, hrequired⟩
    · rw [if_neg hrequired] at hid
      exact hkept id hid
  refine ⟨hrestored.1, ?_, ?_⟩
  · intro id hid
    obtain ⟨hhas, hn⟩ := hrestored.2 id hid
    refine ⟨?_, hn⟩
    by_cases ho : has observations id = true
    · exact .inl ho
    · obtain ⟨t, ht⟩ := has_iff.mp hhas
      refine .inr (.inr (has_of_mem (List.mem_filter.mpr ⟨mem_of_get? ht, ?_⟩)))
      simpa using ho
  · refine foldlM_ok (I := fun _ (d : PyDict.Dict (ExecutionObservation F)) =>
      ∀ id o, get? d id = some o → o.nodeId = id) ?_ (l := []) (by simp) hobs
    intro _ d o d' hI hstep id o' ho'
    simp only [restoreObservation, bind_ok, require_ok, orRaise_ok, pure_ok] at hstep
    obtain ⟨_, -, _, -, _, -, _, -, _, -, rfl⟩ := hstep
    by_cases he : o.nodeId = id
    · subst he
      rw [get?_set_self] at ho'
      cases ho'
      rfl
    · rw [get?_set_ne he] at ho'
      exact hI id o' ho'

theorem construct_returns {e e' : σ} {issued : List DispatchTicket}
    (h : construct cfg e = (.ok (s, issued), e')) :
    s = {} ∨ ∃ fp recovered, restoreFrom cfg fp recovered = .ok s := by
  simp only [construct, bind_returns, lift_returns] at h
  obtain ⟨_, _, ⟨-, rfl⟩, h⟩ := h
  cases hrepository : cfg.checkpointRepository with
  | none =>
    rw [hrepository] at h
    obtain ⟨heq, -⟩ := pure_returns.mp h
    exact .inl (congrArg Prod.fst heq).symm
  | some repository =>
    rw [hrepository] at h
    simp only [bind_returns, lift_returns, pure_returns] at h
    obtain ⟨recovered, _, -, fp, _, -, s', _, ⟨hs, -⟩, heq, -⟩ := h
    obtain rfl : s' = s := congrArg Prod.fst heq
    exact .inr ⟨fp, recovered, hs⟩

theorem coherent_over_runs (h : Reachable cfg w) :
    Coherent cfg.plan w.sched := by
  induction h with
  | start hc =>
    rcases construct_returns hc with rfl | ⟨fp, recovered, hs⟩
    · exact coherent_fresh _
    · exact coherent_restored hs
  | call op _ ih =>
    rename_i w _
    have hchanges := after_changes cfg op w
    generalize (after cfg op w).sched = s' at hchanges ⊢
    induction hchanges with
    | refl => exact ih
    | tail _ hstep ih => exact ih.change hstep
  | environment e _ ih => exact ih

/-! ## What is never undone -/

/-- A call, or a change of the environment. -/
inductive Step (cfg : SchedulerConfig σ F) (w : SchedulerWorld σ F) : SchedulerWorld σ F → Prop where
  | call (op : SchedulerOp F) : Step cfg w (after cfg op w)
  | environment (e : σ) : Step cfg w { w with env := e }

/-- What was recorded stays, a node leaves the flight by its observation alone, and a cancelled scheduler stays
cancelled and hands out no ticket. -/
structure Kept (w w' : SchedulerWorld σ F) : Prop where
  observations : ∀ id o, PyDict.get? w.sched.observations id = some o → PyDict.get? w'.sched.observations id = some o
  opened : ∀ id t, openTicket w.sched id = some t →
    openTicket w'.sched id = some t ∨ PyDict.has w'.sched.observations id = true
  approvals : w.sched.approvedNodes <+: w'.sched.approvedNodes
  issued : w.issued <+: w'.issued
  sequence : w.sched.dispatchSequence ≤ w'.sched.dispatchSequence
  cancelled : w.sched.cancelled = true →
    w'.sched.cancelled = true ∧ w'.issued = w.issued ∧ w'.sched.dispatchSequence = w.sched.dispatchSequence

variable {w' : SchedulerWorld σ F}

omit [PyRuntime F] in
theorem Kept.trans {w'' : SchedulerWorld σ F} (h : Kept w w') (h' : Kept w' w'') : Kept w w'' where
  observations id o ho := h'.observations id o (h.observations id o ho)
  opened id t ht := by
    rcases h.opened id t ht with ht | hobserved
    · exact h'.opened id t ht
    · obtain ⟨o, ho⟩ := has_iff.mp hobserved
      exact .inr (has_iff.mpr ⟨o, h'.observations id o ho⟩)
  approvals := h.approvals.trans h'.approvals
  issued := h.issued.trans h'.issued
  sequence := h.sequence.trans h'.sequence
  cancelled hcancelled := by
    obtain ⟨hstill, hissued, hsequence⟩ := h.cancelled hcancelled
    obtain ⟨hstill', hissued', hsequence'⟩ := h'.cancelled hstill
    exact ⟨hstill', hissued'.trans hissued, hsequence'.trans hsequence⟩

omit [PyRuntime F] in
theorem Kept.env (w : SchedulerWorld σ F) (e : σ) : Kept w { w with env := e } where
  observations _ _ h := h
  opened _ _ h := .inl h
  approvals := List.prefix_rfl
  issued := List.prefix_rfl
  sequence := le_refl _
  cancelled h := ⟨h, rfl, rfl⟩

theorem issueDispatch_kept (cfg : SchedulerConfig σ F) (id : String) (granted : Bool) (w : SchedulerWorld σ F) :
    Kept w (issueDispatch cfg id granted w).2 := by
  have hadvanced : ∀ {r : ExecutionNode F × List (ExecutionObservation F)} (e : σ),
      admission cfg w.sched id granted = .ok r → Kept w (advanceSequence { w with env := e }) := by
    intro r e hadmission
    simp only [admission, bind_ok, require_ok] at hadmission
    obtain ⟨_, hlive, -⟩ := hadmission
    refine { Kept.env w e with sequence := ?_, cancelled := ?_ }
    · show w.sched.dispatchSequence ≤ w.sched.dispatchSequence + 1
      omega
    · intro hcancelled
      rw [hlive] at hcancelled
      cases hcancelled
  have hrun := issueDispatch_run cfg id granted w
  obtain ⟨r, hr⟩ : ∃ r, issueDispatch cfg id granted w = r := ⟨_, rfl⟩
  rw [hr] at hrun ⊢
  cases hrun with
  | refused => exact .env w w.env
  | unready => exact .env w _
  | unpaid => exact .env w _
  | unticketed hadmission => exact hadvanced _ hadmission
  | unrecorded hadmission => exact hadvanced _ hadmission
  | @issued node os t e₁ e₂ e₃ hadmission =>
    obtain ⟨hnode, hnew, -⟩ := admission_ok hadmission
    have hkept := hadvanced e₃ hadmission
    refine { hkept with opened := ?_, approvals := ?_, issued := List.prefix_append _ _, cancelled := ?_ }
    · intro id' t' ht'
      have hne : node.nodeId ≠ id' := by
        rintro rfl
        rw [node?_nodeId hnode] at ht'
        have hopen : (openTicket w.sched id).isSome = true := by rw [ht']; rfl
        simp only [openTicket, Option.isSome_or, Bool.or_eq_true] at hopen
        exact hnew (.inr hopen)
      refine .inl (Eq.trans ?_ ht')
      simp only [openTicket, enterFlight, advanceSequence, get?_set_ne hne]
    · show w.sched.approvedNodes <+: if node.approvalRequired then _ else _
      split
      · exact List.prefix_append _ _
      · exact List.prefix_rfl
    · intro hcancelled
      have hsame : w.sched.dispatchSequence + 1 = w.sched.dispatchSequence := (hkept.cancelled hcancelled).2.2
      omega

theorem after_kept (h : Holds cfg w) (op : SchedulerOp F) : Kept w (after cfg op w) := by
  cases op with
  | issueDispatch id granted => exact issueDispatch_kept cfg id granted w
  | issueReady approvedNodes =>
    have hready : Act.Triple (Kept w) (issueReady cfg approvedNodes) (fun _ => Kept w) (Kept w) := by
      refine Act.Triple.get_bind fun w₀ h₀ => ?_
      refine Act.Triple.bind (R := fun _ => Kept w) (Act.Triple.lift (fun _ w' _ hw => hw ▸ h₀) fun w' hw => hw ▸ h₀)
        fun ids => Act.Triple.mapM (fun id => ?_) ids
      exact triple_iff_last.mpr fun w' hw' => hw'.trans (issueDispatch_kept cfg id _ w')
    exact triple_iff_last.mp hready w (.env w w.env)
  | acceptObservation o =>
    show Kept w (acceptObservation cfg o w).2
    obtain ⟨e, heq | ⟨hopen, heq⟩⟩ := acceptObservation_ends cfg o w
    · exact heq ▸ .env w e
    · rw [heq]
      have hunobserved := unobserved_of_open h hopen
      refine { Kept.env w e with observations := ?_, opened := ?_ }
      · intro id o' ho'
        refine (get?_set_ne ?_).trans ho'
        rintro rfl
        rw [hunobserved] at ho'
        cases ho'
      · intro id t ht
        by_cases hid : o.nodeId = id
        · exact .inr (by simp [settle, has_set, hid])
        · exact .inl (by simpa [openTicket, settle, get?_pop, hid] using ht)
  | cancel reasonCode =>
    show Kept w (cancel cfg reasonCode w).2
    obtain ⟨e, heq | heq⟩ := cancel_ends cfg reasonCode w
    · exact heq ▸ .env w e
    · rw [heq]
      exact { Kept.env w e with cancelled := fun _ => ⟨rfl, rfl, rfl⟩ }

/-- From any state that a run reaches, whatever comes next. -/
theorem kept_over_runs (h : Reachable cfg w) (hrun : Relation.ReflTransGen (Step cfg) w w') : Kept w w' := by
  have hholds : Holds cfg w := by
    clear hrun
    induction h with
    | start hc => exact construct_ok hc
    | call op _ ih => exact after_holds ih op
    | environment e _ ih => exact ih
  have hboth : Holds cfg w' ∧ Kept w w' := by
    induction hrun with
    | refl => exact ⟨hholds, .env w w.env⟩
    | tail _ hstep ih =>
      cases hstep with
      | call op => exact ⟨after_holds ih.1 op, ih.2.trans (after_kept ih.1 op)⟩
      | environment e => exact ⟨ih.1, ih.2.trans (.env _ e)⟩
  exact hboth.2

/-! ## What an accepted evaluation has checked -/

section Evaluated

variable {plan : ExecutionPlan F} {parent : TaskCapabilityAuthority} {context : TaskContext F}
  {os : List (ExecutionObservation F)} {approved approvals : List String} {d : SchedulingDecision}
  {c : RuntimeScheduler.Collected F}

open RuntimeScheduler (evaluate evaluate_ok nodeRecords checkBinding checkApprovals Collected nodeState)

theorem collect_seen
    (h : os.foldlM (RuntimeScheduler.Collected.admission plan parent approvals) ⟨[], [], []⟩ = .ok c) :
    (∀ o ∈ os, o.validate plan parent = .ok ()) ∧
      ∀ id e, get? c.terminal id = some e → e ∈ os ∧ e.nodeId = id := by
  refine foldlM_ok (I := fun os (c : RuntimeScheduler.Collected F) => (∀ o ∈ os, o.validate plan parent = .ok ()) ∧
    ∀ id e, get? c.terminal id = some e → e ∈ os ∧ e.nodeId = id) ?_ (l := []) ⟨by simp, by simp⟩ h
  intro done c o c' hI hstep
  simp only [RuntimeScheduler.Collected.admission, bind_ok, rethrow_ok, orRaise_ok, require_ok, exists_const] at hstep
  obtain ⟨_, hvalid, node, -, -, hstep⟩ := hstep
  have hall : ∀ e ∈ done ++ [o], e.validate plan parent = .ok () := by
    intro e he
    rcases List.mem_append.mp he with he | he
    · exact hI.1 e he
    · rw [List.mem_singleton.mp he]
      exact hvalid
  have hkept : ∀ id e, get? c.terminal id = some e → e ∈ done ++ [o] ∧ e.nodeId = id := by
    intro id e he
    obtain ⟨hmem, hid⟩ := hI.2 id e he
    exact ⟨List.mem_append_left _ hmem, hid⟩
  refine ⟨hall, ?_⟩
  cases hget : get? c.unique o.observationId with
  | some existing =>
    simp only [hget, bind_ok, require_ok, pure_ok, exists_const] at hstep
    obtain ⟨_, -, _, -, -, rfl⟩ := hstep
    exact hkept
  | none =>
    simp only [hget, RuntimeScheduler.Collected.place] at hstep
    split at hstep
    · rw [pure_ok] at hstep
      rw [← hstep]
      exact hkept
    · split at hstep
      · simp only [bind_ok, require_ok, pure_ok, exists_const] at hstep
        obtain ⟨-, rfl⟩ := hstep
        intro id e he
        by_cases hid : o.nodeId = id
        · subst hid
          rw [get?_set_self] at he
          cases he
          exact ⟨by simp, rfl⟩
        · rw [get?_set_ne hid] at he
          exact hkept id e he
      · rw [pure_ok] at hstep
        rw [← hstep]
        exact hkept

theorem workflowOf_checkBinding (h : checkBinding context plan parent = .ok ()) :
    plan.validate parent = .ok () ∧ ∃ workflow, ExecutionPlan.WorkflowOf plan workflow := by
  simp only [RuntimeScheduler.checkBinding, bind_ok, rethrow_ok, require_ok, exists_const] at h
  obtain ⟨_, ⟨_, -, hvalid⟩, -⟩ := h
  exact ⟨hvalid, ExecutionPlan.workflowOf_validateSelf (ExecutionPlan.validateSelf_of_validate hvalid)⟩

theorem nodeRecords_fingerprints {ns : List (ExecutionNode F)} {states : PyDict.Dict NodeState}
    {records : List NodeSchedulingRecord} (h : nodeRecords c approvals states ns = .ok records) :
    ∀ n ∈ ns, ∃ f, n.fingerprint = .ok f := by
  induction ns generalizing states records with
  | nil => simp
  | cons n ns ih =>
    simp only [RuntimeScheduler.nodeRecords, bind_ok, pure_ok] at h
    obtain ⟨f, hf, rest, hrest, -⟩ := h
    intro m hm
    rcases List.mem_cons.mp hm with rfl | hm
    · exact ⟨f, hf⟩
    · exact ih hrest m hm

end Evaluated

variable {node : ExecutionNode F}

omit [PyRuntime F] in
theorem mem_nodes_of_node? {id : String} (h : plan.node? id = some node) : node ∈ plan.nodes :=
  List.mem_reverse.mp (List.mem_of_find?_eq_some h)

theorem node?_of_mem {workflow : WorkflowContract}
    (hworkflow : ExecutionPlan.WorkflowOf plan workflow) (h : node ∈ plan.nodes) :
    plan.node? node.nodeId = some node := by
  refine Table.find?_key ExecutionNode.nodeId ?_ (List.mem_reverse.mpr h)
  rw [List.map_reverse]
  exact List.nodup_reverse.mpr hworkflow.nodup

omit [PyRuntime F] in
theorem mem_orderedObservations {o : ExecutionObservation F} :
    o ∈ orderedObservations plan s ↔ ∃ n ∈ plan.nodes, get? s.observations n.nodeId = some o := by
  simp [orderedObservations]

theorem expectedId_error {t : DispatchTicket} {e : Raised} (h : t.expectedId = .error e) : e.cls = .valueError := by
  cases hdigest : t.identityDigest with
  | ok digest =>
    rw [DispatchTicket.expectedId, hdigest] at h
    cases h
  | error e' =>
    rw [DispatchTicket.expectedId, hdigest] at h
    cases h
    rw [digestOf_error hdigest]

theorem newTicket_error {id : String} {granted : Bool} {os : List (ExecutionObservation F)} {n : Int} {e : Raised}
    (hadmission : admission cfg s id granted = .ok (node, os)) (hn : 1 ≤ n)
    (h : newTicket cfg.plan node os n = .error e) : e.cls = .valueError := by
  obtain ⟨hnode, -, -, hos⟩ := admission_ok hadmission
  simp only [admission, bind_ok, orRaise_ok, require_ok, pure_ok] at hadmission
  obtain ⟨_, -, _, -, _, -, _, -, _, -, _, -, _, -, _, -, d, hd, -⟩ := hadmission
  obtain ⟨hbinding, approvals, -, c, hc, records, hrecords, _, -, pf, hpf, -⟩ :=
    RuntimeScheduler.evaluate_ok.mp (admissionDecision_ok.mp hd)
  obtain ⟨-, workflow, hworkflow⟩ := workflowOf_checkBinding hbinding
  have hmem := mem_nodes_of_node? hnode
  obtain ⟨nf, hnf⟩ := nodeRecords_fingerprints hrecords node hmem
  -- the dependencies' observations are among those that the evaluation has validated
  have hfingerprints : ∃ fs, os.mapM ExecutionObservation.fingerprint = .ok fs := by
    refine mapM_returns fun o ho => ?_
    obtain ⟨dependency, hdependency, hget, -⟩ := forall₂_mem_right hos ho
    obtain ⟨hlisted, -⟩ := hworkflow.dependsOn hmem dependency hdependency
    obtain ⟨m, hm, rfl⟩ := List.mem_map.mp hlisted
    exact ExecutionObservation.fingerprint_of_validate
      ((collect_seen hc).1 o (mem_orderedObservations.mpr ⟨m, hm, hget⟩))
  obtain ⟨fs, hfs⟩ := hfingerprints
  let t : DispatchTicket :=
    { ticketId := "dispatch:" ++ "000000000000000000000000", taskId := cfg.plan.taskId, planFingerprint := pf
      nodeId := node.nodeId, nodeFingerprint := nf, authorityFingerprint := node.authorityFingerprint
      dependencyObservationFingerprints := fs, dispatchSequence := n, executionLevel := node.executionLevel }
  have hrest : newTicket cfg.plan node os n = (do
      let ticketId ← t.expectedId
      ({ t with ticketId } : DispatchTicket).validate
      return { t with ticketId }) := by
    rw [newTicket, hpf, ok_bind, hnf, ok_bind, hfs, ok_bind]
  rw [hrest] at h
  cases hid : t.expectedId with
  | error e' =>
    rw [hid] at h
    cases h
    exact expectedId_error hid
  | ok ticketId =>
    have hvalid : ({ t with ticketId } : DispatchTicket).validate = .ok ⟨⟩ := by
      simp only [DispatchTicket.validate, bind_ok, require_ok]
      exact ⟨⟨⟩, rfl, ⟨⟩, hn, ticketId, hid, rfl⟩
    have hret : newTicket cfg.plan node os n = .ok { t with ticketId } := by
      rw [hrest]
      simp only [bind_ok, pure_ok]
      exact ⟨ticketId, hid, ⟨⟩, hvalid, rfl⟩
    rw [hrest, h] at hret
    cases hret

/-! ## The steps reserved -/

section Counted

variable {α : Type}

/-- An action on the environment, beside a count. -/
def besideCount (x : Act σ Raised α) : Act (σ × Nat) Raised α := fun e => ((x e.1).1, (x e.1).2, e.2)

/-- A call of `reserve` that returned is one more step. -/
def countStep (x : Act σ Raised PUnit) : Act (σ × Nat) Raised PUnit := fun e =>
  match x e.1 with
  | (.ok u, e') => (.ok u, e', e.2 + 1)
  | (.error raised, e') => (.error raised, e', e.2)

def countedRepository (r : CheckpointRepository σ F) : CheckpointRepository (σ × Nat) F where
  initializeTables := besideCount r.initializeTables
  recordDispatch := fun t => besideCount (r.recordDispatch t)
  recordObservation := fun o => besideCount (r.recordObservation o)
  recordCancellation := fun taskId planFingerprint reasonCode =>
    besideCount (r.recordCancellation taskId planFingerprint reasonCode)
  load := fun taskId planFingerprint => besideCount (r.load taskId planFingerprint)

/-- The scheduler in an environment that counts the steps consumed through the budget guard. -/
def counted (cfg : SchedulerConfig σ F) : SchedulerConfig (σ × Nat) F where
  taskContext := cfg.taskContext
  plan := cfg.plan
  parentAuthority := cfg.parentAuthority
  assertActive := besideCount cfg.assertActive
  reserveStep := countStep cfg.reserveStep
  isRevoked := fun taskId capability => besideCount (cfg.isRevoked taskId capability)
  maxConcurrency := cfg.maxConcurrency
  checkpointRepository := cfg.checkpointRepository.map countedRepository
  checkpointReapprovedNodes := cfg.checkpointReapprovedNodes

theorem admission_counted (cfg : SchedulerConfig σ F) {id : String} {granted : Bool} :
    admission (counted cfg) s id granted = admission cfg s id granted := rfl

variable {n : Nat}

omit [PyRuntime F] in
theorem call_besideCount (x : Act σ Raised α) (f : Raised → Raised) :
    Act.Triple (fun w : SchedulerWorld (σ × Nat) F => w.env.2 = n) (SchedulerWorld.call ((besideCount x).mapError f))
      (fun _ w => w.env.2 = n) (fun w => w.env.2 = n) := by
  intro w hw
  simp only [SchedulerWorld.call, besideCount, mapError]
  obtain ⟨⟨r, e'⟩, hr⟩ : ∃ r, x w.env.1 = r := ⟨_, rfl⟩
  rw [hr]
  cases r with
  | ok a => exact hw
  | error e => exact hw

theorem revalidateRuntime_count (cfg : SchedulerConfig σ F) (node : ExecutionNode F) :
    Act.Triple (fun w => w.env.2 = n) (revalidateRuntime (counted cfg) node) (fun _ w => w.env.2 = n)
      (fun w => w.env.2 = n) := by
  refine (Act.Triple.lift (fun _ _ _ hw => hw) fun _ hw => hw).bind fun _ => ?_
  refine (call_besideCount _ _).bind fun _ => ?_
  refine (Act.Triple.mapM (fun capability => ?_) _).bind fun _ => Act.Triple.pure fun _ hw => hw
  exact (call_besideCount _ _).bind fun _ => Act.Triple.lift (fun _ _ _ hw => hw) fun _ hw => hw

theorem countStep_ok {e e' : σ × Nat} (h : countStep x e = (.ok ⟨⟩, e')) : e'.2 = e.2 + 1 := by
  unfold countStep at h
  split at h
  · cases h
    rfl
  · cases h

theorem countStep_error {e e' : σ × Nat} {raised : Raised}
    (h : countStep x e = (.error raised, e')) : e'.2 = e.2 := by
  unfold countStep at h
  split at h
  · cases h
  · cases h
    rfl

omit [PyRuntime F] in
theorem recordCall_error {t : DispatchTicket} {e e' : σ × Nat} {raised : Raised}
    (h : recordCall (counted cfg) t e = (.error raised, e')) :
    e'.2 = e.2 ∧ ∃ repository, cfg.checkpointRepository = some repository ∧
      repository.recordDispatch t e.1 = (.error raised, e'.1) := by
  cases hrepository : cfg.checkpointRepository with
  | none =>
    have hnone : (counted cfg).checkpointRepository = none := by
      show cfg.checkpointRepository.map countedRepository = none
      rw [hrepository]
      rfl
    rw [recordCall, hnone] at h
    cases h
  | some repository =>
    have hsome : (counted cfg).checkpointRepository = some (countedRepository repository) := by
      show cfg.checkpointRepository.map countedRepository = _
      rw [hrepository]
      rfl
    rw [recordCall, hsome] at h
    obtain ⟨⟨r, e₁⟩, hr⟩ : ∃ r, repository.recordDispatch t e.1 = r := ⟨_, rfl⟩
    simp only [countedRepository, besideCount, hr, Prod.mk.injEq] at h
    obtain ⟨rfl, rfl⟩ := h
    exact ⟨rfl, repository, rfl, hr⟩

end Counted

/-- A snapshot but for the sequence number, which is one larger. -/
def SchedulerSnapshot.advanced (n : SchedulerSnapshot) : SchedulerSnapshot :=
  { n with dispatchSequence := n.dispatchSequence + 1 }

theorem snapshot_advanceSequence (cfg : SchedulerConfig σ F) (w : SchedulerWorld σ F) :
    snapshot cfg (advanceSequence w).sched = (snapshot cfg w.sched).map SchedulerSnapshot.advanced := by
  show (cfg.taskContext.fingerprint >>= _) = (cfg.taskContext.fingerprint >>= _).map _
  cases cfg.taskContext.fingerprint with
  | error e => rfl
  | ok taskContextFingerprint =>
    show (cfg.plan.fingerprint >>= _) = (cfg.plan.fingerprint >>= _).map _
    cases cfg.plan.fingerprint with
    | error e => rfl
    | ok planFingerprint =>
      show ((inPlanOrder cfg.plan w.sched.inFlight).mapM DispatchTicket.identityDigest >>= _) =
        ((inPlanOrder cfg.plan w.sched.inFlight).mapM DispatchTicket.identityDigest >>= _).map _
      cases (inPlanOrder cfg.plan w.sched.inFlight).mapM DispatchTicket.identityDigest with
      | error e => rfl
      | ok inFlight =>
        show ((inPlanOrder cfg.plan w.sched.observations).mapM ExecutionObservation.fingerprint >>= _) =
          ((inPlanOrder cfg.plan w.sched.observations).mapM ExecutionObservation.fingerprint >>= _).map _
        cases (inPlanOrder cfg.plan w.sched.observations).mapM ExecutionObservation.fingerprint with
        | error e => rfl
        | ok observations => rfl

/-- A dispatch that the scheduler refuses changes nothing and reserves no step, but for one whose ticket the
repository refused: its step stays reserved and its sequence number is used up. -/
theorem issueDispatch_refused (cfg : SchedulerConfig σ F) (w : SchedulerWorld (σ × Nat) F)
    (hreach : Reachable (counted cfg) w) (id : String) (granted : Bool) (e : Raised)
    (w' : SchedulerWorld (σ × Nat) F) (hrun : issueDispatch (counted cfg) id granted w = (.error e, w'))
    (hcls : e.cls = .executionSchedulerError) :
    (snapshot (counted cfg) w'.sched = snapshot (counted cfg) w.sched ∧ w'.env.2 = w.env.2) ∨
      (e = schedulerError ("SCHEDULER_CHECKPOINT_DISPATCH_FAILED:" ++ id) ∧
        (∃ repository ticket before raised, cfg.checkpointRepository = some repository ∧
          repository.recordDispatch ticket before = (.error raised, w'.env.1)) ∧
        snapshot (counted cfg) w'.sched = (snapshot (counted cfg) w.sched).map SchedulerSnapshot.advanced ∧
        w'.env.2 = w.env.2 + 1) := by
  have hcases := issueDispatch_run (counted cfg) id granted w
  rw [hrun] at hcases
  cases hcases with
  | refused => exact .inl ⟨rfl, rfl⟩
  | unready hadmission hruntime =>
    exact .inl ⟨rfl, Act.triple_error (revalidateRuntime_count cfg _) rfl hruntime⟩
  | unpaid hadmission hruntime hreserve =>
    have hcount := Act.triple_ok (revalidateRuntime_count cfg _) rfl hruntime
    exact .inl ⟨rfl, (countStep_error hreserve).trans hcount⟩
  | unticketed hadmission hruntime hreserve hticket =>
    have hpos := (coherent_over_runs hreach).sequence
    rw [newTicket_error hadmission (by omega) hticket] at hcls
    cases hcls
  | unrecorded hadmission hruntime hreserve hticket hrecord =>
    have hcount := Act.triple_ok (revalidateRuntime_count cfg _) rfl hruntime
    obtain ⟨hkept, repository, hrepository, hraised⟩ := recordCall_error hrecord
    refine .inr ⟨rfl, ⟨repository, _, _, _, hrepository, hraised⟩, snapshot_advanceSequence _ _, ?_⟩
    have hreserved := countStep_ok hreserve
    exact hkept.trans (hreserved.trans (congrArg (· + 1) hcount))

end ExecutionScheduler

namespace Sample

open ExecutionScheduler

/-- A repository that is empty and keeps nothing: every ticket is refused. -/
def refusing : CheckpointRepository Unit WholeFloat where
  initializeTables := return ⟨⟩
  recordDispatch := fun _ => Act.lift (.error ⟨.runtimeError, "checkpoint unavailable"⟩)
  recordObservation := fun _ => return ⟨⟩
  recordCancellation := fun _ _ _ => return ⟨⟩
  load := fun taskId planFingerprint => return ⟨taskId, planFingerprint, [], [], [], none⟩

/-- The scheduler of the plan with that repository, its steps counted. -/
def refusingConfig : SchedulerConfig (Unit × Nat) WholeFloat := counted (config (some refusing))

theorem refusing_constructed : construct refusingConfig ((), 0) = (.ok ({}, []), ((), 0)) := by
  obtain ⟨dp, hdp, -⟩ := plan_fingerprint
  obtain ⟨d, -, hd, -⟩ := evaluate_fresh
  have hchecked : checkConfig refusingConfig = .ok ⟨⟩ := config_checked (some refusing)
  have hrestored : restoreFrom refusingConfig dp ⟨"t1", dp, [], [], [], none⟩ = .ok {} := by
    simp only [restoreFrom, bind_ok, require_ok, rethrow_ok, pure_ok]
    exact ⟨⟨⟩, rfl, ⟨⟩, trivial, ⟨[], 0, []⟩, rfl, ⟨⟩, by rfl, ⟨⟩, by rfl, [], rfl, [], rfl, ⟨⟩, by rfl, none, rfl, d, hd, rfl⟩
  have hloaded : loadCheckpoint refusingConfig (countedRepository refusing) ((), 0) =
      (.ok ⟨"t1", dp, [], [], [], none⟩, ((), 0)) := by
    simp only [loadCheckpoint, bind_returns, lift_returns, mapError_returns, require_ok]
    exact ⟨⟨⟩, _, ⟨by rfl, rfl⟩, ⟨⟩, _, rfl, dp, _, ⟨hdp, rfl⟩, rfl⟩
  simp only [construct, bind_returns, lift_returns]
  refine ⟨⟨⟩, _, ⟨hchecked, rfl⟩, ?_⟩
  show ((loadCheckpoint refusingConfig (countedRepository refusing) >>= _ : Act _ Raised _)) ((), 0) = _
  simp only [bind_returns, lift_returns, pure_returns]
  exact ⟨_, _, hloaded, dp, _, ⟨hdp, rfl⟩, {}, _, ⟨hrestored, rfl⟩, rfl, rfl⟩

theorem refusing_dispatch : issueDispatch refusingConfig "a" false ⟨((), 0), {}, []⟩ =
    (.error (schedulerError ("SCHEDULER_CHECKPOINT_DISPATCH_FAILED:" ++ "a")),
      ⟨((), 1), { dispatchSequence := 1 }, []⟩) := by
  obtain ⟨dp, da, id, ht⟩ := ticketed
  have hruntime : revalidateRuntime refusingConfig nodeA ⟨((), 0), {}, []⟩ = (.ok ⟨⟩, ⟨((), 0), {}, []⟩) := by
    have hauth : revalidateAuthority refusingConfig nodeA = .ok ⟨⟩ := by
      simp only [revalidateAuthority, bind_ok, rethrow_ok, require_ok]
      exact ⟨_, ⟨⟨⟩, plan_valid, nodeA_rebind⟩, rfl⟩
    rw [revalidateRuntime, hauth]
    rfl
  have hpersist : persist refusingConfig ("SCHEDULER_CHECKPOINT_DISPATCH_FAILED:" ++ "a")
      (·.recordDispatch (ticketA dp da id)) ⟨((), 1), { dispatchSequence := 1 }, []⟩ =
      (.error (schedulerError ("SCHEDULER_CHECKPOINT_DISPATCH_FAILED:" ++ "a")),
        ⟨((), 1), { dispatchSequence := 1 }, []⟩) := rfl
  have hadmitted : admission refusingConfig {} "a" false = .ok (nodeA, []) :=
    (admission_counted (config (some refusing))).trans (admitted (some refusing))
  have hreserve : SchedulerWorld.call (refusingConfig.reserveStep.mapError
      (budgetFailure "SCHEDULER_BUDGET_RESERVATION_FAILED")) ⟨((), 0), {}, []⟩ =
      (.ok ⟨⟩, (⟨((), 1), {}, []⟩ : SchedulerWorld (Unit × Nat) WholeFloat)) := rfl
  unfold issueDispatch
  refine get_bind_run.trans ?_
  refine (lift_bind_run hadmitted).trans ?_
  refine (bind_run hruntime).trans ?_
  refine (bind_run hreserve).trans ?_
  refine modify_bind_run.trans ?_
  refine get_bind_run.trans ?_
  refine (lift_bind_run ht).trans ?_
  exact bind_raises hpersist

theorem refusing_reachable : Reachable refusingConfig ⟨((), 0), {}, []⟩ := .start refusing_constructed

/-- A ticket is in flight, its observation is accepted, and the scheduler is cancelled. -/
theorem kept_to_cancellation : ∃ (t : DispatchTicket) (o : ExecutionObservation WholeFloat)
    (w w' w'' : SchedulerWorld Unit WholeFloat), w.sched.inFlight = [("a", t)] ∧ w'.sched.observations = [("a", o)] ∧
      w''.sched.cancelled = true ∧ Kept w w'' ∧ Kept w' w'' := by
  obtain ⟨t, o, hdispatch, haccept⟩ := observed_run
  have hflight : Reachable (config none) ⟨(), { inFlight := [("a", t)], dispatchSequence := 1 }, [t]⟩ :=
    hdispatch ▸ .call (.issueDispatch "a" false) (.start (constructed ()))
  have hobserved : Reachable (config none) ⟨(), { observations := [("a", o)], dispatchSequence := 1 }, [t]⟩ :=
    haccept ▸ .call (.acceptObservation o) hflight
  have hcancel : Step (config none) ⟨(), { observations := [("a", o)], dispatchSequence := 1 }, [t]⟩ _ :=
    .call (.cancel "stop")
  have hrun : Relation.ReflTransGen (Step (config none)) ⟨(), { inFlight := [("a", t)], dispatchSequence := 1 }, [t]⟩ _ :=
    .head (haccept ▸ .call (.acceptObservation o)) (.single hcancel)
  exact ⟨t, o, _, _, _, rfl, rfl, rfl, kept_over_runs hflight hrun, kept_over_runs hobserved (.single hcancel)⟩

/-- The refused dispatch of a fresh scheduler. -/
theorem refusing_dispatch_refused :
    (snapshot refusingConfig { dispatchSequence := 1 } = snapshot refusingConfig {} ∧ 1 = 0) ∨
      (∃ repository ticket before raised, some refusing = some repository ∧
        repository.recordDispatch ticket before = (.error raised, ())) ∧
      snapshot refusingConfig { dispatchSequence := 1 } =
        (snapshot refusingConfig {}).map SchedulerSnapshot.advanced ∧ 1 = 0 + 1 := by
  rcases issueDispatch_refused (config (some refusing)) _ refusing_reachable "a" false _ _ refusing_dispatch rfl with
    h | ⟨-, h⟩
  · exact .inl h
  · exact .inr h

/-- A refused ticket leaves a step reserved and a sequence number used up. -/
theorem refused_dispatch_reserves : ¬ ∀ (cfg : SchedulerConfig Unit WholeFloat) (w : SchedulerWorld (Unit × Nat) WholeFloat),
    Reachable (counted cfg) w → ∀ id granted e w', issueDispatch (counted cfg) id granted w = (.error e, w') →
      e.cls = .executionSchedulerError →
      snapshot (counted cfg) w'.sched = snapshot (counted cfg) w.sched ∧ w'.env.2 = w.env.2 := by
  intro hall
  obtain ⟨-, hcount⟩ := hall (config (some refusing)) _ refusing_reachable "a" false _ _ refusing_dispatch rfl
  exact absurd hcount (by decide)

end Sample

end ThreeAgent
