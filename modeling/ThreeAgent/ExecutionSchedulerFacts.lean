/-
What holds of a dispatch coordinator over every run: which nodes carry a
ticket, that their dependencies had succeeded, and that no node and no
sequence number is given out twice.

One step can do only three things to the dictionaries: a new node enters the
flight, an open node is settled by its observation, or nothing. The invariant
is kept by each, and a restored scheduler starts in it because the restore
checks the recovered dispatches for exactly these facts.
-/
import ThreeAgent.ExecutionScheduler
import ThreeAgent.Lib.WholeFloat

namespace ThreeAgent

open PyText Outcome PyJson Action PyDict ExecutionScheduler RuntimeScheduler

variable {ts : List DispatchTicket}

/-! ## The invariant -/

section Invariant

variable {σ F : Type} [PyRuntime F]

/-- The node has been given a ticket: it is observed, in flight, or to be recovered. -/
def SchedulerState.Dispatched (s : SchedulerState F) (id : String) : Prop :=
  PyDict.has s.observations id = true ∨ PyDict.has s.inFlight id = true ∨ PyDict.has s.recoveryRequired id = true

/-- Each dependency has a successful observation, and the ticket names their fingerprints in order. -/
def DependenciesSucceeded (observations : PyDict.Dict (ExecutionObservation F)) (node : ExecutionNode F)
    (t : DispatchTicket) : Prop :=
  List.Forall₂
    (fun dependency fingerprint => ∃ o, PyDict.get? observations dependency = some o ∧
      o.status = "SUCCEEDED" ∧ o.fingerprint = .ok fingerprint)
    node.dependsOn t.dependencyObservationFingerprints

/-- The ticket of a dispatched node: it was issued for that node, it is the one kept in flight or for
recovery, and the node's dependencies had succeeded. -/
structure SchedulerState.TicketOf (plan : ExecutionPlan F) (s : SchedulerState F) (issued : List DispatchTicket)
    (id : String) (t : DispatchTicket) : Prop where
  issued : t ∈ issued
  node : t.nodeId = id
  inFlight : ∀ t', PyDict.get? s.inFlight id = some t' → t' = t
  recovery : ∀ t', PyDict.get? s.recoveryRequired id = some t' → t' = t
  dependencies : ∃ node, plan.node? id = some node ∧ DependenciesSucceeded s.observations node t

structure SchedulerInvariant (cfg : SchedulerConfig σ F) (s : SchedulerState F) (issued : List DispatchTicket) :
    Prop where
  observed_inFlight : ∀ id, ¬ (PyDict.has s.observations id = true ∧ PyDict.has s.inFlight id = true)
  observed_recovery : ∀ id, ¬ (PyDict.has s.observations id = true ∧ PyDict.has s.recoveryRequired id = true)
  inFlight_recovery : ∀ id, ¬ (PyDict.has s.inFlight id = true ∧ PyDict.has s.recoveryRequired id = true)
  inFlight_keys : (PyDict.keys s.inFlight).Nodup
  concurrency : (s.inFlight.length : Int) ≤ cfg.maxConcurrency
  tickets : ∀ id, s.Dispatched id → ∃ t, s.TicketOf cfg.plan issued id t
  approved : ∀ id node, s.Dispatched id → cfg.plan.node? id = some node → node.approvalRequired = true →
    id ∈ s.approvedNodes
  dispatched : ∀ t ∈ issued, s.Dispatched t.nodeId
  sequences : issued.Pairwise fun t t' => t.dispatchSequence ≠ t'.dispatchSequence
  sequence_le : ∀ t ∈ issued, t.dispatchSequence ≤ s.dispatchSequence
  nodes : issued.Pairwise fun t t' => t.nodeId ≠ t'.nodeId

end Invariant

/-! ## Runs -/

inductive SchedulerOp (F : Type) where
  | issueDispatch (nodeId : String) (approvalGranted : Bool)
  | issueReady (approvedNodes : List String)
  | acceptObservation (observation : ExecutionObservation F)
  | cancel (reasonCode : String)

variable {σ F : Type} [PyRuntime F]

variable {cfg : SchedulerConfig σ F} {os : List (ExecutionObservation F)}

variable {id fp : String} {n : Int} {w : SchedulerWorld σ F} {t : DispatchTicket} {granted : Bool}
  {dispatches : PyDict.Dict DispatchTicket} {observations : PyDict.Dict (ExecutionObservation F)}

namespace ExecutionScheduler

/-- The world a call leaves, whether it returns or raises. -/
def after (cfg : SchedulerConfig σ F) (op : SchedulerOp F) (w : SchedulerWorld σ F) : SchedulerWorld σ F :=
  match op with
  | .issueDispatch nodeId approvalGranted => (issueDispatch cfg nodeId approvalGranted w).2
  | .issueReady approvedNodes => (issueReady cfg approvedNodes w).2
  | .acceptObservation o => (acceptObservation cfg o w).2
  | .cancel reasonCode => (cancel cfg reasonCode w).2

/-- A scheduler constructed in any environment, fresh or restored, and then any calls, with the
environment changing in any way in between. -/
inductive Reachable (cfg : SchedulerConfig σ F) : SchedulerWorld σ F → Prop where
  | start {e e' : σ} {s : SchedulerState F} {issued : List DispatchTicket} :
    construct cfg e = (.ok (s, issued), e') → Reachable cfg ⟨e', s, issued⟩
  | call {w : SchedulerWorld σ F} (op : SchedulerOp F) : Reachable cfg w → Reachable cfg (after cfg op w)
  | environment {w : SchedulerWorld σ F} (e : σ) : Reachable cfg w → Reachable cfg { w with env := e }

/-! ## What one step does -/

omit [PyRuntime F] in
theorem dispatched_nil : ¬ (({} : SchedulerState F).Dispatched id) := by
  simp [SchedulerState.Dispatched, has]

theorem invariant_fresh (h : 1 ≤ cfg.maxConcurrency) : SchedulerInvariant cfg {} [] where
  observed_inFlight := by simp [has]
  observed_recovery := by simp [has]
  inFlight_recovery := by simp [has]
  inFlight_keys := by simp [keys]
  concurrency := by
    show ((0 : Nat) : Int) ≤ cfg.maxConcurrency
    omega
  tickets := fun id hid => absurd hid dispatched_nil
  approved := fun id _ hid => absurd hid dispatched_nil
  dispatched := by simp
  sequences := .nil
  sequence_le := by simp
  nodes := .nil

variable {issued : List DispatchTicket} {s : SchedulerState F}

theorem invariant_sequence (h : SchedulerInvariant cfg s issued) (hn : s.dispatchSequence ≤ n) :
    SchedulerInvariant cfg { s with dispatchSequence := n } issued :=
  { h with
    tickets := fun id hid => by
      obtain ⟨t, ht⟩ := h.tickets id hid
      exact ⟨t, { ht with }⟩
    sequence_le := fun t ht => le_trans (h.sequence_le t ht) hn }

theorem invariant_cancelled (h : SchedulerInvariant cfg s issued) (reason : Option String) :
    SchedulerInvariant cfg { s with cancelled := true, cancellationReason := reason } issued :=
  { h with
    tickets := fun id hid => by
      obtain ⟨t, ht⟩ := h.tickets id hid
      exact ⟨t, { ht with }⟩ }

variable {plan : ExecutionPlan F} {node : ExecutionNode F}

section

variable (h : SchedulerInvariant cfg w.sched w.issued)
include h

theorem invariant_enterFlight
    (hnode : cfg.plan.node? node.nodeId = some node) (hnew : ¬ w.sched.Dispatched node.nodeId)
    (hcap : (w.sched.inFlight.length : Int) < cfg.maxConcurrency) (ht : t.nodeId = node.nodeId)
    (hdeps : DependenciesSucceeded w.sched.observations node t)
    (hlt : ∀ t' ∈ w.issued, t'.dispatchSequence < t.dispatchSequence)
    (hle : t.dispatchSequence ≤ w.sched.dispatchSequence) :
    SchedulerInvariant cfg (enterFlight node t w).sched (enterFlight node t w).issued := by
  have hobs : has w.sched.observations node.nodeId = false := by
    simpa using fun he => hnew (.inl he)
  have hfly : has w.sched.inFlight node.nodeId = false := by
    simpa using fun he => hnew (.inr (.inl he))
  have hrec : has w.sched.recoveryRequired node.nodeId = false := by
    simpa using fun he => hnew (.inr (.inr he))
  -- a dispatched node is the new one or was dispatched before
  have hcases : ∀ id, (enterFlight node t w).sched.Dispatched id → id = node.nodeId ∨ w.sched.Dispatched id := by
    intro id hid
    simp only [SchedulerState.Dispatched, enterFlight, has_set, Bool.or_eq_true, decide_eq_true_eq] at hid ⊢
    rcases hid with hid | (hid | hid) | hid
    · exact .inr (.inl hid)
    · exact .inl hid.symm
    · exact .inr (.inr (.inl hid))
    · exact .inr (.inr (.inr hid))
  have hkept : ∀ id, w.sched.Dispatched id → (enterFlight node t w).sched.Dispatched id := by
    intro id hid
    simp only [SchedulerState.Dispatched, enterFlight, has_set, Bool.or_eq_true] at hid ⊢
    rcases hid with hid | hid | hid
    · exact .inl hid
    · exact .inr (.inl (.inr hid))
    · exact .inr (.inr hid)
  refine
    { observed_inFlight := ?_, observed_recovery := h.observed_recovery, inFlight_recovery := ?_
      inFlight_keys := nodup_set h.inFlight_keys hfly, concurrency := ?_, tickets := ?_, approved := ?_
      dispatched := ?_, sequences := ?_, sequence_le := ?_, nodes := ?_ }
  · intro id hid
    simp only [enterFlight, has_set, Bool.or_eq_true, decide_eq_true_eq] at hid
    obtain ⟨ho, he | he⟩ := hid
    · rw [← he, hobs] at ho
      cases ho
    · exact h.observed_inFlight id ⟨ho, he⟩
  · intro id hid
    simp only [enterFlight, has_set, Bool.or_eq_true, decide_eq_true_eq] at hid
    obtain ⟨he | he, hr⟩ := hid
    · rw [← he, hrec] at hr
      cases hr
    · exact h.inFlight_recovery id ⟨he, hr⟩
  · show ((set w.sched.inFlight node.nodeId t).length : Int) ≤ cfg.maxConcurrency
    rw [set_of_absent hfly, List.length_append, List.length_singleton]
    omega
  · intro id hid
    by_cases he : id = node.nodeId
    · subst he
      refine ⟨t, ⟨by simp [enterFlight], ht, ?_, ?_, node, hnode, hdeps⟩⟩
      · intro t' ht'
        simp only [enterFlight, get?_set_self, Option.some.injEq] at ht'
        exact ht'.symm
      · intro t' ht'
        rw [has_eq_false] at hrec
        simp [enterFlight, hrec] at ht'
    · obtain ⟨t', ht'⟩ := h.tickets id ((hcases id hid).resolve_left he)
      refine ⟨t', ⟨by simp [enterFlight, ht'.issued], ht'.node, ?_, ht'.recovery, ht'.dependencies⟩⟩
      intro t'' h''
      rw [enterFlight, get?_set_ne (fun hne => he hne.symm)] at h''
      exact ht'.inFlight t'' h''
  · intro id n hid hn happ
    by_cases he : id = node.nodeId
    · subst he
      rw [hnode] at hn
      cases hn
      simp [enterFlight, happ]
    · have := h.approved id n ((hcases id hid).resolve_left he) hn happ
      simp only [enterFlight]
      split
      · simp [this]
      · exact this
  · intro t' ht'
    simp only [enterFlight, List.mem_append, List.mem_singleton] at ht'
    rcases ht' with ht' | rfl
    · exact hkept _ (h.dispatched t' ht')
    · rw [ht]
      simp [SchedulerState.Dispatched, enterFlight, has_set]
  · rw [enterFlight, List.pairwise_append]
    refine ⟨h.sequences, by simp, ?_⟩
    intro a ha b hb
    rw [List.mem_singleton.mp hb]
    have := hlt a ha
    omega
  · intro t' ht'
    simp only [enterFlight, List.mem_append, List.mem_singleton] at ht'
    rcases ht' with ht' | rfl
    · exact h.sequence_le t' ht'
    · exact hle
  · rw [enterFlight, List.pairwise_append]
    refine ⟨h.nodes, by simp, ?_⟩
    intro a ha b hb hab
    rw [List.mem_singleton.mp hb, ht] at hab
    exact hnew (hab ▸ h.dispatched a ha)

theorem unobserved_of_open
    (hopen : (openTicket w.sched id).isSome = true) : get? w.sched.observations id = none := by
  rw [← has_eq_false]
  by_contra hne
  simp only [openTicket, Option.isSome_or, Bool.or_eq_true] at hopen
  rcases hopen with hf | hr
  · exact h.observed_inFlight _ ⟨by simpa using hne, hf⟩
  · exact h.observed_recovery _ ⟨by simpa using hne, hr⟩

theorem invariant_settle {o : ExecutionObservation F}
    (hopen : (openTicket w.sched o.nodeId).isSome = true) :
    SchedulerInvariant cfg (settle o w).sched (settle o w).issued := by
  -- the node was open, so it had no observation: earlier dependencies keep theirs
  have hdisp : w.sched.Dispatched o.nodeId := by
    simp only [openTicket, Option.isSome_or, Bool.or_eq_true] at hopen
    exact .inr hopen
  have hobs := unobserved_of_open h hopen
  have hcases : ∀ id, (settle o w).sched.Dispatched id ↔ w.sched.Dispatched id := by
    intro id
    simp only [SchedulerState.Dispatched, settle, has_set, has_pop, Bool.or_eq_true, Bool.and_eq_true,
      decide_eq_true_eq]
    by_cases he : o.nodeId = id
    · subst he
      simp only [true_or, true_iff]
      exact hdisp
    · simp [he]
  have hdeps : ∀ node t, DependenciesSucceeded w.sched.observations node t →
      DependenciesSucceeded (settle o w).sched.observations node t := by
    intro node t hd
    refine hd.imp ?_
    rintro d f ⟨o', ho', hs⟩
    refine ⟨o', ?_, hs⟩
    rw [settle, get?_set_ne, ho']
    rintro rfl
    rw [hobs] at ho'
    cases ho'
  refine
    { observed_inFlight := ?_, observed_recovery := ?_, inFlight_recovery := ?_
      inFlight_keys := nodup_pop h.inFlight_keys, concurrency := ?_, tickets := ?_, approved := ?_
      dispatched := fun t ht => (hcases _).mpr (h.dispatched t ht), sequences := h.sequences
      sequence_le := h.sequence_le, nodes := h.nodes }
  · intro id hid
    simp only [settle, has_set, has_pop, Bool.or_eq_true, Bool.and_eq_true, decide_eq_true_eq] at hid
    obtain ⟨ho | ho, hne, hf⟩ := hid
    · exact hne ho
    · exact h.observed_inFlight id ⟨ho, hf⟩
  · intro id hid
    simp only [settle, has_set, has_pop, Bool.or_eq_true, Bool.and_eq_true, decide_eq_true_eq] at hid
    obtain ⟨ho | ho, hne, hf⟩ := hid
    · exact hne ho
    · exact h.observed_recovery id ⟨ho, hf⟩
  · intro id hid
    simp only [settle, has_pop, Bool.and_eq_true] at hid
    exact h.inFlight_recovery id ⟨hid.1.2, hid.2.2⟩
  · have hlen : (pop w.sched.inFlight o.nodeId).length ≤ w.sched.inFlight.length := length_pop_le
    have hmax := h.concurrency
    show ((pop w.sched.inFlight o.nodeId).length : Int) ≤ cfg.maxConcurrency
    omega
  · intro id hid
    obtain ⟨t, ht⟩ := h.tickets id ((hcases id).mp hid)
    obtain ⟨node, hnode, hd⟩ := ht.dependencies
    refine ⟨t, ⟨ht.issued, ht.node, ?_, ?_, node, hnode, hdeps node t hd⟩⟩
    · intro t' ht'
      rw [settle, get?_pop] at ht'
      split at ht'
      · cases ht'
      · exact ht.inFlight t' ht'
    · intro t' ht'
      rw [settle, get?_pop] at ht'
      split at ht'
      · cases ht'
      · exact ht.recovery t' ht'
  · intro id node hid
    exact h.approved id node ((hcases id).mp hid)

end

/-! ## Calls -/

/-- The world's scheduler is in a given state. -/
def At (s : SchedulerState F) (issued : List DispatchTicket) (w : SchedulerWorld σ F) : Prop :=
  w.sched = s ∧ w.issued = issued

variable {s : SchedulerState F} {issued : List DispatchTicket}

omit [PyRuntime F] in
theorem call_at {α : Type} (x : Act σ Raised α) :
    Act.Triple (At s issued) (SchedulerWorld.call x) (fun _ => At s issued) (At s issued) := by
  intro w hw
  simp only [SchedulerWorld.call]
  cases (x w.env).1 with
  | ok a => exact hw
  | error e => exact hw

omit [PyRuntime F] in
theorem persist_at (cfg : SchedulerConfig σ F) (failed : String) (x : CheckpointRepository σ F → Act σ Raised PUnit) :
    Act.Triple (At s issued) (persist cfg failed x) (fun _ => At s issued) (At s issued) := by
  unfold persist
  split
  · exact Act.Triple.pure fun w hw => hw
  · exact call_at _

theorem revalidateRuntime_at (cfg : SchedulerConfig σ F) (node : ExecutionNode F) :
    Act.Triple (At s issued) (revalidateRuntime cfg node) (fun _ => At s issued) (At s issued) := by
  have hcap : ∀ capability, Act.Triple (At s issued) (checkCapability cfg node capability)
      (fun _ => At s issued) (At s issued) := by
    intro capability
    exact (call_at _).bind fun _ => Act.Triple.lift (fun _ w _ hw => hw) fun w hw => hw
  unfold revalidateRuntime
  refine (Act.Triple.lift (fun _ w _ hw => hw) fun w hw => hw).bind fun _ => ?_
  refine (call_at _).bind fun _ => ?_
  exact (Act.Triple.mapM hcap _).bind fun _ => Act.Triple.pure fun w hw => hw

omit [PyRuntime F] in
theorem eq_of_at {w' : SchedulerWorld σ F} (h : At w.sched w.issued w') : w' = { w with env := w'.env } := by
  cases w'
  obtain ⟨rfl, rfl⟩ := h
  rfl

theorem acceptObservation_ends (cfg : SchedulerConfig σ F) (o : ExecutionObservation F) (w : SchedulerWorld σ F) :
    ∃ e, (acceptObservation cfg o w).2 = { w with env := e } ∨
      (openTicket w.sched o.nodeId).isSome = true ∧ (acceptObservation cfg o w).2 = settle o { w with env := e } := by
  unfold acceptObservation
  rw [Act.get_bind_run]
  cases hcheck : checkObservation cfg w.sched o with
  | error raised =>
    rw [Act.lift_bind_raises rfl]
    exact ⟨w.env, .inl rfl⟩
  | ok _ =>
    rw [Act.lift_bind_run rfl]
    have hat := Act.triple_iff_last.mp (persist_at cfg
      ("SCHEDULER_CHECKPOINT_OBSERVATION_FAILED:" ++ o.nodeId) (·.recordObservation o)) w ⟨rfl, rfl⟩
    obtain ⟨⟨answer, w'⟩, hpersist⟩ : ∃ r, persist cfg ("SCHEDULER_CHECKPOINT_OBSERVATION_FAILED:" ++ o.nodeId)
      (·.recordObservation o) w = r := ⟨_, rfl⟩
    rw [hpersist] at hat
    cases answer with
    | error raised =>
      rw [Act.bind_raises hpersist]
      exact ⟨w'.env, .inl (eq_of_at hat)⟩
    | ok _ =>
      rw [Act.bind_run hpersist]
      refine ⟨w'.env, .inr ⟨?_, congrArg (settle o) (eq_of_at hat)⟩⟩
      simp only [checkObservation, bind_ok, orRaise_ok] at hcheck
      obtain ⟨t, ht, -⟩ := hcheck
      rw [ht]
      rfl

theorem cancel_ends (cfg : SchedulerConfig σ F) (reasonCode : String) (w : SchedulerWorld σ F) :
    ∃ e, (cancel cfg reasonCode w).2 = { w with env := e } ∨
      (cancel cfg reasonCode w).2 = markCancelled (strip reasonCode) { w with env := e } := by
  unfold cancel
  cases require (strip reasonCode ≠ "") (schedulerError "INVALID_CANCELLATION_REASON") with
  | error raised =>
    rw [Act.lift_bind_raises rfl]
    exact ⟨w.env, .inl rfl⟩
  | ok _ =>
    rw [Act.lift_bind_run rfl, Act.modify_bind_run]
    exact ⟨_, .inr (eq_of_at (Act.triple_iff_last.mp (persist_at cfg _ _) _ ⟨rfl, rfl⟩))⟩

omit [PyRuntime F] in
theorem node?_nodeId (h : plan.node? id = some node) : node.nodeId = id := by
  simpa using List.find?_some h

omit [PyRuntime F] in
theorem dependencyObservations_ok (h : dependencyObservations s node = .ok os) :
    List.Forall₂ (fun d o => get? s.observations d = some o ∧ o.status = "SUCCEEDED") node.dependsOn os := by
  refine (mapM_ok.mp h).imp ?_
  intro d o ho
  simp only [bind_ok, orRaise_ok, require_ok, pure_ok] at ho
  obtain ⟨o', ho', _, hstatus, rfl⟩ := ho
  exact ⟨ho', hstatus⟩

theorem admission_ok (h : admission cfg s id granted = .ok (node, os)) :
    cfg.plan.node? id = some node ∧ ¬ s.Dispatched id ∧ (s.inFlight.length : Int) < cfg.maxConcurrency ∧
      List.Forall₂ (fun d o => get? s.observations d = some o ∧ o.status = "SUCCEEDED") node.dependsOn os := by
  simp only [admission, bind_ok, orRaise_ok, require_ok, pure_ok, Prod.mk.injEq] at h
  obtain ⟨_, -, node', hnode, _, hobs, _, hfly, _, hrec, _, -, _, hcap, _, -, _, -, _, -, os', hos, _, -, rfl, rfl⟩ := h
  refine ⟨hnode, ?_, hcap, dependencyObservations_ok hos⟩
  simp [SchedulerState.Dispatched, hobs, hfly, hrec]

/-- A valid ticket for a node of a plan: what a dispatch makes and a restore checks. -/
structure IssuedFor (plan : ExecutionPlan F) (node : ExecutionNode F) (t : DispatchTicket) : Prop where
  valid : t.validate = .ok ⟨⟩
  taskId : t.taskId = plan.taskId
  planFingerprint : plan.fingerprint = .ok t.planFingerprint
  nodeId : t.nodeId = node.nodeId
  nodeFingerprint : node.fingerprint = .ok t.nodeFingerprint
  authority : t.authorityFingerprint = node.authorityFingerprint
  level : t.executionLevel = node.executionLevel

theorem newTicket_ok (h : newTicket plan node os n = .ok t) : IssuedFor plan node t ∧ t.dispatchSequence = n ∧
      List.Forall₂ (fun o f => o.fingerprint = .ok f) os t.dependencyObservationFingerprints := by
  simp only [newTicket, bind_ok, pure_ok] at h
  obtain ⟨_, hplan, _, hnode, fs, hfs, _, -, _, hvalid, rfl⟩ := h
  exact ⟨⟨hvalid, rfl, hplan, rfl, hnode, rfl, rfl⟩, rfl, mapM_ok.mp hfs⟩

omit [PyRuntime F] in
theorem forall₂_comp {α β γ : Type} {R : α → β → Prop} {S : β → γ → Prop} {as : List α} {bs : List β} {cs : List γ}
    (h : List.Forall₂ R as bs) (h' : List.Forall₂ S bs cs) : List.Forall₂ (fun a c => ∃ b, R a b ∧ S b c) as cs := by
  induction h generalizing cs with
  | nil =>
    cases h'
    exact .nil
  | cons hr _ ih =>
    cases h' with
    | cons hs hss => exact .cons ⟨_, hr, hs⟩ (ih hss)

/-- The invariant of a world. -/
def Holds (cfg : SchedulerConfig σ F) (w : SchedulerWorld σ F) : Prop := SchedulerInvariant cfg w.sched w.issued

theorem holds_of_at (h : SchedulerInvariant cfg s issued) (w : SchedulerWorld σ F)
    (hw : At s issued w) : Holds cfg w := by
  rw [Holds, hw.1, hw.2]
  exact h

theorem issueDispatch_holds (cfg : SchedulerConfig σ F) (id : String) (granted : Bool) :
    Act.Triple (Holds cfg) (issueDispatch cfg id granted) (fun _ => Holds cfg) (Holds cfg) := by
  refine Act.Triple.get_bind fun w₀ h₀ => ?_
  have hseq : SchedulerInvariant cfg (advanceSequence w₀).sched (advanceSequence w₀).issued :=
    invariant_sequence h₀ (by omega)
  refine Act.Triple.bind (R := fun r w => admission cfg w₀.sched id granted = .ok r ∧ At w₀.sched w₀.issued w)
    (Act.Triple.lift ?_ ?_) ?_
  · intro r w hr hw
    exact ⟨hr, by rw [hw]; exact ⟨rfl, rfl⟩⟩
  · intro w hw
    rw [hw]
    exact h₀
  rintro ⟨node, os⟩
  by_cases hadmission : admission cfg w₀.sched id granted = .ok (node, os)
  swap
  · intro w hw
    exact absurd hw.1 hadmission
  obtain ⟨hnode, hnew, hcap, hos⟩ := admission_ok hadmission
  refine ((revalidateRuntime_at cfg node).weaken (fun _ hw => hw.2)
    (fun _ _ hw => hw) (holds_of_at h₀)).bind fun _ => ?_
  refine ((call_at _).weaken (fun _ hw => hw) (fun _ _ hw => hw) (holds_of_at h₀)).bind fun _ => ?_
  refine Act.Triple.bind (R := fun _ => At (advanceSequence w₀).sched (advanceSequence w₀).issued)
    (Act.Triple.modify fun w hw => ?_) fun _ => ?_
  · refine ⟨?_, hw.2⟩
    show { w.sched with dispatchSequence := w.sched.dispatchSequence + 1 } = _
    rw [hw.1]
    rfl
  refine Act.Triple.get_bind fun w₁ h₁ => ?_
  refine Act.Triple.bind
    (R := fun t w => newTicket cfg.plan node os w₁.sched.dispatchSequence = .ok t ∧
      At (advanceSequence w₀).sched (advanceSequence w₀).issued w)
    (Act.Triple.lift ?_ ?_) fun t => ?_
  · intro t w ht hw
    exact ⟨ht, by rw [hw]; exact h₁⟩
  · intro w hw
    rw [hw]
    exact holds_of_at hseq w₁ h₁
  by_cases hticket : newTicket cfg.plan node os w₁.sched.dispatchSequence = .ok t
  swap
  · intro w hw
    exact absurd hw.1 hticket
  obtain ⟨htn, hts, htf⟩ := newTicket_ok hticket
  refine ((persist_at cfg _ _).weaken
    (fun _ hw => hw.2) (fun _ _ hw => hw) (holds_of_at hseq)).bind fun _ => ?_
  refine Act.Triple.bind (R := fun _ => Holds cfg) (Act.Triple.modify fun w hw => ?_)
    fun _ => Act.Triple.pure fun _ hw => hw
  have hid : node.nodeId = id := node?_nodeId hnode
  have hnum : t.dispatchSequence = w₀.sched.dispatchSequence + 1 := by
    rw [hts, h₁.1]
    rfl
  refine invariant_enterFlight (holds_of_at hseq w hw) (by rw [hid]; exact hnode) ?_ ?_ htn.nodeId ?_ ?_ ?_
  · rw [hid, hw.1]
    exact hnew
  · rw [hw.1]
    exact hcap
  · rw [hw.1]
    refine (forall₂_comp hos htf).imp ?_
    rintro d f ⟨o, ⟨hget, hstatus⟩, hfp⟩
    exact ⟨o, hget, hstatus, hfp⟩
  · intro t' ht'
    rw [hw.2] at ht'
    have := h₀.sequence_le t' ht'
    omega
  · rw [hw.1]
    show t.dispatchSequence ≤ w₀.sched.dispatchSequence + 1
    omega

theorem issueReady_holds (cfg : SchedulerConfig σ F) (approvedNodes : List String) :
    Act.Triple (Holds cfg) (issueReady cfg approvedNodes) (fun _ => Holds cfg) (Holds cfg) := by
  refine Act.Triple.get_bind fun w₀ h₀ => ?_
  refine Act.Triple.bind (R := fun _ => Holds cfg) (Act.Triple.lift ?_ ?_) fun ids => ?_
  · intro _ w _ hw
    rw [hw]
    exact h₀
  · intro w hw
    rw [hw]
    exact h₀
  exact Act.Triple.mapM (fun id => issueDispatch_holds cfg id _) ids

theorem acceptObservation_holds (cfg : SchedulerConfig σ F) (o : ExecutionObservation F) :
    Act.Triple (Holds cfg) (acceptObservation cfg o) (fun _ => Holds cfg) (Holds cfg) := by
  refine Act.triple_iff_last.mpr fun w hw => ?_
  obtain ⟨e, h | ⟨hopen, h⟩⟩ := acceptObservation_ends cfg o w
  · rw [h]
    exact hw
  · rw [h]
    exact invariant_settle hw hopen

theorem cancel_holds (cfg : SchedulerConfig σ F) (reasonCode : String) :
    Act.Triple (Holds cfg) (cancel cfg reasonCode) (fun _ => Holds cfg) (Holds cfg) := by
  refine Act.triple_iff_last.mpr fun w hw => ?_
  obtain ⟨e, h | h⟩ := cancel_ends cfg reasonCode w
  · rw [h]
    exact hw
  · rw [h]
    exact invariant_cancelled hw _

theorem after_holds (h : Holds cfg w) (op : SchedulerOp F) :
    Holds cfg (after cfg op w) := by
  cases op with
  | issueDispatch id granted => exact Act.triple_iff_last.mp (issueDispatch_holds cfg id granted) w h
  | issueReady ids => exact Act.triple_iff_last.mp (issueReady_holds cfg ids) w h
  | acceptObservation o => exact Act.triple_iff_last.mp (acceptObservation_holds cfg o) w h
  | cancel reason => exact Act.triple_iff_last.mp (cancel_holds cfg reason) w h

/-! ## Restoring -/

/-- What the loop over the recovered dispatches has established of those it passed. -/
structure RestoredFrom (plan : ExecutionPlan F) (ts : List DispatchTicket) (r : Restored) : Prop where
  dispatches : r.dispatches = ts.map fun t => (t.nodeId, t)
  nodes : ts.Pairwise fun t t' => t.nodeId ≠ t'.nodeId
  sequences : ts.Pairwise fun t t' => t.dispatchSequence ≠ t'.dispatchSequence
  sequence_le : ∀ t ∈ ts, t.dispatchSequence ≤ r.dispatchSequence
  approvals : ∀ t ∈ ts, ∀ node, plan.node? t.nodeId = some node → node.approvalRequired = true →
    t.nodeId ∈ r.approvalNodes

variable {r : Restored}

omit [PyRuntime F] in
theorem RestoredFrom.has (h : RestoredFrom plan ts r) :
    has r.dispatches id = true ↔ ∃ t ∈ ts, t.nodeId = id := by
  rw [← mem_keys, h.dispatches]
  simp [keys]

omit [PyRuntime F] in
theorem RestoredFrom.keys (h : RestoredFrom plan ts r) : (PyDict.keys r.dispatches).Nodup := by
  rw [h.dispatches, PyDict.keys, List.map_map]
  exact List.pairwise_map.mpr h.nodes

theorem restoreDispatch_ok {r' : Restored} (h : RestoredFrom plan ts r) (hstep : restoreDispatch plan fp r t = .ok r') :
    RestoredFrom plan (ts ++ [t]) r' := by
  simp only [restoreDispatch, bind_ok, require_ok, orRaise_ok, pure_ok] at hstep
  obtain ⟨_, -, _, -, _, -, node, hnode, _, -, _, -, _, -, _, -, _, hnew, _, hseq, rfl⟩ := hstep
  have hnodeId := node?_nodeId hnode
  have hfresh : ∀ t' ∈ ts, t'.nodeId ≠ t.nodeId := by
    intro t' ht' he
    have := h.has.mpr ⟨t', ht', he⟩
    rw [this] at hnew
    cases hnew
  have hnum : ∀ t' ∈ ts, t'.dispatchSequence ≠ t.dispatchSequence := by
    intro t' ht' he
    apply hseq
    rw [h.dispatches]
    simp only [List.map_map, List.mem_map]
    exact ⟨t', ht', he⟩
  refine ⟨?_, ?_, ?_, ?_, ?_⟩
  · show set r.dispatches t.nodeId t = _
    rw [set_of_absent hnew, h.dispatches]
    simp
  · rw [List.pairwise_append]
    refine ⟨h.nodes, by simp, ?_⟩
    intro a ha b hb
    rw [List.mem_singleton.mp hb]
    exact hfresh a ha
  · rw [List.pairwise_append]
    refine ⟨h.sequences, by simp, ?_⟩
    intro a ha b hb
    rw [List.mem_singleton.mp hb]
    exact hnum a ha
  · intro t' ht'
    rcases List.mem_append.mp ht' with ht' | ht'
    · exact le_trans (h.sequence_le t' ht') (le_max_left _ _)
    · rw [List.mem_singleton.mp ht']
      exact le_max_right _ _
  · intro t' ht' n hn happ
    rcases List.mem_append.mp ht' with ht' | ht'
    · have := h.approvals t' ht' n hn happ
      show t'.nodeId ∈ if node.approvalRequired then _ else _
      split
      · simp [this]
      · exact this
    · rw [List.mem_singleton.mp ht'] at hn ⊢
      rw [hnode] at hn
      cases hn
      simp [happ, hnodeId]

theorem restoreObservations_ok {parent : TaskCapabilityAuthority} {d : PyDict.Dict (ExecutionObservation F)}
    (h : os.foldlM (restoreObservation plan parent dispatches) [] = .ok d)
    (hid : has d id = true) : has dispatches id = true := by
  refine foldlM_ok (I := fun _ d => ∀ id, has d id = true → has dispatches id = true) ?_
    (l := []) ?_ h id hid
  · intro _ d o d' hd hstep id hid
    simp only [restoreObservation, bind_ok, require_ok, orRaise_ok, pure_ok] at hstep
    obtain ⟨_, -, _, -, t, ht, _, -, _, -, rfl⟩ := hstep
    simp only [has_set, Bool.or_eq_true, decide_eq_true_eq] at hid
    rcases hid with rfl | hid
    · exact has_iff.mpr ⟨t, ht⟩
    · exact hd id hid
  · intro id hid
    simp [has] at hid

theorem checkDependencies_ok (h : checkDependencies plan observations (id, t) = .ok ⟨⟩) :
    ∃ node, plan.node? id = some node ∧ DependenciesSucceeded observations node t := by
  simp only [checkDependencies, bind_ok, orRaise_ok, require_ok] at h
  obtain ⟨node, hnode, expected, hexp, heq⟩ := h
  refine ⟨node, hnode, ?_⟩
  rw [DependenciesSucceeded, heq]
  refine (mapM_ok.mp hexp).imp ?_
  intro d f hd
  simp only [bind_ok, orRaise_ok, Option.filter_eq_some_iff, decide_eq_true_eq] at hd
  obtain ⟨o, ⟨hget, hstatus⟩, hf⟩ := hd
  exact ⟨o, hget, hstatus, hf⟩

omit [PyRuntime F] in
theorem mem_unfinished (h : has (unfinished dispatches observations) id = true) :
    has dispatches id = true ∧ has observations id = false := by
  obtain ⟨t, ht⟩ := has_iff.mp h
  have hmem := List.mem_filter.mp (mem_of_get? ht)
  exact ⟨has_of_mem hmem.1, by simpa using hmem.2⟩

theorem invariant_restored {recovered : RecoveredExecutionState F}
    (hmax : 1 ≤ cfg.maxConcurrency) (h : restoreFrom cfg fp recovered = .ok s) :
    SchedulerInvariant cfg s recovered.dispatches := by
  simp only [restoreFrom, bind_ok, require_ok, pure_ok] at h
  obtain ⟨_, -, _, -, r, hr, _, -, _, -, observations, hobs, _, hdeps, _, -, reason, -, _, -, rfl⟩ := h
  have hrest : RestoredFrom cfg.plan recovered.dispatches r := by
    refine foldlM_ok (I := RestoredFrom cfg.plan) (fun _ _ _ _ => restoreDispatch_ok) (l := []) ?_ hr
    exact ⟨rfl, .nil, .nil, by simp, by simp⟩
  -- a node with a ticket is one of the recovered dispatches
  have hdisp : ∀ id, has observations id = true ∨ has (unfinished r.dispatches observations) id = true →
      ∃ t ∈ recovered.dispatches, t.nodeId = id := by
    intro id hid
    refine hrest.has.mp ?_
    rcases hid with hid | hid
    · exact restoreObservations_ok hobs hid
    · exact (mem_unfinished hid).1
  have hmem : ∀ t ∈ recovered.dispatches, (t.nodeId, t) ∈ r.dispatches := by
    intro t ht
    rw [hrest.dispatches]
    exact List.mem_map.mpr ⟨t, ht, rfl⟩
  refine
    { observed_inFlight := by simp [has], observed_recovery := ?_, inFlight_recovery := by simp [has]
      inFlight_keys := by simp [keys], concurrency := ?_, tickets := ?_, approved := ?_, dispatched := ?_
      sequences := hrest.sequences, sequence_le := hrest.sequence_le, nodes := hrest.nodes }
  · rintro id ⟨ho, hu⟩
    rw [(mem_unfinished hu).2] at ho
    cases ho
  · show ((0 : Nat) : Int) ≤ cfg.maxConcurrency
    omega
  · intro id hid
    obtain ⟨t, ht, rfl⟩ := hdisp id (by simpa [SchedulerState.Dispatched, has] using hid)
    have hcheck : checkDependencies cfg.plan observations (t.nodeId, t) = .ok ⟨⟩ := by
      obtain ⟨_, -, hc⟩ := forall₂_mem_left (mapM_ok.mp hdeps) (hmem t ht)
      exact hc
    refine ⟨t, ⟨ht, rfl, by simp, ?_, checkDependencies_ok hcheck⟩⟩
    intro t' ht'
    have hin := (List.mem_filter.mp (mem_of_get? ht')).1
    have h1 := get?_of_mem hrest.keys hin
    rw [get?_of_mem hrest.keys (hmem t ht)] at h1
    cases h1
    rfl
  · intro id node hid hnode happ
    obtain ⟨t, ht, rfl⟩ := hdisp id (by simpa [SchedulerState.Dispatched, has] using hid)
    exact hrest.approvals t ht node hnode happ
  · intro t ht
    by_cases ho : has observations t.nodeId = true
    · exact .inl ho
    · refine .inr (.inr (has_of_mem (List.mem_filter.mpr ⟨hmem t ht, ?_⟩)))
      simpa using ho

/-! ## Calls that return -/

theorem admissionDecision_ok {approved : List String} {d : SchedulingDecision} :
    admissionDecision cfg s approved = .ok d ↔
      evaluate cfg.taskContext cfg.plan cfg.parentAuthority (orderedObservations cfg.plan s)
        (sorted (dedup (s.approvedNodes ++ approved))) = .ok d := by
  unfold admissionDecision
  split
  · rename_i h
    simp [h]
  · rename_i h
    simp only [h, reduceCtorEq, iff_false]
    split <;> simp

omit [PyRuntime F] in
theorem orderedObservations_nil (p : ExecutionPlan F) (h : s.observations = []) :
    orderedObservations p s = [] := by
  simp [orderedObservations, h]

theorem issueDispatch_returns {w₁ w₂ w₃ : SchedulerWorld σ F}
    (hadmission : admission cfg w.sched id granted = .ok (node, os))
    (hruntime : revalidateRuntime cfg node w = (.ok ⟨⟩, w₁))
    (hreserve : SchedulerWorld.call (cfg.reserveStep.mapError
      (budgetFailure "SCHEDULER_BUDGET_RESERVATION_FAILED")) w₁ = (.ok ⟨⟩, w₂))
    (ht : newTicket cfg.plan node os (w₂.sched.dispatchSequence + 1) = .ok t)
    (hpersist : persist cfg ("SCHEDULER_CHECKPOINT_DISPATCH_FAILED:" ++ id) (·.recordDispatch t)
      (advanceSequence w₂) = (.ok ⟨⟩, w₃)) :
    issueDispatch cfg id granted w = (.ok t, enterFlight node t w₃) := by
  unfold issueDispatch
  refine Act.get_bind_run.trans ?_
  refine (Act.lift_bind_run hadmission).trans ?_
  refine (Act.bind_run hruntime).trans ?_
  refine (Act.bind_run hreserve).trans ?_
  refine Act.modify_bind_run.trans ?_
  refine Act.get_bind_run.trans ?_
  refine (Act.lift_bind_run ht).trans ?_
  exact (Act.bind_run hpersist).trans rfl

theorem acceptObservation_returns {w' : SchedulerWorld σ F} (hcheck : checkObservation cfg w.sched o = .ok ⟨⟩)
    (hpersist : persist cfg ("SCHEDULER_CHECKPOINT_OBSERVATION_FAILED:" ++ o.nodeId) (·.recordObservation o) w =
      (.ok ⟨⟩, w')) :
    acceptObservation cfg o w = (.ok o, settle o w') := by
  unfold acceptObservation
  refine Act.get_bind_run.trans ?_
  refine (Act.lift_bind_run hcheck).trans ?_
  refine (Act.bind_run hpersist).trans ?_
  exact Act.modify_bind_run

theorem expectedId_of (hs : t.dispatchSequence.natAbs < 2 ^ 64)
    (hl : t.executionLevel.natAbs < 2 ^ 64) : ∃ id, t.expectedId = .ok id := by
  have hdump : dumpable (Json.dict t.identityEntries) = true := by
    refine dumpable_dict ?_
    intro e he
    simp only [DispatchTicket.identityEntries, List.mem_cons, List.not_mem_nil, or_false] at he
    rcases he with rfl | rfl | rfl | rfl | rfl | rfl | rfl | rfl | rfl | rfl
    all_goals try rfl
    · exact dumpable_strs _
    · exact dumpable_int hs
    · exact dumpable_int hl
  obtain ⟨d, hd⟩ := digestOf_dumpable hdump
  simp only [DispatchTicket.expectedId, bind_ok, pure_ok]
  exact ⟨_, d, hd, rfl⟩

/-! ## Every run -/

theorem construct_ok {e e' : σ} (h : construct cfg e = (.ok (s, issued), e')) : SchedulerInvariant cfg s issued := by
  have hx : Act.Triple (fun _ => True) (construct cfg) (fun r _ => SchedulerInvariant cfg r.1 r.2) fun _ => True := by
    refine Act.Triple.bind (R := fun _ _ => checkConfig cfg = .ok ⟨⟩) (Act.Triple.lift (fun _ _ hr _ => hr)
      fun _ _ => trivial) fun _ => ?_
    by_cases hcheck : checkConfig cfg = .ok ⟨⟩
    swap
    · intro _ hc
      exact absurd hc hcheck
    have hmax : 1 ≤ cfg.maxConcurrency := by
      simp only [checkConfig, bind_ok, require_ok] at hcheck
      obtain ⟨_, hc, -⟩ := hcheck
      exact hc.1
    cases cfg.checkpointRepository with
    | none => exact Act.Triple.pure fun _ _ => invariant_fresh hmax
    | some repository =>
      refine Act.Triple.bind (R := fun _ _ => True) ?_ fun recovered => ?_
      · intro w _
        obtain ⟨_ | _, _⟩ := loadCheckpoint cfg repository w <;> trivial
      refine Act.Triple.bind (R := fun _ _ => True) (Act.Triple.lift (fun _ _ _ _ => trivial) fun _ _ => trivial)
        fun fp => ?_
      refine Act.Triple.bind (R := fun s _ => restoreFrom cfg fp recovered = .ok s)
        (Act.Triple.lift (fun _ _ hr _ => hr) fun _ _ => trivial) fun s => ?_
      exact Act.Triple.pure fun _ hs => invariant_restored hmax hs
  exact Act.triple_ok hx trivial h

/-- In every state that any run of calls reaches, from a fresh scheduler or a restored one. -/
theorem invariant_over_runs (cfg : SchedulerConfig σ F) (w : SchedulerWorld σ F) (h : Reachable cfg w) :
    SchedulerInvariant cfg w.sched w.issued := by
  induction h with
  | start hc => exact construct_ok hc
  | call op _ ih => exact after_holds ih op
  | environment e _ ih => exact ih

end ExecutionScheduler

/-! ## A plan of two nodes -/

namespace Sample

/-- The text of a computation that succeeds. -/
def okText (x : Except Raised String) : String :=
  match x with
  | .ok s => s
  | .error _ => ""

theorem okText_eq {x : Except Raised String} {s : String} (h : x = .ok s) : x = .ok (okText x) := by
  rw [h]
  rfl

def parent : TaskCapabilityAuthority := .build "t1" "internal" [] [] .none "deny"

def child (taskId : String) : TaskCapabilityAuthority := .build taskId "internal" [] [] .none "deny"

/-- A budget of as many seconds, and nothing else. -/
def budget (wall : Int) : TaskResourceBudget WholeFloat := ⟨some wall, some 0, some 0, none⟩

/-- The least whole number that no float equals and that `float` rounds up. -/
def wall : Int := 9007199254740995

def context : TaskContext WholeFloat where
  taskId := "t1"
  sessionId := "s1"
  traceId := "r1"
  actorId := "u1"
  intent := "i"
  purpose := "p"
  projectId := none
  riskClass := "R1"
  createdAt := "2026-01-01T00:00:00Z"
  deadline := none
  resourceBudget := budget wall
  inventoryScope := []
  taskContractFingerprint := hashText "contract"
  canonicalTaskFingerprint := hashText "task"
  authorityFingerprint := parent.fingerprint

def source (id : String) (kind : NodeKind) (action : NodeAction) (dependsOn : List String) : WorkflowNode :=
  { id, label := id, kind, action, dependsOn, condition := none, approvalRequired := false }

def first : WorkflowNode := source "a" .input .input []
def second : WorkflowNode := source "b" .output .output ["a"]

def contract : WorkflowContract where
  title := "t"
  objective := "o"
  trigger := .manual
  riskLevel := .low
  dataClass := .internal
  nodes := [first, second]
  outputs := []
  warnings := []

def node (source : WorkflowNode) (authorityTaskId : String) (executionLevel wall : Int) : ExecutionNode WholeFloat where
  nodeId := source.id
  label := source.label
  kind := source.kind.text
  action := source.action.text
  dependsOn := source.dependsOn
  condition := none
  approvalRequired := false
  executionLevel := executionLevel
  authorityTaskId := authorityTaskId
  authorityFingerprint := (child authorityTaskId).fingerprint
  allowedSources := []
  allowedTools := []
  writeScope := .none
  networkScope := "deny"
  resourceBudget := budget wall
  evidenceRequirements := []
  workflowNodeFingerprint := hashText (String.ofList (PyJson.text (source.toJson : Json WholeFloat)))

def nodeA : ExecutionNode WholeFloat := node first "t1:a" 0 wall
def nodeB : ExecutionNode WholeFloat := node second "t1:b" 1 0

@[irreducible] def contextFingerprint : String := okText context.fingerprint
@[irreducible] def contextIdentity : String := okText context.identityFingerprint

def plan : ExecutionPlan WholeFloat where
  taskId := "t1"
  taskContextFingerprint := contextFingerprint
  taskContextIdentityFingerprint := contextIdentity
  taskRiskClass := "R1"
  parentAuthorityFingerprint := parent.fingerprint
  taskResourceBudget := budget wall
  workflowContractJson := String.ofList (PyJson.text (contract.toJson : Json WholeFloat))
  workflowContractFingerprint := hashText (String.ofList (PyJson.text (contract.toJson : Json WholeFloat)))
  nodes := [nodeA, nodeB]

theorem budget_valid (hn : 0 ≤ n) : (budget n).validate = .ok ⟨⟩ := by
  simp [TaskResourceBudget.validate, TaskResourceBudget.checkDimension, TaskResourceBudget.costFloat, budget, hn]

theorem budget_dict (hn : 0 ≤ n) (hmax : n < 2 ^ 63) :
    ∃ v, (budget n).canonicalDict = .ok v ∧ dumpable v = true := by
  refine ⟨_, by
    simp only [TaskResourceBudget.canonicalDict, bind_ok]
    exact ⟨⟨⟩, budget_valid hn, none, rfl, rfl⟩, ?_⟩
  refine dumpable_dict ?_
  intro e he
  simp only [budget, List.mem_cons, List.not_mem_nil, or_false] at he
  rcases he with rfl | rfl | rfl | rfl
  · exact dumpable_int (by omega)
  · exact dumpable_int (by decide)
  · exact dumpable_int (by decide)
  · rfl

theorem context_valid : context.validate = .ok ⟨⟩ := by
  have htime : TaskContext.timestamp WholeFloat context.createdAt "created_at" = .ok 1767225600000000 := by rfl
  have hlen : context.intent.toList.length ≤ 32768 := by
    show "i".toList.length ≤ 32768
    simp
  have hline : checkSingleLine .taskContextError context.purpose "purpose" 512 = .ok ⟨⟩ := by rfl
  have hrefs : ∀ field, normalizeRefs [] field = .ok [] := by
    intro field
    simp only [normalizeRefs, bind_ok, require_ok, pure_ok]
    exact ⟨_, rfl, ⟨⟩, by simp [dedup], rfl⟩
  simp only [TaskContext.validate, bind_ok, require_ok, checkSha256]
  exact ⟨⟨⟩, by rfl, ⟨⟩, by rfl, ⟨⟩, by rfl, ⟨⟩, by rfl, ⟨⟩, by decide, ⟨⟩, hlen, ⟨⟩, hline, ⟨⟩, rfl,
    ⟨⟩, by decide, _, htime, ⟨⟩, rfl, ⟨⟩, budget_valid (by decide), [], hrefs _, ⟨⟩, rfl,
    ⟨⟩, sha256Re_hashText _, ⟨⟩, sha256Re_hashText _, ⟨⟩, sha256Re_build _ _ _ _ _ _, [], hrefs _, ⟨⟩, rfl,
    [], hrefs _, ⟨⟩, rfl, ⟨⟩, by decide, ⟨⟩, rfl, rfl⟩

theorem context_identity : ∃ es, context.identityEntries = .ok es ∧ ∀ e ∈ es, dumpable e.2 = true := by
  obtain ⟨v, hv, hdump⟩ := budget_dict (n := wall) (by decide) (by decide)
  refine ⟨_, by simp only [TaskContext.identityEntries, bind_ok, pure_ok]; exact ⟨v, hv, rfl⟩, ?_⟩
  intro e he
  simp only [context, List.mem_cons, List.not_mem_nil, or_false] at he
  rcases he with rfl | rfl | rfl | rfl | rfl | rfl | rfl | rfl | rfl | rfl | rfl | rfl | rfl | rfl | rfl
  all_goals first | rfl | exact hdump

theorem context_identityFingerprint : context.identityFingerprint = .ok contextIdentity := by
  obtain ⟨es, hes, hdump⟩ := context_identity
  obtain ⟨d, hd⟩ := digestOf_dumpable (e := contextError "TASK_CONTEXT_NOT_CANONICAL_JSON") (dumpable_dict hdump)
  unfold contextIdentity
  refine okText_eq (s := d) ?_
  simp only [TaskContext.identityFingerprint, bind_ok]
  exact ⟨⟨⟩, context_valid, es, hes, hd⟩

theorem context_fingerprint : context.fingerprint = .ok contextFingerprint := by
  obtain ⟨es, hes, hdump⟩ := context_identity
  have hall : dumpable (Json.dict (("schema_version", .str taskContextSchema) :: es ++
      [("context_refs", Json.strs []), ("evidence_refs", Json.strs []), ("context_version", .int 1),
       ("parent_context_fingerprint", (.null : Json WholeFloat))])) = true := by
    refine dumpable_dict ?_
    intro e he
    simp only [List.cons_append, List.mem_cons, List.mem_append, List.not_mem_nil, or_false] at he
    rcases he with rfl | he | rfl | rfl | rfl | rfl
    · rfl
    · exact hdump e he
    · rfl
    · rfl
    · exact dumpable_int (by decide)
    · rfl
  obtain ⟨d, hd⟩ := digestOf_dumpable (e := contextError "TASK_CONTEXT_NOT_CANONICAL_JSON") hall
  unfold contextFingerprint
  refine okText_eq (s := d) ?_
  simp only [TaskContext.fingerprint, TaskContext.canonicalDict, bind_ok, pure_ok]
  exact ⟨_, ⟨⟨⟩, context_valid, es, hes, rfl⟩, hd⟩

theorem context_sha256 : sha256Re contextFingerprint = true := by
  have h := context_fingerprint
  simp only [TaskContext.fingerprint, bind_ok] at h
  obtain ⟨_, -, h⟩ := h
  exact sha256Re_digestOf h

theorem node_dict (s : WorkflowNode) (id : String) {l : Int} (hl : 0 ≤ l) (hl' : l < 2 ^ 63)
    (hn : 0 ≤ n) (hmax : n < 2 ^ 63) : ∃ v, (node s id l n).canonicalDict = .ok v ∧ dumpable v = true := by
  obtain ⟨b, hb, hdump⟩ := budget_dict hn hmax
  have hreq : normalizeRequirements [] = .ok [] := by rfl
  refine ⟨_, by
    simp only [ExecutionNode.canonicalDict, bind_ok, require_ok, pure_ok, checkSha256]
    exact ⟨⟨⟩, sha256Re_build _ _ _ _ _ _, ⟨⟩, sha256Re_hashText _, ⟨⟩, budget_valid hn, ⟨⟩, rfl, ⟨⟩, hl, [], hreq,
      ⟨⟩, rfl, b, hb, rfl⟩, ?_⟩
  refine dumpable_dict ?_
  intro e he
  simp only [node, List.mem_cons, List.not_mem_nil, or_false] at he
  rcases he with rfl | rfl | rfl | rfl | rfl | rfl | rfl | rfl | rfl | rfl | rfl | rfl | rfl | rfl | rfl | rfl
  all_goals first
    | exact hdump
    | exact dumpable_int (by omega)
    | exact dumpable_strs _
    | rfl

/-! The plan with another second node, of which the plan itself is one. -/

def contractWith (s : WorkflowNode) : WorkflowContract := { contract with nodes := [first, s] }

def planWith (s : WorkflowNode) (level : Int) : ExecutionPlan WholeFloat :=
  { plan with
    workflowContractJson := String.ofList (PyJson.text ((contractWith s).toJson : Json WholeFloat))
    workflowContractFingerprint := hashText (String.ofList (PyJson.text ((contractWith s).toJson : Json WholeFloat)))
    nodes := [nodeA, node s "t1:b" level 0] }

/-- The workflow validation accepts the node in second place. -/
structure Second (s : WorkflowNode) (level : Nat) : Prop where
  id : s.id = "b"
  small : level < 2 ^ 63
  approval : s.approvalRequired = false
  kind : s.kind ≠ .approval
  condition : s.condition = none
  valid : validateContract ((contractWith s).toJson : Json WholeFloat) = .ok (contractWith s)
  graph : graph (contractWith s).nodes = .ok (["a", "b"], [("a", 0), ("b", level)])

section PlanWith

variable {s : WorkflowNode} {level : Nat} (h : Second s level)

include h

theorem planWith_workflow : (planWith s level).validatedWorkflow = .ok (contractWith s) := by
  have hloads : loads (planWith s level).workflowContractJson = some ((contractWith s).toJson : Json WholeFloat) :=
    loads_dumps (contractWith s).canonical_toJson (dumps_of_dumpable (contractWith s).dumpable_toJson)
  simp only [ExecutionPlan.validatedWorkflow, bind_ok, orRaise_ok, rethrow_ok, require_ok, pure_ok]
  exact ⟨_, hloads, _, h.valid, _, canonicalText_ok.mpr (dumps_of_dumpable (contractWith s).dumpable_toJson), ⟨⟩, rfl,
    ⟨⟩, rfl, rfl⟩

omit h in
theorem nodeA_valid : ExecutionPlan.validateNode (contractWith s) [("a", 0), ("b", level)] nodeA = .ok ⟨⟩ := by
  obtain ⟨v, hv, -⟩ := node_dict first "t1:a" (l := 0) (n := wall) (by decide) (by decide) (by decide) (by decide)
  simp only [ExecutionPlan.validateNode, bind_ok, orRaise_ok, require_ok, pure_ok]
  exact ⟨first, by rfl, _, digestOf_ok.mpr ⟨_, dumps_of_dumpable first.dumpable_toJson, rfl⟩, ⟨⟩, rfl, ⟨⟩,
    ⟨rfl, rfl, rfl, rfl, rfl, by rfl⟩, ⟨⟩, by decide, ⟨⟩, by decide, v, hv, trivial⟩

theorem second_dict : ∃ v, (node s "t1:b" level 0).canonicalDict = .ok v ∧ dumpable v = true :=
  node_dict s "t1:b" (by omega) (by have := h.small; omega) (by decide) (by decide)

theorem second_valid :
    ExecutionPlan.validateNode (contractWith s) [("a", 0), ("b", level)] (node s "t1:b" level 0) = .ok ⟨⟩ := by
  obtain ⟨v, hv, -⟩ := second_dict h
  have hsource : (contractWith s).nodes.find? (·.id = (node s "t1:b" level 0).nodeId) = some s := by
    show [first, s].find? (·.id = s.id) = some s
    rw [List.find?_cons, h.id]
    simp [h.id, first, source]
  simp only [ExecutionPlan.validateNode, bind_ok, orRaise_ok, require_ok, pure_ok]
  refine ⟨s, hsource, _, digestOf_ok.mpr ⟨_, dumps_of_dumpable s.dumpable_toJson, rfl⟩, ⟨⟩, rfl, ⟨⟩,
    ⟨rfl, rfl, rfl, rfl, h.condition.symm, ?_⟩, ⟨⟩, fun happ => ?_, ⟨⟩, fun hkind => absurd hkind h.kind, v, hv, trivial⟩
  · show (get? [("a", 0), ("b", level)] s.id).map Int.ofNat = some (level : Int)
    rw [h.id]
    rfl
  · rw [h.approval] at happ
    cases happ

theorem planWith_validSelf : (planWith s level).validateSelf = .ok ⟨⟩ := by
  have hid : sha256Re contextIdentity = true := by
    have h := context_identityFingerprint
    simp only [TaskContext.identityFingerprint, bind_ok] at h
    obtain ⟨_, -, _, -, h⟩ := h
    exact sha256Re_digestOf h
  have hnodes : ExecutionPlan.validateNodes (contractWith s) [("a", 0), ("b", level)] [] (planWith s level).nodes =
      .ok ⟨⟩ := by
    simp only [planWith, ExecutionPlan.validateNodes, bind_ok, require_ok]
    refine ⟨⟨⟩, by simp, ⟨⟩, nodeA_valid, ⟨⟩, ?_, ⟨⟩, second_valid h, rfl⟩
    show s.id ∉ ["a"]
    simp [h.id]
  simp only [ExecutionPlan.validateSelf, bind_ok, orRaise_ok, require_ok, checkSha256]
  refine ⟨⟨⟩, rfl, ⟨⟩, context_sha256, ⟨⟩, hid, ⟨⟩, sha256Re_build _ _ _ _ _ _, ⟨⟩, sha256Re_hashText _, 1, rfl, ⟨⟩,
    budget_valid (by decide), ⟨⟩, show 2 ≤ 2 ∧ 2 ≤ maxNodes by decide, _, planWith_workflow h, ⟨⟩,
    show 1 ≤ contract.riskLevel.rank by decide, _, h.graph,
    ⟨⟩, ?_, ⟨⟩, hnodes, by rfl⟩
  show ["a", "b"] = ["a", s.id]
  rw [h.id]

end PlanWith

theorem child_derived (n : ExecutionNode WholeFloat) (id : String)
    (hreq : n.childRequest = ⟨id, some [], some [], some .none, some "deny"⟩)
    (hfp : (child id).fingerprint = n.authorityFingerprint)
    (h : parent.deriveChild ⟨id, some [], some [], some .none, some "deny"⟩ = .ok (child id)) :
    n.rebindAuthority parent = .ok (child id) := by
  simp only [ExecutionNode.rebindAuthority, bind_ok, rethrow_ok, require_ok, pure_ok, hreq]
  exact ⟨child id, h, ⟨⟩, hfp, rfl⟩

theorem nodeA_rebind : nodeA.rebindAuthority parent = .ok (child "t1:a") := child_derived nodeA _ rfl rfl (by rfl)

theorem second_rebind (s : WorkflowNode) (level : Int) :
    (node s "t1:b" level 0).rebindAuthority parent = .ok (child "t1:b") := child_derived _ _ rfl rfl (by rfl)

theorem nodeA_fingerprint : ∃ d, nodeA.fingerprint = .ok d ∧ sha256Re d = true := by
  obtain ⟨v, hv, hdump⟩ := node_dict first "t1:a" (l := 0) (n := wall) (by decide) (by decide) (by decide) (by decide)
  obtain ⟨d, hd⟩ := digestOf_dumpable (e := planError "EXECUTION_PLAN_NOT_CANONICAL_JSON") hdump
  refine ⟨d, ?_, sha256Re_digestOf hd⟩
  simp only [ExecutionNode.fingerprint, bind_ok]
  exact ⟨v, hv, hd⟩

def recordA (fingerprint : String) : NodeSchedulingRecord :=
  ⟨"a", fingerprint, nodeA.authorityFingerprint, .ready, "NODE_ADMISSIBLE", false⟩

section PlanWith

variable {s : WorkflowNode} {level : Nat} (h : Second s level)

include h

theorem planWith_valid : (planWith s level).validate parent = .ok ⟨⟩ := by
  simp only [ExecutionPlan.validate, ExecutionPlan.validateAuthority, bind_ok, require_ok, pure_ok]
  refine ⟨⟨⟩, planWith_validSelf h, ⟨⟩, by rfl, ⟨⟩, rfl, [child "t1:a", child "t1:b"], ?_, trivial⟩
  exact mapM_ok.mpr (.cons nodeA_rebind (.cons (second_rebind s level) .nil))

theorem planWith_binding : checkBinding context (planWith s level) parent = .ok ⟨⟩ := by
  simp only [checkBinding, bind_ok, rethrow_ok, require_ok]
  exact ⟨⟨⟩, ⟨⟨⟩, context_valid, planWith_valid h⟩, ⟨⟩, rfl, _, context_fingerprint, ⟨⟩, rfl, _,
    context_identityFingerprint, ⟨⟩, rfl, ⟨⟩, rfl, rfl⟩

theorem second_fingerprint : ∃ d, (node s "t1:b" level 0).fingerprint = .ok d ∧ sha256Re d = true := by
  obtain ⟨v, hv, hdump⟩ := second_dict h
  obtain ⟨d, hd⟩ := digestOf_dumpable (e := planError "EXECUTION_PLAN_NOT_CANONICAL_JSON") hdump
  refine ⟨d, ?_, sha256Re_digestOf hd⟩
  simp only [ExecutionNode.fingerprint, bind_ok]
  exact ⟨v, hv, hd⟩

theorem planWith_fingerprint : ∃ d, (planWith s level).fingerprint = .ok d ∧ sha256Re d = true := by
  obtain ⟨va, hva, hda⟩ := node_dict first "t1:a" (l := 0) (n := wall) (by decide) (by decide) (by decide) (by decide)
  obtain ⟨vb, hvb, hdb⟩ := second_dict h
  obtain ⟨b, hb, hdump⟩ := budget_dict (n := wall) (by decide) (by decide)
  have hloads : loads (planWith s level).workflowContractJson = some ((contractWith s).toJson : Json WholeFloat) :=
    loads_dumps (contractWith s).canonical_toJson (dumps_of_dumpable (contractWith s).dumpable_toJson)
  have hall : ∃ v, (planWith s level).canonicalDict = .ok v ∧ dumpable v = true := by
    refine ⟨_, by
      simp only [ExecutionPlan.canonicalDict, bind_ok, orRaise_ok, pure_ok]
      exact ⟨⟨⟩, planWith_validSelf h, _, hloads, b, hb, [va, vb], mapM_ok.mpr (.cons hva (.cons hvb .nil)), rfl⟩, ?_⟩
    refine dumpable_dict ?_
    intro e he
    simp only [List.mem_cons, List.not_mem_nil, or_false] at he
    rcases he with rfl | rfl | rfl | rfl | rfl | rfl | rfl | rfl | rfl | rfl | rfl | rfl
    all_goals try rfl
    · exact hdump
    · exact (contractWith s).dumpable_toJson
    · refine elemsDumpable_iff.mpr ?_
      intro v hv
      simp only [List.mem_cons, List.not_mem_nil, or_false] at hv
      rcases hv with rfl | rfl
      · exact hda
      · exact hdb
  obtain ⟨v, hv, hdump⟩ := hall
  obtain ⟨d, hd⟩ := digestOf_dumpable (e := planError "EXECUTION_PLAN_NOT_CANONICAL_JSON") hdump
  refine ⟨d, ?_, sha256Re_digestOf hd⟩
  simp only [ExecutionPlan.fingerprint, bind_ok]
  exact ⟨v, hv, hd⟩

theorem planWith_evaluated {os : List (ExecutionObservation WholeFloat)} {c : RuntimeScheduler.Collected WholeFloat}
    {stateA state : NodeState} {reasonA reasonCode : String}
    (hcollect : os.foldlM (RuntimeScheduler.Collected.admission (planWith s level) parent []) ⟨[], [], []⟩ = .ok c)
    (hreasonA : reasonA ≠ "") (hreason : reasonCode ≠ "") (hstateA : nodeState c [] [] nodeA = (stateA, reasonA))
    (hstate : nodeState c [] [("a", stateA)] (node s "t1:b" level 0) = (state, reasonCode)) :
    ∃ d da db, evaluate context (planWith s level) parent os [] = .ok d ∧
      d.records = [⟨"a", da, nodeA.authorityFingerprint, stateA, reasonA, false⟩,
        ⟨"b", db, (node s "t1:b" level 0).authorityFingerprint, state, reasonCode, false⟩] := by
  obtain ⟨da, hda, hsa⟩ := nodeA_fingerprint
  obtain ⟨db, hdb, hsb⟩ := second_fingerprint h
  obtain ⟨dp, hdp, hsp⟩ := planWith_fingerprint h
  let recordA : NodeSchedulingRecord := ⟨"a", da, nodeA.authorityFingerprint, stateA, reasonA, false⟩
  let recordB : NodeSchedulingRecord := ⟨"b", db, (node s "t1:b" level 0).authorityFingerprint, state, reasonCode, false⟩
  have hrecords : nodeRecords c [] [] (planWith s level).nodes = .ok [recordA, recordB] := by
    have hid : (node s "t1:b" level 0).nodeId = "b" := h.id
    have hsecond : nodeRecords c [] [("a", stateA)] [node s "t1:b" level 0] = .ok [recordB] := by
      simp only [nodeRecords, bind_ok, pure_ok]
      refine ⟨db, hdb, [], rfl, ?_⟩
      simp only [hstate, hid]
      rfl
    simp only [planWith, nodeRecords, bind_ok, pure_ok, hstateA] at hsecond ⊢
    exact ⟨da, hda, _, hsecond, rfl⟩
  refine ⟨⟨"t1", contextFingerprint, dp, decisionStatus [recordA, recordB], [recordA, recordB], []⟩, da, db, ?_, rfl⟩
  simp only [evaluate, bind_ok, pure_ok]
  refine ⟨⟨⟩, planWith_binding h, [], by rfl, c, hcollect, _, hrecords, _, context_fingerprint, dp, hdp, ⟨⟩, ?_, rfl⟩
  simp only [SchedulingDecision.check, bind_ok, require_ok, pure_ok, checkSha256]
  refine ⟨[], by rfl, ⟨⟩, rfl, ⟨⟩, context_sha256, ⟨⟩, hsp, [⟨⟩, ⟨⟩], mapM_ok.mpr (.cons ?_ (.cons ?_ .nil)), trivial⟩
  · simp only [NodeSchedulingRecord.check, bind_ok, require_ok, checkSha256]
    exact ⟨⟨⟩, show "a" ≠ "" by decide, ⟨⟩, hsa, ⟨⟩, sha256Re_build _ _ _ _ _ _, hreasonA⟩
  · simp only [NodeSchedulingRecord.check, bind_ok, require_ok, checkSha256]
    exact ⟨⟨⟩, show "b" ≠ "" by decide, ⟨⟩, hsb, ⟨⟩, sha256Re_build _ _ _ _ _ _, hreason⟩

theorem planWith_fresh {state : NodeState} {reasonCode : String} (hreason : reasonCode ≠ "")
    (hstate : nodeState (⟨[], [], []⟩ : RuntimeScheduler.Collected WholeFloat) [] [("a", .ready)]
      (node s "t1:b" level 0) = (state, reasonCode)) :
    ∃ d da db, evaluate context (planWith s level) parent [] [] = .ok d ∧
      d.records = [recordA da, ⟨"b", db, (node s "t1:b" level 0).authorityFingerprint, state, reasonCode, false⟩] :=
  planWith_evaluated h rfl (show "NODE_ADMISSIBLE" ≠ "" by decide) hreason rfl hstate

end PlanWith

theorem second_second : Second second 1 := ⟨rfl, by decide, rfl, by decide, rfl, by rfl, by rfl⟩

theorem plan_validSelf : plan.validateSelf = .ok ⟨⟩ := planWith_validSelf second_second
theorem plan_valid : plan.validate parent = .ok ⟨⟩ := planWith_valid second_second
theorem plan_fingerprint : ∃ d, plan.fingerprint = .ok d ∧ sha256Re d = true := planWith_fingerprint second_second

theorem evaluate_fresh : ∃ d da, evaluate context plan parent [] [] = .ok d ∧
    d.records.find? (·.nodeId = "a") = some (recordA da) := by
  obtain ⟨d, da, db, hd, hrecords⟩ := planWith_fresh second_second
    (show "DEPENDENCY_NOT_TERMINAL_SUCCESS" ≠ "" by decide) rfl
  exact ⟨d, da, hd, by rw [hrecords]; rfl⟩

/-- A scheduler of the plan whose guards always agree. -/
def config {σ : Type} (repository : Option (CheckpointRepository σ WholeFloat)) : SchedulerConfig σ WholeFloat where
  taskContext := context
  plan := plan
  parentAuthority := parent
  assertActive := pure ⟨⟩
  reserveStep := pure ⟨⟩
  isRevoked := fun _ _ => pure false
  checkpointRepository := repository

variable {σ : Type} (repository : Option (CheckpointRepository σ WholeFloat))

theorem config_checked : checkConfig (config repository) = .ok ⟨⟩ := by
  obtain ⟨d, -, hd, -⟩ := evaluate_fresh
  simp only [checkConfig, bind_ok, require_ok, rethrow_ok, pure_ok]
  exact ⟨⟨⟩, show (1 : Int) ≤ 4 ∧ (4 : Int) ≤ 24 by decide, ⟨⟩, by simp [config], ⟨⟩, fun _ => rfl, d, hd, trivial⟩

theorem constructed (e : σ) : construct (config none) e = (.ok ({}, []), e) := by
  show (Act.lift (checkConfig (config none)) >>= _ : Act σ Raised _) e = _
  rw [config_checked]
  rfl

theorem admitted : admission (config repository) {} "a" false = .ok (nodeA, []) := by
  obtain ⟨d, da, hd, hfind⟩ := evaluate_fresh
  have hdecision : admissionDecision (config repository) {} [] = .ok d := by
    refine admissionDecision_ok.mpr ?_
    rw [orderedObservations_nil _ rfl]
    exact hd
  have hnode : (config repository).plan.node? "a" = some nodeA := by
    show plan.node? "a" = some nodeA
    rfl
  simp only [admission, bind_ok, orRaise_ok, require_ok, pure_ok]
  exact ⟨⟨⟩, trivial, nodeA, hnode, ⟨⟩, rfl, ⟨⟩, rfl, ⟨⟩, rfl, ⟨⟩, trivial, ⟨⟩, show (0 : Int) < 4 by decide, ⟨⟩,
    by decide, d, hdecision, recordA da, hfind, [], rfl, ⟨⟩, rfl, rfl⟩

def ticketA (planFingerprint nodeFingerprint ticketId : String) : DispatchTicket where
  ticketId := ticketId
  taskId := "t1"
  planFingerprint := planFingerprint
  nodeId := "a"
  nodeFingerprint := nodeFingerprint
  authorityFingerprint := nodeA.authorityFingerprint
  dependencyObservationFingerprints := []
  dispatchSequence := 1
  executionLevel := 0

theorem planWith_ticketed {s : WorkflowNode} {level : Nat} (h : Second s level) :
    ∃ dp da id, newTicket (planWith s level) nodeA [] 1 = .ok (ticketA dp da id) := by
  obtain ⟨da, hda, -⟩ := nodeA_fingerprint
  obtain ⟨dp, hdp, -⟩ := planWith_fingerprint h
  obtain ⟨id, hid⟩ := expectedId_of (t := ticketA dp da ("dispatch:" ++ "000000000000000000000000"))
    (show (1 : Int).natAbs < 2 ^ 64 by decide) (show (0 : Int).natAbs < 2 ^ 64 by decide)
  refine ⟨dp, da, id, ?_⟩
  simp only [newTicket, bind_ok, pure_ok]
  refine ⟨dp, hdp, da, hda, [], rfl, id, hid, ⟨⟩, ?_, rfl⟩
  simp only [DispatchTicket.validate, bind_ok, require_ok]
  exact ⟨⟨⟩, trivial, ⟨⟩, by decide, id, hid, rfl⟩

theorem ticketed : ∃ dp da id, newTicket plan nodeA [] 1 = .ok (ticketA dp da id) :=
  planWith_ticketed second_second

theorem revalidated (w : SchedulerWorld σ WholeFloat) :
    revalidateRuntime (config repository) nodeA w = (.ok ⟨⟩, w) := by
  have hauth : revalidateAuthority (config repository) nodeA = .ok ⟨⟩ := by
    simp only [revalidateAuthority, bind_ok, rethrow_ok, require_ok]
    exact ⟨_, ⟨⟨⟩, plan_valid, nodeA_rebind⟩, rfl⟩
  rw [revalidateRuntime, hauth]
  rfl

theorem dispatched (ht : newTicket plan nodeA [] 1 = .ok t) {e e' : σ}
    (hpersist : persist (config repository) ("SCHEDULER_CHECKPOINT_DISPATCH_FAILED:" ++ "a")
      (·.recordDispatch t) ⟨e, { dispatchSequence := 1 }, []⟩ = (.ok ⟨⟩, ⟨e', { dispatchSequence := 1 }, []⟩)) :
    issueDispatch (config repository) "a" false ⟨e, {}, []⟩ =
      (.ok t, ⟨e', { inFlight := [("a", t)], dispatchSequence := 1 }, [t]⟩) := by
  have hreserve : SchedulerWorld.call ((config repository).reserveStep.mapError
      (budgetFailure "SCHEDULER_BUDGET_RESERVATION_FAILED")) ⟨e, {}, []⟩ =
      (.ok ⟨⟩, (⟨e, {}, []⟩ : SchedulerWorld σ WholeFloat)) := rfl
  exact issueDispatch_returns (w := ⟨e, {}, []⟩) (admitted repository) (revalidated repository _)
    hreserve ht hpersist

theorem after_dispatch (ht : newTicket plan nodeA [] 1 = .ok t) :
    ExecutionScheduler.after (config none) (.issueDispatch "a" false) ⟨(), {}, []⟩ =
      ⟨(), { inFlight := [("a", t)], dispatchSequence := 1 }, [t]⟩ := by
  have hrun : ExecutionScheduler.issueDispatch (config none) "a" false ⟨(), {}, []⟩ =
      (.ok t, ⟨(), { inFlight := [("a", t)], dispatchSequence := 1 }, [t]⟩) :=
    dispatched none ht rfl
  rw [ExecutionScheduler.after, hrun]

theorem first_ticket_in_flight : ∃ (t : DispatchTicket) (w : SchedulerWorld Unit WholeFloat),
    ExecutionScheduler.Reachable (config none) w ∧
    w.sched.inFlight = [("a", t)] ∧ w.issued = [t] ∧ SchedulerInvariant (config (σ := Unit) none) w.sched w.issued := by
  obtain ⟨dp, da, id, ht⟩ := ticketed
  have hafter := after_dispatch ht
  have hreach := ExecutionScheduler.Reachable.call (.issueDispatch "a" false)
    (ExecutionScheduler.Reachable.start (constructed ()))
  refine ⟨ticketA dp da id, _, hreach, ?_, ?_, ExecutionScheduler.invariant_over_runs _ _ hreach⟩
  · rw [hafter]
  · rw [hafter]

/-! The observation of the first node. -/

/-- The first node has succeeded, in no time. -/
def observationA (planFingerprint nodeFingerprint observationId : String) : ExecutionObservation WholeFloat where
  observationId := observationId
  taskId := "t1"
  taskContextFingerprint := contextFingerprint
  planFingerprint := planFingerprint
  nodeId := "a"
  nodeFingerprint := nodeFingerprint
  authorityFingerprint := nodeA.authorityFingerprint
  status := "SUCCEEDED"
  startedAt := "2026-01-01T00:00:00Z"
  finishedAt := "2026-01-01T00:00:00Z"
  normalizedOutputJson := none
  errorClass := none
  evidenceBindings := []

theorem observationA_identified (dp da : String) : ∃ es digest,
    (∀ id, (observationA dp da id).identityEntries = .ok es) ∧
      observationDigest (Json.dict es : Json WholeFloat) = .ok digest := by
  have hentries : ∃ es, (∀ id, (observationA dp da id).identityEntries = .ok es) ∧
      dumpable (Json.dict es : Json WholeFloat) = true := by
    refine ⟨_, fun _ => by
      simp only [ExecutionObservation.identityEntries, observationA, bind_ok, pure_ok]
      exact ⟨.null, rfl, [], rfl, .null, rfl, rfl⟩, dumpable_dict ?_⟩
    intro e he
    simp only [List.mem_cons, List.not_mem_nil, or_false] at he
    rcases he with rfl | rfl | rfl | rfl | rfl | rfl | rfl | rfl | rfl | rfl | rfl | rfl | rfl | rfl | rfl <;> rfl
  obtain ⟨es, hes, hdump⟩ := hentries
  obtain ⟨digest, hdigest⟩ := digestOf_dumpable hdump
  exact ⟨es, digest, hes, hdigest⟩

theorem observed : ∃ dp da id observationId, newTicket plan nodeA [] 1 = .ok (ticketA dp da id) ∧
    (observationA dp da observationId).validate plan parent = .ok ⟨⟩ := by
  obtain ⟨dp, da, id, ht⟩ := ticketed
  obtain ⟨hissued, -, -⟩ := newTicket_ok ht
  have hdp : plan.fingerprint = .ok dp := hissued.planFingerprint
  have hda : nodeA.fingerprint = .ok da := hissued.nodeFingerprint
  obtain ⟨dp', hdp', hsp⟩ := plan_fingerprint
  obtain ⟨da', hda', hsa⟩ := nodeA_fingerprint
  obtain rfl : dp' = dp := Except.ok.inj (hdp'.symm.trans hdp)
  obtain rfl : da' = da := Except.ok.inj (hda'.symm.trans hda)
  obtain ⟨es, digest, hes, hdigest⟩ := observationA_identified dp' da'
  refine ⟨dp', da', id, "observation:" ++ digestPrefix digest 24, ht, ?_⟩
  simp only [ExecutionObservation.validate, bind_ok]
  refine ⟨⟨⟩, ?_, ⟨⟩, ?_, ?_⟩
  · have hreference : ∀ id field, (id = "t1" ∨ id = "a") → checkReference .executionObservationError id field = .ok ⟨⟩ := by
      rintro id field (rfl | rfl) <;> rfl
    have hstarted : ExecutionObservation.timestamp WholeFloat "2026-01-01T00:00:00Z" "started_at" =
        .ok "2026-01-01T00:00:00Z" := by decide
    have hfinished : ExecutionObservation.timestamp WholeFloat "2026-01-01T00:00:00Z" "finished_at" =
        .ok "2026-01-01T00:00:00Z" := by decide
    have hinstant : ExecutionObservation.instantOf WholeFloat "2026-01-01T00:00:00Z" = .ok 1767225600000000 := by decide
    simp only [ExecutionObservation.checkFields, bind_ok, require_ok, checkSha256]
    refine ⟨⟨⟩, rfl, ⟨⟩, hreference _ _ (.inl rfl), ⟨⟩, context_sha256, ⟨⟩, hsp, ⟨⟩, hreference _ _ (.inr rfl), ⟨⟩, hsa, ⟨⟩,
      sha256Re_build _ _ _ _ _ _, ⟨⟩, ?_⟩
    exact ⟨by simp [observationA, observationStatuses], _, hstarted, _, hfinished, ⟨⟩, ⟨rfl, rfl⟩, _,
      hinstant, _, hinstant, ⟨⟩, le_rfl, ⟨⟩, rfl, ⟨⟩, rfl, ⟨⟩, fun _ => rfl, ⟨⟩, fun h => absurd h (by simp [observationA]),
      [], rfl, ⟨⟩, rfl, rfl⟩
  · simp only [ExecutionObservation.checkPlan, bind_ok, orRaise_ok, rethrow_ok, require_ok]
    exact ⟨⟨⟩, plan_valid, nodeA, rfl, ⟨⟩, rfl, ⟨⟩, rfl, dp', hdp, ⟨⟩, rfl, da', hda, ⟨⟩, rfl, ⟨⟩, rfl, child "t1:a",
      nodeA_rebind, ⟨⟩, rfl, ⟨⟩, rfl, rfl⟩
  · simp only [ExecutionObservation.checkIdentity, bind_ok, require_ok]
    exact ⟨es, hes _, digest, hdigest, rfl⟩

section Observed

variable {dp da id observationId : String}

theorem evaluate_observed (hvalid : (observationA dp da observationId).validate plan parent = .ok ⟨⟩) :
    ∃ d, evaluate context plan parent [observationA dp da observationId] [] = .ok d := by
  have hone : RuntimeScheduler.Collected.admission plan parent [] ⟨[], [], []⟩ (observationA dp da observationId) =
      .ok ⟨[(observationId, observationA dp da observationId)], [("a", observationA dp da observationId)], []⟩ := by
    simp only [RuntimeScheduler.Collected.admission, bind_ok, rethrow_ok, orRaise_ok, require_ok]
    exact ⟨⟨⟩, hvalid, nodeA, rfl, ⟨⟩, fun h => absurd h (by decide), rfl⟩
  have hcollect : [observationA dp da observationId].foldlM (RuntimeScheduler.Collected.admission plan parent [])
      ⟨[], [], []⟩ =
      .ok ⟨[(observationId, observationA dp da observationId)], [("a", observationA dp da observationId)], []⟩ := by
    rw [List.foldlM_cons, hone]
    rfl
  obtain ⟨d, -, -, hd, -⟩ := planWith_evaluated second_second hcollect
    (show "OBSERVATION_" ++ "SUCCEEDED" ≠ "" by decide) (show "NODE_ADMISSIBLE" ≠ "" by decide) rfl rfl
  exact ⟨d, hd⟩

theorem after_observation (hvalid : (observationA dp da observationId).validate plan parent = .ok ⟨⟩) :
    ExecutionScheduler.after (config none) (.acceptObservation (observationA dp da observationId))
        ⟨(), { inFlight := [("a", ticketA dp da id)], dispatchSequence := 1 }, [ticketA dp da id]⟩ =
      ⟨(), { observations := [("a", observationA dp da observationId)], dispatchSequence := 1 }, [ticketA dp da id]⟩ := by
  obtain ⟨d, hd⟩ := evaluate_observed hvalid
  have hcheck : checkObservation (config (σ := Unit) none)
      { inFlight := [("a", ticketA dp da id)], dispatchSequence := 1 } (observationA dp da observationId) = .ok ⟨⟩ := by
    simp only [checkObservation, bind_ok, orRaise_ok, rethrow_ok, require_ok, pure_ok]
    exact ⟨ticketA dp da id, rfl, ⟨⟩, hvalid, ⟨⟩, rfl, ⟨⟩, rfl, d, hd, trivial⟩
  have hrun := acceptObservation_returns (w := ⟨(), { inFlight := [("a", ticketA dp da id)], dispatchSequence := 1 },
    [ticketA dp da id]⟩) hcheck rfl
  rw [ExecutionScheduler.after, hrun]
  rfl

end Observed

theorem observed_run : ∃ (t : DispatchTicket) (o : ExecutionObservation WholeFloat),
    ExecutionScheduler.after (config (σ := Unit) none) (.issueDispatch "a" false) ⟨(), {}, []⟩ =
      ⟨(), { inFlight := [("a", t)], dispatchSequence := 1 }, [t]⟩ ∧
    ExecutionScheduler.after (config none) (.acceptObservation o)
        ⟨(), { inFlight := [("a", t)], dispatchSequence := 1 }, [t]⟩ =
      ⟨(), { observations := [("a", o)], dispatchSequence := 1 }, [t]⟩ := by
  obtain ⟨dp, da, id, observationId, ht, hvalid⟩ := observed
  exact ⟨ticketA dp da id, observationA dp da observationId, after_dispatch ht, after_observation hvalid⟩

end Sample

end ThreeAgent
