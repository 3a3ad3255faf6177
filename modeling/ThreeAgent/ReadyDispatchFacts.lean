/-
`issue_ready`. The list of the ready nodes is computed once; each of its nodes
still passes the scheduler's own checks when its turn comes, because a dispatch
changes nothing that the readiness of another node is read from. So a dispatch
of the list can only fail on an answer of a guard or of the repository, and then
the tickets of the nodes before it stay in flight and are not returned.
-/
import ThreeAgent.DispatchFacts

namespace ThreeAgent

open PyText Outcome PyJson Action PyDict RuntimeScheduler

variable {records : List NodeSchedulingRecord} {d : SchedulingDecision} {issued ts : List DispatchTicket}

/-! ## Readiness under fewer approvals -/

variable {states : PyDict.Dict NodeState} {r : NodeSchedulingRecord} {workflow : WorkflowContract}

namespace RuntimeScheduler

variable {F : Type} [PyRuntime F] {plan : ExecutionPlan F} {parent : TaskCapabilityAuthority} {context : TaskContext F}
  {os : List (ExecutionObservation F)} {approved approved' approvals approvals' : List String} {c : Collected F}

structure Ready (c : Collected F) (approved : List String) (n : ExecutionNode F) : Prop where
  terminal : PyDict.get? c.terminal n.nodeId = none
  partialNode : n.nodeId ∉ c.partialNodes
  dependencies : ∀ p ∈ n.dependsOn, ∃ o, PyDict.get? c.terminal p = some o ∧ o.status = "SUCCEEDED"
  approval : ¬ ApprovalMissing approved n

theorem ofStatus_not_ready (status : String) : NodeState.ofStatus status ≠ .ready := by
  unfold NodeState.ofStatus
  split <;> decide

omit [PyRuntime F] in
/-- A node of the list is ready exactly if nothing is observed of it, its dependencies have succeeded, and it has the
approval it needs. -/
theorem recordOf_ready {n : ExecutionNode F}
    (h : RecordOf c approvals states n r)
    (hsucceeded : ∀ p ∈ n.dependsOn, ∀ o, get? c.terminal p = some o → o.status = "SUCCEEDED" →
      get? states p = some .succeeded) :
    r.state = .ready ↔ Ready c approvals n := by
  have hstate : r.state = (nodeState c approvals states n).1 := congrArg Prod.fst h.state
  rw [hstate]
  cases hterminal : get? c.terminal n.nodeId with
  | some o =>
    rw [nodeState_terminal hterminal]
    constructor
    · exact fun hready => absurd hready (ofStatus_not_ready _)
    · intro hready
      rw [hready.terminal] at hterminal
      cases hterminal
  | none =>
    by_cases hpart : n.nodeId ∈ c.partialNodes
    · rw [nodeState_halfway hterminal hpart]
      constructor
      · intro hready
        cases hready
      · exact fun hready => absurd hpart hready.partialNode
    · rw [nodeState_open hterminal hpart]
      constructor
      · intro hready
        split at hready
        · cases hready
        · split at hready
          · cases hready
          · rename_i hdeps
            split at hready
            · cases hready
            · rename_i happroved
              exact ⟨hterminal, hpart, Decidable.not_not.mp hdeps, happroved⟩
      · intro hready
        have hnone : ¬ ∃ p ∈ n.dependsOn, (get? states p).getD .waiting ∈ stopping := by
          intro ⟨p, hp, hstop⟩
          obtain ⟨o, ho, hstatus⟩ := hready.dependencies p hp
          rw [hsucceeded p hp o ho hstatus] at hstop
          exact absurd hstop (by decide)
        rw [if_neg hnone, if_neg (not_not.mpr hready.dependencies), if_neg hready.approval]

/-- The records of a plan's nodes, and which of them say READY. -/
structure DecidedBy (plan : ExecutionPlan F) (c : Collected F) (approved : List String)
    (records : List NodeSchedulingRecord) : Prop where
  listed : records.map NodeSchedulingRecord.nodeId = plan.nodes.map ExecutionNode.nodeId
  ready : ∀ n ∈ plan.nodes, ∃ r ∈ records, r.nodeId = n.nodeId ∧ (r.state = .ready ↔ Ready c approved n)

theorem records_decided
    (hworkflow : ExecutionPlan.WorkflowOf plan workflow) (h : nodeRecords c approvals [] plan.nodes = .ok records) :
    DecidedBy plan c approvals records := by
  obtain ⟨final, -, hrecords⟩ :=
    nodeRecords_ok hworkflow.nodup (fun n hn d hd _ => (hworkflow.dependsOn hn d hd).2) h
  constructor
  · rw [← List.forall₂_eq_eq_eq, List.forall₂_map_left_iff, List.forall₂_map_right_iff]
    exact hrecords.flip.imp fun _ _ hr => hr.id
  · intro n hn
    obtain ⟨r, hr, hof⟩ := forall₂_mem_left hrecords hn
    refine ⟨r, hr, hof.id, recordOf_ready hof ?_⟩
    intro p hp o ho hstatus
    obtain ⟨m, hm, rfl⟩ := List.mem_map.mp (hworkflow.dependsOn hn p hp).1
    obtain ⟨r', -, hof'⟩ := forall₂_mem_left hrecords hm
    have hstate : r'.state = (nodeState c approvals final m).1 := congrArg Prod.fst hof'.state
    rw [hof'.listed, hstate, nodeState_terminal ho, hstatus]
    rfl

omit [PyRuntime F] in
theorem reasonCode_ne (states : PyDict.Dict NodeState) (n : ExecutionNode F) :
    (nodeState c approvals states n).2 ≠ "" := by
  unfold nodeState
  split
  · intro h
    have := congrArg String.length h
    simp at this
  · split
    · decide
    · split
      · decide
      · split
        · decide
        · split <;> decide

theorem nodeRecords_other (approvals' : List String)
    (states' : PyDict.Dict NodeState) {ns : List (ExecutionNode F)} (h : nodeRecords c approvals states ns = .ok records)
    (hcheck : ∀ r ∈ records, r.check = .ok ⟨⟩) :
    ∃ records', nodeRecords c approvals' states' ns = .ok records' ∧ ∀ r ∈ records', r.check = .ok ⟨⟩ := by
  induction ns generalizing states states' records with
  | nil => exact ⟨[], rfl, by simp⟩
  | cons n ns ih =>
    simp only [nodeRecords, bind_ok, pure_ok] at h
    obtain ⟨f, hf, rest, hrest, rfl⟩ := h
    obtain ⟨rest', hrest', hcheck'⟩ := ih (set states' n.nodeId (nodeState c approvals' states' n).1)
      hrest fun r hr => hcheck r (by simp [hr])
    have hfirst := hcheck _ (List.mem_cons_self ..)
    simp only [NodeSchedulingRecord.check, bind_ok, require_ok] at hfirst
    obtain ⟨_, hid, _, hnode, _, hauthority, -⟩ := hfirst
    refine ⟨_, by simp only [nodeRecords, bind_ok, pure_ok]; exact ⟨f, hf, rest', hrest', rfl⟩, ?_⟩
    intro r hr
    rcases List.mem_cons.mp hr with rfl | hr
    · simp only [NodeSchedulingRecord.check, bind_ok, require_ok]
      exact ⟨⟨⟩, hid, ⟨⟩, hnode, ⟨⟩, hauthority, reasonCode_ne states' n⟩
    · exact hcheck' r hr

omit [PyRuntime F] in
theorem checkApprovals_ok : checkApprovals plan approved = .ok approvals ↔
    ("" ∉ approved ∧ ∀ id ∈ approved, ∃ n, plan.node? id = some n ∧ n.approvalRequired = true) ∧
      approvals = sorted (dedup approved) := by
  have hmem : ∀ id, id ∈ sorted (dedup approved) ↔ id ∈ approved := fun id => by rw [mem_sorted, mem_dedup]
  simp only [checkApprovals, normalizedIds, bind_ok, require_ok, pure_ok, List.filter_eq_nil_iff, hmem]
  constructor
  · rintro ⟨as, ⟨_, hempty, has⟩, _, hknown, _, hvalid, hsame⟩
    rw [← has] at hknown hvalid
    refine ⟨⟨hempty, fun id hid => ?_⟩, hsame.symm.trans has.symm⟩
    have hsome := hknown id ((hmem id).mpr hid)
    cases hnode : plan.node? id with
    | none => simp [hnode] at hsome
    | some n =>
      have := hvalid id ((hmem id).mpr hid)
      exact ⟨n, rfl, by simpa [hnode] using this⟩
  · rintro ⟨⟨hempty, hall⟩, hsame⟩
    refine ⟨_, ⟨⟨⟩, hempty, rfl⟩, ⟨⟩, ?_, ⟨⟩, ?_, hsame.symm⟩
    · intro id hid
      obtain ⟨n, hn, -⟩ := hall id ((hmem id).mp hid)
      simp [hn]
    · intro id hid
      obtain ⟨n, hn, hrequired⟩ := hall id ((hmem id).mp hid)
      simp [hn, hrequired]

theorem collect_approvals {c₀ : Collected F}
    (hobserved : ∀ o ∈ os, ∀ n, plan.node? o.nodeId = some n → n.approvalRequired = true → o.nodeId ∈ approvals')
    (h : os.foldlM (Collected.admission plan parent approvals) c₀ = .ok c) :
    os.foldlM (Collected.admission plan parent approvals') c₀ = .ok c := by
  induction os generalizing c₀ with
  | nil => exact h
  | cons o os ih =>
    simp only [List.foldlM_cons, bind_ok] at h ⊢
    obtain ⟨c₁, hone, hrest⟩ := h
    refine ⟨c₁, ?_, ih (fun o' ho' => hobserved o' (by simp [ho'])) hrest⟩
    simp only [Collected.admission, bind_ok, rethrow_ok, orRaise_ok, require_ok] at hone ⊢
    obtain ⟨_, hvalid, n, hn, _, -, hplaced⟩ := hone
    exact ⟨⟨⟩, hvalid, n, hn, ⟨⟩, hobserved o (by simp) n hn, hplaced⟩

/-- An evaluation that returned returns under fewer approvals too, if they cover the observed nodes: it reads the
same observations. -/
theorem evaluate_fewer (h : evaluate context plan parent os approved = .ok d)
    (hsub : ∀ id ∈ approved', id ∈ approved)
    (hobserved : ∀ o ∈ os, ∀ n, plan.node? o.nodeId = some n → n.approvalRequired = true → o.nodeId ∈ approved') :
    ∃ c, os.foldlM (Collected.admission plan parent (sorted (dedup approved))) ⟨[], [], []⟩ = .ok c ∧
      DecidedBy plan c approved d.records ∧
      ∃ d', evaluate context plan parent os approved' = .ok d' ∧ DecidedBy plan c approved' d'.records := by
  obtain ⟨hbinding, approvals, happrovals, c, hc, records, hrecords, cf, hcf, pf, hpf, rfl, hcheck⟩ := evaluate_ok.mp h
  obtain ⟨-, workflow, hworkflow⟩ := ExecutionScheduler.workflowOf_checkBinding hbinding
  obtain ⟨⟨hempty, hall⟩, rfl⟩ := checkApprovals_ok.mp happrovals
  have hmem : ∀ (as : List String) (n : ExecutionNode F),
      ApprovalMissing (sorted (dedup as)) n ↔ ApprovalMissing as n := by
    intro as n
    rw [ApprovalMissing, ApprovalMissing, mem_sorted, mem_dedup]
  have hdecided : ∀ (as : List String) rs, DecidedBy plan c (sorted (dedup as)) rs → DecidedBy plan c as rs := by
    intro as rs hd
    refine ⟨hd.listed, fun n hn => ?_⟩
    obtain ⟨r, hr, hid, hready⟩ := hd.ready n hn
    refine ⟨r, hr, hid, hready.trans ⟨fun x => { x with approval := ?_ }, fun x => { x with approval := ?_ }⟩⟩
    · exact (hmem as n).not.mp x.approval
    · exact (hmem as n).not.mpr x.approval
  simp only [SchedulingDecision.check, bind_ok, require_ok, pure_ok] at hcheck
  obtain ⟨_, -, _, -, _, hcontext, _, hplan, us, hus, -⟩ := hcheck
  have hchecked : ∀ r ∈ records, r.check = .ok ⟨⟩ := by
    intro r hr
    obtain ⟨u, -, hu⟩ := forall₂_mem_left (mapM_ok.mp hus) hr
    exact hu
  obtain ⟨records', hrecords', hchecked'⟩ :=
    nodeRecords_other (sorted (dedup approved')) [] hrecords hchecked
  refine ⟨c, hc, hdecided _ _ (records_decided hworkflow hrecords), _, evaluate_ok.mpr ⟨hbinding, _,
    checkApprovals_ok.mpr ⟨⟨fun he => hempty (hsub _ he), fun id hid => hall id (hsub id hid)⟩, rfl⟩, c,
    collect_approvals (fun o ho n hn hrequired => ?_) hc, records', hrecords', cf, hcf, pf, hpf, rfl, ?_⟩,
    hdecided _ _ (records_decided hworkflow hrecords')⟩
  · rw [mem_sorted, mem_dedup]
    exact hobserved o ho n hn hrequired
  · simp only [SchedulingDecision.check, normalizedIds, bind_ok, require_ok, pure_ok, sorted_dedup_sorted]
    obtain ⟨us', hus'⟩ := mapM_returns fun r hr => ⟨(), hchecked' r hr⟩
    refine ⟨_, ⟨⟨⟩, ?_, rfl⟩, ⟨⟩, rfl, ⟨⟩, hcontext, ⟨⟩, hplan, us', hus', trivial⟩
    rw [mem_sorted, mem_dedup]
    exact fun he => hempty (hsub _ he)

end RuntimeScheduler

variable {id : String} {t : DispatchTicket}

namespace ExecutionScheduler

variable {σ F : Type} [PyRuntime F] {cfg : SchedulerConfig σ F} {s s₀ : SchedulerState F} {approved ids : List String}

/-! ## The checks of a listed node -/

/-- The observations of a node's dependencies, in their order. -/
def dependencyList (s : SchedulerState F) (node : ExecutionNode F) : List (ExecutionObservation F) :=
  node.dependsOn.filterMap (PyDict.get? s.observations)

variable {node : ExecutionNode F}

omit [PyRuntime F] in
theorem dependencyObservations_of
    (h : ∀ d ∈ node.dependsOn, ∃ o, get? s.observations d = some o ∧ o.status = "SUCCEEDED") :
    dependencyObservations s node = .ok (dependencyList s node) := by
  refine mapM_ok.mpr ?_
  rw [dependencyList]
  -- the lookups are those of the pending check
  suffices hall : ∀ ds : List String, (∀ d ∈ ds, d ∈ node.dependsOn) →
      List.Forall₂ _ ds (ds.filterMap (get? s.observations)) from hall _ fun _ hd => hd
  intro ds
  induction ds with
  | nil => exact fun _ => .nil
  | cons d ds ih =>
    intro hds
    obtain ⟨o, ho, hstatus⟩ := h d (hds d (by simp))
    rw [List.filterMap_cons_some ho]
    refine .cons ?_ (ih fun d' hd' => hds d' (by simp [hd']))
    simp only [bind_ok, orRaise_ok, require_ok, pure_ok]
    exact ⟨o, ho, ⟨⟩, hstatus, rfl⟩

/-- The state after the tickets of some of the listed nodes have been placed. -/
structure Placed (s₀ : SchedulerState F) (approved : List String) (ts : List DispatchTicket) (s : SchedulerState F) :
    Prop where
  observations : s.observations = s₀.observations
  recoveryRequired : s.recoveryRequired = s₀.recoveryRequired
  cancelled : s.cancelled = s₀.cancelled
  sequence : s.dispatchSequence = s₀.dispatchSequence + ts.length
  inFlight : s.inFlight = s₀.inFlight ++ ts.map fun t => (t.nodeId, t)
  approvals : ∀ id ∈ s.approvedNodes, id ∈ s₀.approvedNodes ∨ id ∈ approved
  kept : s₀.approvedNodes ⊆ s.approvedNodes

omit [PyRuntime F] in
theorem placed_nil : Placed s₀ approved [] s₀ :=
  ⟨rfl, rfl, rfl, by simp, by simp, fun _ hid => .inl hid, fun _ hid => hid⟩

/-- What the list of the ready nodes was computed from. -/
structure Listed (cfg : SchedulerConfig σ F) (s₀ : SchedulerState F) (approved ids : List String)
    (d : SchedulingDecision) : Prop where
  cancelled : s₀.cancelled = false
  recoveryRequired : s₀.recoveryRequired = []
  decision : RuntimeScheduler.evaluate cfg.taskContext cfg.plan cfg.parentAuthority (orderedObservations cfg.plan s₀)
    (sorted (dedup (s₀.approvedNodes ++ approved))) = .ok d
  capacity : (s₀.inFlight.length : Int) + ids.length ≤ cfg.maxConcurrency
  ready : ∀ id ∈ ids, ∃ r ∈ d.records, r.nodeId = id ∧ r.state = .ready
  fresh : ∀ id ∈ ids, ¬ s₀.Dispatched id
  sublist : ids.Sublist (d.records.map NodeSchedulingRecord.nodeId)

theorem readyNodeIds_ok (h : readyNodeIds cfg s₀ approved = .ok ids) : ids = [] ∨ ∃ d, Listed cfg s₀ approved ids d := by
  unfold readyNodeIds at h
  split at h
  · rw [pure_ok] at h
    exact .inl h.symm
  rename_i hidle
  rw [not_or] at hidle
  simp only at h
  split at h
  · rw [pure_ok] at h
    exact .inl h.symm
  rename_i hcapacity
  simp only [bind_ok, pure_ok] at h
  obtain ⟨d, hd, rfl⟩ := h
  have hrecord : ∀ id ∈ ((d.records.filter fun r =>
      r.state = .ready && !PyDict.has s₀.observations r.nodeId && !PyDict.has s₀.inFlight r.nodeId &&
        !PyDict.has s₀.recoveryRequired r.nodeId).map NodeSchedulingRecord.nodeId).take
          (cfg.maxConcurrency - s₀.inFlight.length).toNat,
      ∃ r ∈ d.records, r.nodeId = id ∧ r.state = .ready ∧ ¬ s₀.Dispatched id := by
    intro id hid
    obtain ⟨r, hr, rfl⟩ := List.mem_map.mp (List.mem_of_mem_take hid)
    rw [List.mem_filter] at hr
    simp only [Bool.and_eq_true, decide_eq_true_eq, Bool.not_eq_true'] at hr
    obtain ⟨hmem, ⟨⟨hready, hobserved⟩, hfly⟩, hrecovery⟩ := hr
    refine ⟨r, hmem, rfl, hready, ?_⟩
    simp [SchedulerState.Dispatched, hobserved, hfly, hrecovery]
  refine .inr ⟨d, ?_⟩
  refine
    { cancelled := by simpa using hidle.1, recoveryRequired := Decidable.not_not.mp hidle.2
      decision := admissionDecision_ok.mp hd, capacity := ?_, ready := ?_, fresh := ?_, sublist := ?_ }
  · have hlen := List.length_take_le (cfg.maxConcurrency - s₀.inFlight.length).toNat
      ((d.records.filter fun r => r.state = .ready && !PyDict.has s₀.observations r.nodeId &&
        !PyDict.has s₀.inFlight r.nodeId && !PyDict.has s₀.recoveryRequired r.nodeId).map NodeSchedulingRecord.nodeId)
    omega
  · intro id hid
    obtain ⟨r, hr, hid, hready, -⟩ := hrecord id hid
    exact ⟨r, hr, hid, hready⟩
  · intro id hid
    obtain ⟨r, -, -, -, hfresh⟩ := hrecord id hid
    exact hfresh
  · exact (List.take_sublist _ _).trans (List.Sublist.map _ List.filter_sublist)

theorem rebound_of_validate (h : cfg.plan.validate cfg.parentAuthority = .ok ⟨⟩)
    (hnode : node ∈ cfg.plan.nodes) : revalidateAuthority cfg node = .ok ⟨⟩ := by
  have hvalid := h
  simp only [ExecutionPlan.validate, ExecutionPlan.validateAuthority, bind_ok, require_ok, pure_ok] at h
  obtain ⟨_, -, _, -, _, -, rebounds, hrebounds, -⟩ := h
  obtain ⟨rebound, -, hrebound⟩ := forall₂_mem_left (mapM_ok.mp hrebounds) hnode
  have hfingerprint := hrebound
  simp only [ExecutionNode.rebindAuthority, bind_ok, rethrow_ok, require_ok, pure_ok] at hfingerprint
  obtain ⟨_, -, _, hsame, rfl⟩ := hfingerprint
  simp only [revalidateAuthority, bind_ok, rethrow_ok, require_ok]
  exact ⟨_, ⟨⟨⟩, hvalid, hrebound⟩, hsame⟩

variable {plan : ExecutionPlan F}

theorem record_found {c : RuntimeScheduler.Collected F}
    (hworkflow : ExecutionPlan.WorkflowOf plan workflow) (hd : RuntimeScheduler.DecidedBy plan c approved records)
    (hr : r ∈ records) : records.find? (·.nodeId = r.nodeId) = some r :=
  Table.find?_key NodeSchedulingRecord.nodeId (hd.listed ▸ hworkflow.nodup) hr

variable {os : List (ExecutionObservation F)}

theorem listed_records {context : TaskContext F} {parent : TaskCapabilityAuthority}
    (h : evaluate context plan parent os approved = .ok d) :
    d.records.map NodeSchedulingRecord.nodeId = plan.nodes.map ExecutionNode.nodeId := by
  obtain ⟨hbinding, _, -, c, -, records, hrecords, _, -, _, -, rfl, -⟩ := evaluate_ok.mp h
  obtain ⟨-, workflow, hworkflow⟩ := workflowOf_checkBinding hbinding
  exact (records_decided hworkflow hrecords).listed

theorem Listed.nodup (h : Listed cfg s₀ approved ids d) : ids.Nodup := by
  obtain ⟨hbinding, -⟩ := evaluate_ok.mp h.decision
  obtain ⟨-, workflow, hworkflow⟩ := workflowOf_checkBinding hbinding
  refine h.sublist.nodup ?_
  rw [listed_records h.decision]
  exact hworkflow.nodup

omit [PyRuntime F] in
theorem observed_of_mem (hcoherent : Coherent plan s₀) {o : ExecutionObservation F}
    (h : o ∈ orderedObservations plan s₀) : get? s₀.observations o.nodeId = some o := by
  obtain ⟨n, -, hget⟩ := mem_orderedObservations.mp h
  rw [hcoherent.observed _ _ hget]
  exact hget

/-- What the scheduler can tell of a node it has listed. -/
structure Dispatchable (cfg : SchedulerConfig σ F) (s₀ s : SchedulerState F) (approved : List String)
    (node : ExecutionNode F) : Prop where
  found : cfg.plan.node? node.nodeId = some node
  authority : revalidateAuthority cfg node = .ok ⟨⟩
  approval : node.approvalRequired = true → node.nodeId ∈ approved
  dependencies : dependencyObservations s₀ node = .ok (dependencyList s₀ node)
  decision : ∃ d' r', admissionDecision cfg s
      (if node.approvalRequired && decide (node.nodeId ∈ approved) then [node.nodeId] else []) = .ok d' ∧
    d'.records.find? (·.nodeId = node.nodeId) = some r' ∧ r'.state = .ready

theorem dispatchable_listed (hinv : SchedulerInvariant cfg s₀ issued) (hcoherent : Coherent cfg.plan s₀)
    (hlisted : Listed cfg s₀ approved ids d) (hid : id ∈ ids) (hplaced : Placed s₀ approved ts s) :
    ∃ node, node.nodeId = id ∧ Dispatchable cfg s₀ s approved node := by
  obtain ⟨hbinding, -⟩ := evaluate_ok.mp hlisted.decision
  obtain ⟨hvalid, workflow, hworkflow⟩ := workflowOf_checkBinding hbinding
  have hobserved : ∀ o ∈ orderedObservations cfg.plan s₀, ∀ n, cfg.plan.node? o.nodeId = some n →
      n.approvalRequired = true → o.nodeId ∈ s₀.approvedNodes := by
    intro o ho n hn hrequired
    exact hinv.approved _ n (.inl (has_iff.mpr ⟨o, observed_of_mem hcoherent ho⟩)) hn hrequired
  obtain ⟨r, hr, hrid, hready⟩ := hlisted.ready id hid
  have hnodeOf : ∃ node ∈ cfg.plan.nodes, node.nodeId = id := by
    have hmem := List.mem_map_of_mem (f := NodeSchedulingRecord.nodeId) hr
    rw [listed_records hlisted.decision, hrid] at hmem
    exact List.mem_map.mp hmem
  obtain ⟨node, hnode, rfl⟩ := hnodeOf
  -- the dispatch asks for its own approval only, on top of those already used
  let wanted := s.approvedNodes ++
    if node.approvalRequired && decide (node.nodeId ∈ approved) then [node.nodeId] else []
  have hwanted : ∀ id ∈ sorted (dedup wanted), id ∈ sorted (dedup (s₀.approvedNodes ++ approved)) := by
    intro id h
    rw [mem_sorted, mem_dedup, List.mem_append] at h ⊢
    rcases h with h | h
    · exact hplaced.approvals id h
    · split at h
      · rename_i hgranted
        rw [List.mem_singleton.mp h]
        simp only [Bool.and_eq_true, decide_eq_true_eq] at hgranted
        exact .inr hgranted.2
      · simp at h
  obtain ⟨c, hc, hdecided, d', hd', hdecided'⟩ := evaluate_fewer hlisted.decision hwanted
    fun o ho n hn hrequired => by
      rw [mem_sorted, mem_dedup, List.mem_append]
      exact .inl (hplaced.kept (hobserved o ho n hn hrequired))
  -- the listed record says that the node is ready
  obtain ⟨r₁, hr₁, hr₁id, hiff⟩ := hdecided.ready node hnode
  have hsame : r₁ = r := by
    have h := record_found hworkflow hdecided hr
    rw [hrid, ← hr₁id, record_found hworkflow hdecided hr₁] at h
    exact Option.some.inj h
  have hof : RuntimeScheduler.Ready c _ node := hiff.mp (hsame ▸ hready)
  have hfresh := hlisted.fresh _ hid
  have happroval : node.approvalRequired = true → node.nodeId ∈ approved := by
    intro hrequired
    by_contra hmissing
    refine hof.approval ⟨hrequired, ?_⟩
    rw [mem_sorted, mem_dedup, List.mem_append, not_or]
    exact ⟨fun h => hfresh (hcoherent.approved _ h).1, hmissing⟩
  refine ⟨node, rfl, node?_of_mem hworkflow hnode, rebound_of_validate hvalid hnode, happroval, ?_, ?_⟩
  · refine dependencyObservations_of fun p hp => ?_
    obtain ⟨o, ho, hstatus⟩ := hof.dependencies p hp
    obtain ⟨hmem, rfl⟩ := (collect_seen hc).2 p o ho
    exact ⟨o, observed_of_mem hcoherent hmem, hstatus⟩
  · obtain ⟨r', hr', hr'id, hiff'⟩ := hdecided'.ready node hnode
    refine ⟨d', r', ?_, hr'id ▸ record_found hworkflow hdecided' hr', hiff'.mpr { hof with approval := ?_ }⟩
    · refine admissionDecision_ok.mpr ?_
      rw [orderedObservations, hplaced.observations]
      exact hd'
    · intro hmissing
      apply hmissing.2
      rw [mem_sorted, mem_dedup, List.mem_append]
      right
      rw [if_pos (by simp [hmissing.1, happroval hmissing.1])]
      exact List.mem_singleton_self _

theorem admission_listed
    {rest : List String} (hinv : SchedulerInvariant cfg s₀ issued) (hcoherent : Coherent cfg.plan s₀)
    (hlisted : Listed cfg s₀ approved ids d) (hids : ids = ts.map DispatchTicket.nodeId ++ id :: rest)
    (hplaced : Placed s₀ approved ts s) :
    ∃ node, cfg.plan.node? id = some node ∧
      admission cfg s id (decide (id ∈ approved)) = .ok (node, dependencyList s₀ node) ∧
      revalidateAuthority cfg node = .ok ⟨⟩ := by
  have hid : id ∈ ids := by simp [hids]
  obtain ⟨node, rfl, hdispatch⟩ := dispatchable_listed hinv hcoherent hlisted hid hplaced
  obtain ⟨d', r', hd', hfind, hready⟩ := hdispatch.decision
  have hfresh := hlisted.fresh _ hid
  simp only [SchedulerState.Dispatched, not_or, Bool.not_eq_true] at hfresh
  have hfly : has s.inFlight node.nodeId = false := by
    have hnodup := hlisted.nodup
    rw [hids, List.nodup_append] at hnodup
    rw [← Bool.not_eq_true, ← mem_keys, hplaced.inFlight, keys, List.map_append, List.mem_append, not_or]
    constructor
    · intro hmem
      rw [mem_keys.mp hmem] at hfresh
      exact absurd hfresh.2.1 (by decide)
    · rw [List.map_map]
      exact fun hmem => hnodup.2.2 _ hmem _ (by simp) rfl
  refine ⟨node, hdispatch.found, ?_, hdispatch.authority⟩
  simp only [admission, bind_ok, orRaise_ok, require_ok, pure_ok]
  refine ⟨⟨⟩, by rw [hplaced.cancelled, hlisted.cancelled], node, hdispatch.found, ⟨⟩, by rw [hplaced.observations, hfresh.1],
    ⟨⟩, hfly, ⟨⟩, by rw [hplaced.recoveryRequired, hfresh.2.2], ⟨⟩,
    by rw [hplaced.recoveryRequired, hlisted.recoveryRequired], ⟨⟩, ?_, ⟨⟩, ?_, d', hd', r', hfind,
    dependencyList s₀ node, ?_, ⟨⟩, hready, rfl⟩
  · have hcapacity := hlisted.capacity
    rw [hids] at hcapacity
    rw [hplaced.inFlight]
    simp only [List.length_append, List.length_map, List.length_cons] at hcapacity ⊢
    omega
  · exact fun hrequired => decide_eq_true (hdispatch.approval hrequired)
  · have h := hdispatch.dependencies
    unfold dependencyObservations at h ⊢
    rw [hplaced.observations]
    exact h

/-! ## The answers of the guards -/

/-- `is_revoked` answers no. -/
def capabilityCall (cfg : SchedulerConfig σ F) (node : ExecutionNode F) (capability : String) : Act σ Raised PUnit := do
  let revoked ← cfg.isRevoked cfg.plan.taskId capability
  Act.lift (require (revoked = false)
    (schedulerError ("SCHEDULER_CAPABILITY_REVOKED:" ++ node.nodeId ++ ":" ++ capability)))

/-- What a dispatch waits for, in its order: the budget guard, the revocation guard on each tool, the step, and the
repository on the ticket, which must have a text. -/
def guardCalls (cfg : SchedulerConfig σ F) (node : ExecutionNode F) (os : List (ExecutionObservation F)) (n : Int) :
    Act σ Raised DispatchTicket := do
  cfg.assertActive
  let _ ← node.allowedTools.mapM (capabilityCall cfg node)
  cfg.reserveStep
  let ticket ← Act.lift (newTicket cfg.plan node os n)
  recordCall cfg ticket
  return ticket

/-- The same for nodes in turn, the tickets numbered from `n`. -/
def readyCalls (cfg : SchedulerConfig σ F) (s : SchedulerState F) : Int → List (ExecutionNode F) →
    Act σ Raised (List DispatchTicket)
  | _, [] => return []
  | n, node :: nodes => do
    let ticket ← guardCalls cfg node (dependencyList s node) n
    let tickets ← readyCalls cfg s (n + 1) nodes
    return ticket :: tickets

variable {w : SchedulerWorld σ F}

variable {w' : SchedulerWorld σ F}

omit [PyRuntime F] in
theorem call_returns {α : Type} {x : Act σ Raised α} {a : α} :
    SchedulerWorld.call x w = (.ok a, w') ↔ ∃ e', x w.env = (.ok a, e') ∧ w' = { w with env := e' } := by
  obtain ⟨⟨r, e₁⟩, hr⟩ : ∃ r, x w.env = r := ⟨_, rfl⟩
  simp only [SchedulerWorld.call, hr, Prod.mk.injEq]
  constructor
  · rintro ⟨ha, hw⟩
    exact ⟨e₁, ⟨ha, rfl⟩, hw.symm⟩
  · rintro ⟨_, ⟨ha, he⟩, hw⟩
    exact ⟨ha, by rw [he, hw]⟩

omit [PyRuntime F] in
theorem mapM_call_returns {α β : Type} {f : α → Act (SchedulerWorld σ F) Raised β} {g : α → Act σ Raised β}
    (hfg : ∀ a w w' b, f a w = (.ok b, w') ↔ ∃ e', g a w.env = (.ok b, e') ∧ w' = { w with env := e' }) :
    ∀ (as : List α) (w w' : SchedulerWorld σ F) (bs : List β),
      as.mapM f w = (.ok bs, w') ↔ ∃ e', as.mapM g w.env = (.ok bs, e') ∧ w' = { w with env := e' }
  | [], w, w', bs => by
    simp only [List.mapM_nil, Act.pure_returns]
    constructor
    · intro ⟨hbs, hw⟩
      exact ⟨w.env, ⟨hbs, rfl⟩, hw.symm⟩
    · intro ⟨_, ⟨hbs, he⟩, hw⟩
      exact ⟨hbs, by rw [hw, ← he]⟩
  | a :: as, w, w', bs => by
    simp only [List.mapM_cons, Act.bind_returns, Act.pure_returns]
    constructor
    · intro ⟨b, w₁, hb, bs', w₂, hbs, heq, hw⟩
      obtain ⟨e₁, hg, rfl⟩ := (hfg a w w₁ b).mp hb
      obtain ⟨e₂, hgs, rfl⟩ := (mapM_call_returns hfg as _ w₂ bs').mp hbs
      exact ⟨e₂, ⟨b, e₁, hg, bs', e₂, hgs, heq, rfl⟩, hw.symm⟩
    · intro ⟨_, ⟨b, e₁, hg, bs', e₂, hgs, heq, he⟩, hw⟩
      refine ⟨b, { w with env := e₁ }, (hfg a w _ b).mpr ⟨e₁, hg, rfl⟩, bs', { w with env := e₂ },
        (mapM_call_returns hfg as _ _ bs').mpr ⟨e₂, hgs, rfl⟩, heq, ?_⟩
      rw [hw, he]

omit [PyRuntime F] in
theorem checkCapability_returns (cfg : SchedulerConfig σ F) (node : ExecutionNode F) (capability : String)
    (w w' : SchedulerWorld σ F) (u : PUnit) : checkCapability cfg node capability w = (.ok u, w') ↔
      ∃ e', capabilityCall cfg node capability w.env = (.ok u, e') ∧ w' = { w with env := e' } := by
  simp only [checkCapability, capabilityCall, Act.bind_returns, Act.lift_returns, call_returns, Act.mapError_returns]
  constructor
  · intro ⟨revoked, _, ⟨e₁, hcall, rfl⟩, hrequire, hw⟩
    exact ⟨e₁, ⟨revoked, e₁, hcall, hrequire, rfl⟩, hw.symm⟩
  · intro ⟨e', ⟨revoked, e₁, hcall, hrequire, he⟩, hw⟩
    exact ⟨revoked, _, ⟨e₁, hcall, rfl⟩, hrequire, by rw [hw, he]⟩

theorem revalidateRuntime_returns (hauthority : revalidateAuthority cfg node = .ok ⟨⟩) {e' : σ} :
    revalidateRuntime cfg node w = (.ok ⟨⟩, { w with env := e' }) ↔
      ∃ u e₁ us, cfg.assertActive w.env = (.ok u, e₁) ∧
        node.allowedTools.mapM (capabilityCall cfg node) e₁ = (.ok us, e') := by
  simp only [revalidateRuntime, hauthority, Act.bind_returns, Act.lift_returns, Act.pure_returns, call_returns,
    Act.mapError_returns, mapM_call_returns (checkCapability_returns cfg node)]
  constructor
  · rintro ⟨_, _, ⟨_, rfl⟩, u, _, ⟨e₁, hactive, rfl⟩, us, _, ⟨e₂, htools, rfl⟩, _, hw⟩
    cases hw
    exact ⟨u, e₁, us, hactive, htools⟩
  · rintro ⟨u, e₁, us, hactive, htools⟩
    exact ⟨⟨⟩, w, ⟨trivial, rfl⟩, u, _, ⟨e₁, hactive, rfl⟩, us, _, ⟨e', htools, rfl⟩, trivial, rfl⟩

theorem issueDispatch_iff {granted : Bool} (hadmission : admission cfg w.sched id granted = .ok (node, os))
    (hauthority : revalidateAuthority cfg node = .ok ⟨⟩) :
    issueDispatch cfg id granted w = (.ok t, w') ↔
      ∃ e', guardCalls cfg node os (w.sched.dispatchSequence + 1) w.env = (.ok t, e') ∧
        w' = enterFlight node t (advanceSequence { w with env := e' }) := by
  simp only [guardCalls, Act.bind_returns, Act.lift_returns, Act.pure_returns]
  constructor
  · intro h
    have hrun := issueDispatch_run cfg id granted w
    rw [h] at hrun
    cases hrun with
    | issued hadmission' hruntime hreserve hticket hrecord =>
      rw [hadmission] at hadmission'
      cases hadmission'
      obtain ⟨u, e₁, us, hactive, htools⟩ := (revalidateRuntime_returns hauthority).mp hruntime
      exact ⟨_, ⟨u, e₁, hactive, us, _, htools, ⟨⟩, _, hreserve, t, _, ⟨hticket, rfl⟩, ⟨⟩, _, hrecord, rfl, rfl⟩, rfl⟩
  · intro ⟨e', ⟨u, e₁, hactive, us, e₂, htools, _, e₃, hreserve, t', _, ⟨hticket, rfl⟩, _, e₄, hrecord, ht, he⟩, hw⟩
    subst ht he
    have hruntime := (revalidateRuntime_returns (w := w) hauthority).mpr ⟨u, e₁, us, hactive, htools⟩
    have hstep : SchedulerWorld.call (cfg.reserveStep.mapError (budgetFailure "SCHEDULER_BUDGET_RESERVATION_FAILED"))
        { w with env := e₂ } = (.ok ⟨⟩, { w with env := e₃ }) := call_mapError_ok hreserve
    have hpersist : persist cfg ("SCHEDULER_CHECKPOINT_DISPATCH_FAILED:" ++ id) (·.recordDispatch t')
        (advanceSequence { w with env := e₃ }) = (.ok ⟨⟩, advanceSequence { w with env := e₄ }) := by
      rw [persist_record]
      exact call_mapError_ok hrecord
    rw [hw]
    exact issueDispatch_returns hadmission hruntime hstep hticket hpersist

/-! ## The whole list -/

/-- The entries that tickets have in the flight. -/
def entries (ts : List DispatchTicket) : List (String × DispatchTicket) := ts.map fun t => (t.nodeId, t)

/-- The dispatch of each of the ids in turn. -/
def dispatches (cfg : SchedulerConfig σ F) (approved ids : List String) :
    Act (SchedulerWorld σ F) Raised (List DispatchTicket) :=
  ids.mapM fun id => issueDispatch cfg id (decide (id ∈ approved))

/-- Dispatches in turn add tickets at the end of the flight: those returned, when they return, and at least one if the
first of them returned. -/
theorem dispatches_placed (ids : List String) : ∀ (w w' : SchedulerWorld σ F) (r : Except Raised (List DispatchTicket)),
    dispatches cfg approved ids w = (r, w') → ∃ ts, w'.sched.inFlight = w.sched.inFlight ++ entries ts ∧
      (∀ ts', r = .ok ts' → ts' = ts ∧ ts.map DispatchTicket.nodeId = ids) ∧
      ∀ id rest, ids = id :: rest →
        (ts = [] ↔ ∀ t w₁, issueDispatch cfg id (decide (id ∈ approved)) w ≠ (.ok t, w₁)) := by
  induction ids with
  | nil =>
    intro w w' r h
    cases h
    refine ⟨[], by simp [entries], ?_, fun _ _ h => by cases h⟩
    intro ts' hts
    cases hts
    exact ⟨rfl, rfl⟩
  | cons id ids ih =>
    intro w w' r h
    simp only [dispatches, List.mapM_cons] at h
    have hrun := issueDispatch_run cfg id (decide (id ∈ approved)) w
    obtain ⟨⟨answer, w₁⟩, hone⟩ : ∃ r, issueDispatch cfg id (decide (id ∈ approved)) w = r := ⟨_, rfl⟩
    rw [hone] at hrun
    cases answer with
    | error e =>
      rw [Act.bind_raises hone] at h
      cases h
      refine ⟨[], ?_, fun _ hts => (by cases hts), ?_⟩
      · rw [entries, List.map_nil, List.append_nil]
        cases hrun <;> rfl
      · intro _ _ hcons
        cases hcons
        simp [hone]
    | ok t =>
      rw [Act.bind_run hone] at h
      obtain ⟨⟨answer, w₂⟩, hrest⟩ : ∃ r, dispatches cfg approved ids w₁ = r := ⟨_, rfl⟩
      obtain ⟨ts, hfly, hreturned, -⟩ := ih w₁ w₂ answer hrest
      have hsome : ∀ ts id' rest', id :: ids = id' :: rest' →
          (t :: ts = [] ↔ ∀ t' w₁', issueDispatch cfg id' (decide (id' ∈ approved)) w ≠ (.ok t', w₁')) := by
        intro ts id' rest' hcons
        cases hcons
        simp [hone]
      have hfirst : w₁.sched.inFlight = w.sched.inFlight ++ [(t.nodeId, t)] ∧ t.nodeId = id := by
        cases hrun with
        | issued hadmission hruntime hreserve hticket hrecord =>
          obtain ⟨hnode, hnew, -⟩ := admission_ok hadmission
          obtain ⟨htn, -⟩ := newTicket_ok hticket
          have hid := node?_nodeId hnode
          have habsent : has w.sched.inFlight id = false := by
            simpa using fun he => hnew (.inr (.inl he))
          refine ⟨?_, htn.nodeId.trans hid⟩
          rw [htn.nodeId, hid]
          show set w.sched.inFlight _ t = _
          rw [hid, set_of_absent habsent]
      have hfly' : w₂.sched.inFlight = w.sched.inFlight ++ entries (t :: ts) := by
        rw [hfly, hfirst.1, List.append_assoc]
        rfl
      replace h : (dispatches cfg approved ids >>= fun ts => pure (t :: ts)) w₁ = (r, w') := h
      cases answer with
      | error e =>
        rw [Act.bind_raises hrest] at h
        cases h
        exact ⟨t :: ts, hfly', fun _ hts => (by cases hts), hsome ts⟩
      | ok us =>
        rw [Act.bind_run hrest] at h
        cases h
        obtain ⟨rfl, hmap⟩ := hreturned us rfl
        refine ⟨t :: us, hfly', ?_, hsome us⟩
        intro ts' hts
        cases hts
        exact ⟨rfl, by rw [List.map_cons, hfirst.2, hmap]⟩

omit [PyRuntime F] in
theorem placed_enter {e' : σ} (h : Placed s₀ approved ts w.sched) (hid : t.nodeId = node.nodeId)
    (habsent : has w.sched.inFlight node.nodeId = false)
    (happroval : node.approvalRequired = true → node.nodeId ∈ approved) :
    Placed s₀ approved (ts ++ [t]) (enterFlight node t (advanceSequence { w with env := e' })).sched where
  observations := h.observations
  recoveryRequired := h.recoveryRequired
  cancelled := h.cancelled
  sequence := by
    show w.sched.dispatchSequence + 1 = _
    rw [h.sequence, List.length_append, List.length_singleton]
    push_cast
    omega
  inFlight := by
    show set w.sched.inFlight node.nodeId t = _
    rw [set_of_absent habsent, h.inFlight, List.map_append, List.append_assoc, hid.symm]
    rfl
  approvals := by
    intro id hmem
    by_cases hrequired : node.approvalRequired = true
    · have hmem' : id ∈ w.sched.approvedNodes ++ [node.nodeId] := by
        simpa [enterFlight, advanceSequence, hrequired] using hmem
      rcases List.mem_append.mp hmem' with hold | hnew
      · exact h.approvals id hold
      · rw [List.mem_singleton.mp hnew]
        exact .inr (happroval hrequired)
    · exact h.approvals id (by simpa [enterFlight, advanceSequence, hrequired] using hmem)
  kept := by
    intro id hmem
    by_cases hrequired : node.approvalRequired = true
    · have hold := h.kept hmem
      simp [enterFlight, advanceSequence, hrequired, hold]
    · simpa [enterFlight, advanceSequence, hrequired] using h.kept hmem

/-- What is left of a list of ready nodes is dispatched exactly if the guards and the repository let all of it
through. -/
theorem dispatches_iff
    (hinv : SchedulerInvariant cfg s₀ issued) (hcoherent : Coherent cfg.plan s₀)
    (hlisted : Listed cfg s₀ approved ids d) (rest : List String) :
    ∀ (ts : List DispatchTicket) (w : SchedulerWorld σ F), ids = ts.map DispatchTicket.nodeId ++ rest →
      Placed s₀ approved ts w.sched →
      ((∃ ts' w', dispatches cfg approved rest w = (.ok ts', w')) ↔
        ∃ ts' e', readyCalls cfg s₀ (w.sched.dispatchSequence + 1) (rest.filterMap cfg.plan.node?) w.env =
          (.ok ts', e')) := by
  induction rest with
  | nil =>
    intro ts w _ _
    constructor
    · exact fun _ => ⟨[], w.env, rfl⟩
    · exact fun _ => ⟨[], w, rfl⟩
  | cons id rest ih =>
    intro ts w hids hplaced
    obtain ⟨node, hnode, hadmission, hauthority⟩ := admission_listed hinv hcoherent hlisted hids hplaced
    have hstep : ∀ {t w₁}, issueDispatch cfg id (decide (id ∈ approved)) w = (.ok t, w₁) ↔
        ∃ e', guardCalls cfg node (dependencyList s₀ node) (w.sched.dispatchSequence + 1) w.env = (.ok t, e') ∧
          w₁ = enterFlight node t (advanceSequence { w with env := e' }) := issueDispatch_iff hadmission hauthority
    -- after the first one the rest is again what is left of the list
    have hnext : ∀ {t e'}, guardCalls cfg node (dependencyList s₀ node) (w.sched.dispatchSequence + 1) w.env =
        (.ok t, e') →
        ((∃ ts' w', dispatches cfg approved rest (enterFlight node t (advanceSequence { w with env := e' })) =
          (.ok ts', w')) ↔ ∃ ts' e'', readyCalls cfg s₀ (w.sched.dispatchSequence + 1 + 1)
            (rest.filterMap cfg.plan.node?) e' = (.ok ts', e'')) := by
      intro t e' hcalls
      have hid := node?_nodeId hnode
      obtain ⟨hnode', hnew, -, -⟩ := admission_ok hadmission
      have htn : t.nodeId = node.nodeId := by
        simp only [guardCalls, Act.bind_returns, Act.lift_returns, Act.pure_returns] at hcalls
        obtain ⟨_, _, -, _, _, -, _, _, -, t', _, ⟨hticket, -⟩, _, _, -, rfl, -⟩ := hcalls
        exact (newTicket_ok hticket).1.nodeId
      have happroval : node.approvalRequired = true → node.nodeId ∈ approved := by
        intro hrequired
        simp only [admission, bind_ok, orRaise_ok, require_ok, pure_ok, Prod.mk.injEq] at hadmission
        obtain ⟨_, -, node', -, _, -, _, -, _, -, _, -, _, -, _, hgranted, _, -, _, -, _, -, _, -, rfl, -⟩ := hadmission
        rw [hid]
        exact of_decide_eq_true (hgranted hrequired)
      refine ih (ts ++ [t]) _ ?_ (placed_enter hplaced htn ?_ happroval)
      · rw [hids, List.map_append, List.append_assoc, List.map_singleton, htn, hid]
        rfl
      · rw [hid]
        simpa using fun he => hnew (.inr (.inl he))
    rw [List.filterMap_cons_some hnode]
    simp only [dispatches, List.mapM_cons, readyCalls, Act.bind_returns, Act.pure_returns]
    constructor
    · rintro ⟨_, _, t, w₁, hone, us, w₂, hrest, _, _⟩
      obtain ⟨e', hcalls, rfl⟩ := hstep.mp hone
      obtain ⟨vs, e'', hvs⟩ := (hnext hcalls).mp ⟨us, w₂, hrest⟩
      exact ⟨_, _, t, e', hcalls, vs, e'', hvs, rfl, rfl⟩
    · rintro ⟨_, _, t, e', hcalls, vs, e'', hvs, _, _⟩
      obtain ⟨us, w₂, hus⟩ := (hnext hcalls).mpr ⟨vs, e'', hvs⟩
      exact ⟨_, _, t, _, hstep.mpr ⟨e', hcalls, rfl⟩, us, w₂, hus, rfl, rfl⟩

/-! ## `issue_ready` -/

/-- The call returns the tickets it has newly placed, in the order of the ready nodes, or raises with the flight
unchanged. -/
structure Accounts (cfg : SchedulerConfig σ F) (approved : List String) (w : SchedulerWorld σ F) : Prop where
  returned : ∀ ts w', issueReady cfg approved w = (.ok ts, w') →
    readyNodeIds cfg w.sched approved = .ok (ts.map DispatchTicket.nodeId) ∧
      w'.sched.inFlight = w.sched.inFlight ++ entries ts
  raised : ∀ e w', issueReady cfg approved w = (.error e, w') → w'.sched.inFlight = w.sched.inFlight

/-- If the guards and the repository let the first ready node through, they let the others through after it. -/
def LetsAllThrough (cfg : SchedulerConfig σ F) (approved : List String) (w : SchedulerWorld σ F) : Prop :=
  ∀ ids, readyNodeIds cfg w.sched approved = .ok ids → ∀ first rest, ids.filterMap cfg.plan.node? = first :: rest →
    ∀ t e, guardCalls cfg first (dependencyList w.sched first) (w.sched.dispatchSequence + 1) w.env = (.ok t, e) →
      ∃ ts e', readyCalls cfg w.sched (w.sched.dispatchSequence + 1 + 1) rest e = (.ok ts, e')

theorem issueReady_listed (h : readyNodeIds cfg w.sched approved = .ok ids) :
    issueReady cfg approved w = dispatches cfg approved ids w := by
  unfold issueReady
  rw [Act.get_bind_run]
  exact Act.lift_bind_run h

theorem issueReady_unlisted {e : Raised}
    (h : readyNodeIds cfg w.sched approved = .error e) : issueReady cfg approved w = (.error e, w) := by
  unfold issueReady
  rw [Act.get_bind_run]
  exact Act.lift_bind_raises h

/-- If `issue_ready` accounts for its tickets, the whole list was let through once its first node was: otherwise the
call has raised with a ticket in flight. -/
theorem letsAllThrough_of_accounts (h : Reachable cfg w) (haccounts : Accounts cfg approved w) :
    LetsAllThrough cfg approved w := by
  have hinv := invariant_over_runs cfg w h
  have hcoherent := coherent_over_runs h
  intro ids hready first rest hsplit t e hcalls
  rcases readyNodeIds_ok hready with rfl | ⟨d, hlisted⟩
  · cases hsplit
  cases ids with
  | nil => cases hsplit
  | cons id ids =>
    have hstart : id :: ids = ([] : List DispatchTicket).map DispatchTicket.nodeId ++ id :: ids := rfl
    obtain ⟨node, hnode, hadmission, hauthority⟩ := admission_listed hinv hcoherent hlisted hstart placed_nil
    rw [List.filterMap_cons_some hnode] at hsplit
    obtain ⟨rfl, rfl⟩ := List.cons.inj hsplit
    have hone := (issueDispatch_iff hadmission hauthority).mpr ⟨e, hcalls, rfl⟩
    obtain ⟨⟨r, w'⟩, hrun⟩ : ∃ r, dispatches cfg approved (id :: ids) w = r := ⟨_, rfl⟩
    obtain ⟨placed, hfly, -, hfirst⟩ := dispatches_placed _ w w' r hrun
    cases r with
    | ok ts =>
      obtain ⟨ts', e', hcall⟩ := (dispatches_iff hinv hcoherent hlisted _ [] w hstart placed_nil).mp ⟨ts, w', hrun⟩
      simp only [List.filterMap_cons_some hnode, readyCalls, Act.bind_returns] at hcall
      obtain ⟨t', e₁, hcalls', us, e₂, hrest, -⟩ := hcall
      rw [hcalls] at hcalls'
      cases hcalls'
      exact ⟨us, e₂, hrest⟩
    | error raised =>
      -- the ticket of the first node is in flight
      have hsame := haccounts.raised raised w' (by rw [issueReady_listed hready, hrun])
      have hempty : entries placed = [] := List.append_right_eq_self.mp (hfly.symm.trans hsame)
      exact absurd hone ((hfirst id ids rfl).mp (List.map_eq_nil_iff.mp hempty) t _)

theorem accounts_of_letsAllThrough (h : Reachable cfg w)
    (hthrough : LetsAllThrough cfg approved w) : Accounts cfg approved w := by
  have hinv := invariant_over_runs cfg w h
  have hcoherent := coherent_over_runs h
  cases hready : readyNodeIds cfg w.sched approved with
  | error e =>
    have hrun := issueReady_unlisted hready
    constructor
    · intro ts w' hreturned
      rw [hrun] at hreturned
      cases hreturned
    · intro e' w' hraised
      rw [hrun] at hraised
      cases hraised
      rfl
  | ok ids =>
    have hrun := issueReady_listed hready
    constructor
    · intro ts w' hreturn
      rw [hrun] at hreturn
      obtain ⟨placed, hfly, hreturned, -⟩ := dispatches_placed ids w w' _ hreturn
      obtain ⟨rfl, hmap⟩ := hreturned ts rfl
      exact ⟨by rw [hready, hmap], hfly⟩
    · intro raised w' hraise
      rw [hrun] at hraise
      obtain ⟨placed, hfly, -, hfirst⟩ := dispatches_placed ids w w' _ hraise
      cases ids with
      | nil => cases hraise
      | cons id ids =>
        obtain ⟨d, hlisted⟩ := (readyNodeIds_ok hready).resolve_left (by simp)
        have hstart : id :: ids = ([] : List DispatchTicket).map DispatchTicket.nodeId ++ id :: ids := rfl
        obtain ⟨node, hnode, hadmission, hauthority⟩ := admission_listed hinv hcoherent hlisted hstart placed_nil
        -- had the first dispatch returned, all would have
        have hnone : placed = [] := by
          refine (hfirst id ids rfl).mpr ?_
          intro t w₁ hone
          obtain ⟨e, hcalls, -⟩ := (issueDispatch_iff hadmission hauthority).mp hone
          obtain ⟨ts, e', hrest⟩ := hthrough _ hready node _ (List.filterMap_cons_some hnode) t e hcalls
          obtain ⟨ts', w'', hreturn⟩ := (dispatches_iff hinv hcoherent hlisted _ [] w hstart placed_nil).mpr
            ⟨t :: ts, e', by
              simp only [List.filterMap_cons_some hnode, readyCalls, Act.bind_returns, Act.pure_returns]
              exact ⟨t, e, hcalls, ts, e', hrest, rfl, rfl⟩⟩
          rw [hraise] at hreturn
          cases hreturn
        rw [hfly, hnone]
        exact List.append_nil _

/-- In every state of every run `issue_ready` accounts for its tickets exactly if, once the first ready node is let
through, all of them are. -/
theorem issueReady_accounts (cfg : SchedulerConfig σ F) (approved : List String) (w : SchedulerWorld σ F)
    (h : Reachable cfg w) : Accounts cfg approved w ↔ LetsAllThrough cfg approved w :=
  ⟨letsAllThrough_of_accounts h, accounts_of_letsAllThrough h⟩

end ExecutionScheduler

namespace Sample

open ExecutionScheduler

/-- The first node has been dispatched and observed, and the second one is to be issued. -/
theorem observed_accounts : ∃ (t : DispatchTicket) (o : ExecutionObservation WholeFloat) (w : SchedulerWorld Unit WholeFloat),
    w.issued = [t] ∧ w.sched.observations = [("a", o)] ∧
      (Accounts (config none) [] w ↔ LetsAllThrough (config none) [] w) := by
  obtain ⟨t, o, hdispatch, haccept⟩ := observed_run
  have hobserved : Reachable (config none) ⟨(), { observations := [("a", o)], dispatchSequence := 1 }, [t]⟩ :=
    haccept ▸ .call (.acceptObservation o) (hdispatch ▸ .call (.issueDispatch "a" false) (.start (constructed ())))
  exact ⟨t, o, _, rfl, rfl, issueReady_accounts (config none) [] _ hobserved⟩

def apart : WorkflowNode := source "b" .output .output []

theorem apart_second : Second apart 0 := ⟨rfl, by decide, rfl, by decide, rfl, by rfl, by rfl⟩

/-- A scheduler of the two nodes whose budget is one step; the state is the steps reserved. -/
def oneStep : SchedulerConfig Nat WholeFloat where
  taskContext := context
  plan := planWith apart 0
  parentAuthority := parent
  assertActive := return ⟨⟩
  reserveStep := fun n => if n = 0 then (.ok ⟨⟩, 1) else (.error ⟨.executionBudgetExceeded, "STEP_LIMIT"⟩, n)
  isRevoked := fun _ _ => return false

theorem oneStep_fresh : ∃ d da db, evaluate context (planWith apart 0) parent [] [] = .ok d ∧
    d.records = [recordA da, ⟨"b", db, (node apart "t1:b" 0 0).authorityFingerprint, .ready, "NODE_ADMISSIBLE", false⟩] :=
  planWith_fresh apart_second (by decide) rfl

theorem oneStep_reachable : Reachable oneStep ⟨0, {}, []⟩ := by
  obtain ⟨d, -, -, hd, -⟩ := oneStep_fresh
  have hchecked : checkConfig oneStep = .ok ⟨⟩ := by
    simp only [checkConfig, bind_ok, require_ok, rethrow_ok, pure_ok]
    exact ⟨⟨⟩, show (1 : Int) ≤ 4 ∧ (4 : Int) ≤ 24 by decide, ⟨⟩, by simp [oneStep], ⟨⟩, fun _ => rfl, d, hd, trivial⟩
  have hconstructed : construct oneStep 0 = (.ok ({}, []), 0) := by
    show (Act.lift (checkConfig oneStep) >>= _ : Act Nat Raised _) 0 = _
    rw [hchecked]
    rfl
  exact .start hconstructed

theorem oneStep_ready : readyNodeIds oneStep {} [] = .ok ["a", "b"] := by
  obtain ⟨d, da, db, hd, hrecords⟩ := oneStep_fresh
  have hdecision : admissionDecision oneStep {} [] = .ok d := by
    refine admissionDecision_ok.mpr ?_
    rw [orderedObservations_nil _ rfl]
    exact hd
  unfold readyNodeIds
  rw [if_neg (by simp)]
  refine (if_neg (show ¬ (4 : Int) - 0 ≤ 0 by decide)).trans ?_
  simp only [hdecision, bind_ok, pure_ok]
  refine ⟨d, rfl, ?_⟩
  rw [hrecords]
  rfl

theorem oneStep_nodes : ["a", "b"].filterMap oneStep.plan.node? = [nodeA, node apart "t1:b" 0 0] := by
  have ha : oneStep.plan.node? "a" = some nodeA := by rfl
  have hb : oneStep.plan.node? "b" = some (node apart "t1:b" 0 0) := by rfl
  rw [List.filterMap_cons_some ha, List.filterMap_cons_some hb]
  rfl

theorem oneStep_first (ht : newTicket (planWith apart 0) nodeA [] 1 = .ok t) :
    guardCalls oneStep nodeA (dependencyList {} nodeA) (0 + 1) 0 = (.ok t, 1) := by
  have hnone : dependencyList ({} : SchedulerState WholeFloat) nodeA = [] := rfl
  rw [hnone, zero_add]
  unfold guardCalls
  simp only [Act.bind_returns, Act.lift_returns, Act.pure_returns]
  exact ⟨⟨⟩, 0, rfl, [], 0, rfl, ⟨⟩, 1, rfl, _, 1, ⟨ht, rfl⟩, ⟨⟩, 1, rfl, rfl, rfl⟩

theorem oneStep_second (node : ExecutionNode WholeFloat) (hn : node.allowedTools = []) {n : Int}
    {nodes : List (ExecutionNode WholeFloat)} {e' : Nat} :
    readyCalls oneStep {} n (node :: nodes) 1 ≠ (.ok ts, e') := by
  intro hrest
  simp only [readyCalls, guardCalls, Act.bind_returns] at hrest
  obtain ⟨_, _, ⟨_, _, hactive, _, _, htools, _, _, hreserve, -⟩, -⟩ := hrest
  rw [hn] at htools
  cases hactive
  cases htools
  cases hreserve

/-- The second of two ready nodes is denied its step: the first one's ticket stays in flight and is not returned. -/
theorem oneStep_loses_ticket : ¬ ∀ (cfg : SchedulerConfig Nat WholeFloat) (approved : List String)
    (w : SchedulerWorld Nat WholeFloat), Reachable cfg w → Accounts cfg approved w := by
  intro hall
  have hthrough := letsAllThrough_of_accounts oneStep_reachable (hall oneStep [] _ oneStep_reachable)
  obtain ⟨dp, da, id, ht⟩ := planWith_ticketed apart_second
  have hfirst := oneStep_first ht
  obtain ⟨ts, e', hrest⟩ := hthrough _ oneStep_ready nodeA [node apart "t1:b" 0 0] oneStep_nodes _ _ hfirst
  exact oneStep_second (node apart "t1:b" 0 0) rfl hrest

end Sample

end ThreeAgent
