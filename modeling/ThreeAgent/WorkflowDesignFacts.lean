/-
The normal form of a workflow contract. What `validate_contract_v4` returns is
in normal form, and a contract in normal form that is validated again comes
back as it is, provided it has at most the twelve warnings that the validation
accepts: the validation itself may add up to four more.
-/
import ThreeAgent.WorkflowDesign

namespace ThreeAgent

open PyText Outcome PyJson WorkflowNode

variable {n : WorkflowNode} {c : WorkflowContract} {nodeId : String} {index : Nat} {seen : List String}
  {nodes : List WorkflowNode}

/-! ## Texts -/

theorem collapsed_toList (text : String) : (collapsed text).toList =
    stripList isSpace ([' '].intercalate ((text.toList.splitOnP isSpace).filter (· ≠ []))) := by
  simp only [collapsed, strip, join, splitWs, String.toList_ofList, List.map_map]
  refine congrArg (stripList isSpace) (congrArg _ ?_)
  conv_rhs => rw [← List.map_id ((text.toList.splitOnP isSpace).filter (· ≠ []))]
  exact List.map_congr_left fun w _ => String.toList_ofList

variable {ws : List (List Char)}

theorem words_head (h : Words ws) : ∀ c ∈ ([' '].intercalate ws).head?, isSpace c = false := by
  intro c hc
  match ws, h, hc with
  | [], _, hc => cases hc
  | [w], h, hc =>
    rw [List.intercalate_singleton] at hc
    exact (h w (by simp)).2 c (List.mem_of_mem_head? hc)
  | w :: v :: ws, h, hc =>
    obtain ⟨d, w', hw⟩ := List.exists_cons_of_ne_nil (h w (by simp)).1
    rw [List.intercalate_cons_cons, hw] at hc
    cases hc
    exact (h w (by simp)).2 c (by simp [hw])

theorem words_last : ∀ {ws : List (List Char)}, Words ws → ∀ c ∈ ([' '].intercalate ws).getLast?, isSpace c = false
  | [], _, c, hc => by cases hc
  | [w], h, c, hc => by
    rw [List.intercalate_singleton] at hc
    exact (h w (by simp)).2 c (List.mem_of_getLast? hc)
  | w :: v :: ws, h, c, hc => by
    have hrest : Words (v :: ws) := fun u hu => h u (by simp [hu])
    have hne : [' '].intercalate (v :: ws) ≠ [] := by
      intro hnil
      have hempty := splitOnP_intercalate hrest
      rw [hnil] at hempty
      exact absurd hempty (by simp)
    rw [List.intercalate_cons_cons, List.getLast?_append_of_ne_nil _ hne] at hc
    exact words_last hrest c hc

theorem stripList_words (h : Words ws) :
    stripList isSpace ([' '].intercalate ws) = [' '].intercalate ws := by
  by_cases hne : [' '].intercalate ws = []
  · rw [hne]
    rfl
  · exact stripList_eq_self hne (words_head h _ (by simp [List.head?_eq_some_head hne]))
      (words_last h _ (by simp [List.getLast?_eq_some_getLast hne]))

theorem collapsed_collapsed (text : String) : collapsed (collapsed text) = collapsed text := by
  have hwords := words_split text.toList
  apply String.toList_inj.mp
  rw [collapsed_toList (collapsed text), collapsed_toList text, stripList_words hwords, splitOnP_intercalate hwords,
    stripList_words hwords]

/-- A text that the bounded text check returns. -/
structure NormalText (limit : Nat) (text : String) : Prop where
  collapsed : collapsed text = text
  nonempty : text ≠ ""
  bounded : text.toList.length ≤ limit

variable {text field : String} {limit : Nat}

theorem normalText_of_boundedText {t : String} (h : boundedText text field limit false = .ok t) :
    NormalText limit t := by
  simp only [boundedText, bind_ok, require_ok, pure_ok, exists_const, Bool.false_eq_true, or_false] at h
  obtain ⟨hne, hlen, rfl⟩ := h
  exact ⟨collapsed_collapsed text, hne, hlen⟩

theorem NormalText.boundedText (h : NormalText limit text) (field : String) (empty : Bool) :
    boundedText text field limit empty = .ok text := by
  simp only [ThreeAgent.boundedText, bind_ok, require_ok, pure_ok, exists_const, h.collapsed]
  exact ⟨.inl h.nonempty, h.bounded, trivial⟩

/-! ## Nodes -/

/-- The node that stands for a parallel one in the surrogate contract. -/
def WorkflowNode.surrogate (n : WorkflowNode) : WorkflowNode :=
  if n.kind = .parallel then { n with kind := .validation, action := .validate } else n

/-- A node of the base vocabulary. -/
def WorkflowNode.Base (n : WorkflowNode) : Prop := n.kind ∈ NodeKind.base ∧ n.action ∈ NodeAction.base

/-- A parallel control node. -/
structure WorkflowNode.Parallel (n : WorkflowNode) : Prop where
  kind : n.kind = .parallel
  action : n.action = .parallelFork ∨ n.action = .parallelJoin
  approval : n.approvalRequired = false

/-- What the validation has normalised of a node, its vocabulary aside. -/
structure NormalNode (n : WorkflowNode) : Prop where
  id : nodeIdRe n.id = true
  label : NormalText 120 n.label
  dependsOn : n.dependsOn.Nodup
  parents : n.dependsOn.length ≤ maxNodes ∧ ∀ p ∈ n.dependsOn, nodeIdRe p = true
  condition : ∀ t ∈ n.condition, NormalText 240 t

theorem WorkflowNode.Base.surrogate (h : n.Base) : n.surrogate = n := by
  unfold WorkflowNode.surrogate
  split
  · rename_i hkind
    rw [Base, hkind] at h
    exact absurd h.1 (by decide)
  · rfl

@[simp] theorem WorkflowNode.surrogate_id (n : WorkflowNode) : n.surrogate.id = n.id := by
  unfold surrogate
  split <;> rfl

theorem NormalNode.surrogate (h : NormalNode n) : NormalNode n.surrogate := by
  unfold WorkflowNode.surrogate
  split
  · exact ⟨h.id, h.label, h.dependsOn, h.parents, h.condition⟩
  · exact h

theorem WorkflowNode.surrogate_base (h : n.Base ∨ n.Parallel) : n.surrogate.Base := by
  rcases h with h | h
  · rw [h.surrogate]
    exact h
  · rw [surrogate, if_pos h.kind, Base]
    simp [NodeKind.base, NodeAction.base]

variable {s : String} {parents : List String} {condition : Option String}

section Nodes

variable {F : Type} [PyRuntime F]

theorem textOr_str (s : String) : Json.textOr (some (.str s) : Option (Json F)) = s := by
  simp only [Json.textOr, Json.truthy, Json.toStr]
  by_cases h : s = "" <;> simp [h]

theorem nodeIdRe_range (h : nodeIdRe s = true) {c : Char} (hc : c ∈ s.toList) :
    (97 ≤ c.toNat ∧ c.toNat ≤ 122) ∨ (48 ≤ c.toNat ∧ c.toNat ≤ 57) ∨ c.toNat = 95 := by
  have hrange : ∀ {lo hi : Char}, lo ≤ c → c ≤ hi → lo.toNat ≤ c.toNat ∧ c.toNat ≤ hi.toNat := fun h h' => ⟨h, h'⟩
  unfold nodeIdRe at h
  split at h
  · cases h
  · rename_i d ds heq
    simp only [Bool.and_eq_true, Bool.or_eq_true, decide_eq_true_eq, List.all_eq_true, beq_iff_eq] at h
    rw [heq] at hc
    rcases List.mem_cons.mp hc with rfl | hc
    · exact .inl (hrange h.1.1.1 h.1.1.2)
    · rcases h.1.2 c hc with (hl | hd) | rfl
      · exact .inl (hrange hl.1 hl.2)
      · exact .inr (.inl (hrange hd.1 hd.2))
      · exact .inr (.inr rfl)

theorem loweredText_nodeId (h : nodeIdRe s = true) : loweredText (some (.str s) : Option (Json F)) = s := by
  have hstrip : strip s = s := by
    refine strip_eq_self fun c hc => isSpace_of_range ?_
    have := nodeIdRe_range h hc
    omega
  rw [loweredText, textOr_str, hstrip]
  refine lower_eq_self fun c hc => ?_
  have := nodeIdRe_range h hc
  omega

theorem nodeIdRe_kind (k : NodeKind) : nodeIdRe k.text = true := by
  cases k <;> simp [nodeIdRe, NodeKind.text]

theorem nodeIdRe_action (a : NodeAction) : nodeIdRe a.text = true := by
  cases a <;> simp [nodeIdRe, NodeAction.text]

theorem nodeIdRe_trigger (t : Trigger) : nodeIdRe t.text = true := by
  cases t <;> simp [nodeIdRe, Trigger.text]

theorem nodeIdRe_risk (r : RiskLevel) : nodeIdRe r.text = true := by
  cases r <;> simp [nodeIdRe, RiskLevel.text]

theorem nodeIdRe_dataClass (d : DataClass) : nodeIdRe d.text = true := by
  cases d <;> simp [nodeIdRe, DataClass.text]

theorem named_kind {k : NodeKind} (h : k ∈ NodeKind.base) : named NodeKind.text NodeKind.base k.text = some k := by
  revert h
  cases k <;> simp [named, NodeKind.base, NodeKind.text]

theorem named_action {a : NodeAction} (h : a ∈ NodeAction.base) :
    named NodeAction.text NodeAction.base a.text = some a := by
  revert h
  cases a <;> simp [named, NodeAction.base, NodeAction.text]

theorem named_trigger (t : Trigger) : named Trigger.text Trigger.all t.text = some t := by
  cases t <;> simp [named, Trigger.all, Trigger.text]

theorem named_risk (r : RiskLevel) : named RiskLevel.text RiskLevel.all r.text = some r := by
  cases r <;> simp [named, RiskLevel.all, RiskLevel.text]

theorem named_dataClass (d : DataClass) : named DataClass.text DataClass.all d.text = some d := by
  cases d <;> simp [named, DataClass.all, DataClass.text]

theorem mem_of_named {α : Type} {text : α → String} {members : List α} {a : α}
    (h : named text members s = some a) : a ∈ members ∧ text a = s :=
  ⟨List.mem_of_find?_eq_some h, by simpa using List.find?_some h⟩

theorem dedup_sublist {α : Type} [DecidableEq α] (xs : List α) : (dedup xs).Sublist xs := by
  induction xs with
  | nil => exact List.Sublist.refl _
  | cons x xs ih => exact (List.filter_sublist.trans ih).cons_cons x

variable {raw : Option (Json F)}

theorem validateDepends_normal
    (h : validateDepends nodeId raw = .ok parents) :
    parents.Nodup ∧ parents.length ≤ maxNodes ∧ ∀ p ∈ parents, nodeIdRe p = true := by
  unfold validateDepends at h
  split at h
  · cases h
    exact ⟨List.nodup_nil, Nat.zero_le _, by simp⟩
  · simp only [bind_ok, require_ok, pure_ok, exists_const] at h
    obtain ⟨hlen, ps, hps, rfl⟩ := h
    have hforall := mapM_ok.mp hps
    refine ⟨dedup_nodup ps, ?_, ?_⟩
    · have := (dedup_sublist ps).length_le
      have := hforall.length_eq
      omega
    · intro p hp
      obtain ⟨item, -, hitem⟩ := forall₂_mem_right hforall (mem_dedup.mp hp)
      simp only [bind_ok, require_ok, pure_ok, exists_const] at hitem
      rw [← hitem.2]
      exact hitem.1
  · simp only [throw_ok] at h

omit [PyRuntime F] in
theorem validateCondition_normal
    (h : validateCondition nodeId raw = .ok condition) : ∀ t ∈ condition, NormalText 240 t := by
  intro t ht
  unfold validateCondition at h
  split at h
  · cases h
    cases ht
  · cases h
    cases ht
  · simp only [boundedText, bind_ok, require_ok, pure_ok, exists_const, or_true, true_and] at h
    obtain ⟨_, ⟨hlen, rfl⟩, h⟩ := h
    split at h
    · rw [← h] at ht
      cases ht
    · rename_i hne
      rw [← h] at ht
      rw [← Option.some.inj ht]
      exact ⟨collapsed_collapsed _, hne, hlen⟩
  · simp only [throw_ok] at h

/-- What a validated node says of its item. -/
structure NodeOf (item : Json F) (n : WorkflowNode) : Prop where
  id : n.id = loweredText (item.get? "id")
  kind : named NodeKind.text NodeKind.base (loweredText (item.get? "kind")) = some n.kind
  action : named NodeAction.text NodeAction.base (loweredText (item.get? "action")) = some n.action
  approval : validateApproval n.id (item.get? "approval_required") = .ok n.approvalRequired
  normal : NormalNode n

variable {item : Json F}

theorem NodeOf.base (h : NodeOf item n) : n.Base :=
  ⟨(mem_of_named h.kind).1, (mem_of_named h.action).1⟩

theorem validateNode_nodeOf
    (h : validateNode index seen item = .ok n) : NodeOf item n ∧ n.id ∉ seen := by
  simp only [validateNode, bind_ok, require_ok, pure_ok, orRaise_ok, exists_const] at h
  obtain ⟨-, hid, hseen, kind, hkind, action, haction, parents, hparents, condition, hcondition, approval, happroval,
    label, hlabel, rfl⟩ := h
  obtain ⟨hnodup, hlen, hids⟩ := validateDepends_normal hparents
  exact ⟨⟨rfl, hkind, haction, happroval, hid, normalText_of_boundedText hlabel, hnodup, ⟨hlen, hids⟩,
    validateCondition_normal hcondition⟩, hseen⟩

theorem validateNodes_nodeOf {items : List (Json F)}
    (h : validateNodes index seen items = .ok nodes) :
    List.Forall₂ NodeOf items nodes ∧ (nodes.map WorkflowNode.id).Nodup ∧ ∀ n ∈ nodes, n.id ∉ seen := by
  induction items generalizing index seen nodes with
  | nil =>
    cases h
    exact ⟨.nil, List.nodup_nil, by simp⟩
  | cons item items ih =>
    simp only [validateNodes, bind_ok, pure_ok] at h
    obtain ⟨n, hn, rest, hrest, rfl⟩ := h
    obtain ⟨hof, hseen⟩ := validateNode_nodeOf hn
    obtain ⟨hall, hnodup, hnotin⟩ := ih hrest
    refine ⟨.cons hof hall, ?_, ?_⟩
    · rw [List.map_cons, List.nodup_cons]
      refine ⟨?_, hnodup⟩
      intro hmem
      obtain ⟨m, hm, heq⟩ := List.mem_map.mp hmem
      exact hnotin m hm (by simp [heq])
    · intro m hm
      rcases List.mem_cons.mp hm with rfl | hm
      · exact hseen
      · exact fun hmem => hnotin m hm (by simp [hmem])

/-! ### Validating a normal node again -/

/-- The item has the fields of the node. -/
structure ItemOf (n : WorkflowNode) (item : Json F) : Prop where
  dict : item.isDict = true
  id : item.get? "id" = some (.str n.id)
  label : item.get? "label" = some (.str n.label)
  kind : item.get? "kind" = some (.str n.kind.text)
  action : item.get? "action" = some (.str n.action.text)
  dependsOn : item.get? "depends_on" = some (.strs n.dependsOn)
  condition : item.get? "condition" = some (.ofOption .str n.condition)
  approval : item.get? "approval_required" = some (.bool n.approvalRequired)

omit [PyRuntime F] in
theorem itemOf_toJson (n : WorkflowNode) : ItemOf n (n.toJson : Json F) := by
  refine ⟨rfl, ?_, ?_, ?_, ?_, ?_, ?_, ?_⟩ <;> (rw [toJson, get?_dict]; rfl)

theorem validateDepends_again (hnodup : parents.Nodup)
    (h : parents.length ≤ maxNodes ∧ ∀ p ∈ parents, nodeIdRe p = true) :
    validateDepends nodeId (some (.strs parents) : Option (Json F)) = .ok parents := by
  simp only [validateDepends, Json.strs, bind_ok, require_ok, pure_ok, exists_const, List.length_map]
  refine ⟨h.1, parents, ?_, dedup_of_nodup hnodup⟩
  rw [mapM_ok, List.forall₂_map_left_iff, List.forall₂_same]
  intro p hp
  simp only [bind_ok, require_ok, pure_ok, exists_const, loweredText_nodeId (h.2 p hp)]
  exact ⟨h.2 p hp, trivial⟩

omit [PyRuntime F] in
theorem validateCondition_again (h : ∀ t ∈ condition, NormalText 240 t) :
    validateCondition nodeId (some (.ofOption .str condition) : Option (Json F)) = .ok condition := by
  cases condition with
  | none => rfl
  | some t =>
    have ht := h t rfl
    simp only [validateCondition, Json.ofOption, bind_ok, pure_ok]
    exact ⟨t, ht.boundedText _ _, by rw [if_neg ht.nonempty]⟩

theorem validateNode_again (h : NormalNode n)
    (hbase : n.Base) (hseen : n.id ∉ seen) (hitem : ItemOf n item) : validateNode index seen item = .ok n := by
  simp only [validateNode, bind_ok, require_ok, pure_ok, orRaise_ok, exists_const, hitem.id, hitem.kind, hitem.action,
    hitem.label, hitem.dependsOn, hitem.condition, hitem.approval, loweredText_nodeId h.id,
    loweredText_nodeId (nodeIdRe_kind n.kind), loweredText_nodeId (nodeIdRe_action n.action), textOr_str]
  exact ⟨hitem.dict, h.id, hseen, _, named_kind hbase.1, _, named_action hbase.2, _,
    validateDepends_again h.dependsOn h.parents, _, validateCondition_again h.condition, _, rfl, _,
    h.label.boundedText _ _, rfl⟩

theorem validateNodes_again {items : List (Json F)}
    (hitems : List.Forall₂ (fun n item => NormalNode n ∧ n.Base ∧ ItemOf n item) nodes items)
    (hnodup : (nodes.map WorkflowNode.id).Nodup) (hseen : ∀ n ∈ nodes, n.id ∉ seen) :
    validateNodes index seen items = .ok nodes := by
  induction hitems generalizing index seen with
  | nil => rfl
  | @cons n item nodes items hn _ ih =>
    rw [List.map_cons, List.nodup_cons] at hnodup
    simp only [validateNodes, bind_ok, pure_ok]
    refine ⟨n, validateNode_again hn.1 hn.2.1 (hseen n (by simp)) hn.2.2, nodes, ih hnodup.2 ?_, rfl⟩
    intro m hm hmem
    rcases List.mem_append.mp hmem with hmem | hmem
    · exact hseen m (by simp [hm]) hmem
    · apply hnodup.1
      rw [← List.mem_singleton.mp hmem]
      exact List.mem_map_of_mem hm

end Nodes

/-! ## Contracts -/

/-- The normal form of a contract. -/
structure NormalContract (c : WorkflowContract) : Prop where
  title : NormalText 120 c.title
  objective : NormalText 800 c.objective
  count : 2 ≤ c.nodes.length ∧ c.nodes.length ≤ maxNodes
  ids : (c.nodes.map WorkflowNode.id).Nodup
  nodes : ∀ n ∈ c.nodes, NormalNode n ∧ (n.Base ∨ n.Parallel)
  graph : ∃ r, graph (c.nodes.map WorkflowNode.surrogate) = .ok r
  outputs : c.outputs.length ≤ 12 ∧ ∀ t ∈ c.outputs, NormalText 160 t
  distinct : c.warnings.Nodup
  warnings : ∀ t ∈ c.warnings, NormalText 240 t
  added : addedWarnings (c.nodes.map WorkflowNode.surrogate) c.trigger c.riskLevel ⊆ c.warnings

theorem normalText_added {trigger : Trigger} {risk : RiskLevel} :
    ∀ t ∈ addedWarnings nodes trigger risk, NormalText 240 t := by
  have houtput : NormalText 240 "No explicit output node was supplied." :=
    ⟨by decide +kernel, by decide, by decide +kernel⟩
  have htrigger : NormalText 240
      "Trigger is represented for design only; V1 does not authorize scheduling or event execution." :=
    ⟨by decide +kernel, by decide, by decide +kernel⟩
  have hmanual : NormalText 240 "Manual steps are visualized but cannot be converted into executable authority." :=
    ⟨by decide +kernel, by decide, by decide +kernel⟩
  have hrisk : NormalText 240
      "High-risk workflow has no approval checkpoint; review before any future execution." :=
    ⟨by decide +kernel, by decide, by decide +kernel⟩
  intro t ht
  unfold addedWarnings at ht
  simp only [List.mem_append] at ht
  rcases ht with ((ht | ht) | ht) | ht
  · split at ht
    · cases ht
    · rw [List.mem_singleton.mp ht]
      exact houtput
  · split at ht
    · cases ht
    · rw [List.mem_singleton.mp ht]
      exact htrigger
  · split at ht
    · rw [List.mem_singleton.mp ht]
      exact hmanual
    · cases ht
  · split at ht
    · rw [List.mem_singleton.mp ht]
      exact hrisk
    · cases ht

theorem map_surrogate_of_base (h : ∀ n ∈ nodes, n.Base) :
    nodes.map surrogate = nodes := by
  conv_rhs => rw [← List.map_id nodes]
  exact List.map_congr_left fun n hn => (h n hn).surrogate

variable {ts : List String}

section Contracts

variable {F : Type} [PyRuntime F]

variable {items : List (Json F)}

theorem boundedTexts_normal
    (h : boundedTexts items field limit = .ok ts) : ts.length = items.length ∧ ∀ t ∈ ts, NormalText limit t := by
  have hall := mapM_ok.mp h
  refine ⟨hall.length_eq.symm, ?_⟩
  intro t ht
  obtain ⟨item, -, hitem⟩ := forall₂_mem_right hall ht
  exact normalText_of_boundedText hitem

theorem boundedTexts_again (h : ∀ t ∈ ts, NormalText limit t) :
    boundedTexts (ts.map .str : List (Json F)) field limit = .ok ts := by
  unfold boundedTexts
  rw [mapM_ok, List.forall₂_map_left_iff, List.forall₂_same]
  intro t ht
  rw [textOr_str]
  exact (h t ht).boundedText _ _

omit [PyRuntime F] in
theorem boundedList_length {raw : Option (Json F)} {message : String}
    (h : boundedList raw message = .ok items) : items.length ≤ 12 := by
  unfold boundedList at h
  split at h
  · cases h
    exact Nat.zero_le _
  · simp only [bind_ok, require_ok, pure_ok, exists_const] at h
    rw [← h.2]
    exact h.1
  · simp only [throw_ok] at h

variable {raw : Json F}

theorem validateContract_normal (h : validateContract raw = .ok c) :
    NormalContract c ∧ (∀ n ∈ c.nodes, n.Base) ∧ ∃ items, raw.get? "nodes" = some (.arr items) ∧
      List.Forall₂ NodeOf items c.nodes := by
  simp only [validateContract, bind_ok, require_ok, pure_ok, orRaise_ok, exists_const] at h
  obtain ⟨-, trigger, -, risk, -, dataClass, -, items, hitems, nodes, hnodes, g, hgraph, outs, houts, warns, hwarns, given,
    hgiven, title, htitle, objective, hobjective, outputs, houtputs, rfl⟩ := h
  obtain ⟨hall, hnodup, -⟩ := validateNodes_nodeOf hnodes
  have hbase : ∀ n ∈ nodes, n.Base := by
    intro n hn
    obtain ⟨item, -, hof⟩ := forall₂_mem_right hall hn
    exact hof.base
  have hraw : raw.get? "nodes" = some (.arr items) ∧ 2 ≤ items.length ∧ items.length ≤ maxNodes := by
    unfold rawNodes at hitems
    split at hitems
    · rename_i items' heq
      simp only [bind_ok, require_ok, pure_ok, exists_const] at hitems
      rw [← hitems.2]
      exact ⟨heq, hitems.1⟩
    · simp only [throw_ok] at hitems
  have hlen := hall.length_eq
  obtain ⟨houtlen, houtnormal⟩ := boundedTexts_normal houtputs
  have houtbound := boundedList_length houts
  have hcount : 2 ≤ nodes.length ∧ nodes.length ≤ maxNodes := by omega
  have hfew : outputs.length ≤ 12 := by omega
  refine ⟨⟨normalText_of_boundedText htitle, normalText_of_boundedText hobjective, hcount, hnodup, ?_, ?_,
    ⟨hfew, houtnormal⟩, dedup_nodup _, ?_, ?_⟩, hbase, items, hraw.1, hall⟩
  · intro n hn
    obtain ⟨item, -, hof⟩ := forall₂_mem_right hall hn
    exact ⟨hof.normal, .inl hof.base⟩
  · rw [map_surrogate_of_base hbase]
    exact ⟨g, hgraph⟩
  · intro t ht
    rcases List.mem_append.mp (mem_dedup.mp ht) with ht | ht
    · exact (boundedTexts_normal hgiven).2 t ht
    · exact normalText_added t ht
  · rw [map_surrogate_of_base hbase]
    intro t ht
    exact mem_dedup.mpr (List.mem_append_right _ ht)

/-- The value has the fields of the contract. -/
structure ContractOf (c : WorkflowContract) (raw : Json F) : Prop where
  dict : raw.isDict = true
  title : raw.get? "title" = some (.str c.title)
  objective : raw.get? "objective" = some (.str c.objective)
  trigger : raw.get? "trigger" = some (.str c.trigger.text)
  riskLevel : raw.get? "risk_level" = some (.str c.riskLevel.text)
  dataClass : raw.get? "data_class" = some (.str c.dataClass.text)
  nodes : ∃ items, raw.get? "nodes" = some (.arr items) ∧ List.Forall₂ ItemOf c.nodes items
  outputs : raw.get? "outputs" = some (.strs c.outputs)
  warnings : raw.get? "warnings" = some (.strs c.warnings)

theorem validateContract_again (h : NormalContract c) (hbase : ∀ n ∈ c.nodes, n.Base)
    (hwarnings : c.warnings.length ≤ 12) (hraw : ContractOf c raw) : validateContract raw = .ok c := by
  obtain ⟨items, hitems, hall⟩ := hraw.nodes
  have hlen := hall.length_eq
  have hnodes : validateNodes 0 [] items = .ok c.nodes := by
    refine validateNodes_again ?_ h.ids (by simp)
    refine List.forall₂_iff_get.mpr ⟨hlen, ?_⟩
    intro i hi hi'
    exact ⟨(h.nodes _ (List.get_mem _ _)).1, hbase _ (List.get_mem _ _), (List.forall₂_iff_get.mp hall).2 i hi hi'⟩
  obtain ⟨r, hgraph⟩ := h.graph
  have hadded := h.added
  rw [map_surrogate_of_base hbase] at hgraph hadded
  have hboth : dedup (c.warnings ++ addedWarnings c.nodes c.trigger c.riskLevel) = c.warnings :=
    dedup_append_of_subset h.distinct hadded
  simp only [validateContract, bind_ok, require_ok, pure_ok, orRaise_ok, exists_const, hraw.trigger, hraw.riskLevel,
    hraw.dataClass, hraw.title, hraw.objective, hraw.outputs, hraw.warnings, hitems, textOr_str,
    loweredText_nodeId (nodeIdRe_trigger c.trigger), loweredText_nodeId (nodeIdRe_risk c.riskLevel),
    loweredText_nodeId (nodeIdRe_dataClass c.dataClass)]
  refine ⟨hraw.dict, _, named_trigger _, _, named_risk _, _, named_dataClass _, items, ?_, _, hnodes, r, hgraph, _, ?_, _,
    ?_, _, boundedTexts_again h.warnings, _, h.title.boundedText _ _, _, h.objective.boundedText _ _, _,
    boundedTexts_again h.outputs.2, ?_⟩
  · simp only [rawNodes, bind_ok, require_ok, pure_ok, exists_const, and_true]
    have := h.count
    omega
  · simp only [boundedList, Json.strs, bind_ok, require_ok, pure_ok, exists_const, List.length_map, and_true]
    exact h.outputs.1
  · simp only [boundedList, Json.strs, bind_ok, require_ok, pure_ok, exists_const, List.length_map, and_true]
    exact hwarnings
  · rw [hboth]

/-! ## The parallel vocabulary -/

/-- The entry of a node in the surrogate. -/
structure SurrogateOf (node : Json F) (entry : Json F × Option (String × NodeKind × NodeAction)) : Prop where
  dict : node.isDict = true
  entry : entry = (node, none) ∨ ∃ action, (action = .parallelFork ∨ action = .parallelJoin) ∧
    ((node.get? "approval_required").map Json.truthy).getD false = false ∧
    entry = ((node.setKey "kind" (.str "validation")).setKey "action" (.str "validate"),
      some (loweredText (node.get? "id"), .parallel, action))

theorem surrogateNode_of {node : Json F} {entry : Json F × Option (String × NodeKind × NodeAction)}
    (h : surrogateNode index node = .ok entry) : SurrogateOf node entry := by
  simp only [surrogateNode, bind_ok, require_ok, exists_const] at h
  obtain ⟨hdict, h⟩ := h
  refine ⟨hdict, ?_⟩
  split at h
  · simp only [bind_ok, require_ok, pure_ok, orRaise_ok, exists_const] at h
    obtain ⟨pair, hpair, happroval, rfl⟩ := h
    right
    unfold parallelPair at hpair
    split at hpair
    · cases hpair
    · obtain ⟨action, haction, rfl⟩ := Option.map_eq_some_iff.mp hpair
      have hmem := (mem_of_named haction).1
      simp only [List.mem_cons, List.not_mem_nil, or_false] at hmem
      exact ⟨action, hmem, happroval, rfl⟩
  · cases h
    exact .inl rfl

variable {entries : List (Json F × Option (String × NodeKind × NodeAction))}

theorem surrogateNodes_of {nodes : List (Json F)}
    (h : surrogateNodes index nodes = .ok entries) : List.Forall₂ SurrogateOf nodes entries := by
  induction nodes generalizing index entries with
  | nil =>
    cases h
    exact .nil
  | cons node nodes ih =>
    simp only [surrogateNodes, bind_ok, pure_ok] at h
    obtain ⟨entry, hentry, rest, hrest, rfl⟩ := h
    exact .cons (surrogateNode_of hentry) (ih hrest)

omit [PyRuntime F] in
theorem lookup_mem {β : Type} {k : String} {v : β} : ∀ {l : List (String × β)}, l.lookup k = some v → (k, v) ∈ l
  | (k', v') :: l, h => by
    rw [List.lookup_cons] at h
    split at h
    · rename_i heq
      cases h
      rw [eq_of_beq heq]
      exact List.mem_cons_self
    · exact List.mem_cons_of_mem _ (lookup_mem h)

theorem restore_parallel
    (hentries : List.Forall₂ SurrogateOf items entries)
    (hnodes : List.Forall₂ NodeOf (entries.map Prod.fst) nodes) (hids : (nodes.map WorkflowNode.id).Nodup) (hn : n ∈ nodes) :
    restoreNode (entries.filterMap Prod.snd) n = n ∨
      ∃ action, (action = .parallelFork ∨ action = .parallelJoin) ∧ n.kind = .validation ∧ n.action = .validate ∧
        n.approvalRequired = false ∧
        restoreNode (entries.filterMap Prod.snd) n = { n with kind := .parallel, action := action } := by
  unfold restoreNode
  cases hlookup : (entries.filterMap Prod.snd).reverse.lookup n.id with
  | none => exact .inl rfl
  | some pair =>
    right
    obtain ⟨entry, hentry, hsnd⟩ := List.mem_filterMap.mp (List.mem_reverse.mp (lookup_mem hlookup))
    obtain ⟨item, -, hof⟩ := forall₂_mem_right hentries hentry
    rcases hof.entry with hsame | ⟨action, haction, happroval, hnew⟩
    · rw [hsame] at hsnd
      cases hsnd
    · rw [hnew] at hsnd
      have hpair := Option.some.inj hsnd
      simp only [Prod.mk.injEq] at hpair
      obtain ⟨hid, hpair⟩ := hpair
      -- the node of this entry is `n`, since the ids are distinct
      obtain ⟨m, hm, hnode⟩ := forall₂_mem_left hnodes (List.mem_map_of_mem hentry)
      rw [hnew] at hnode
      have hdict : (item.setKey "kind" (.str "validation")).isDict = true := by
        rw [isDict_setKey]
        exact hof.dict
      have hget : ∀ k, k ≠ "action" → k ≠ "kind" →
          ((item.setKey "kind" (.str "validation")).setKey "action" (.str "validate")).get? k = item.get? k := by
        intro k hk hk'
        rw [get?_setKey hdict, if_neg hk, get?_setKey hof.dict, if_neg hk']
      have hmn : m = n := by
        refine List.inj_on_of_nodup_map hids hm hn ?_
        rw [hnode.id, hget "id" (by decide) (by decide), hid]
      rw [hmn] at hnode
      have hkind := hnode.kind
      have hact := hnode.action
      have happ := hnode.approval
      have hlower : loweredText (some (.str "validation") : Option (Json F)) = "validation" :=
        loweredText_nodeId (nodeIdRe_kind .validation)
      have hlower' : loweredText (some (.str "validate") : Option (Json F)) = "validate" :=
        loweredText_nodeId (nodeIdRe_action .validate)
      rw [get?_setKey hdict, if_neg (by decide), get?_setKey hof.dict, if_pos rfl, hlower] at hkind
      rw [get?_setKey hdict, if_pos rfl, hlower'] at hact
      rw [hget _ (by decide) (by decide)] at happ
      refine ⟨action, haction, ?_, ?_, ?_, ?_⟩
      · have hvalidation : named NodeKind.text NodeKind.base "validation" = some .validation := by
          simp [named, NodeKind.base, NodeKind.text]
        exact Option.some.inj (hkind.symm.trans hvalidation)
      · have hvalidate : named NodeAction.text NodeAction.base "validate" = some .validate := by
          simp [named, NodeAction.base, NodeAction.text]
        exact Option.some.inj (hact.symm.trans hvalidate)
      · unfold validateApproval at happ
        split at happ
        · exact (Except.ok.inj happ).symm
        · rename_i b heq
          rw [heq] at happroval
          rw [← Except.ok.inj happ]
          exact happroval
        · simp only [throw_ok] at happ
      · rw [← hpair]

theorem validateContractV4_normal (h : validateContractV4 raw = .ok c) :
    NormalContract c := by
  simp only [validateContractV4, bind_ok, require_ok, exists_const] at h
  obtain ⟨hdict, h⟩ := h
  split at h
  · rename_i items hitems
    simp only [bind_ok, pure_ok] at h
    obtain ⟨entries, hentries, validated, hvalidated, rfl⟩ := h
    obtain ⟨hnormal, hbase, items', hitems', hnodes⟩ := validateContract_normal hvalidated
    rw [get?_setKey hdict, if_pos rfl] at hitems'
    obtain rfl := Json.arr.inj (Option.some.inj hitems')
    have hrestore := fun n hn => restore_parallel (surrogateNodes_of hentries) hnodes hnormal.ids (n := n) hn
    have hsurrogate : (validated.nodes.map (restoreNode (entries.filterMap Prod.snd))).map surrogate =
        validated.nodes := by
      rw [List.map_map]
      conv_rhs => rw [← List.map_id validated.nodes]
      refine List.map_congr_left fun n hn => ?_
      rcases hrestore n hn with hsame | ⟨action, -, hkind, haction, -, hnew⟩
      · rw [Function.comp, hsame, (hbase n hn).surrogate]
        rfl
      · rw [Function.comp, hnew]
        show { n with kind := .validation, action := .validate } = n
        rw [← hkind, ← haction]
    have hids : (validated.nodes.map (restoreNode (entries.filterMap Prod.snd))).map WorkflowNode.id =
        validated.nodes.map WorkflowNode.id := by
      rw [List.map_map]
      refine List.map_congr_left fun n hn => ?_
      rcases hrestore n hn with hsame | ⟨action, -, -, -, -, hnew⟩
      · rw [Function.comp, hsame]
      · rw [Function.comp, hnew]
    refine ⟨hnormal.title, hnormal.objective, by simpa using hnormal.count, ?_, ?_, ?_, hnormal.outputs, hnormal.distinct,
      hnormal.warnings, ?_⟩
    · show ((validated.nodes.map _).map _).Nodup
      rw [hids]
      exact hnormal.ids
    · intro n hn
      obtain ⟨m, hm, rfl⟩ := List.mem_map.mp hn
      have hmnormal := (hnormal.nodes m hm).1
      rcases hrestore m hm with hsame | ⟨action, haction, -, -, happroval, hnew⟩
      · rw [hsame]
        exact ⟨hmnormal, .inl (hbase m hm)⟩
      · rw [hnew]
        exact ⟨⟨hmnormal.id, hmnormal.label, hmnormal.dependsOn, hmnormal.parents, hmnormal.condition⟩,
          .inr ⟨rfl, haction, happroval⟩⟩
    · show ∃ r, graph ((validated.nodes.map _).map _) = .ok r
      rw [hsurrogate]
      have hgraph := hnormal.graph
      rwa [map_surrogate_of_base hbase] at hgraph
    · show addedWarnings ((validated.nodes.map _).map _) _ _ ⊆ _
      rw [hsurrogate]
      have hadded := hnormal.added
      rwa [map_surrogate_of_base hbase] at hadded
  · simp only [throw_ok] at h

/-! ### Validating a normal contract again -/

omit [PyRuntime F] in
theorem base_texts (h : n.Base) :
    ¬ (n.kind.text = "parallel" ∨ n.action.text = "parallel_fork" ∨ n.action.text = "parallel_join") := by
  obtain ⟨hkind, haction⟩ := h
  have hk : ∀ k ∈ NodeKind.base, k.text ≠ "parallel" := by decide
  have ha : ∀ a ∈ NodeAction.base, a.text ≠ "parallel_fork" ∧ a.text ≠ "parallel_join" := by decide
  intro hor
  rcases hor with hor | hor | hor
  · exact hk _ hkind hor
  · exact (ha _ haction).1 hor
  · exact (ha _ haction).2 hor

/-- The entry that a normal node has in the surrogate. -/
def surrogateEntry (n : WorkflowNode) : Json F × Option (String × NodeKind × NodeAction) :=
  if n.kind = .parallel then
    ((n.toJson.setKey "kind" (.str "validation")).setKey "action" (.str "validate"), some (n.id, n.kind, n.action))
  else (n.toJson, none)

theorem surrogateNode_again (h : NormalNode n) (hvocabulary : n.Base ∨ n.Parallel) :
    surrogateNode index (n.toJson : Json F) = .ok (surrogateEntry n) := by
  have hitem := itemOf_toJson (F := F) n
  simp only [surrogateNode, bind_ok, require_ok, exists_const, hitem.id, hitem.kind, hitem.action, hitem.approval,
    loweredText_nodeId h.id, loweredText_nodeId (nodeIdRe_kind n.kind), loweredText_nodeId (nodeIdRe_action n.action)]
  refine ⟨hitem.dict, ?_⟩
  rcases hvocabulary with hbase | hparallel
  · rw [if_neg (base_texts hbase), surrogateEntry, if_neg]
    · rfl
    · intro hkind
      exact base_texts hbase (.inl (by rw [hkind]; rfl))
  · obtain ⟨hkind, haction, happroval⟩ := hparallel
    have hpair : parallelPair n.kind.text n.action.text = some (n.kind, n.action) := by
      rcases haction with haction | haction
      · rw [hkind, haction]
        decide
      · rw [hkind, haction]
        decide
    rw [if_pos (.inl (by rw [hkind]; rfl)), surrogateEntry, if_pos hkind]
    simp only [bind_ok, pure_ok, orRaise_ok]
    exact ⟨_, hpair, ⟨⟩, require_ok.mpr happroval, rfl⟩

theorem surrogateNodes_again
    (h : ∀ n ∈ nodes, NormalNode n ∧ (n.Base ∨ n.Parallel)) :
    surrogateNodes index (nodes.map toJson : List (Json F)) = .ok (nodes.map surrogateEntry) := by
  induction nodes generalizing index with
  | nil => rfl
  | cons n nodes ih =>
    obtain ⟨hnormal, hvocabulary⟩ := h n (by simp)
    simp only [List.map_cons, surrogateNodes, bind_ok, pure_ok]
    exact ⟨_, surrogateNode_again hnormal hvocabulary, _, ih fun m hm => h m (by simp [hm]), rfl⟩

omit [PyRuntime F] in
theorem itemOf_surrogate (n : WorkflowNode) : ItemOf n.surrogate (surrogateEntry (F := F) n).1 := by
  have hitem := itemOf_toJson (F := F) n
  unfold surrogateEntry surrogate
  by_cases hkind : n.kind = .parallel
  · rw [if_pos hkind, if_pos hkind]
    have hdict : (n.toJson.setKey "kind" (.str "validation") : Json F).isDict = true := by
      rw [isDict_setKey]
      exact hitem.dict
    have hget : ∀ k, k ≠ "action" → k ≠ "kind" →
        ((n.toJson.setKey "kind" (.str "validation")).setKey "action" (.str "validate") : Json F).get? k =
          (n.toJson : Json F).get? k := by
      intro k hk hk'
      rw [get?_setKey hdict, if_neg hk, get?_setKey hitem.dict, if_neg hk']
    refine ⟨?_, ?_, ?_, ?_, ?_, ?_, ?_, ?_⟩
    · rw [isDict_setKey]
      exact hdict
    · exact (hget _ (by decide) (by decide)).trans hitem.id
    · exact (hget _ (by decide) (by decide)).trans hitem.label
    · rw [get?_setKey hdict, if_neg (by decide), get?_setKey hitem.dict, if_pos rfl]
      rfl
    · rw [get?_setKey hdict, if_pos rfl]
      rfl
    · exact (hget _ (by decide) (by decide)).trans hitem.dependsOn
    · exact (hget _ (by decide) (by decide)).trans hitem.condition
    · exact (hget _ (by decide) (by decide)).trans hitem.approval
  · rw [if_neg hkind, if_neg hkind]
    exact hitem

omit [PyRuntime F] in
theorem restore_surrogate (hids : (nodes.map WorkflowNode.id).Nodup)
    (hn : n ∈ nodes) : restoreNode ((nodes.map (surrogateEntry (F := F))).filterMap Prod.snd) n.surrogate = n := by
  have hpairs : ∀ k pair, (k, pair) ∈ (nodes.map (surrogateEntry (F := F))).filterMap Prod.snd →
      ∃ m ∈ nodes, m.kind = .parallel ∧ m.id = k ∧ pair = (m.kind, m.action) := by
    intro k pair hmem
    obtain ⟨entry, hentry, hsnd⟩ := List.mem_filterMap.mp hmem
    obtain ⟨m, hm, rfl⟩ := List.mem_map.mp hentry
    unfold surrogateEntry at hsnd
    split at hsnd
    · rename_i hkind
      cases hsnd
      exact ⟨m, hm, hkind, rfl, rfl⟩
    · cases hsnd
  unfold restoreNode
  rw [surrogate_id]
  cases hlookup : ((nodes.map (surrogateEntry (F := F))).filterMap Prod.snd).reverse.lookup n.id with
  | none =>
    -- a parallel node would have an entry
    have hkind : n.kind ≠ .parallel := by
      intro hkind
      have hmem : (n.id, n.kind, n.action) ∈ ((nodes.map (surrogateEntry (F := F))).filterMap Prod.snd).reverse := by
        rw [List.mem_reverse, List.mem_filterMap]
        exact ⟨_, List.mem_map_of_mem hn, by rw [surrogateEntry, if_pos hkind]⟩
      rw [List.lookup_eq_none_iff] at hlookup
      exact absurd (hlookup _ hmem) (by simp)
    rw [surrogate, if_neg hkind]
  | some pair =>
    obtain ⟨m, hm, hkind, hid, rfl⟩ := hpairs _ _ (List.mem_reverse.mp (lookup_mem hlookup))
    obtain rfl := List.inj_on_of_nodup_map hids hm hn hid
    simp only [surrogate, if_pos hkind]

omit [PyRuntime F] in
theorem get?_toJson (c : WorkflowContract) :
    (c.toJson : Json F).isDict = true ∧ (c.toJson : Json F).get? "title" = some (.str c.title) ∧
      (c.toJson : Json F).get? "objective" = some (.str c.objective) ∧
      (c.toJson : Json F).get? "trigger" = some (.str c.trigger.text) ∧
      (c.toJson : Json F).get? "risk_level" = some (.str c.riskLevel.text) ∧
      (c.toJson : Json F).get? "data_class" = some (.str c.dataClass.text) ∧
      (c.toJson : Json F).get? "nodes" = some (.arr (c.nodes.map toJson)) ∧
      (c.toJson : Json F).get? "outputs" = some (.strs c.outputs) ∧
      (c.toJson : Json F).get? "warnings" = some (.strs c.warnings) := by
  refine ⟨rfl, ?_, ?_, ?_, ?_, ?_, ?_, ?_, ?_⟩ <;> (rw [WorkflowContract.toJson, get?_dict]; rfl)

theorem validateContractV4_again (h : NormalContract c) (hwarnings : c.warnings.length ≤ 12) :
    validateContractV4 (c.toJson : Json F) = .ok c := by
  obtain ⟨hdict, htitle, hobjective, htrigger, hrisk, hclass, hnodes, houtputs, hwarns⟩ := get?_toJson (F := F) c
  simp only [validateContractV4, bind_ok, require_ok, exists_const, hnodes, pure_ok]
  refine ⟨hdict, _, surrogateNodes_again h.nodes, { c with nodes := c.nodes.map surrogate }, ?_, ?_⟩
  · have hbase : ∀ n ∈ c.nodes.map surrogate, n.Base := by
      intro n hn
      obtain ⟨m, hm, rfl⟩ := List.mem_map.mp hn
      exact surrogate_base (h.nodes m hm).2
    refine validateContract_again ?_ hbase hwarnings ?_
    · refine ⟨h.title, h.objective, by simpa using h.count, ?_, ?_, ?_, h.outputs, h.distinct, h.warnings, ?_⟩
      · show ((c.nodes.map _).map _).Nodup
        rw [List.map_map]
        exact (List.map_congr_left fun n _ => surrogate_id n) ▸ h.ids
      · intro n hn
        refine ⟨?_, .inl (hbase n hn)⟩
        obtain ⟨m, hm, rfl⟩ := List.mem_map.mp hn
        exact (h.nodes m hm).1.surrogate
      · show ∃ r, graph ((c.nodes.map _).map _) = .ok r
        rw [map_surrogate_of_base hbase]
        exact h.graph
      · show addedWarnings ((c.nodes.map _).map _) _ _ ⊆ _
        rw [map_surrogate_of_base hbase]
        exact h.added
    · have hget : ∀ k, k ≠ "nodes" → ∀ v, (c.toJson.setKey "nodes" v : Json F).get? k = (c.toJson : Json F).get? k := by
        intro k hk v
        rw [get?_setKey hdict, if_neg hk]
      refine ⟨?_, ?_, ?_, ?_, ?_, ?_, ⟨(c.nodes.map surrogateEntry).map Prod.fst, ?_, ?_⟩, ?_, ?_⟩
      · rw [isDict_setKey]
        exact hdict
      · exact (hget _ (by decide) _).trans htitle
      · exact (hget _ (by decide) _).trans hobjective
      · exact (hget _ (by decide) _).trans htrigger
      · exact (hget _ (by decide) _).trans hrisk
      · exact (hget _ (by decide) _).trans hclass
      · rw [get?_setKey hdict, if_pos rfl]
      · show List.Forall₂ ItemOf (c.nodes.map surrogate) _
        rw [List.map_map, List.forall₂_map_left_iff, List.forall₂_map_right_iff, List.forall₂_same]
        exact fun n _ => itemOf_surrogate n
      · exact (hget _ (by decide) _).trans houtputs
      · exact (hget _ (by decide) _).trans hwarns
  · show { c with nodes := (c.nodes.map surrogate).map _ } = c
    have hback : (c.nodes.map surrogate).map
        (restoreNode ((c.nodes.map (surrogateEntry (F := F))).filterMap Prod.snd)) = c.nodes := by
      rw [List.map_map]
      conv_rhs => rw [← List.map_id c.nodes]
      exact List.map_congr_left fun n hn => restore_surrogate h.ids hn
    rw [hback]

theorem validateContractV4_refused (hwarnings : 12 < c.warnings.length) (c' : WorkflowContract) :
    validateContractV4 (c.toJson : Json F) ≠ .ok c' := by
  intro h
  obtain ⟨hdict, -, -, -, -, -, hnodes, -, hwarns⟩ := get?_toJson (F := F) c
  simp only [validateContractV4, bind_ok, require_ok, exists_const, hnodes, pure_ok] at h
  obtain ⟨-, entries, -, validated, hvalidated, -⟩ := h
  simp only [validateContract, bind_ok, get?_setKey hdict, hwarns] at hvalidated
  obtain ⟨_, -, _, -, _, -, _, -, _, -, _, -, _, -, _, -, items, hitems, -⟩ := hvalidated
  rw [if_neg (by decide)] at hitems
  simp only [boundedList, Json.strs, bind_ok, require_ok, List.length_map] at hitems
  obtain ⟨_, hle, -⟩ := hitems
  omega

end Contracts

end ThreeAgent
