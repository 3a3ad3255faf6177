/-
The topological order of `_graph`. The loop keeps, of every node, the number of
its dependencies that have not left the queue, and a node is in the queue or
past it exactly when that number is zero; so what is left when the queue is
empty is a set of nodes each with a parent in the set, which is empty exactly
when the graph has no cycle. The level of a node is kept one above the highest
level of its parents that have left the queue.
-/
import ThreeAgent.WorkflowDesign
import ThreeAgent.Lib.Dag

namespace ThreeAgent

open PyText Outcome PyDict

/-- The dependency relation of the nodes: the second depends on the first. -/
def Depends (nodes : List WorkflowNode) (p c : String) : Prop := ∃ n ∈ nodes, n.id = c ∧ p ∈ n.dependsOn

/-- Every dependency is another listed node. -/
def DependsKnown (nodes : List WorkflowNode) : Prop :=
  ∀ n ∈ nodes, ∀ p ∈ n.dependsOn, p ∈ nodes.map WorkflowNode.id ∧ p ≠ n.id

/-- The number of edges, each dependency of each node counted. -/
def edgeCount (nodes : List WorkflowNode) : Nat := (nodes.map fun n => n.dependsOn.length).sum

variable {ids : List String} {n : WorkflowNode}

theorem checkParents_ok :
    checkParents ids n = .ok () ↔ ∀ p ∈ n.dependsOn, p ∈ ids ∧ p ≠ n.id := by
  simp only [checkParents, bind_ok, pure_ok]
  constructor
  · rintro ⟨_, h, _⟩ p hp
    obtain ⟨_, -, hcheck⟩ := forall₂_mem_left (mapM_ok.mp h) hp
    simp only [bind_ok, require_ok, exists_const] at hcheck
    exact hcheck
  · intro h
    refine ⟨n.dependsOn.map fun _ => (), mapM_ok.mpr ?_, trivial⟩
    rw [List.forall₂_map_right_iff, List.forall₂_same]
    intro p hp
    simp only [bind_ok, require_ok, exists_const]
    exact h p hp

variable {nodes : List WorkflowNode}

theorem mapM_checkParents_ok :
    (∃ us, nodes.mapM (checkParents ids) = .ok us) ↔ ∀ n ∈ nodes, ∀ p ∈ n.dependsOn, p ∈ ids ∧ p ≠ n.id := by
  constructor
  · intro ⟨_, h⟩ n hn
    obtain ⟨_, -, hcheck⟩ := forall₂_mem_left (mapM_ok.mp h) hn
    exact checkParents_ok.mp hcheck
  · intro h
    refine ⟨nodes.map fun _ => (), mapM_ok.mpr ?_⟩
    rw [List.forall₂_map_right_iff, List.forall₂_same]
    exact fun n hn => checkParents_ok.mpr (h n hn)

/-! ## Children -/

theorem mem_graphChildren {p c : String} : c ∈ graphChildren nodes p ↔ Depends nodes p c := by
  simp only [graphChildren, Depends, List.mem_flatMap, List.mem_map, List.mem_filter, decide_eq_true_eq]
  constructor
  · intro ⟨n, hn, q, ⟨hq, hqp⟩, hc⟩
    exact ⟨n, hn, hc, hqp ▸ hq⟩
  · intro ⟨n, hn, hc, hp⟩
    exact ⟨n, hn, p, ⟨hp, rfl⟩, hc⟩

theorem count_graphChildren (hids : (nodes.map WorkflowNode.id).Nodup)
    (hn : n ∈ nodes) (p : String) : (graphChildren nodes p).count n.id = n.dependsOn.count p := by
  induction nodes with
  | nil => cases hn
  | cons m nodes ih =>
    rw [List.map_cons, List.nodup_cons] at hids
    have hcons : graphChildren (m :: nodes) p = ((m.dependsOn.filter (· = p)).map fun _ => m.id) ++ graphChildren nodes p :=
      List.flatMap_cons
    have hhead : ∀ k : String, (((m.dependsOn.filter (· = p)).map fun _ => m.id).count k) =
        if m.id = k then m.dependsOn.count p else 0 := by
      intro k
      rw [List.map_const', List.count_replicate]
      by_cases hk : m.id = k
      · rw [if_pos (by simpa using hk), if_pos hk, List.count_eq_length_filter]
        exact congrArg _ (List.filter_congr fun q _ => rfl)
      · rw [if_neg (by simpa using hk), if_neg hk]
    rw [hcons, List.count_append, hhead]
    rcases List.mem_cons.mp hn with rfl | hn
    · have habsent : (graphChildren nodes p).count n.id = 0 := by
        refine List.count_eq_zero.mpr ?_
        intro hmem
        obtain ⟨m, hm, hid, -⟩ := mem_graphChildren.mp hmem
        exact hids.1 (hid ▸ List.mem_map_of_mem hm)
      rw [if_pos rfl, habsent, Nat.add_zero]
    · have hne : m.id ≠ n.id := fun heq => hids.1 (heq ▸ List.mem_map_of_mem hn)
      rw [if_neg hne, Nat.zero_add, ih hids.2 hn]

variable {order : List String}

theorem length_outside_snoc {current : String} (hnot : current ∉ order) (parents : List String) :
    (parents.filter (· ∉ order)).length = (parents.filter (· ∉ order ++ [current])).length + parents.count current := by
  induction parents with
  | nil => rfl
  | cons p ps ih =>
    by_cases hcur : p = current
    · subst hcur
      rw [List.filter_cons_of_pos (by simpa using hnot), List.filter_cons_of_neg (by simp), List.count_cons_self,
        List.length_cons, ih]
      omega
    · rw [List.count_cons_of_ne hcur]
      by_cases hp : p ∈ order
      · rw [List.filter_cons_of_neg (by simpa using hp), List.filter_cons_of_neg (by simp [hp]), ih]
      · rw [List.filter_cons_of_pos (by simpa using hp), List.filter_cons_of_pos (by simp [hp, hcur]), List.length_cons,
          List.length_cons, ih]
        omega

/-! ## One node leaves the queue -/

variable {cs : List String}

namespace GraphState

/-- `indegree[c]`. -/
def degree (g : GraphState) (c : String) : Int := (PyDict.get? g.indegree c).getD 0

/-- `level.get(c, 0)`. -/
def levelOf (g : GraphState) (c : String) : Nat := (PyDict.get? g.level c).getD 0

variable {current : String}

@[simp] theorem relax_order (g : GraphState) (c : String) : (g.relax current c).order = g.order := rfl

theorem degree_relax (g : GraphState) (c x : String) :
    (g.relax current c).degree x = g.degree x - if c = x then 1 else 0 := by
  unfold degree relax
  by_cases hx : c = x
  · rw [get?_set, if_pos hx, if_pos hx, hx]
    rfl
  · rw [get?_set, if_neg hx, if_neg hx, Int.sub_zero]

theorem levelOf_relax (g : GraphState) (c x : String) :
    (g.relax current c).levelOf x = if c = x then max (g.levelOf c) (g.levelOf current + 1) else g.levelOf x := by
  unfold levelOf relax
  by_cases hx : c = x
  · rw [get?_set, if_pos hx, if_pos hx]
    rfl
  · rw [get?_set, if_neg hx, if_neg hx]

@[simp] theorem foldl_order (cs : List String) (g : GraphState) : (cs.foldl (relax current) g).order = g.order := by
  induction cs generalizing g with
  | nil => rfl
  | cons c cs ih => rw [List.foldl_cons, ih, relax_order]

theorem degree_foldl (cs : List String) (g : GraphState) (x : String) :
    (cs.foldl (relax current) g).degree x = g.degree x - cs.count x := by
  induction cs generalizing g with
  | nil => simp
  | cons c cs ih =>
    rw [List.foldl_cons, ih, degree_relax, List.count_cons]
    by_cases hx : c = x
    · simp only [hx, if_true, beq_self_eq_true]
      push_cast
      omega
    · simp [hx]

theorem levelOf_foldl (hnot : current ∉ cs) (g : GraphState) (x : String) :
    (cs.foldl (relax current) g).levelOf x =
      if x ∈ cs then max (g.levelOf x) (g.levelOf current + 1) else g.levelOf x := by
  induction cs generalizing g with
  | nil => simp
  | cons c cs ih =>
    have hcur : c ≠ current := fun h => hnot (by simp [h])
    rw [List.foldl_cons, ih (fun h => hnot (by simp [h])), levelOf_relax, levelOf_relax, if_neg hcur]
    by_cases hx : c = x
    · subst hx
      by_cases hmem : c ∈ cs <;> simp [hmem]
    · have hx' : x ≠ c := fun h => hx h.symm
      simp [hx, hx']

theorem level_some_foldl (g : GraphState) {x : String}
    (h : x ∈ cs ∨ (get? g.level x).isSome = true) :
    (get? (cs.foldl (relax current) g).level x).isSome = true := by
  induction cs generalizing g with
  | nil => exact h.resolve_left List.not_mem_nil
  | cons c cs ih =>
    rw [List.foldl_cons]
    refine ih (g.relax current c) ?_
    by_cases hx : c = x
    · right
      simp [relax, hx]
    · rcases h with hmem | hsome
      · exact .inl ((List.mem_cons.mp hmem).resolve_left fun h => hx h.symm)
      · right
        simpa [relax, get?_set, hx] using hsome

variable (current) in
theorem queue_foldl (cs : List String) (g : GraphState) (hdeg : ∀ c ∈ cs, (cs.count c : Int) ≤ g.degree c) :
    ∃ joined, (cs.foldl (relax current) g).queue = g.queue ++ joined ∧ joined.Nodup ∧
      ∀ c, c ∈ joined ↔ c ∈ cs ∧ g.degree c = cs.count c := by
  induction cs generalizing g with
  | nil => exact ⟨[], by simp, List.nodup_nil, by simp⟩
  | cons c cs ih =>
    have hhead := hdeg c (by simp)
    rw [List.count_cons_self] at hhead
    obtain ⟨joined, hqueue, hnodup, hmem⟩ := ih (g.relax current c) (by
      intro x hx
      have hbound := hdeg x (by simp [hx])
      rw [degree_relax]
      by_cases hcx : c = x
      · subst hcx
        rw [if_pos rfl]
        omega
      · rw [if_neg hcx]
        rw [List.count_cons_of_ne hcx] at hbound
        omega)
    have hrelaxed : (g.relax current c).queue = if g.degree c - 1 = 0 then g.queue ++ [c] else g.queue := rfl
    have hzero : cs.count c = 0 ↔ c ∉ cs := List.count_eq_zero
    have hother : ∀ x, c ≠ x → (x ∈ joined ↔ x ∈ c :: cs ∧ g.degree x = (c :: cs).count x) := by
      intro x hcx
      rw [hmem, degree_relax, if_neg hcx, List.count_cons_of_ne hcx, List.mem_cons, Int.sub_zero]
      exact and_congr_left fun _ => ⟨.inr, fun h => h.resolve_left fun h => hcx h.symm⟩
    have hself : c ∈ joined ↔ c ∈ cs ∧ g.degree c = cs.count c + 1 := by
      rw [hmem, degree_relax, if_pos rfl]
      exact and_congr_right fun _ => by omega
    rw [List.foldl_cons, hqueue, hrelaxed]
    by_cases hlast : g.degree c - 1 = 0
    · have hgone : c ∉ cs := hzero.mp (by omega)
      refine ⟨c :: joined, by rw [if_pos hlast]; simp, List.nodup_cons.mpr ⟨fun h => hgone (hself.mp h).1, hnodup⟩, ?_⟩
      intro x
      by_cases hcx : c = x
      · subst hcx
        rw [List.count_cons_self, hzero.mpr hgone]
        simp only [List.mem_cons, true_or, true_and, true_iff]
        omega
      · rw [← hother x hcx, List.mem_cons]
        exact ⟨fun h => h.resolve_left fun h => hcx h.symm, .inr⟩
    · refine ⟨joined, by rw [if_neg hlast], hnodup, ?_⟩
      intro x
      by_cases hcx : c = x
      · subst hcx
        rw [hself, List.count_cons_self]
        constructor
        · rintro ⟨_, h⟩
          exact ⟨by simp, by omega⟩
        · rintro ⟨_, h⟩
          refine ⟨not_imp_comm.mp hzero.mpr ?_, by omega⟩
          omega
      · exact hother x hcx

end GraphState

/-! ## The invariant of the loop -/

/-- What holds between two rounds of the loop. -/
structure GraphInv (nodes : List WorkflowNode) (g : GraphState) : Prop where
  nodup : (g.order ++ g.queue).Nodup
  ids : ∀ x ∈ g.order ++ g.queue, x ∈ nodes.map WorkflowNode.id
  degree : ∀ n ∈ nodes, g.degree n.id = (n.dependsOn.filter (· ∉ g.order)).length
  ready : ∀ n ∈ nodes, n.id ∈ g.order ++ g.queue ↔ ∀ p ∈ n.dependsOn, p ∈ g.order
  sorted : ∀ n ∈ nodes, n.id ∈ g.order → ∀ p ∈ n.dependsOn, g.order.idxOf p < g.order.idxOf n.id
  above : ∀ n ∈ nodes, ∀ p ∈ n.dependsOn, p ∈ g.order → g.levelOf p < g.levelOf n.id
  attained : ∀ n ∈ nodes, g.levelOf n.id = 0 ∨ ∃ p ∈ n.dependsOn, p ∈ g.order ∧ g.levelOf n.id = g.levelOf p + 1
  known : ∀ x ∈ g.order ++ g.queue, (PyDict.get? g.level x).isSome = true

theorem graphStart_inv (hids : (nodes.map WorkflowNode.id).Nodup) : GraphInv nodes (graphStart nodes) := by
  have hroots : ∀ x, x ∈ (graphStart nodes).queue ↔ ∃ n ∈ nodes, n.dependsOn = [] ∧ n.id = x := by
    intro x
    simp only [graphStart, mem_sorted, List.mem_map, List.mem_filter, List.isEmpty_iff, and_assoc]
  have hlevel : ∀ x, (graphStart nodes).levelOf x = 0 := by
    intro x
    rw [GraphState.levelOf]
    cases hget : get? (graphStart nodes).level x with
    | none => rfl
    | some v =>
      obtain ⟨y, -, hy⟩ := List.mem_map.mp (mem_of_get? hget)
      cases hy
      rfl
  have hroot : ∀ n ∈ nodes, n.id ∈ (graphStart nodes).queue ↔ n.dependsOn = [] := by
    intro n hn
    rw [hroots]
    constructor
    · intro ⟨m, hm, hempty, hid⟩
      rwa [List.inj_on_of_nodup_map hids hm hn hid] at hempty
    · exact fun h => ⟨n, hn, h, rfl⟩
  have horder : (graphStart nodes).order = [] := rfl
  refine ⟨?_, ?_, ?_, ?_, ?_, ?_, ?_, ?_⟩
  · show (PyText.sorted _).Nodup
    exact ((List.perm_insertionSort _ _).nodup_iff).mpr ((List.filter_sublist.map _).nodup hids)
  · intro x hx
    obtain ⟨n, hn, -, rfl⟩ := (hroots x).mp hx
    exact List.mem_map_of_mem hn
  · intro n hn
    have hget : get? (graphStart nodes).indegree n.id = some (n.dependsOn.length : Int) := by
      refine get?_of_mem ?_ (List.mem_map_of_mem hn)
      simpa [graphStart, keys, Function.comp_def] using hids
    rw [GraphState.degree, hget, horder]
    simp
  · intro n hn
    rw [horder, List.nil_append, hroot n hn]
    constructor
    · intro h p hp
      rw [h] at hp
      cases hp
    · intro h
      exact List.eq_nil_iff_forall_not_mem.mpr fun p hp => List.not_mem_nil (h p hp)
  · exact fun n _ hmem => absurd hmem List.not_mem_nil
  · exact fun n _ p _ hmem => absurd hmem List.not_mem_nil
  · exact fun n _ => .inl (hlevel n.id)
  · intro x hx
    have hmem : (x, 0) ∈ (graphStart nodes).level := List.mem_map_of_mem hx
    exact has_of_mem hmem

section Step

variable {nodes : List WorkflowNode} {g : GraphState} {current : String} {queue : List String}

def GraphState.leave (nodes : List WorkflowNode) (g : GraphState) (current : String) (queue : List String) : GraphState :=
  (PyText.sorted (graphChildren nodes current)).foldl (GraphState.relax current)
    { g with queue := queue, order := g.order ++ [current] }

theorem GraphInv.leave (hids : (nodes.map WorkflowNode.id).Nodup) (hknown : DependsKnown nodes) (h : GraphInv nodes g)
    (hqueue : g.queue = current :: queue) : GraphInv nodes (g.leave nodes current queue) := by
  have hnodup := h.nodup
  rw [hqueue] at hnodup
  have hnew : current ∉ g.order := fun hmem =>
    (List.disjoint_of_nodup_append hnodup) hmem List.mem_cons_self
  -- the children by their nodes
  have hchild : ∀ n ∈ nodes, n.id ∈ PyText.sorted (graphChildren nodes current) ↔ current ∈ n.dependsOn := by
    intro n hn
    rw [mem_sorted, mem_graphChildren]
    constructor
    · intro ⟨m, hm, hid, hmem⟩
      rwa [List.inj_on_of_nodup_map hids hm hn hid] at hmem
    · exact fun hmem => ⟨n, hn, rfl, hmem⟩
  have hself : current ∉ PyText.sorted (graphChildren nodes current) := by
    intro hmem
    obtain ⟨n, hn, hid, hdep⟩ := mem_graphChildren.mp (mem_sorted.mp hmem)
    exact (hknown n hn current hdep).2 hid.symm
  have hcount : ∀ n ∈ nodes, (PyText.sorted (graphChildren nodes current)).count n.id = n.dependsOn.count current := by
    intro n hn
    rw [PyText.sorted, (List.perm_insertionSort _ _).count_eq, count_graphChildren hids hn]
  have hold : ∀ n ∈ nodes, current ∈ n.dependsOn → n.id ∉ g.order ++ g.queue := by
    intro n hn hdep hmem
    exact hnew ((h.ready n hn).mp hmem current hdep)
  have hdegree : ∀ n ∈ nodes, g.degree n.id =
      (n.dependsOn.filter (· ∉ g.order ++ [current])).length + n.dependsOn.count current := by
    intro n hn
    rw [h.degree n hn, length_outside_snoc hnew]
    push_cast
    rfl
  have horder : (g.leave nodes current queue).order = g.order ++ [current] := GraphState.foldl_order _ _
  obtain ⟨joined, hjoined, hjnodup, hjmem⟩ := GraphState.queue_foldl current
    (PyText.sorted (graphChildren nodes current)) { g with queue := queue, order := g.order ++ [current] } (by
      intro c hc
      obtain ⟨n, hn, rfl, -⟩ := mem_graphChildren.mp (mem_sorted.mp hc)
      rw [hcount n hn]
      show _ ≤ g.degree n.id
      rw [hdegree n hn]
      omega)
  have hqueue' : (g.leave nodes current queue).queue = queue ++ joined := hjoined
  have hjoin : ∀ n ∈ nodes, n.id ∈ joined ↔ current ∈ n.dependsOn ∧ ∀ p ∈ n.dependsOn, p ∈ g.order ++ [current] := by
    intro n hn
    rw [hjmem, hchild n hn, hcount n hn]
    refine and_congr_right fun _ => ?_
    show g.degree n.id = _ ↔ _
    rw [hdegree n hn]
    constructor
    · intro heq p hp
      have hnil : n.dependsOn.filter (· ∉ g.order ++ [current]) = [] := List.length_eq_zero_iff.mp (by omega)
      exact of_not_not fun hnot => List.filter_eq_nil_iff.mp hnil p hp (decide_eq_true hnot)
    · intro hall
      have hnil : n.dependsOn.filter (· ∉ g.order ++ [current]) = [] :=
        List.filter_eq_nil_iff.mpr fun p hp hnot => absurd (hall p hp) (of_decide_eq_true hnot)
      rw [hnil]
      simp
  have hjold : ∀ x ∈ joined, x ∉ g.order ++ g.queue := by
    intro x hx
    obtain ⟨n, hn, rfl, hdep⟩ := mem_graphChildren.mp (mem_sorted.mp ((hjmem x).mp hx).1)
    exact hold n hn hdep
  have hall : (g.leave nodes current queue).order ++ (g.leave nodes current queue).queue =
      (g.order ++ g.queue) ++ joined := by
    rw [horder, hqueue', hqueue]
    simp
  -- a node in the order keeps its level
  have hlevel : ∀ x, (g.leave nodes current queue).levelOf x =
      if x ∈ PyText.sorted (graphChildren nodes current) then max (g.levelOf x) (g.levelOf current + 1)
      else g.levelOf x := fun x => GraphState.levelOf_foldl hself _ x
  have hkept : ∀ p ∈ g.order ++ g.queue, (g.leave nodes current queue).levelOf p = g.levelOf p := by
    intro p hp
    rw [hlevel, if_neg]
    intro hmem
    obtain ⟨n, hn, rfl, hdep⟩ := mem_graphChildren.mp (mem_sorted.mp hmem)
    exact hold n hn hdep hp
  have hcurrent : current ∈ g.order ++ g.queue := by simp [hqueue]
  have hdone : ∀ p, p ∈ g.order ++ [current] → p ∈ g.order ++ g.queue := by
    intro p hp
    rcases List.mem_append.mp hp with hp | hp
    · exact List.mem_append_left _ hp
    · rwa [List.mem_singleton.mp hp]
  refine ⟨?_, ?_, ?_, ?_, ?_, ?_, ?_, ?_⟩
  · rw [hall, List.nodup_append]
    exact ⟨h.nodup, hjnodup, fun x hx y hy hxy => hjold y hy (hxy ▸ hx)⟩
  · intro x hx
    rw [hall] at hx
    rcases List.mem_append.mp hx with hx | hx
    · exact h.ids x hx
    · obtain ⟨n, hn, rfl, -⟩ := mem_graphChildren.mp (mem_sorted.mp ((hjmem x).mp hx).1)
      exact List.mem_map_of_mem hn
  · intro n hn
    rw [horder]
    refine (GraphState.degree_foldl _ _ _).trans ?_
    show g.degree n.id - _ = _
    rw [hdegree n hn, hcount n hn]
    omega
  · intro n hn
    rw [hall, horder, List.mem_append, hjoin n hn, h.ready n hn]
    constructor
    · intro hor p hp
      rcases hor with hold | hnew
      · exact List.mem_append_left _ (hold p hp)
      · exact hnew.2 p hp
    · intro hparents
      by_cases hdep : current ∈ n.dependsOn
      · exact .inr ⟨hdep, hparents⟩
      · left
        intro p hp
        rcases List.mem_append.mp (hparents p hp) with hp' | hp'
        · exact hp'
        · exact absurd (List.mem_singleton.mp hp' ▸ hp) hdep
  · intro n hn hmem p hp
    rw [horder] at hmem ⊢
    have hin := (h.ready n hn).mp (hdone _ hmem) p hp
    rw [List.idxOf_append_of_mem hin]
    rcases List.mem_append.mp hmem with hmem | hmem
    · rw [List.idxOf_append_of_mem hmem]
      exact h.sorted n hn hmem p hp
    · have hnot : n.id ∉ g.order := List.mem_singleton.mp hmem ▸ hnew
      rw [List.idxOf_append_of_notMem hnot]
      exact Nat.lt_of_lt_of_le (List.idxOf_lt_length_of_mem hin) (Nat.le_add_right _ _)
  · intro n hn p hp hdone'
    rw [horder] at hdone'
    rw [hkept p (hdone p hdone'), hlevel]
    rcases List.mem_append.mp hdone' with hp' | hp'
    · have habove := h.above n hn p hp hp'
      split
      · exact lt_of_lt_of_le habove (le_max_left _ _)
      · exact habove
    · rw [List.mem_singleton.mp hp'] at hp ⊢
      rw [if_pos ((hchild n hn).mpr hp)]
      exact lt_of_lt_of_le (Nat.lt_succ_self _) (le_max_right _ _)
  · intro n hn
    rw [hlevel, horder]
    by_cases hdep : current ∈ n.dependsOn
    · rw [if_pos ((hchild n hn).mpr hdep)]
      rcases le_total (g.levelOf n.id) (g.levelOf current + 1) with hle | hle
      · rw [max_eq_right hle]
        exact .inr ⟨current, hdep, by simp, by rw [hkept _ hcurrent]⟩
      · rw [max_eq_left hle]
        rcases h.attained n hn with hzero | ⟨p, hp, hp', heq⟩
        · omega
        · exact .inr ⟨p, hp, by simp [hp'], by rw [hkept p (List.mem_append_left _ hp'), heq]⟩
    · rw [if_neg (mt (hchild n hn).mp hdep)]
      rcases h.attained n hn with hzero | ⟨p, hp, hp', heq⟩
      · exact .inl hzero
      · exact .inr ⟨p, hp, by simp [hp'], by rw [hkept p (List.mem_append_left _ hp'), heq]⟩
  · intro x hx
    rw [hall] at hx
    refine GraphState.level_some_foldl _ ?_
    rcases List.mem_append.mp hx with hx | hx
    · exact .inr (h.known x hx)
    · exact .inl ((hjmem x).mp hx).1

theorem graphLoop_inv (hids : (nodes.map WorkflowNode.id).Nodup) (hknown : DependsKnown nodes) {fuel : Nat}
    (h : GraphInv nodes g) (hfuel : nodes.length ≤ fuel + g.order.length) :
    GraphInv nodes (graphLoop nodes fuel g) ∧ (graphLoop nodes fuel g).queue = [] := by
  induction fuel generalizing g with
  | zero =>
    refine ⟨h, ?_⟩
    have hlen := (h.nodup.subperm h.ids).length_le
    rw [List.length_append, List.length_map] at hlen
    exact List.length_eq_zero_iff.mp (show g.queue.length = 0 by omega)
  | succ fuel ih =>
    cases hqueue : g.queue with
    | nil =>
      rw [graphLoop, hqueue]
      exact ⟨h, hqueue⟩
    | cons current queue =>
      rw [graphLoop, hqueue]
      refine ih (h.leave hids hknown hqueue) ?_
      have horder : (g.leave nodes current queue).order = g.order ++ [current] := GraphState.foldl_order _ _
      show _ ≤ _ + (g.leave nodes current queue).order.length
      rw [horder, List.length_append, List.length_singleton]
      omega

end Step

/-! ## The order that is returned -/

/-- The graph has the two properties that are checked before the loop. -/
def EdgesAdmitted (nodes : List WorkflowNode) : Prop := DependsKnown nodes ∧ edgeCount nodes ≤ maxEdges

def graphEnd (nodes : List WorkflowNode) : GraphState := graphLoop nodes nodes.length (graphStart nodes)

variable {level : PyDict.Dict Nat}

theorem graph_ok :
    graph nodes = .ok (order, level) ↔ EdgesAdmitted nodes ∧ (graphEnd nodes).order.length = nodes.length ∧
      order = (graphEnd nodes).order ∧ level = (graphEnd nodes).level := by
  simp only [graph, bind_ok, require_ok, pure_ok, exists_const, Prod.mk.injEq]
  constructor
  · rintro ⟨_, hchecks, hedges, hlen, horder, hlevel⟩
    exact ⟨⟨mapM_checkParents_ok.mp ⟨_, hchecks⟩, hedges⟩, hlen, horder.symm, hlevel.symm⟩
  · rintro ⟨⟨hchecks, hedges⟩, hlen, horder, hlevel⟩
    obtain ⟨us, hus⟩ := mapM_checkParents_ok.mpr hchecks
    exact ⟨us, hus, hedges, hlen, horder.symm, hlevel.symm⟩

section End

variable {nodes : List WorkflowNode} (hids : (nodes.map WorkflowNode.id).Nodup)

include hids

section
variable (hknown : DependsKnown nodes)
include hknown

theorem graphEnd_inv : GraphInv nodes (graphEnd nodes) ∧ (graphEnd nodes).queue = [] :=
  graphLoop_inv hids hknown (graphStart_inv hids) (by omega)

theorem graphEnd_perm (hlen : (graphEnd nodes).order.length = nodes.length) :
    (graphEnd nodes).order.Perm (nodes.map WorkflowNode.id) := by
  obtain ⟨hinv, hqueue⟩ := graphEnd_inv hids hknown
  have hnodup := hinv.nodup
  have hsub := hinv.ids
  rw [hqueue, List.append_nil] at hnodup hsub
  exact (hnodup.subperm hsub).perm_of_length_le (by rw [hlen, List.length_map])

theorem graphEnd_complete :
    (graphEnd nodes).order.length = nodes.length ↔ Dag.Acyclic (Depends nodes) := by
  obtain ⟨hinv, hqueue⟩ := graphEnd_inv hids hknown
  have hnodup := hinv.nodup
  have hsub := hinv.ids
  rw [hqueue, List.append_nil] at hnodup hsub
  constructor
  · intro hlen
    have hperm := graphEnd_perm hids hknown hlen
    refine Dag.acyclic_of_rank (graphEnd nodes).order.idxOf ?_
    intro p c ⟨n, hn, hid, hp⟩
    rw [← hid]
    exact hinv.sorted n hn (hperm.mem_iff.mpr (List.mem_map_of_mem hn)) p hp
  · intro hacyclic
    -- the nodes left over would each have a parent left over
    have hleft : ∀ x ∈ nodes.map WorkflowNode.id, x ∈ (graphEnd nodes).order := by
      by_contra hsome
      push Not at hsome
      obtain ⟨x, hx, hnot⟩ := hsome
      have hfinite : {y | y ∈ nodes.map WorkflowNode.id ∧ y ∉ (graphEnd nodes).order}.Finite :=
        (List.finite_toSet (nodes.map WorkflowNode.id)).subset fun y hy => hy.1
      obtain ⟨c, ⟨hc, hcnot⟩, hroot⟩ := hacyclic.exists_root hfinite ⟨x, hx, hnot⟩
      obtain ⟨n, hn, rfl⟩ := List.mem_map.mp hc
      have hready := (hinv.ready n hn).mpr fun p hp => by
        by_contra hpnot
        exact hroot p ⟨(hknown n hn p hp).1, hpnot⟩ ⟨n, hn, rfl, hp⟩
      rw [hqueue, List.append_nil] at hready
      exact hcnot hready
    have hback := (hids.subperm hleft).length_le
    have hforth := (hnodup.subperm hsub).length_le
    rw [List.length_map] at hback hforth
    omega

theorem graphEnd_longest (hlen : (graphEnd nodes).order.length = nodes.length) :
    ∀ n ∈ nodes, Dag.Longest (Depends nodes) n.id ((graphEnd nodes).levelOf n.id) := by
  obtain ⟨hinv, -⟩ := graphEnd_inv hids hknown
  have hperm := graphEnd_perm hids hknown hlen
  have hmem : ∀ {n}, n ∈ nodes → ∀ p ∈ n.dependsOn, p ∈ (graphEnd nodes).order :=
    fun {n} hn p hp => hperm.mem_iff.mpr (hknown n hn p hp).1
  intro n hn
  refine Dag.longest_of_levels (s := {x | x ∈ nodes.map WorkflowNode.id}) ?_ ?_ (List.mem_map_of_mem hn)
  · intro p c ⟨m, hm, _, hp⟩
    exact (hknown m hm p hp).1
  · intro c hc
    obtain ⟨m, hm, rfl⟩ := List.mem_map.mp hc
    refine ⟨?_, ?_⟩
    · intro p ⟨m', hm', hid, hp⟩
      obtain rfl := List.inj_on_of_nodup_map hids hm' hm hid
      exact hinv.above m' hm' p hp (hmem hm' p hp)
    · rcases hinv.attained m hm with hzero | ⟨p, hp, -, heq⟩
      · exact .inl hzero
      · exact .inr ⟨p, ⟨m, hm, rfl, hp⟩, heq⟩

end

theorem graph_accepts : (∃ r, graph nodes = .ok r) ↔ EdgesAdmitted nodes ∧ Dag.Acyclic (Depends nodes) := by
  constructor
  · intro ⟨r, hr⟩
    obtain ⟨hadmitted, hlen, -⟩ := graph_ok.mp hr
    exact ⟨hadmitted, (graphEnd_complete hids hadmitted.1).mp hlen⟩
  · intro ⟨hadmitted, hacyclic⟩
    exact ⟨_, graph_ok.mpr ⟨hadmitted, (graphEnd_complete hids hadmitted.1).mpr hacyclic, rfl, rfl⟩⟩

theorem graph_order (h : graph nodes = .ok (order, level)) :
    order.Perm (nodes.map WorkflowNode.id) ∧
      ∀ n ∈ nodes, ∀ p ∈ n.dependsOn, order.idxOf p < order.idxOf n.id := by
  obtain ⟨hadmitted, hlen, rfl, -⟩ := graph_ok.mp h
  have hperm := graphEnd_perm hids hadmitted.1 hlen
  have hsorted := (graphEnd_inv hids hadmitted.1).1.sorted
  exact ⟨hperm, fun n hn p hp => hsorted n hn (hperm.mem_iff.mpr (List.mem_map_of_mem hn)) p hp⟩

theorem graph_level (h : graph nodes = .ok (order, level)) :
    ∀ n ∈ nodes, ∃ k, get? level n.id = some k ∧ Dag.Longest (Depends nodes) n.id k := by
  obtain ⟨hadmitted, hlen, -, rfl⟩ := graph_ok.mp h
  obtain ⟨hinv, -⟩ := graphEnd_inv hids hadmitted.1
  intro n hn
  have hready : n.id ∈ (graphEnd nodes).order ++ (graphEnd nodes).queue :=
    List.mem_append_left _ ((graphEnd_perm hids hadmitted.1 hlen).mem_iff.mpr (List.mem_map_of_mem hn))
  obtain ⟨k, hk⟩ := Option.isSome_iff_exists.mp (hinv.known n.id hready)
  have hlongest := graphEnd_longest hids hadmitted.1 hlen n hn
  rw [GraphState.levelOf, hk] at hlongest
  exact ⟨k, hk, hlongest⟩

/-- `_graph` returns exactly on the graphs whose dependencies are listed nodes, none its own, with few enough
edges and no cycle; it returns the nodes with every parent before its children, and for each node the
length of the longest path that ends at it. -/
theorem graph_correct : ((∃ r, graph nodes = .ok r) ↔
      (∀ n ∈ nodes, ∀ p ∈ n.dependsOn, p ∈ nodes.map WorkflowNode.id) ∧ (∀ n ∈ nodes, n.id ∉ n.dependsOn) ∧
        edgeCount nodes ≤ maxEdges ∧ Dag.Acyclic (Depends nodes)) ∧
    ∀ order level, graph nodes = .ok (order, level) → order.Perm (nodes.map WorkflowNode.id) ∧
      (∀ n ∈ nodes, ∀ p ∈ n.dependsOn, order.idxOf p < order.idxOf n.id) ∧
      ∀ n ∈ nodes, ∃ k, PyDict.get? level n.id = some k ∧ Dag.Longest (Depends nodes) n.id k := by
  constructor
  · rw [graph_accepts hids]
    constructor
    · intro ⟨⟨hknown, hedges⟩, hacyclic⟩
      exact ⟨fun n hn p hp => (hknown n hn p hp).1, fun n hn hself => (hknown n hn _ hself).2 rfl, hedges, hacyclic⟩
    · intro ⟨hlisted, hself, hedges, hacyclic⟩
      exact ⟨⟨fun n hn p hp => ⟨hlisted n hn p hp, fun heq => hself n hn (heq ▸ hp)⟩, hedges⟩, hacyclic⟩
  · intro order level h
    obtain ⟨hperm, hbefore⟩ := graph_order hids h
    exact ⟨hperm, hbefore, graph_level hids h⟩

end End

def chainOfTwo : List WorkflowNode :=
  [⟨"first", "first", .input, .input, [], none, false⟩, ⟨"last", "last", .output, .output, ["first"], none, false⟩]

theorem graph_correct_chain : Dag.Acyclic (Depends chainOfTwo) ∧
    ∃ order level, graph chainOfTwo = .ok (order, level) ∧ order.idxOf "first" < order.idxOf "last" := by
  have hids : (chainOfTwo.map WorkflowNode.id).Nodup := by decide
  obtain ⟨hiff, hreturns⟩ := graph_correct hids
  cases hgraph : graph chainOfTwo with
  | error e =>
    have hok : (graph chainOfTwo).toBool = true := by decide
    rw [hgraph] at hok
    cases hok
  | ok r =>
    obtain ⟨-, hbefore, -⟩ := hreturns r.1 r.2 hgraph
    refine ⟨(hiff.mp ⟨r, hgraph⟩).2.2.2, r.1, r.2, rfl, ?_⟩
    exact hbefore ⟨"last", "last", .output, .output, ["first"], none, false⟩ (by simp [chainOfTwo]) "first" (by simp)

end ThreeAgent
