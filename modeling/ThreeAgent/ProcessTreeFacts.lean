/-
What the reconstruction of a process tree gives, for every set of observations
without conflicts. The processes on a cycle are found exactly; the nodes are
the first of the breadth-first order of what descends from the root through
the others; and the tree is truncated just when a descendant is missing.
-/
import ThreeAgent.ProcessTree

namespace ThreeAgent.SecurityMonitoring

open PyText Outcome PyDict Keyed ParentChain

variable {row : ProcessObservation} {value : Option String} {fieldName process : String} {taken : List (String × Nat)}

/-! ## The purpose of a tree -/

section Purpose

variable (rows : List ProcessObservation)

/-- The parent of a process among observations. -/
def parentAmong (process : String) : Option String :=
  (rows.find? fun row => row.processRef = process).bind (·.parentProcessRef)

/-- A child of a process, neither of them on a cycle. -/
def Descends (process child : String) : Prop :=
  parentAmong rows child = some process ∧ ¬ OnCycle (parentAmong rows) child ∧ ¬ OnCycle (parentAmong rows) process

/-- The tree of a root among observations, breadth first through children in the order of their names. -/
structure TreeAmong (root : String) (maxNodes maxDepth : Nat) (tree : ProcessTreeAssessment) : Prop where
  breadthFirst : ∃ children : String → List String, (∀ process child, child ∈ children process ↔ Descends rows process child) ∧
    (∀ process, (children process).Pairwise (· < ·)) ∧
    (tree.nodes.map fun node => (node.processRef, node.depth)).Perm
      (((ParentChain.breadthFirst children root (maxDepth + 1)).take maxNodes).map fun place => (place.1, (place.2 : Int)))
  rooted : ∃ node ∈ tree.nodes, node.processRef = root ∧ node.depth = 0
  above : ∀ node ∈ tree.nodes, node.processRef = root ∧ node.depth = 0 ∨
    ∃ parent ∈ tree.nodes, node.parentProcessRef = some parent.processRef ∧ node.depth = parent.depth + 1
  observed : ∀ node ∈ tree.nodes, ∃ row ∈ rows, ∃ depth : Nat, node = nodeOf row depth
  orphans : ∀ process, process ∈ tree.orphanProcessRefs ↔ ∃ row ∈ rows, row.processRef = process ∧
    ∃ parent ∈ row.parentProcessRef, ∀ other ∈ rows, other.processRef ≠ parent
  cycles : ∀ process, process ∈ tree.cycleProcessRefs ↔ OnCycle (parentAmong rows) process
  truncated : tree.truncated = true ↔
    ∃ process, Relation.ReflTransGen (Descends rows) root process ∧ process ∉ tree.nodes.map (·.processRef)

end Purpose

/-! ## Cycles -/

/-- The parent of a process that was observed. -/
def parentIn (parentByProcess : Dict (Option String)) (process : String) : Option String :=
  (get? parentByProcess process).join

section Cycles

variable {parents : Dict (Option String)} {done path : List String} {current : Option String} {a b : String}

theorem observed_of_parentIn (h : parentIn parents a = some b) : get? parents a ≠ none := by
  intro hnone
  rw [parentIn, hnone] at h
  cases h

/-- What is done is left by no parent, but to a process that was not observed. -/
def Closed (parents : Dict (Option String)) (done : List String) : Prop :=
  ∀ a ∈ done, ∀ b, parentIn parents a = some b → b ∈ done ∨ get? parents b = none

/-- The path of a walk so far. -/
structure Path (parents : Dict (Option String)) (done : List String) (current : Option String) (path : List String) : Prop where
  chain : path.IsChain fun a b => parentIn parents a = some b
  ends : ∀ b ∈ path.getLast?, parentIn parents b = current
  observed : ∀ a ∈ path, get? parents a ≠ none
  fresh : ∀ a ∈ path, a ∉ done
  nodup : path.Nodup

namespace Path

theorem nil : Path parents done current [] := ⟨.nil, by simp, by simp, by simp, .nil⟩

theorem next (h : Path parents done current path) (ha : a ∈ path) (hab : parentIn parents a = some b) :
    b ∈ path ∨ current = some b := by
  rcases next_or_last h.chain ha with ⟨c, hc, hac⟩ | hlast
  · rw [hac] at hab
    exact .inl (Option.some.inj hab ▸ hc)
  · exact .inr ((h.ends a hlast).symm.trans hab)

theorem length_le (h : Path parents done current path) : path.length ≤ parents.length := by
  have hsub : path ⊆ keys parents := by
    intro a ha
    obtain ⟨v, hv⟩ := Option.ne_none_iff_exists'.mp (h.observed a ha)
    exact mem_keys.mpr (has_iff.mpr ⟨v, hv⟩)
  have hle := (List.subperm_of_subset h.nodup hsub).length_le
  rwa [keys, List.length_map] at hle

theorem snoc {parent : Option String} (h : Path parents done (some a) path) (hget : get? parents a = some parent)
    (hdone : a ∉ done) (hpath : a ∉ path) : Path parents done parent (path ++ [a]) where
  chain := by
    refine List.isChain_append.mpr ⟨h.chain, .singleton a, ?_⟩
    intro x hx y hy
    cases Option.some.inj hy
    exact h.ends x hx
  ends := by
    intro b hb
    rw [List.getLast?_concat] at hb
    cases hb
    rw [parentIn, hget]
    rfl
  observed := by
    intro b hb
    rcases List.mem_append.mp hb with hb | hb
    · exact h.observed b hb
    · rw [List.mem_singleton.mp hb, hget]
      exact Option.some_ne_none _
  fresh := by
    intro b hb
    rcases List.mem_append.mp hb with hb | hb
    · exact h.fresh b hb
    · rw [List.mem_singleton.mp hb]
      exact hdone
  nodup := List.nodup_append.mpr ⟨h.nodup, List.nodup_singleton a, by
    intro b hb c hc heq
    rw [heq, List.mem_singleton.mp hc] at hb
    exact hpath hb⟩

theorem not_onCycle (h : Path parents done current path) (hclosed : Closed parents done)
    (hend : ∀ c, current = some c → c ∈ done ∨ get? parents c = none) (ha : a ∈ path) : ¬ OnCycle (parentIn parents) a := by
  obtain ⟨last, hlast⟩ : ∃ last, path.getLast? = some last :=
    ⟨_, List.getLast?_eq_some_getLast (List.ne_nil_of_mem ha)⟩
  obtain ⟨n, hn⟩ := exists_climb_last h.chain ha hlast
  cases hcurrent : current with
  | none =>
    intro hcycle
    obtain ⟨c, hc⟩ := hcycle.exists_parent hn
    rw [h.ends last hlast, hcurrent] at hc
    cases hc
  | some c =>
    have hc : climb (parentIn parents) (n + 1) a = some c := climb_trans hn (climb_one ((h.ends last hlast).trans hcurrent))
    refine not_onCycle_of_enters (s := fun b => b ∈ done ∨ get? parents b = none) ?_ ?_ hc (hend c hcurrent)
    · intro x y hx hxy
      rcases hx with hx | hx
      · exact hclosed x hx y hxy
      · exact absurd hx (observed_of_parentIn hxy)
    · exact not_or.mpr ⟨h.fresh a ha, h.observed a ha⟩

theorem onCycle_iff (h : Path parents done (some a) path) {front back : List String} (hpath : path = front ++ a :: back)
    (hb : b ∈ path) : b ∈ a :: back ↔ OnCycle (parentIn parents) b := by
  subst hpath
  have hchain := (List.isChain_append.mp h.chain).2.1
  have hends : ∀ c ∈ (a :: back).getLast?, parentIn parents c = some a := by
    intro c hc
    exact h.ends c (by rw [List.getLast?_append_of_ne_nil _ (List.cons_ne_nil a back)]; exact hc)
  refine ⟨onCycle_of_chain hchain hends, ?_⟩
  intro hcycle
  by_contra hout
  have hfront : b ∈ front := (List.mem_append.mp hb).resolve_right hout
  obtain ⟨l₁, l₂, rfl⟩ := List.append_of_mem hfront
  have hsuffix : (b :: (l₂ ++ a :: back)).IsChain fun a b => parentIn parents a = some b := by
    have hall := h.chain
    rw [List.append_assoc, List.cons_append] at hall
    exact (List.isChain_append.mp hall).2.1
  obtain ⟨n, hn⟩ := exists_climb_of_chain hsuffix (b := a) (by simp)
  refine not_onCycle_of_enters (s := (· ∈ a :: back)) ?_ hout hn List.mem_cons_self hcycle
  intro x y hx hxy
  rcases next_or_last hchain hx with ⟨c, hc, hxc⟩ | hlast
  · rw [hxc] at hxy
    exact Option.some.inj hxy ▸ hc
  · rw [hends x hlast] at hxy
    cases hxy
    exact List.mem_cons_self

end Path

/-- What a walk gives. -/
structure Walked (parents : Dict (Option String)) (done : List String) (current : Option String) (path : List String)
    (walked : List String × List String) : Prop where
  kept : path ⊆ walked.1
  reached : ∀ c, current = some c → c ∈ done ++ walked.1 ∨ get? parents c = none
  closed : Closed parents (done ++ walked.1)
  members : walked.2 ⊆ walked.1
  exact : ∀ a ∈ walked.1, a ∈ walked.2 ↔ OnCycle (parentIn parents) a

theorem Path.stops (h : Path parents done current path) (hclosed : Closed parents done)
    (hend : ∀ c, current = some c → c ∈ done ∨ get? parents c = none) : Walked parents done current path (path, []) where
  kept := List.Subset.refl _
  reached := fun c hc => (hend c hc).imp_left (List.mem_append_left _)
  closed := by
    intro x hx y hxy
    rcases List.mem_append.mp hx with hx | hx
    · exact (hclosed x hx y hxy).imp_left (List.mem_append_left _)
    · rcases h.next hx hxy with hy | hy
      · exact .inl (List.mem_append_right _ hy)
      · exact (hend y hy).imp_left (List.mem_append_left _)
  members := List.nil_subset _
  exact := fun a ha => ⟨fun hnil => absurd hnil List.not_mem_nil, fun hcycle => absurd hcycle (h.not_onCycle hclosed hend ha)⟩

theorem cycleWalk_walked (hclosed : Closed parents done) : ∀ (fuel : Nat) (current : Option String) (path : List String),
    Path parents done current path → parents.length < fuel + path.length →
      Walked parents done current path (cycleWalk parents done fuel current path)
  | 0, current, path, h, hfuel => by
    have := h.length_le
    omega
  | fuel + 1, none, path, h, _ => h.stops hclosed fun c hc => by cases hc
  | fuel + 1, some c, path, h, hfuel => by
    rw [cycleWalk]
    cases hget : get? parents c with
    | none => exact h.stops hclosed fun c' hc => .inr (Option.some.inj hc ▸ hget)
    | some parent =>
      dsimp only
      by_cases hdone : c ∈ done
      · rw [if_pos hdone]
        exact h.stops hclosed fun c' hc => .inl (Option.some.inj hc ▸ hdone)
      · by_cases hpath : c ∈ path
        · rw [if_neg hdone, if_pos hpath]
          obtain ⟨front, back, hsplit, hfirst⟩ := List.eq_append_cons_of_mem hpath
          have hdrop : path.drop (path.idxOf c) = c :: back := by
            rw [hsplit, List.idxOf_append_of_notMem hfirst, List.idxOf_cons_self, Nat.add_zero, List.drop_left]
          rw [hdrop]
          refine ⟨List.Subset.refl _, ?_, ?_, ?_, fun b hb => h.onCycle_iff hsplit hb⟩
          · intro c' hc
            exact .inl (List.mem_append_right _ (Option.some.inj hc ▸ hpath))
          · intro x hx y hxy
            rcases List.mem_append.mp hx with hx | hx
            · exact (hclosed x hx y hxy).imp_left (List.mem_append_left _)
            · rcases h.next hx hxy with hy | hy
              · exact .inl (List.mem_append_right _ hy)
              · exact .inl (List.mem_append_right _ (Option.some.inj hy ▸ hpath))
          · rw [hsplit]
            exact List.subset_append_right _ _
        · rw [if_neg hdone, if_neg hpath]
          have hwalk := cycleWalk_walked hclosed fuel parent (path ++ [c]) (h.snoc hget hdone hpath)
            (by rw [List.length_append]; simp only [List.length_singleton]; omega)
          refine ⟨List.Subset.trans (List.subset_append_left _ _) hwalk.kept, ?_, hwalk.closed, hwalk.members, hwalk.exact⟩
          intro c' hc
          refine .inl (List.mem_append_right _ (hwalk.kept ?_))
          rw [← Option.some.inj hc]
          exact List.mem_append_right _ List.mem_cons_self

/-- What is done is settled: closed, with its members on a cycle found. -/
structure Settled (parents : Dict (Option String)) (found : List String × List String) : Prop where
  closed : Closed parents found.1
  members : found.2 ⊆ found.1
  exact : ∀ a ∈ found.1, a ∈ found.2 ↔ OnCycle (parentIn parents) a

theorem Settled.round {found : List String × List String} (h : Settled parents found) (start : String) :
    Settled parents (cycleRound parents found start) ∧ found.1 ⊆ (cycleRound parents found start).1 ∧
      (start ∈ (cycleRound parents found start).1 ∨ get? parents start = none) := by
  rw [cycleRound]
  by_cases hstart : start ∈ found.1
  · rw [if_pos hstart]
    exact ⟨h, List.Subset.refl _, .inl hstart⟩
  · rw [if_neg hstart]
    have hwalk := cycleWalk_walked h.closed (parents.length + 1) (some start) [] .nil (by simp)
    refine ⟨⟨hwalk.closed, ?_, ?_⟩, List.subset_append_left _ _, hwalk.reached start rfl⟩
    · intro a ha
      rcases List.mem_append.mp ha with ha | ha
      · exact List.mem_append_left _ (h.members ha)
      · exact List.mem_append_right _ (hwalk.members ha)
    · intro a ha
      rw [List.mem_append]
      refine ⟨?_, ?_⟩
      · intro hmem
        rcases hmem with hmem | hmem
        · exact (h.exact a (h.members hmem)).mp hmem
        · exact (hwalk.exact a (hwalk.members hmem)).mp hmem
      · intro hcycle
        rcases List.mem_append.mp ha with ha | ha
        · exact .inl ((h.exact a ha).mpr hcycle)
        · exact .inr ((hwalk.exact a ha).mpr hcycle)

theorem Settled.rounds : ∀ {starts : List String} {found : List String × List String}, Settled parents found →
    Settled parents (starts.foldl (cycleRound parents) found) ∧ found.1 ⊆ (starts.foldl (cycleRound parents) found).1 ∧
      ∀ start ∈ starts, start ∈ (starts.foldl (cycleRound parents) found).1 ∨ get? parents start = none
  | [], _, h => ⟨h, List.Subset.refl _, List.forall_mem_nil _⟩
  | start :: starts, found, h => by
    obtain ⟨hround, hsub, hstart⟩ := h.round start
    obtain ⟨hrest, hsub', hstarts⟩ := @Settled.rounds starts _ hround
    refine ⟨hrest, List.Subset.trans hsub hsub', List.forall_mem_cons.mpr ⟨hstart.imp_left fun hmem => hsub' hmem, hstarts⟩⟩

theorem mem_cycleMembers : a ∈ cycleMembers parents ↔ OnCycle (parentIn parents) a := by
  have hnil : Settled parents ([], []) := ⟨by simp [Closed], List.Subset.refl _, by simp⟩
  obtain ⟨hsettled, -, hstarts⟩ := @Settled.rounds _ (sorted (keys parents)) _ hnil
  have hexact := hsettled.exact
  refine ⟨fun ha => (hexact a (hsettled.members ha)).mp ha, ?_⟩
  intro hcycle
  obtain ⟨b, hb⟩ := hcycle.exists_parent (m := 0) rfl
  have hobserved := observed_of_parentIn hb
  obtain ⟨v, hv⟩ := Option.ne_none_iff_exists'.mp hobserved
  have hkey : a ∈ sorted (keys parents) := mem_sorted.mpr (mem_keys.mpr (has_iff.mpr ⟨v, hv⟩))
  exact (hexact a ((hstarts a hkey).resolve_right hobserved)).mpr hcycle

end Cycles

/-! ## Children -/

section Children

variable {cycles : List String} {entries : Dict (Option String)} {children : Dict (List String)} {parent ref : String}

/-- An entry that is put among the children of a process. -/
def ChildOf (cycles : List String) (parent : String) (entry : String × Option String) : Prop :=
  entry.2 = some parent ∧ entry.1 ∉ cycles ∧ parent ∉ cycles

instance (cycles : List String) (parent : String) (entry : String × Option String) : Decidable (ChildOf cycles parent entry) :=
  inferInstanceAs (Decidable (_ ∧ _))

theorem get?_addChild (entry : String × Option String) : (get? (addChild cycles children entry) parent).getD [] =
    (get? children parent).getD [] ++ if ChildOf cycles parent entry then [entry.1] else [] := by
  obtain ⟨ref, named⟩ := entry
  cases named with
  | none => simp [addChild, ChildOf]
  | some p =>
    by_cases hkept : ref ∉ cycles ∧ p ∉ cycles
    · by_cases hp : p = parent
      · subst hp
        simp [addChild, ChildOf, hkept]
      · simp [addChild, ChildOf, hkept, hp, get?_set]
    · by_cases hp : p = parent
      · subst hp
        simp [addChild, ChildOf, hkept]
      · simp [addChild, ChildOf, hkept, hp]

theorem get?_addChildren : ∀ {children : Dict (List String)},
    (get? (entries.foldl (addChild cycles) children) parent).getD [] =
      (get? children parent).getD [] ++ (entries.filter fun entry => ChildOf cycles parent entry).map Prod.fst := by
  induction entries with
  | nil =>
    intro children
    simp
  | cons entry entries ih =>
    intro children
    rw [List.foldl_cons, ih, get?_addChild, List.append_assoc]
    by_cases hchild : ChildOf cycles parent entry
    · simp [hchild]
    · simp [hchild]

theorem childrenOf_eq : childrenOf entries parent =
    sorted ((entries.filter fun entry => ChildOf (cycleMembers entries) parent entry).map Prod.fst) := by
  rw [childrenOf, get?_addChildren]
  rfl

theorem nodup_childrenOf (hnodup : (keys entries).Nodup) : (childrenOf entries parent).Nodup := by
  rw [childrenOf_eq]
  exact (List.perm_insertionSort _ _).nodup_iff.mpr ((List.filter_sublist.map Prod.fst).nodup hnodup)

theorem mem_childrenOf (hnodup : (keys entries).Nodup) : ref ∈ childrenOf entries parent ↔
    parentIn entries ref = some parent ∧ ¬ OnCycle (parentIn entries) ref ∧ ¬ OnCycle (parentIn entries) parent := by
  rw [childrenOf_eq, mem_sorted, List.mem_map, ← mem_cycleMembers, ← mem_cycleMembers]
  constructor
  · intro ⟨⟨ref', named⟩, hentry, heq⟩
    obtain ⟨hmem, hchild⟩ := List.mem_filter.mp hentry
    obtain ⟨hnamed, hout⟩ := of_decide_eq_true hchild
    cases heq
    refine ⟨?_, hout⟩
    rw [parentIn, get?_of_mem hnodup hmem]
    exact hnamed
  · intro ⟨hparent, hout⟩
    obtain ⟨named, hget, hnamed⟩ := Option.bind_eq_some_iff.mp hparent
    exact ⟨(ref, named), List.mem_filter.mpr ⟨mem_of_get? hget, decide_eq_true ⟨hnamed, hout⟩⟩, rfl⟩

end Children

/-! ## The walk -/

section Walk

variable {byProcess : Dict ProcessObservation} {children : String → List String} {maxNodes maxDepth d : Nat}
  {walk : TreeWalk} {fuel : Nat}

/-- The nodes of processes at their depths. -/
def nodesAt (byProcess : Dict ProcessObservation) (places : List (String × Nat)) : List ProcessTreeNode :=
  places.filterMap fun place => (get? byProcess place.1).map fun row => { nodeOf row place.2 with processRef := place.1 }

theorem nodesAt_append (places places' : List (String × Nat)) :
    nodesAt byProcess (places ++ places') = nodesAt byProcess places ++ nodesAt byProcess places' :=
  List.filterMap_append

theorem nodesAt_cons {ref : String} (hrow : get? byProcess ref = some row)
    (places : List (String × Nat)) :
    nodesAt byProcess ((ref, d) :: places) = { nodeOf row d with processRef := ref } :: nodesAt byProcess places := by
  rw [nodesAt, List.filterMap_cons, hrow]
  rfl

theorem length_nodesAt {places : List (String × Nat)} (h : ∀ place ∈ places, ∃ row, get? byProcess place.1 = some row) :
    (nodesAt byProcess places).length = places.length := by
  induction places with
  | nil => rfl
  | cons place places ih =>
    obtain ⟨⟨row, hrow⟩, hrest⟩ := List.forall_mem_cons.mp h
    rw [nodesAt_cons hrow, List.length_cons, List.length_cons, ih hrest]

theorem treeWalk_done (hqueue : walk.queue = []) : ∀ fuel,
    treeWalk byProcess children maxNodes maxDepth fuel walk = .ok walk
  | 0 => rfl
  | fuel + 1 => by
    rw [treeWalk, treeStep, hqueue]
    exact treeWalk_done hqueue fuel

theorem treeWalk_skip : ∀ {queue : List (String × Nat)} {walk : TreeWalk}, walk.queue = queue →
    (∀ place ∈ queue, place.1 ∉ walk.visited ∧ (maxDepth < place.2 ∨ maxNodes ≤ walk.nodes.length)) →
    treeWalk byProcess children maxNodes maxDepth (queue.length + fuel) walk =
      .ok { walk with queue := [], truncated := walk.truncated || decide (queue ≠ []) }
  | [], walk, hqueue, _ => by
    rw [treeWalk_done hqueue]
    cases walk
    cases hqueue
    simp
  | (ref, depth) :: queue, walk, hqueue, hskip => by
    obtain ⟨⟨hfresh, hbound⟩, hrest⟩ := List.forall_mem_cons.mp hskip
    have hbound' : (maxDepth : Int) < (depth : Int) ∨ (maxNodes : Int) ≤ (walk.nodes.length : Int) := by
      dsimp only at hbound
      omega
    rw [List.length_cons, show queue.length + 1 + fuel = queue.length + fuel + 1 by omega, treeWalk, treeStep, hqueue]
    simp only [if_neg hfresh, if_pos hbound']
    refine (@treeWalk_skip queue { walk with queue := queue, truncated := true } rfl hrest).trans ?_
    simp

theorem treeWalk_generation : ∀ {level next : List String} {walk : TreeWalk},
    walk.queue = level.map (·, d) ++ next.map (·, d + 1) → (∀ ref ∈ level, ref ∉ walk.visited) → level.Nodup →
    d ≤ maxDepth → (∀ ref ∈ level, ∃ row, get? byProcess ref = some row) →
    treeWalk byProcess children maxNodes maxDepth (level.length + fuel) walk =
      treeWalk byProcess children maxNodes maxDepth fuel
        { queue := (next ++ (level.take (maxNodes - walk.nodes.length)).flatMap children).map (·, d + 1)
          visited := walk.visited ++ level.take (maxNodes - walk.nodes.length)
          nodes := walk.nodes ++ nodesAt byProcess ((level.take (maxNodes - walk.nodes.length)).map (·, d))
          truncated := walk.truncated || decide (maxNodes - walk.nodes.length < level.length) }
  | [], next, walk, hqueue, _, _, _, _ => by
    cases walk
    cases hqueue
    simp [nodesAt]
  | ref :: level, next, walk, hqueue, hfresh, hnodup, hdepth, hrows => by
    obtain ⟨hfresh, hrest⟩ := List.forall_mem_cons.mp hfresh
    obtain ⟨hnot, hnodup⟩ := List.nodup_cons.mp hnodup
    obtain ⟨⟨row, hrow⟩, hrows⟩ := List.forall_mem_cons.mp hrows
    rw [List.length_cons, show level.length + 1 + fuel = level.length + fuel + 1 by omega, treeWalk, treeStep, hqueue]
    simp only [List.map_cons, List.cons_append, if_neg hfresh]
    by_cases hfull : maxNodes ≤ walk.nodes.length
    · have hbound : (maxDepth : Int) < (d : Int) ∨ (maxNodes : Int) ≤ (walk.nodes.length : Int) := by omega
      simp only [if_pos hbound]
      refine (@treeWalk_generation level next
        { walk with queue := level.map (·, d) ++ next.map (·, d + 1), truncated := true } rfl hrest hnodup hdepth hrows).trans ?_
      simp [Nat.sub_eq_zero_of_le hfull]
    · have hbound : ¬ ((maxDepth : Int) < (d : Int) ∨ (maxNodes : Int) ≤ (walk.nodes.length : Int)) := by omega
      simp only [if_neg hbound, hrow]
      refine (@treeWalk_generation level (next ++ children ref)
        { queue := level.map (·, d) ++ next.map (·, d + 1) ++ (children ref).map (·, d + 1)
          visited := walk.visited ++ [ref]
          nodes := walk.nodes ++ [{ nodeOf row d with processRef := ref }]
          truncated := walk.truncated } ?_ ?_ hnodup hdepth hrows).trans ?_
      · simp
      · intro other hother
        rw [List.mem_append, List.mem_singleton]
        intro hmem
        rcases hmem with hmem | rfl
        · exact hrest other hother hmem
        · exact hnot hother
      · have hk : maxNodes - walk.nodes.length = maxNodes - (walk.nodes.length + 1) + 1 := by omega
        simp only [List.length_append, List.length_cons, List.length_nil, Nat.zero_add, hk, List.take_succ_cons,
          List.flatMap_cons, List.map_cons,
          nodesAt_cons hrow, List.append_assoc, List.singleton_append, Nat.add_lt_add_iff_right]

end Walk

section Bounded

variable {byProcess : Dict ProcessObservation} {children : String → List String} {parent : String → Option String}
  {root : String} {maxNodes maxDepth : Nat}

/-- Below the root each process has one parent and was observed. -/
structure Rooted (byProcess : Dict ProcessObservation) (children : String → List String) (parent : String → Option String)
    (root : String) : Prop where
  above : ∀ a b, b ∈ children a → parent b = some a
  acyclic : children root ≠ [] → ¬ OnCycle parent root
  nodup : ∀ a, (children a).Nodup
  rows : ∀ n, ∀ a ∈ generation children root n, ∃ row, get? byProcess a = some row

/-- The walk before a generation, with nothing passed over. -/
def walkAt (byProcess : Dict ProcessObservation) (children : String → List String) (root : String) (d : Nat) : TreeWalk where
  queue := (generation children root d).map (·, d)
  visited := (breadthFirst children root d).map Prod.fst
  nodes := nodesAt byProcess (breadthFirst children root d)

theorem Rooted.length_nodesAt (h : Rooted byProcess children parent root) (d : Nat) :
    (nodesAt byProcess (breadthFirst children root d)).length = (breadthFirst children root d).length := by
  refine SecurityMonitoring.length_nodesAt ?_
  intro place hplace
  exact h.rows place.2 place.1 (mem_breadthFirst.mp hplace).2

theorem Rooted.fresh (h : Rooted byProcess children parent root) {a : String} {d n : Nat} (hn : n ≤ d)
    (ha : a ∈ generation children root d) : a ∉ (breadthFirst children root n).map Prod.fst := by
  intro hmem
  obtain ⟨⟨b, m⟩, hplace, rfl⟩ := List.mem_map.mp hmem
  obtain ⟨hlt, hgen⟩ := mem_breadthFirst.mp hplace
  have := generation_unique h.above h.acyclic hgen ha
  omega

/-- What the finished walk has seen. -/
def Swept (byProcess : Dict ProcessObservation) (children : String → List String) (root : String) (maxNodes maxDepth : Nat)
    (walk : TreeWalk) : Prop :=
  walk.nodes = nodesAt byProcess ((breadthFirst children root (maxDepth + 1)).take maxNodes) ∧
    walk.visited = ((breadthFirst children root (maxDepth + 1)).take maxNodes).map Prod.fst ∧
    (walk.truncated = true ↔ maxNodes < (breadthFirst children root (maxDepth + 1)).length ∨
      generation children root (maxDepth + 1) ≠ [])

theorem Rooted.treeWalk_cut (h : Rooted byProcess children parent root) {d fuel : Nat}
    (hlen : (breadthFirst children root d).length ≤ maxNodes) (hd : d ≤ maxDepth)
    (hcut : maxNodes - (breadthFirst children root d).length < (generation children root d).length)
    (hfuel : (generation children root (d + 1)).length ≤ fuel) :
    ∃ walk, SecurityMonitoring.treeWalk byProcess children maxNodes maxDepth fuel
        { queue := (([] : List String) ++ ((generation children root d).take
            (maxNodes - (breadthFirst children root d).length)).flatMap children).map (·, d + 1)
          visited := (walkAt byProcess children root d).visited ++
            (generation children root d).take (maxNodes - (breadthFirst children root d).length)
          nodes := (walkAt byProcess children root d).nodes ++ nodesAt byProcess (((generation children root d).take
            (maxNodes - (breadthFirst children root d).length)).map (·, d))
          truncated := (walkAt byProcess children root d).truncated ||
            decide (maxNodes - (breadthFirst children root d).length < (generation children root d).length) } = .ok walk ∧
      Swept byProcess children root maxNodes maxDepth walk := by
  obtain ⟨tail, htail⟩ := @exists_breadthFirst_append _ children root (d + 1) (maxDepth + 1) (by omega)
  rw [@breadthFirst_succ _ children root d] at htail
  generalize hroom : maxNodes - (breadthFirst children root d).length = room at hcut ⊢
  have htaken : (breadthFirst children root (maxDepth + 1)).take maxNodes =
      breadthFirst children root d ++ ((generation children root d).take room).map (·, d) := by
    rw [htail, List.append_assoc, List.take_append, List.take_of_length_le hlen, hroom,
      List.take_append_of_le_length (by rw [List.length_map]; omega), List.map_take]
  have hrest : ((generation children root d).take room).flatMap children ⊆ generation children root (d + 1) := by
    intro a ha
    obtain ⟨b, hb, hab⟩ := List.mem_flatMap.mp ha
    exact mem_generation_succ.mpr ⟨b, List.mem_of_mem_take hb, hab⟩
  have hrounds : (((generation children root d).take room).flatMap children).length ≤ fuel := by
    refine Nat.le_trans ?_ hfuel
    rw [generation, List.length_flatMap, List.length_flatMap, List.map_take]
    exact (List.take_sublist _ _).sum_le_sum (by simp)
  obtain ⟨extra, rfl⟩ := Nat.exists_eq_add_of_le hrounds
  have hfull : ((walkAt byProcess children root d).nodes ++
      nodesAt byProcess (((generation children root d).take room).map (·, d))).length = maxNodes := by
    rw [List.length_append, SecurityMonitoring.length_nodesAt, List.length_map, List.length_take, walkAt, h.length_nodesAt]
    · omega
    · intro place hplace
      obtain ⟨a, ha, rfl⟩ := List.mem_map.mp hplace
      exact h.rows d a (List.mem_of_mem_take ha)
  have hskip := @treeWalk_skip byProcess children maxNodes maxDepth extra
    ((([] : List String) ++ ((generation children root d).take room).flatMap children).map (·, d + 1))
    ⟨_, (walkAt byProcess children root d).visited ++ (generation children root d).take room,
    (walkAt byProcess children root d).nodes ++
      nodesAt byProcess (((generation children root d).take room).map (·, d)),
      (walkAt byProcess children root d).truncated || decide (room < (generation children root d).length)⟩ rfl ?_
  · rw [List.length_map, List.nil_append] at hskip
    refine ⟨_, hskip, ?_, ?_, ?_⟩
    · rw [htaken, nodesAt_append]
      rfl
    · rw [htaken, List.map_append, List.map_map]
      simp [walkAt, Function.comp_def]
    · rw [htail]
      simp only [List.length_append, List.length_map, hcut, decide_true, Bool.or_true, Bool.true_or, true_iff]
      exact .inl (by omega)
  · intro place hplace
    obtain ⟨a, ha, rfl⟩ := List.mem_map.mp hplace
    refine ⟨?_, .inr hfull.ge⟩
    intro hmem
    refine h.fresh (Nat.le_refl (d + 1)) (hrest ha) ?_
    rw [breadthFirst_succ, List.map_append, List.map_map]
    rcases List.mem_append.mp hmem with hmem | hmem
    · exact List.mem_append_left _ hmem
    · refine List.mem_append_right _ (List.mem_map.mpr ⟨a, List.mem_of_mem_take hmem, rfl⟩)

theorem Rooted.treeWalk (h : Rooted byProcess children parent root) : ∀ (rest d fuel : Nat), d + rest = maxDepth + 1 →
    (breadthFirst children root d).length ≤ maxNodes →
    (breadthFirst children root (maxDepth + 2)).length ≤ fuel + (breadthFirst children root d).length →
    ∃ walk, SecurityMonitoring.treeWalk byProcess children maxNodes maxDepth fuel (walkAt byProcess children root d) = .ok walk ∧
      Swept byProcess children root maxNodes maxDepth walk
  | 0, d, fuel, hd, hlen, hfuel => by
    obtain rfl : d = maxDepth + 1 := by omega
    have hrounds : ((generation children root (maxDepth + 1)).map (·, maxDepth + 1)).length ≤ fuel := by
      rw [breadthFirst_succ, List.length_append] at hfuel
      omega
    obtain ⟨extra, rfl⟩ := Nat.exists_eq_add_of_le hrounds
    refine ⟨_, @treeWalk_skip byProcess children maxNodes maxDepth extra _ (walkAt byProcess children root (maxDepth + 1)) rfl ?_,
      ?_, ?_, ?_⟩
    · intro place hplace
      obtain ⟨a, ha, rfl⟩ := List.mem_map.mp hplace
      exact ⟨h.fresh (Nat.le_refl _) ha, .inl (by dsimp only; omega)⟩
    · rw [List.take_of_length_le hlen]
      rfl
    · rw [List.take_of_length_le hlen]
      rfl
    · simp [walkAt, Nat.not_lt.mpr hlen]
  | rest + 1, d, fuel, hd, hlen, hfuel => by
    obtain ⟨tail, htail⟩ := @exists_breadthFirst_append _ children root (d + 1) (maxDepth + 1) (by omega)
    obtain ⟨more, hmore⟩ := @exists_breadthFirst_append _ children root (d + 1 + 1) (maxDepth + 2) (by omega)
    have hsize := congrArg List.length (@breadthFirst_succ _ children root d)
    have hsize' := congrArg List.length (@breadthFirst_succ _ children root (d + 1))
    have hsize'' := congrArg List.length hmore
    rw [List.length_append, List.length_map] at hsize hsize'
    rw [List.length_append] at hsize''
    obtain ⟨left, rfl⟩ := Nat.exists_eq_add_of_le (show (generation children root d).length ≤ fuel by omega)
    rw [@treeWalk_generation byProcess children maxNodes maxDepth d left (generation children root d) []
      (walkAt byProcess children root d) (by simp [walkAt]) (fun a ha => h.fresh (Nat.le_refl _) ha)
      (generation_nodup h.above h.nodup d) (by omega) (h.rows d)]
    rw [show (walkAt byProcess children root d).nodes.length = (breadthFirst children root d).length from h.length_nodesAt d]
    by_cases hcut : maxNodes - (breadthFirst children root d).length < (generation children root d).length
    · exact h.treeWalk_cut hlen (by omega) hcut (by omega)
    · have hall : (generation children root d).take (maxNodes - (breadthFirst children root d).length) =
          generation children root d := List.take_of_length_le (by omega)
      have hat : (⟨(([] : List String) ++ (generation children root d).flatMap children).map (·, d + 1),
          (walkAt byProcess children root d).visited ++ generation children root d,
          (walkAt byProcess children root d).nodes ++ nodesAt byProcess ((generation children root d).map (·, d)),
          (walkAt byProcess children root d).truncated || decide (maxNodes - (breadthFirst children root d).length <
            (generation children root d).length)⟩ : TreeWalk) = walkAt byProcess children root (d + 1) := by
        simp [walkAt, breadthFirst_succ, nodesAt_append, hcut, generation, Function.comp_def]
      rw [hall, hat]
      exact h.treeWalk rest (d + 1) left (by omega) (by omega) (by omega)

end Bounded

/-! ## Checked values -/

theorem processIdentifier_ok {value text : String} {maxLen : Nat} :
    processIdentifier value fieldName maxLen = .ok text ↔
      (strip value ≠ "" ∧ (strip value).toList.length ≤ maxLen ∧ processIdRe (strip value).toList = true) ∧
      (contains (strip value) "://" = false ∧ '\\' ∉ (strip value).toList) ∧ strip value = text := by
  simp only [processIdentifier, bind_unit_ok, require_ok, pure_ok]

theorem processIdentifier_processIdentifier {value text : String} {maxLen : Nat}
    (h : processIdentifier value fieldName maxLen = .ok text) (fieldName' : String) :
    processIdentifier text fieldName' maxLen = .ok text := by
  obtain ⟨hre, hplain, rfl⟩ := processIdentifier_ok.mp h
  rw [processIdentifier_ok, strip_strip]
  exact ⟨hre, hplain, rfl⟩

/-- An identifier as it is kept. -/
def IsIdentifier (text : String) : Prop := ∀ fieldName, processIdentifier text fieldName 128 = .ok text

theorem IsIdentifier.of_ok {value text : String} (h : processIdentifier value fieldName 128 = .ok text) :
    IsIdentifier text := processIdentifier_processIdentifier h

theorem checkedOptional_ok (h : ∀ text ∈ value, IsIdentifier text) :
    ProcessObservation.checkedOptional fieldName value = .ok value := by
  cases value with
  | none => rfl
  | some text =>
    have htext := h text rfl fieldName
    rw [ProcessObservation.checkedOptional, htext]
    rfl

namespace ProcessObservation

/-- What the checks establish of an observation. -/
structure Checked [PyTime] (row : ProcessObservation) : Prop where
  processRef : IsIdentifier row.processRef
  observedAt : isoTimestamp row.observedAt "observed_at" = .ok row.observedAt
  evidenceRef : IsIdentifier row.evidenceRef
  parentProcessRef : ∀ text ∈ row.parentProcessRef, IsIdentifier text
  userRef : ∀ text ∈ row.userRef, IsIdentifier text

theorem isIdentifier_checkedParent {processRef : String} {text : Option String}
    (h : checkedParent processRef value = .ok text) : ∀ kept ∈ text, IsIdentifier kept := by
  intro kept hkept
  cases value with
  | none =>
    rw [checkedParent, pure_ok] at h
    rw [← h] at hkept
    cases hkept
  | some value =>
    simp only [checkedParent, bind_ok, require_ok, pure_ok, exists_const] at h
    obtain ⟨parent, hparent, -, rfl⟩ := h
    cases hkept
    exact .of_ok hparent

theorem isIdentifier_checkedOptional {text : Option String}
    (h : checkedOptional fieldName value = .ok text) : ∀ kept ∈ text, IsIdentifier kept := by
  intro kept hkept
  cases value with
  | none =>
    rw [checkedOptional, pure_ok] at h
    rw [← h] at hkept
    cases hkept
  | some value =>
    simp only [checkedOptional, bind_ok, pure_ok] at h
    obtain ⟨parent, hparent, rfl⟩ := h
    cases hkept
    exact .of_ok hparent

theorem checked_of_validate [PyTime] {o : ProcessObservation} (h : o.validate = .ok row) : Checked row := by
  simp only [validate, bind_ok, require_ok, pure_ok, exists_const] at h
  obtain ⟨eventId, -, assetRef, -, processRef, hprocess, observedAt, hat, evidenceRef, hevidence, parent, hparent, user, huser, -,
    rfl⟩ := h
  exact ⟨.of_ok hprocess, isoTimestamp_isoTimestamp hat _, .of_ok hevidence, isIdentifier_checkedParent hparent,
    isIdentifier_checkedOptional huser⟩

end ProcessObservation

theorem ProcessTreeNode.check_nodeOf [PyTime] (h : row.Checked) {depth : Nat} (hdepth : depth ≤ 32) :
    (nodeOf row depth).check = .ok () := by
  have hbound : (0 : Int) ≤ depth ∧ (depth : Int) ≤ maxProcessTreeDepth := by
    rw [maxProcessTreeDepth]
    omega
  simp only [ProcessTreeNode.check, bind_ok, require_ok, exists_const]
  exact ⟨_, h.processRef _, _, checkedOptional_ok h.parentProcessRef, hbound, _, h.observedAt, _, h.evidenceRef _, _,
    checkedOptional_ok h.userRef, rfl⟩

/-! ## The observations that are kept -/

section Kept

variable {rows : List ProcessObservation} {byProcess : Dict ProcessObservation}

theorem keeps_keepProcess (h : rows.foldlM keepProcess [] = .ok byProcess) : Keeps (·.processRef) byProcess rows := by
  have hfold := @foldlM_ok _ _ _ (fun done d => Keeps (·.processRef) d done) keepProcess ?_ rows [] [] byProcess .nil h
  · rwa [List.nil_append] at hfold
  · intro done d row d' hkeeps hstep
    simp only [keepProcess, bind_unit_ok, require_ok, pure_ok] at hstep
    obtain ⟨hsame, rfl⟩ := hstep
    refine hkeeps.set ?_
    intro b hb hkey
    exact hsame b (hkeeps.get?_iff.mpr ⟨hb, hkey⟩)

theorem foldlM_keepProcess : ∀ {done rows : List ProcessObservation} {d : Dict ProcessObservation},
    Determines (·.processRef) (done ++ rows) → Keeps (·.processRef) d done →
    ∃ byProcess, rows.foldlM keepProcess d = .ok byProcess
  | _, [], d, _, _ => ⟨d, rfl⟩
  | done, row :: rows, d, hagree, hkeeps => by
    have hsame : ∀ b ∈ done, b.processRef = row.processRef → b = row := by
      intro b hb hkey
      exact hagree b (List.mem_append_left _ hb) row (by simp) hkey
    have hstep : keepProcess d row = .ok (PyDict.set d row.processRef row) := by
      simp only [keepProcess, bind_unit_ok, require_ok, pure_ok, and_true]
      intro previous hprevious
      obtain ⟨hmem, hkey⟩ := hkeeps.get?_iff.mp hprevious
      exact hsame previous hmem hkey
    have hagree' : Determines (·.processRef) ((done ++ [row]) ++ rows) := by
      rw [List.append_assoc]
      exact hagree
    rw [List.foldlM_cons, hstep]
    exact foldlM_keepProcess hagree' (hkeeps.set hsame)

end Kept

/-! ## What the reconstruction returns -/

/-- The parents of the processes that were kept. -/
def parentsOf (byProcess : Dict ProcessObservation) : Dict (Option String) :=
  byProcess.map fun entry => (entry.1, entry.2.parentProcessRef)

section Kept

variable {rows : List ProcessObservation} {byProcess : Dict ProcessObservation} {root : String} {maxNodes maxDepth : Nat}

theorem keys_parentsOf : keys (parentsOf byProcess) = keys byProcess := by
  rw [keys, parentsOf, List.map_map]
  rfl

theorem get?_parentsOf (process : String) :
    get? (parentsOf byProcess) process = (get? byProcess process).map (·.parentProcessRef) := by
  induction byProcess with
  | nil => rfl
  | cons entry d ih =>
    rw [parentsOf, List.map_cons, get?_cons, get?_cons]
    split
    · rfl
    · exact ih

section
variable (h : Keeps (·.processRef) byProcess rows)
include h

theorem get?_eq_find? (process : String) :
    get? byProcess process = rows.find? fun row => row.processRef = process := by
  cases hfind : rows.find? fun row => row.processRef = process with
  | none =>
    have hnone := List.find?_eq_none.mp hfind
    cases hget : get? byProcess process with
    | none => rfl
    | some row =>
      obtain ⟨hmem, hkey⟩ := h.get?_iff.mp hget
      exact absurd (decide_eq_true hkey) (hnone row hmem)
  | some row => exact h.get?_iff.mpr ⟨List.mem_of_find?_eq_some hfind, by simpa using List.find?_some hfind⟩

theorem parentIn_parentsOf :
    parentIn (parentsOf byProcess) = parentAmong rows := by
  funext process
  rw [parentIn, get?_parentsOf, get?_eq_find? h process, parentAmong]
  cases rows.find? fun row => row.processRef = process <;> rfl

theorem mem_childrenOf_parentsOf {child : String} :
    child ∈ childrenOf (parentsOf byProcess) process ↔ Descends rows process child := by
  rw [mem_childrenOf (keys_parentsOf ▸ h.nodup), parentIn_parentsOf h]
  rfl

theorem childrenOf_pairwise (process : String) :
    (childrenOf (parentsOf byProcess) process).Pairwise (· < ·) := by
  have hnodup := @nodup_childrenOf (parentsOf byProcess) process (keys_parentsOf ▸ h.nodup)
  have hle : (childrenOf (parentsOf byProcess) process).Pairwise (· ≤ ·) := by
    rw [childrenOf_eq]
    exact List.pairwise_insertionSort _ _
  exact (hle.and hnodup).imp fun ⟨hle, hne⟩ => lt_of_le_of_ne hle hne

theorem observed_generation (hroot : ∃ row, get? byProcess root = some row) :
    ∀ n, ∀ process ∈ generation (childrenOf (parentsOf byProcess)) root n, ∃ row, get? byProcess process = some row
  | 0, process, hmem => by
    rw [List.mem_singleton.mp hmem]
    exact hroot
  | n + 1, process, hmem => by
    obtain ⟨above, -, hchild⟩ := mem_generation_succ.mp hmem
    have hparent := ((mem_childrenOf (keys_parentsOf ▸ h.nodup)).mp hchild).1
    have hobserved := observed_of_parentIn hparent
    rw [get?_parentsOf] at hobserved
    cases hget : get? byProcess process with
    | none =>
      rw [hget] at hobserved
      exact absurd rfl hobserved
    | some row => exact ⟨row, rfl⟩

theorem rooted_childrenOf (hroot : ∃ row, get? byProcess root = some row) :
    Rooted byProcess (childrenOf (parentsOf byProcess)) (parentAmong rows) root where
  above := fun a b hb => ((mem_childrenOf_parentsOf h).mp hb).1
  acyclic := by
    intro hne
    obtain ⟨child, hchild⟩ := List.exists_mem_of_ne_nil _ hne
    exact ((mem_childrenOf_parentsOf h).mp hchild).2.2
  nodup := fun _ => nodup_childrenOf (keys_parentsOf ▸ h.nodup)
  rows := observed_generation h hroot

end

end Kept

/-- The places of the nodes of a tree, breadth first. -/
def places (byProcess : Dict ProcessObservation) (root : String) (maxNodes maxDepth : Nat) : List (String × Nat) :=
  (breadthFirst (childrenOf (parentsOf byProcess)) root (maxDepth + 1)).take maxNodes

/-- What the reconstruction returns, of the observations that it keeps. -/
def treeOf (byProcess : Dict ProcessObservation) (assetRef root : String) (maxNodes maxDepth : Nat) (truncated : Bool) :
    ProcessTreeAssessment where
  assetRef := assetRef
  rootProcessRef := root
  nodes := sortedBy (fun node : ProcessTreeNode => toLex (node.depth, toLex (node.observedAt, node.processRef)))
    (nodesAt byProcess (places byProcess root maxNodes maxDepth))
  orphanProcessRefs := sorted (dedup (sorted (((parentsOf byProcess).filter fun entry =>
    entry.2.any fun parent => !has byProcess parent).map Prod.fst)))
  cycleProcessRefs := sorted (dedup (sorted (cycleMembers (parentsOf byProcess))))
  truncated := truncated

section Tree

variable {rows : List ProcessObservation} {byProcess : Dict ProcessObservation} {root : String} {maxNodes maxDepth : Nat}

/-- A descendant is missing from the first places. -/
def Missing (rows : List ProcessObservation) (root : String) (taken : List (String × Nat)) : Prop :=
  ∃ process, Relation.ReflTransGen (Descends rows) root process ∧ process ∉ taken.map Prod.fst

section
variable (h : Keeps (·.processRef) byProcess rows)
include h

theorem exists_generation_childrenOf : (∃ n, process ∈ generation (childrenOf (parentsOf byProcess)) root n) ↔
      Relation.ReflTransGen (Descends rows) root process := by
  have hrel : (fun a b => b ∈ childrenOf (parentsOf byProcess) a) = Descends rows := by
    funext a b
    exact propext (mem_childrenOf_parentsOf h)
  rw [exists_generation_iff, hrel]

theorem missing_iff
    (hrooted : Rooted byProcess (childrenOf (parentsOf byProcess)) (parentAmong rows) root) :
    Missing rows root (places byProcess root maxNodes maxDepth) ↔
      maxNodes < (breadthFirst (childrenOf (parentsOf byProcess)) root (maxDepth + 1)).length ∨
        generation (childrenOf (parentsOf byProcess)) root (maxDepth + 1) ≠ [] := by
  constructor
  · intro ⟨process, hreached, hmissing⟩
    obtain ⟨n, hn⟩ := (exists_generation_childrenOf h).mpr hreached
    by_contra hcontra
    obtain ⟨hlen, hnil⟩ := not_or.mp hcontra
    by_cases hdeep : n < maxDepth + 1
    · rw [places, List.take_of_length_le (Nat.le_of_not_lt hlen)] at hmissing
      exact hmissing (List.mem_map_of_mem (f := Prod.fst) (mem_breadthFirst.mpr ⟨hdeep, hn⟩))
    · exact hnil (generation_ne_nil_of_le (Nat.le_of_not_lt hdeep) (List.ne_nil_of_mem hn))
  · intro hcut
    rcases hcut with hlen | hdeep
    · have hrest : (breadthFirst (childrenOf (parentsOf byProcess)) root (maxDepth + 1)).drop maxNodes ≠ [] := by
        intro hnil
        have := List.drop_eq_nil_iff.mp hnil
        omega
      obtain ⟨⟨process, n⟩, hmem⟩ := List.exists_mem_of_ne_nil _ hrest
      have hgen := (mem_breadthFirst.mp (List.mem_of_mem_drop hmem)).2
      refine ⟨process, (exists_generation_childrenOf h).mp ⟨n, hgen⟩, ?_⟩
      have hnodup := breadthFirst_nodup hrooted.above hrooted.acyclic hrooted.nodup (maxDepth + 1)
      rw [← List.take_append_drop maxNodes (breadthFirst (childrenOf (parentsOf byProcess)) root (maxDepth + 1)),
        List.map_append] at hnodup
      intro htaken
      exact (List.nodup_append.mp hnodup).2.2 process htaken process (List.mem_map_of_mem (f := Prod.fst) hmem) rfl
    · obtain ⟨process, hmem⟩ := List.exists_mem_of_ne_nil _ hdeep
      refine ⟨process, (exists_generation_childrenOf h).mp ⟨_, hmem⟩, ?_⟩
      intro htaken
      exact hrooted.fresh (Nat.le_refl _) hmem (((List.take_sublist _ _).map Prod.fst).subset htaken)

end

theorem length_breadthFirst_le (hrooted : Rooted byProcess (childrenOf (parentsOf byProcess)) (parentAmong rows) root) (n : Nat) :
    (breadthFirst (childrenOf (parentsOf byProcess)) root n).length ≤ byProcess.length := by
  have hnodup := breadthFirst_nodup hrooted.above hrooted.acyclic hrooted.nodup n
  have hsub : (breadthFirst (childrenOf (parentsOf byProcess)) root n).map Prod.fst ⊆ keys byProcess := by
    intro process hmem
    obtain ⟨place, hplace, rfl⟩ := List.mem_map.mp hmem
    exact mem_keys.mpr (has_iff.mpr (hrooted.rows _ _ (mem_breadthFirst.mp hplace).2))
  have hle := (List.subperm_of_subset hnodup hsub).length_le
  rwa [List.length_map, keys, List.length_map] at hle

theorem Rooted.places_rows (h : Rooted byProcess (childrenOf (parentsOf byProcess)) (parentAmong rows) root)
    (maxNodes maxDepth : Nat) :
    ∀ place ∈ places byProcess root maxNodes maxDepth, ∃ row, get? byProcess place.1 = some row := by
  intro place hplace
  exact h.rows place.2 place.1 (mem_breadthFirst.mp (List.mem_of_mem_take hplace)).2

theorem treeWalk_places (h : Keeps (·.processRef) byProcess rows) (hroot : ∃ row, get? byProcess root = some row) :
    ∃ walk, treeWalk byProcess (childrenOf (parentsOf byProcess)) maxNodes maxDepth (byProcess.length + 1)
        { queue := [(root, 0)] } = .ok walk ∧
      walk.nodes = nodesAt byProcess (places byProcess root maxNodes maxDepth) ∧
      ((walk.truncated || (childrenOf (parentsOf byProcess) root).any fun ref => decide (ref ∉ walk.visited)) = true ↔
        Missing rows root (places byProcess root maxNodes maxDepth)) := by
  have hrooted := rooted_childrenOf h hroot
  have hfuel : (breadthFirst (childrenOf (parentsOf byProcess)) root (maxDepth + 2)).length ≤ byProcess.length + 1 + 0 :=
    (length_breadthFirst_le hrooted _).trans (by omega)
  obtain ⟨walk, hwalk, hnodes, hvisited, htruncated⟩ := hrooted.treeWalk (maxDepth + 1) 0 (byProcess.length + 1)
    (by omega) (Nat.zero_le maxNodes) hfuel
  refine ⟨walk, hwalk, hnodes, ?_⟩
  rw [Bool.or_eq_true, htruncated, ← missing_iff h hrooted, List.any_eq_true]
  refine ⟨?_, .inl⟩
  intro hor
  rcases hor with hmissing | ⟨child, hchild, hunvisited⟩
  · exact hmissing
  · rw [hvisited] at hunvisited
    exact ⟨child, .single ((mem_childrenOf_parentsOf h).mp hchild), of_decide_eq_true hunvisited⟩

end Tree

section Tree

variable {rows : List ProcessObservation} {byProcess : Dict ProcessObservation} {root assetRef : String} {maxNodes maxDepth : Nat}

theorem mem_nodesAt (h : Keeps (·.processRef) byProcess rows) {node : ProcessTreeNode}
    (hnode : node ∈ nodesAt byProcess taken) :
    ∃ row ∈ rows, ∃ depth, node = nodeOf row depth ∧ (row.processRef, depth) ∈ taken := by
  obtain ⟨⟨process, depth⟩, hplace, hsome⟩ := List.mem_filterMap.mp hnode
  obtain ⟨row, hrow, rfl⟩ := Option.map_eq_some_iff.mp hsome
  obtain ⟨hmem, hkey⟩ := h.get?_iff.mp hrow
  dsimp only at hkey
  subst hkey
  exact ⟨row, hmem, depth, rfl, hplace⟩

theorem map_nodesAt (h : ∀ place ∈ taken, ∃ row, get? byProcess place.1 = some row) :
    (nodesAt byProcess taken).map (fun node => (node.processRef, node.depth)) =
      taken.map fun place => (place.1, (place.2 : Int)) := by
  induction taken with
  | nil => rfl
  | cons place taken ih =>
    obtain ⟨⟨row, hrow⟩, hrest⟩ := List.forall_mem_cons.mp h
    rw [nodesAt_cons hrow, List.map_cons, List.map_cons, ih hrest]
    rfl

theorem refs_nodesAt (h : ∀ place ∈ taken, ∃ row, get? byProcess place.1 = some row) :
    (nodesAt byProcess taken).map (·.processRef) = taken.map Prod.fst := by
  have hmap := congrArg (List.map Prod.fst) (map_nodesAt h)
  rwa [List.map_map, List.map_map] at hmap

theorem validate_treeOf [PyTime] (h : Keeps (·.processRef) byProcess rows)
    (hchecked : ∀ row ∈ rows, row.Checked) (hasset : IsIdentifier assetRef) (hroot : IsIdentifier root)
    (hobserved : ∃ row, get? byProcess root = some row) (hnodes : 1 ≤ maxNodes ∧ maxNodes ≤ 512) (hdepth : maxDepth ≤ 32)
    (truncated : Bool) :
    ({ assetRef := assetRef
       rootProcessRef := root
       nodes := sortedBy (fun node : ProcessTreeNode => toLex (node.depth, toLex (node.observedAt, node.processRef)))
         (nodesAt byProcess (places byProcess root maxNodes maxDepth))
       orphanProcessRefs := sorted (((parentsOf byProcess).filter fun entry =>
         entry.2.any fun parent => !has byProcess parent).map Prod.fst)
       cycleProcessRefs := sorted (cycleMembers (parentsOf byProcess))
       truncated := truncated } : ProcessTreeAssessment).validate =
      .ok (treeOf byProcess assetRef root maxNodes maxDepth truncated) := by
  have hrooted := rooted_childrenOf h hobserved
  have hrows := hrooted.places_rows maxNodes maxDepth
  have hrefs : ((sortedBy (fun node : ProcessTreeNode => toLex (node.depth, toLex (node.observedAt, node.processRef)))
      (nodesAt byProcess (places byProcess root maxNodes maxDepth))).map (·.processRef)).Perm
      ((places byProcess root maxNodes maxDepth).map Prod.fst) := by
    rw [← refs_nodesAt hrows]
    exact sortedBy_perm.map _
  have hplaces : root ∈ (places byProcess root maxNodes maxDepth).map Prod.fst := by
    obtain ⟨rest, hrest⟩ := @exists_breadthFirst_append _ (childrenOf (parentsOf byProcess)) root 1 (maxDepth + 1) (by omega)
    obtain ⟨n, rfl⟩ := Nat.exists_eq_add_of_le' hnodes.1
    rw [places, hrest]
    exact List.mem_cons_self
  have hlen : (sortedBy (fun node : ProcessTreeNode => toLex (node.depth, toLex (node.observedAt, node.processRef)))
      (nodesAt byProcess (places byProcess root maxNodes maxDepth))).length ≤ maxNodes := by
    rw [sortedBy_perm.length_eq, length_nodesAt hrows]
    exact List.length_take_le _ _
  have hkept : ∀ process, has byProcess process = true → processIdentifier process "orphan_process_ref" 128 = .ok process ∧
      processIdentifier process "cycle_process_ref" 128 = .ok process := by
    intro process hhas
    obtain ⟨row, hrow⟩ := has_iff.mp hhas
    obtain ⟨hmem, rfl⟩ := h.get?_iff.mp hrow
    exact ⟨(hchecked row hmem).processRef _, (hchecked row hmem).processRef _⟩
  have hkeys : ∀ process, process ∈ keys (parentsOf byProcess) → has byProcess process = true := by
    intro process hmem
    rw [keys_parentsOf] at hmem
    exact mem_keys.mp hmem
  simp only [ProcessTreeAssessment.validate, bind_ok, require_ok, pure_ok, exists_const]
  refine ⟨_, hasset _, _, hroot _, ?_, ?_, ?_, ?_, ⟨⟩, ?_, _, mapM_self ?_, _, mapM_self ?_, trivial, trivial, rfl⟩
  · intro hnil
    rw [hnil] at hrefs
    exact absurd (hrefs.mem_iff.mpr hplaces) List.not_mem_nil
  · rw [maxProcessTreeNodes]
    omega
  · rw [dedup_of_nodup]
    refine hrefs.nodup_iff.mpr ?_
    exact ((List.take_sublist _ _).map Prod.fst).nodup (breadthFirst_nodup hrooted.above hrooted.acyclic hrooted.nodup _)
  · exact hrefs.mem_iff.mpr hplaces
  · refine forM_ok.mpr ?_
    intro node hnode
    obtain ⟨row, hrow, depth, rfl, hplace⟩ := mem_nodesAt h (mem_sortedBy.mp hnode)
    have hlt := (mem_breadthFirst.mp (List.mem_of_mem_take hplace)).1
    exact ProcessTreeNode.check_nodeOf (hchecked row hrow) (by omega)
  · intro process hmem
    obtain ⟨entry, hentry, rfl⟩ := List.mem_map.mp (mem_sorted.mp hmem)
    exact (hkept _ (hkeys _ (List.mem_map_of_mem (List.mem_filter.mp hentry).1))).1
  · intro process hmem
    obtain ⟨parent, hparent⟩ := (mem_cycleMembers.mp (mem_sorted.mp hmem)).exists_parent (m := 0) rfl
    obtain ⟨v, hv⟩ := Option.ne_none_iff_exists'.mp (observed_of_parentIn hparent)
    exact (hkept _ (hkeys _ (mem_keys.mpr (has_iff.mpr ⟨v, hv⟩)))).2

theorem reconstructProcessTree_ok [PyTime] {observations rows : List ProcessObservation} {asset rootRef : String}
    (hrows : observations.mapM ProcessObservation.validate = .ok rows) (hlen : rows.length ≤ maxProcessTreeInputs)
    (hasset : processIdentifier asset "asset_ref" 128 = .ok assetRef)
    (hroot : processIdentifier rootRef "root_process_ref" 128 = .ok root)
    (hnodes : 1 ≤ maxNodes ∧ maxNodes ≤ 512) (hdepth : 1 ≤ maxDepth ∧ maxDepth ≤ 32)
    (hagree : Determines (·.processRef) (rows.filter fun row => row.assetRef = assetRef))
    (hobserved : ∃ row ∈ rows, row.assetRef = assetRef ∧ row.processRef = root) :
    ∃ byProcess truncated, Keeps (·.processRef) byProcess (rows.filter fun row => row.assetRef = assetRef) ∧
      (truncated = true ↔
        Missing (rows.filter fun row => row.assetRef = assetRef) root (places byProcess root maxNodes maxDepth)) ∧
      reconstructProcessTree observations asset rootRef maxNodes maxDepth =
        .ok (treeOf byProcess assetRef root maxNodes maxDepth truncated) := by
  obtain ⟨row, hrow, hof, hkey⟩ := hobserved
  have hmem : row ∈ rows.filter fun row => row.assetRef = assetRef := List.mem_filter.mpr ⟨hrow, decide_eq_true hof⟩
  obtain ⟨byProcess, hfold⟩ := @foldlM_keepProcess [] _ [] (by rw [List.nil_append]; exact hagree) .nil
  have hkeeps := keeps_keepProcess hfold
  have hget : get? byProcess root = some row := hkeeps.get?_iff.mpr ⟨hmem, hkey⟩
  have hchecked : ∀ row ∈ rows.filter fun row => row.assetRef = assetRef, row.Checked := by
    intro row hrow
    obtain ⟨raw, -, hraw⟩ := forall₂_mem_right (mapM_ok.mp hrows) (List.mem_filter.mp hrow).1
    exact ProcessObservation.checked_of_validate hraw
  obtain ⟨walk, hwalk, hwalked, htruncated⟩ := @treeWalk_places _ byProcess root maxNodes maxDepth hkeeps ⟨row, hget⟩
  refine ⟨byProcess, _, hkeeps, htruncated, ?_⟩
  have hvalid := validate_treeOf hkeeps hchecked (.of_ok hasset) (.of_ok hroot) ⟨row, hget⟩ hnodes hdepth.2
    (walk.truncated || (childrenOf (parentsOf byProcess) root).any fun ref => decide (ref ∉ walk.visited))
  rw [← hwalked] at hvalid
  simp only [reconstructProcessTree, bind_ok, require_ok, exists_const, positiveInt, pure_ok]
  refine ⟨_, hasset, _, hroot, _, ⟨?_, rfl⟩, _, ⟨?_, rfl⟩, _, hrows, ⟨List.ne_nil_of_mem hrow, hlen⟩, List.ne_nil_of_mem hmem, _,
    hfold, has_iff.mpr ⟨row, hget⟩, walk, hwalk, hvalid⟩
  · rw [maxProcessTreeNodes]
    omega
  · rw [maxProcessTreeDepth]
    omega

end Tree

section Tree

variable {rows rows' : List ProcessObservation} {byProcess byProcess' : Dict ProcessObservation} {root assetRef : String}
  {maxNodes maxDepth : Nat} {truncated : Bool}

/-! ### The order of the observations -/

section

variable (h : Keeps (·.processRef) byProcess rows)
include h

theorem get?_congr (h' : Keeps (·.processRef) byProcess' rows')
    (hmem : ∀ row, row ∈ rows ↔ row ∈ rows') : get? byProcess = get? byProcess' := by
  funext process
  refine Option.ext ?_
  intro row
  rw [h.get?_iff, h'.get?_iff, hmem]

theorem childrenOf_congr (h' : Keeps (·.processRef) byProcess' rows')
    (hmem : ∀ row, row ∈ rows ↔ row ∈ rows') : childrenOf (parentsOf byProcess) = childrenOf (parentsOf byProcess') := by
  have hparent : parentIn (parentsOf byProcess) = parentIn (parentsOf byProcess') := by
    funext process
    rw [parentIn, parentIn, get?_parentsOf, get?_parentsOf, get?_congr h h' hmem]
  funext process
  have hpairwise := childrenOf_pairwise h process
  have hpairwise' := childrenOf_pairwise h' process
  refine List.Perm.eq_of_pairwise (fun a b _ _ hab hba => absurd hba (lt_asymm hab)) hpairwise hpairwise' ?_
  refine (List.perm_ext_iff_of_nodup (nodup_childrenOf (keys_parentsOf ▸ h.nodup))
    (nodup_childrenOf (keys_parentsOf ▸ h'.nodup))).mpr ?_
  intro child
  rw [mem_childrenOf (keys_parentsOf ▸ h.nodup), mem_childrenOf (keys_parentsOf ▸ h'.nodup), hparent]

theorem places_congr (h' : Keeps (·.processRef) byProcess' rows')
    (hmem : ∀ row, row ∈ rows ↔ row ∈ rows') :
    places byProcess root maxNodes maxDepth = places byProcess' root maxNodes maxDepth := by
  rw [places, places, childrenOf_congr h h' hmem]

theorem mem_orphans :
    process ∈ (treeOf byProcess assetRef root maxNodes maxDepth truncated).orphanProcessRefs ↔
      ∃ row ∈ rows, row.processRef = process ∧ ∃ parent ∈ row.parentProcessRef, ∀ other ∈ rows, other.processRef ≠ parent := by
  rw [treeOf, mem_sorted, mem_dedup, mem_sorted, List.mem_map]
  constructor
  · intro ⟨entry, hentry, hprocess⟩
    obtain ⟨hmem, horphan⟩ := List.mem_filter.mp hentry
    obtain ⟨⟨k, row⟩, hrow, rfl⟩ := List.mem_map.mp hmem
    obtain ⟨hrow, hkey⟩ := (h.mem k row).mp hrow
    obtain ⟨parent, hparent, habsent⟩ := (Option.any_eq_true _ _).mp horphan
    refine ⟨row, hrow, hkey.trans hprocess, parent, hparent, h.get?_none ?_⟩
    rw [Bool.not_eq_true'] at habsent
    exact has_eq_false.mp habsent
  · intro ⟨row, hrow, hkey, parent, hparent, habsent⟩
    refine ⟨(process, row.parentProcessRef),
      List.mem_filter.mpr ⟨List.mem_map.mpr ⟨(process, row), (h.mem _ _).mpr ⟨hrow, hkey⟩, rfl⟩,
      (Option.any_eq_true _ _).mpr ⟨parent, hparent, ?_⟩⟩, rfl⟩
    rw [Bool.not_eq_true', has_eq_false]
    cases hget : get? byProcess parent with
    | none => rfl
    | some other =>
      obtain ⟨hother, hparent⟩ := h.get?_iff.mp hget
      exact absurd hparent (habsent other hother)

theorem mem_cycles :
    process ∈ (treeOf byProcess assetRef root maxNodes maxDepth truncated).cycleProcessRefs ↔
    OnCycle (parentAmong rows) process := by
  rw [treeOf, mem_sorted, mem_dedup, mem_sorted, mem_cycleMembers, parentIn_parentsOf h]

theorem treeOf_congr (h' : Keeps (·.processRef) byProcess' rows')
    (hmem : ∀ row, row ∈ rows ↔ row ∈ rows') :
    treeOf byProcess assetRef root maxNodes maxDepth truncated = treeOf byProcess' assetRef root maxNodes maxDepth truncated := by
  have hnodes : nodesAt byProcess (places byProcess root maxNodes maxDepth) =
      nodesAt byProcess' (places byProcess' root maxNodes maxDepth) := by
    rw [nodesAt, nodesAt, get?_congr h h' hmem, places_congr h h' hmem]
  have hkeep : ∀ process, has byProcess process = has byProcess' process := by
    intro process
    rw [has, has, get?_congr h h' hmem]
  have hentries : ∀ entry, entry ∈ parentsOf byProcess ↔ entry ∈ parentsOf byProcess' := by
    intro entry
    rw [parentsOf, parentsOf, List.mem_map, List.mem_map]
    simp only [Prod.exists, h.mem, h'.mem, hmem]
  have hparent : parentIn (parentsOf byProcess) = parentIn (parentsOf byProcess') := by
    funext process
    rw [parentIn, parentIn, get?_parentsOf, get?_parentsOf, get?_congr h h' hmem]
  rw [treeOf, treeOf, hnodes]
  congr 1
  · refine sorted_dedup_congr ?_
    intro process
    simp only [mem_sorted, List.mem_map, List.mem_filter, hentries, hkeep]
  · refine sorted_dedup_congr ?_
    intro process
    rw [mem_sorted, mem_sorted, mem_cycleMembers, mem_cycleMembers, hparent]

end

end Tree

/-! ## The tree of a root -/

section Result

variable {rows : List ProcessObservation} {byProcess : Dict ProcessObservation} {root assetRef : String}
  {maxNodes maxDepth : Nat} {truncated : Bool}

theorem mem_nodes_treeOf (h : Keeps (·.processRef) byProcess rows) {node : ProcessTreeNode} :
    node ∈ (treeOf byProcess assetRef root maxNodes maxDepth truncated).nodes ↔
      ∃ row ∈ rows, ∃ depth, node = nodeOf row depth ∧ (row.processRef, depth) ∈ places byProcess root maxNodes maxDepth := by
  rw [treeOf, mem_sortedBy]
  refine ⟨mem_nodesAt h, ?_⟩
  intro ⟨row, hrow, depth, heq, hplace⟩
  subst heq
  refine List.mem_filterMap.mpr ⟨_, hplace, ?_⟩
  rw [h.get?_iff.mpr ⟨hrow, rfl⟩]
  rfl

theorem treeAmong_treeOf (h : Keeps (·.processRef) byProcess rows) (hroot : ∃ row, get? byProcess root = some row)
    (hnodes : 1 ≤ maxNodes)
    (htruncated : truncated = true ↔ Missing rows root (places byProcess root maxNodes maxDepth)) :
    TreeAmong rows root maxNodes maxDepth (treeOf byProcess assetRef root maxNodes maxDepth truncated) := by
  have hrooted := rooted_childrenOf h hroot
  have hrows := hrooted.places_rows maxNodes maxDepth
  have hperm : (treeOf byProcess assetRef root maxNodes maxDepth truncated).nodes.Perm
      (nodesAt byProcess (places byProcess root maxNodes maxDepth)) := sortedBy_perm
  have hnode : ∀ process depth, (process, depth) ∈ places byProcess root maxNodes maxDepth →
      ∃ row ∈ rows, row.processRef = process ∧
        nodeOf row depth ∈ (treeOf byProcess assetRef root maxNodes maxDepth truncated).nodes := by
    intro process depth hplace
    obtain ⟨row, hrow⟩ := hrows _ hplace
    obtain ⟨hmem, rfl⟩ := h.get?_iff.mp hrow
    exact ⟨row, hmem, rfl, (mem_nodes_treeOf h).mpr ⟨row, hmem, depth, rfl, hplace⟩⟩
  refine ⟨⟨childrenOf (parentsOf byProcess), fun _ _ => mem_childrenOf_parentsOf h, childrenOf_pairwise h, ?_⟩, ?_,
    ?_, ?_, ?_, ?_, ?_⟩
  · exact (hperm.map _).trans (.of_eq (map_nodesAt hrows))
  · obtain ⟨rest, hrest⟩ := @exists_breadthFirst_append _ (childrenOf (parentsOf byProcess)) root 1 (maxDepth + 1) (by omega)
    obtain ⟨n, rfl⟩ := Nat.exists_eq_add_of_le' hnodes
    obtain ⟨row, -, hkey, hmem⟩ := hnode root 0 (by rw [places, hrest]; exact List.mem_cons_self)
    exact ⟨_, hmem, hkey, rfl⟩
  · intro node hmem
    obtain ⟨row, hrow, depth, rfl, hplace⟩ := (mem_nodes_treeOf h).mp hmem
    cases depth with
    | zero =>
      have hgen := (mem_breadthFirst.mp (List.mem_of_mem_take hplace)).2
      exact .inl ⟨List.mem_singleton.mp hgen, rfl⟩
    | succ depth =>
      obtain ⟨parent, hchild, hparent⟩ := exists_parent_mem_take hplace
      have hnamed := hrooted.above _ _ hchild
      obtain ⟨above, habove, hkey, hmem⟩ := hnode parent depth hparent
      refine .inr ⟨_, hmem, ?_, rfl⟩
      rw [← parentIn_parentsOf h, parentIn, get?_parentsOf, h.get?_iff.mpr ⟨hrow, rfl⟩] at hnamed
      rw [← hkey] at hnamed
      exact hnamed
  · intro node hmem
    obtain ⟨row, hrow, depth, rfl, -⟩ := (mem_nodes_treeOf h).mp hmem
    exact ⟨row, hrow, depth, rfl⟩
  · intro process
    exact mem_orphans h
  · intro process
    exact mem_cycles h
  · have hrefs : ∀ process, process ∈ (treeOf byProcess assetRef root maxNodes maxDepth truncated).nodes.map (·.processRef) ↔
        process ∈ (places byProcess root maxNodes maxDepth).map Prod.fst := by
      intro process
      rw [(hperm.map _).mem_iff, refs_nodesAt hrows]
    rw [show (treeOf byProcess assetRef root maxNodes maxDepth truncated).truncated = truncated from rfl, htruncated]
    simp only [Missing, hrefs]

/-- The members of the cycles are found; the tree is that of the root among the observations, whatever their order. -/
theorem reconstructs_tree [PyTime] {observations rows : List ProcessObservation} {asset rootRef : String}
    (hrows : observations.mapM ProcessObservation.validate = .ok rows) (hlen : rows.length ≤ maxProcessTreeInputs)
    (hasset : processIdentifier asset "asset_ref" 128 = .ok assetRef)
    (hroot : processIdentifier rootRef "root_process_ref" 128 = .ok root)
    (hnodes : 1 ≤ maxNodes ∧ maxNodes ≤ 512) (hdepth : 1 ≤ maxDepth ∧ maxDepth ≤ 32)
    (hagree : Determines (·.processRef) (rows.filter fun row => row.assetRef = assetRef))
    (hobserved : ∃ row ∈ rows, row.assetRef = assetRef ∧ row.processRef = root) :
    (∀ (parents : Dict (Option String)) (process : String),
      process ∈ cycleMembers parents ↔ OnCycle (parentIn parents) process) ∧
    ∃ tree, tree.assetRef = assetRef ∧ tree.rootProcessRef = root ∧
      TreeAmong (rows.filter fun row => row.assetRef = assetRef) root maxNodes maxDepth tree ∧
      ∀ observations' : List ProcessObservation, observations'.Perm observations →
        reconstructProcessTree observations' asset rootRef maxNodes maxDepth = .ok tree := by
  refine ⟨fun _ _ => mem_cycleMembers, ?_⟩
  obtain ⟨byProcess, truncated, hkeeps, htruncated, hok⟩ :=
    reconstructProcessTree_ok hrows hlen hasset hroot hnodes hdepth hagree hobserved
  obtain ⟨row, hrow, hof, hkey⟩ := hobserved
  have hget : ∃ row, get? byProcess root = some row :=
    ⟨row, hkeeps.get?_iff.mpr ⟨List.mem_filter.mpr ⟨hrow, decide_eq_true hof⟩, hkey⟩⟩
  refine ⟨_, rfl, rfl, treeAmong_treeOf hkeeps hget hnodes.1 htruncated, ?_⟩
  intro observations' hperm
  obtain ⟨rows', hrows', hperm'⟩ := mapM_perm hrows hperm
  have hmem : ∀ row, row ∈ (rows'.filter fun row => row.assetRef = assetRef) ↔
      row ∈ rows.filter fun row => row.assetRef = assetRef :=
    fun row => (hperm'.filter _).mem_iff
  obtain ⟨byProcess', truncated', hkeeps', htruncated', hok'⟩ := reconstructProcessTree_ok hrows' (hperm'.length_eq ▸ hlen) hasset
    hroot hnodes hdepth (hagree.mono fun row => (hmem row).mp) ⟨row, hperm'.mem_iff.mpr hrow, hof, hkey⟩
  have hmissing : Missing (rows'.filter fun row => row.assetRef = assetRef) root (places byProcess' root maxNodes maxDepth) ↔
      Missing (rows.filter fun row => row.assetRef = assetRef) root (places byProcess root maxNodes maxDepth) := by
    have hdescends : Descends (rows'.filter fun row => row.assetRef = assetRef) =
        Descends (rows.filter fun row => row.assetRef = assetRef) := by
      funext a b
      refine propext ?_
      rw [← mem_childrenOf_parentsOf hkeeps', ← mem_childrenOf_parentsOf hkeeps, childrenOf_congr hkeeps' hkeeps hmem]
    rw [Missing, Missing, hdescends, places_congr hkeeps' hkeeps hmem]
  have hsame : truncated' = truncated := Bool.eq_iff_iff.mpr (htruncated'.trans (hmissing.trans htruncated.symm))
  rw [hok', hsame, treeOf_congr hkeeps' hkeeps hmem]

/-! ## A tree -/

namespace Sampled

def observation (processRef : String) (parentProcessRef : Option String) : ProcessObservation :=
  { eventId := "event", assetRef := "asset", processRef := processRef, observedAt := "2026-01-01T00:00:00Z"
    evidenceRef := "evidence", parentProcessRef := parentProcessRef }

def observations : List ProcessObservation :=
  [observation "b" (some "a"), observation "a" none, observation "c" (some "d"), observation "d" (some "c")]

theorem validate_observations : observations.mapM (@ProcessObservation.validate sampleTime) = .ok observations := by
  refine mapM_self ?_
  exact (forall_mem_of_all (by decide) : ∀ row ∈ observations, @ProcessObservation.validate sampleTime row = .ok row)

theorem determines_observations : Determines (·.processRef) (observations.filter fun row => row.assetRef = "asset") := by
  intro row hrow other hother
  exact (forall_mem_of_all (by decide) : ∀ row ∈ observations, ∀ other ∈ observations,
    row.processRef = other.processRef → row = other) row (List.mem_filter.mp hrow).1 other (List.mem_filter.mp hother).1

theorem reconstructs_tree_observations : ∃ tree : ProcessTreeAssessment, tree.assetRef = "asset" ∧ tree.rootProcessRef = "a" ∧
    TreeAmong (observations.filter fun row => row.assetRef = "asset") "a" 8 4 tree ∧
    ∀ observations' : List ProcessObservation, observations'.Perm observations →
      @reconstructProcessTree sampleTime observations' "asset" "a" 8 4 = .ok tree :=
  (@reconstructs_tree "a" "asset" 8 4 sampleTime observations observations "asset" "a" validate_observations (by decide)
    (by decide) (by decide) (by decide) (by decide) determines_observations
    ⟨observation "a" none, by decide, rfl, rfl⟩).2

end Sampled

end Result

end ThreeAgent.SecurityMonitoring
