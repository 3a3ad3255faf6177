/-
A partial function from each element to its parent. Climbing from an element
on a cycle never ends and comes back to it; what climbs into a set that no
parent leaves, from outside, is on no cycle. Below an element stand its
generations, each the children of the one before; where no element has two
parents and the root is on no cycle, no element stands in two of them.
-/
import Mathlib.Data.List.Chain
import Mathlib.Data.List.Nodup
import Mathlib.Data.List.Range
import Mathlib.Logic.Relation

namespace ParentChain

variable {α : Type*}

section Climbing

variable (parent : α → Option α)

/-- The ancestor that many steps up. -/
def climb : Nat → α → Option α
  | 0, a => some a
  | n + 1, a => (parent a).bind (climb n)

/-- Climbing comes back to the element. -/
def OnCycle (a : α) : Prop := ∃ n, climb parent (n + 1) a = some a

variable {parent} {a b c : α} {m n : Nat}

theorem climb_add : climb parent (m + n) a = (climb parent m a).bind (climb parent n) := by
  induction m generalizing a with
  | zero =>
    rw [Nat.zero_add]
    rfl
  | succ m ih =>
    rw [Nat.succ_add, climb, climb]
    cases parent a with
    | none => rfl
    | some b => exact ih

theorem climb_trans (hab : climb parent m a = some b) (hbc : climb parent n b = some c) : climb parent (m + n) a = some c := by
  rw [climb_add, hab]
  exact hbc

theorem climb_one (h : parent a = some b) : climb parent 1 a = some b := by
  rw [climb, h]
  rfl

theorem climb_rounds (h : climb parent n a = some a) (k : Nat) : climb parent (k * n) a = some a := by
  induction k with
  | zero =>
    rw [Nat.zero_mul]
    rfl
  | succ k ih =>
    rw [Nat.succ_mul]
    exact climb_trans ih h

theorem OnCycle.back (h : OnCycle parent a) (hab : climb parent m a = some b) : ∃ n, climb parent n b = some a := by
  obtain ⟨n, hn⟩ := h
  have hround := climb_rounds hn m
  have hle : m ≤ m * (n + 1) := Nat.le_mul_of_pos_right m (Nat.succ_pos n)
  rw [show m * (n + 1) = m + (m * (n + 1) - m) by omega, climb_add, hab] at hround
  exact ⟨_, hround⟩

theorem OnCycle.exists_parent (h : OnCycle parent a) (hab : climb parent m a = some b) : ∃ c, parent b = some c := by
  obtain ⟨n, hn⟩ := h.back hab
  obtain ⟨k, hk⟩ := h
  have hloop : climb parent (n + (k + 1)) b = some a := climb_trans hn hk
  rw [show n + (k + 1) = (n + k) + 1 by omega, climb] at hloop
  obtain ⟨c, hc, -⟩ := Option.bind_eq_some_iff.mp hloop
  exact ⟨c, hc⟩

variable {s : α → Prop}

theorem closed_climb (hclosed : ∀ a b, s a → parent a = some b → s b) (ha : s a) (h : climb parent n a = some b) : s b := by
  induction n generalizing a with
  | zero =>
    cases h
    exact ha
  | succ n ih =>
    rw [climb] at h
    obtain ⟨c, hc, h⟩ := Option.bind_eq_some_iff.mp h
    exact ih (hclosed a c ha hc) h

theorem not_onCycle_of_enters (hclosed : ∀ a b, s a → parent a = some b → s b) (ha : ¬ s a)
    (hab : climb parent n a = some b) (hb : s b) : ¬ OnCycle parent a := by
  intro h
  obtain ⟨m, hm⟩ := h.back hab
  exact ha (closed_climb hclosed hb hm)

theorem next_or_last {l : List α} (h : l.IsChain fun a b => parent a = some b) (ha : a ∈ l) :
    (∃ b ∈ l, parent a = some b) ∨ a ∈ l.getLast? := by
  obtain ⟨front, back, rfl⟩ := List.append_of_mem ha
  cases back with
  | nil => exact .inr (by simp)
  | cons b back =>
    have hab := (List.isChain_cons_cons.mp (List.isChain_append.mp h).2.1).1
    exact .inl ⟨b, by simp, hab⟩

theorem exists_climb_of_chain {l : List α} (h : (a :: l).IsChain fun a b => parent a = some b) (hb : b ∈ a :: l) :
    ∃ n, climb parent n a = some b := by
  induction l generalizing a with
  | nil =>
    rw [List.mem_singleton.mp hb]
    exact ⟨0, rfl⟩
  | cons c l ih =>
    obtain ⟨hac, hrest⟩ := List.isChain_cons_cons.mp h
    rcases List.mem_cons.mp hb with rfl | hb
    · exact ⟨0, rfl⟩
    · obtain ⟨n, hn⟩ := ih hrest hb
      exact ⟨1 + n, climb_trans (climb_one hac) hn⟩

theorem exists_climb_last {l : List α} (h : l.IsChain fun a b => parent a = some b) (ha : a ∈ l)
    (hb : b ∈ l.getLast?) : ∃ n, climb parent n a = some b := by
  induction l with
  | nil => cases ha
  | cons c l ih =>
    rcases List.mem_cons.mp ha with rfl | ha
    · exact exists_climb_of_chain h (List.mem_of_mem_getLast? hb)
    · have hne := List.ne_nil_of_mem ha
      rw [List.getLast?_cons_of_ne_nil hne] at hb
      exact ih (List.IsChain.tail h) ha hb

theorem onCycle_of_chain {l : List α} (h : (a :: l).IsChain fun a b => parent a = some b)
    (hend : ∀ b ∈ (a :: l).getLast?, parent b = some a) (hb : b ∈ a :: l) : OnCycle parent b := by
  obtain ⟨last, hlast⟩ : ∃ last, (a :: l).getLast? = some last := ⟨_, List.getLast?_eq_getLast_of_ne_nil (List.cons_ne_nil a l)⟩
  obtain ⟨m, hm⟩ := exists_climb_last h hb hlast
  obtain ⟨n, hn⟩ := exists_climb_of_chain h hb
  refine ⟨m + n, ?_⟩
  rw [show m + n + 1 = m + (1 + n) by omega]
  exact climb_trans hm (climb_trans (climb_one (hend last hlast)) hn)

end Climbing

/-! ## Generations -/

section Generations

variable (children : α → List α) (root : α)

/-- The elements that many generations below the root, in breadth-first order. -/
def generation : Nat → List α
  | 0 => [root]
  | n + 1 => (generation n).flatMap children

/-- The elements of the first generations with their depths, in breadth-first order. -/
def breadthFirst (depths : Nat) : List (α × Nat) :=
  (List.range depths).flatMap fun d => (generation children root d).map fun a => (a, d)

variable {children root} {parent : α → Option α} {a b : α} {m n : Nat}

theorem breadthFirst_succ : breadthFirst children root (n + 1) =
    breadthFirst children root n ++ (generation children root n).map fun a => (a, n) := by
  rw [breadthFirst, breadthFirst, List.range_succ, List.flatMap_append, List.flatMap_singleton]

theorem mem_breadthFirst : (a, m) ∈ breadthFirst children root n ↔ m < n ∧ a ∈ generation children root m := by
  rw [breadthFirst, List.mem_flatMap]
  constructor
  · intro ⟨d, hd, ha⟩
    obtain ⟨b, hb, heq⟩ := List.mem_map.mp ha
    cases heq
    exact ⟨List.mem_range.mp hd, hb⟩
  · intro ⟨hm, ha⟩
    exact ⟨m, List.mem_range.mpr hm, List.mem_map_of_mem ha⟩

theorem exists_breadthFirst_append (h : m ≤ n) :
    ∃ rest, breadthFirst children root n = breadthFirst children root m ++ rest := by
  induction n, h using Nat.le_induction with
  | base => exact ⟨[], (List.append_nil _).symm⟩
  | succ n _ ih =>
    obtain ⟨rest, hrest⟩ := ih
    rw [breadthFirst_succ, hrest, List.append_assoc]
    exact ⟨_, rfl⟩

theorem generation_ne_nil_of_le (h : m ≤ n) (hne : generation children root n ≠ []) : generation children root m ≠ [] := by
  induction n, h using Nat.le_induction with
  | base => exact hne
  | succ n _ ih =>
    refine ih fun hnil => hne ?_
    rw [generation, hnil]
    rfl

theorem mem_generation_succ : b ∈ generation children root (n + 1) ↔ ∃ a ∈ generation children root n, b ∈ children a :=
  List.mem_flatMap

theorem exists_generation_iff : (∃ n, a ∈ generation children root n) ↔
    Relation.ReflTransGen (fun a b => b ∈ children a) root a := by
  constructor
  · intro ⟨n, hn⟩
    induction n generalizing a with
    | zero =>
      rw [List.mem_singleton.mp hn]
    | succ n ih =>
      obtain ⟨b, hb, hab⟩ := mem_generation_succ.mp hn
      exact (ih hb).tail hab
  · intro h
    induction h with
    | refl => exact ⟨0, List.mem_singleton.mpr rfl⟩
    | tail _ hbc ih =>
      obtain ⟨n, hn⟩ := ih
      exact ⟨n + 1, mem_generation_succ.mpr ⟨_, hn, hbc⟩⟩

theorem climb_generation (hparent : ∀ a b, b ∈ children a → parent b = some a) (ha : a ∈ generation children root n) :
    climb parent n a = some root := by
  induction n generalizing a with
  | zero =>
    rw [List.mem_singleton.mp ha]
    rfl
  | succ n ih =>
    obtain ⟨b, hb, hab⟩ := mem_generation_succ.mp ha
    rw [climb, hparent b a hab]
    exact ih hb

theorem generation_of_childless (h : children root = []) : generation children root (n + 1) = [] := by
  induction n with
  | zero =>
    rw [generation, generation, List.flatMap_singleton]
    exact h
  | succ n ih =>
    rw [generation, ih]
    rfl

section
variable (hparent : ∀ a b, b ∈ children a → parent b = some a)
include hparent

theorem generation_unique
    (hroot : children root ≠ [] → ¬ OnCycle parent root) (ha : a ∈ generation children root m)
    (ha' : a ∈ generation children root n) : m = n := by
  have hlt : ∀ {m n}, a ∈ generation children root m → a ∈ generation children root n → ¬ m < n := by
    intro m n hm hn hlt
    have hchildren : children root ≠ [] := by
      intro hnil
      rw [show n = n - 1 + 1 by omega, generation_of_childless hnil] at hn
      cases hn
    have hclimb := climb_generation hparent hn
    rw [show n = m + (n - m - 1 + 1) by omega, climb_add, climb_generation hparent hm] at hclimb
    exact hroot hchildren ⟨_, hclimb⟩
  have h₁ := hlt ha ha'
  have h₂ := hlt ha' ha
  omega

theorem generation_nodup (hnodup : ∀ a, (children a).Nodup) (n : Nat) :
    (generation children root n).Nodup := by
  induction n with
  | zero => exact List.nodup_singleton root
  | succ n ih =>
    refine List.nodup_flatMap.mpr ⟨fun a _ => hnodup a, ?_⟩
    refine List.Pairwise.imp ?_ ih
    intro a b hne c hca hcb
    have hsame := (hparent a c hca).symm.trans (hparent b c hcb)
    exact hne (Option.some.inj hsame)

theorem breadthFirst_nodup
    (hroot : children root ≠ [] → ¬ OnCycle parent root) (hnodup : ∀ a, (children a).Nodup) (n : Nat) :
    ((breadthFirst children root n).map Prod.fst).Nodup := by
  induction n with
  | zero => exact List.nodup_nil
  | succ n ih =>
    rw [breadthFirst_succ, List.map_append, List.map_map]
    refine List.nodup_append.mpr ⟨ih, ?_, ?_⟩
    · have hid : (generation children root n).map (Prod.fst ∘ fun a => (a, n)) = generation children root n := List.map_id _
      rw [hid]
      exact generation_nodup hparent hnodup n
    · intro a ha b hb hab
      obtain ⟨⟨a', m⟩, hmem, rfl⟩ := List.mem_map.mp ha
      obtain ⟨b', hb', rfl⟩ := List.mem_map.mp hb
      obtain ⟨hlt, hgen⟩ := mem_breadthFirst.mp hmem
      have heq : a' = b' := hab
      subst heq
      have := generation_unique hparent hroot hgen hb'
      omega

end

theorem exists_parent_mem_take {k : Nat} (h : (a, m + 1) ∈ (breadthFirst children root n).take k) :
    ∃ b, a ∈ children b ∧ (b, m) ∈ (breadthFirst children root n).take k := by
  obtain ⟨hlt, hgen⟩ := mem_breadthFirst.mp (List.mem_of_mem_take h)
  obtain ⟨b, hb, hab⟩ := mem_generation_succ.mp hgen
  obtain ⟨rest, hrest⟩ := @exists_breadthFirst_append _ children root (m + 1) n (Nat.le_of_lt hlt)
  refine ⟨b, hab, ?_⟩
  rw [hrest, List.take_append] at h ⊢
  rcases List.mem_append.mp h with h | h
  · have := (mem_breadthFirst.mp (List.mem_of_mem_take h)).1
    omega
  · have hlen : (breadthFirst children root (m + 1)).length ≤ k := by
      by_contra hshort
      rw [Nat.sub_eq_zero_of_le (by omega), List.take_zero] at h
      cases h
    rw [List.take_of_length_le hlen]
    exact List.mem_append_left _ (mem_breadthFirst.mpr ⟨Nat.lt_succ_self m, hb⟩)

end Generations

end ParentChain
