/-
Directed graphs given by their edges: paths by length, the longest path that
ends at a vertex, and acyclicity. A graph whose edges all go up some rank has no
cycle; a finite set of vertices each with a parent in the set has one; and
numbers that are everywhere one more than the largest number of a parent are
the lengths of the longest paths.
-/
import Mathlib.Data.Set.Finite.Basic
import Mathlib.Logic.Relation
import Mathlib.Order.WellFounded
import Mathlib.Data.Fintype.Order

namespace Dag

variable {α : Type*} {edge : α → α → Prop}

/-- A path of that many edges ends at the vertex. -/
inductive PathTo (edge : α → α → Prop) : ℕ → α → Prop
  | nil (a : α) : PathTo edge 0 a
  | snoc {n : ℕ} {p c : α} : PathTo edge n p → edge p c → PathTo edge (n + 1) c

/-- The longest path that ends at the vertex has that many edges. -/
structure Longest (edge : α → α → Prop) (a : α) (n : ℕ) : Prop where
  path : PathTo edge n a
  longest : ∀ m, PathTo edge m a → m ≤ n

/-- No vertex is reached from itself. -/
def Acyclic (edge : α → α → Prop) : Prop := ∀ a, ¬ Relation.TransGen edge a a

theorem acyclic_of_rank (rank : α → ℕ) (h : ∀ {p c}, edge p c → rank p < rank c) : Acyclic edge := by
  have hup : ∀ {a b}, Relation.TransGen edge a b → rank a < rank b := by
    intro a b hab
    induction hab with
    | single hb => exact h hb
    | tail _ hbc ih => exact ih.trans (h hbc)
  exact fun a ha => absurd (hup ha) (lt_irrefl _)

theorem Acyclic.exists_root (h : Acyclic edge) {s : Set α} (hs : s.Finite) (hne : s.Nonempty) :
    ∃ c ∈ s, ∀ p ∈ s, ¬ edge p c := by
  have : Finite s := hs
  let r : s → s → Prop := fun a b => Relation.TransGen edge a b
  have : IsTrans s r := ⟨fun _ _ _ hab hbc => hab.trans hbc⟩
  have : Std.Irrefl r := ⟨fun a => h a⟩
  have hwf : WellFounded r := Finite.wellFounded_of_trans_of_irrefl r
  obtain ⟨a, ha⟩ := hne
  obtain ⟨c, -, hmin⟩ := hwf.has_min Set.univ ⟨⟨a, ha⟩, trivial⟩
  exact ⟨c, c.2, fun p hp hpc => hmin ⟨p, hp⟩ trivial (.single hpc)⟩

section Levels

variable {level : α → ℕ}

/-- The number is zero or one more than that of a parent, and more than that of each. -/
structure LevelAt (edge : α → α → Prop) (level : α → ℕ) (c : α) : Prop where
  above : ∀ p, edge p c → level p < level c
  attained : level c = 0 ∨ ∃ p, edge p c ∧ level c = level p + 1

theorem PathTo.le_level {s : Set α} (hs : ∀ {p c}, edge p c → p ∈ s) (h : ∀ c ∈ s, LevelAt edge level c) {n : ℕ} {a : α}
    (ha : a ∈ s) (hp : PathTo edge n a) : n ≤ level a := by
  induction hp with
  | nil a => exact Nat.zero_le _
  | @snoc n p c _ hpc ih =>
    have hbelow := (h c ha).above p hpc
    have hn := ih (hs hpc)
    omega

theorem pathTo_level {s : Set α} (hs : ∀ {p c}, edge p c → p ∈ s) (h : ∀ c ∈ s, LevelAt edge level c) :
    ∀ {k : ℕ} {a : α}, a ∈ s → level a = k → PathTo edge k a := by
  intro k
  induction k with
  | zero => exact fun {a} _ _ => .nil a
  | succ k ih =>
    intro a ha hk
    rcases (h a ha).attained with hzero | ⟨p, hpa, hp⟩
    · omega
    · exact (ih (hs hpa) (by omega)).snoc hpa

theorem longest_of_levels {s : Set α} (hs : ∀ {p c}, edge p c → p ∈ s) (h : ∀ c ∈ s, LevelAt edge level c) {a : α}
    (ha : a ∈ s) : Longest edge a (level a) :=
  ⟨pathTo_level hs h ha rfl, fun _ hp => hp.le_level hs h ha⟩

end Levels

end Dag
