/-
Distances from a set of sources along an edge relation, and when a table of
labels is the distances up to a limit: the sources are labelled 0, every other
label is justified by an edge from the label before, and no edge out of a
label below the limit is missed.
-/
import Mathlib.Data.Nat.Find
import Mathlib.Data.Set.Basic

namespace Distance

variable {α : Type*} {edge : α → α → Prop} {source : Set α} {label : α → Option ℕ} {limit m n : ℕ} {a b : α}

/-- `a` is at the end of some walk of `n` edges from a source. -/
inductive Walk (edge : α → α → Prop) (source : Set α) : ℕ → α → Prop
  | source {a : α} (h : a ∈ source) : Walk edge source 0 a
  | step {n : ℕ} {a b : α} (h : Walk edge source n a) (hab : edge a b) : Walk edge source (n + 1) b

/-- The shortest walk to `a` has `n` edges. -/
structure IsDistance (edge : α → α → Prop) (source : Set α) (n : ℕ) (a : α) : Prop where
  walk : Walk edge source n a
  least : ∀ m, Walk edge source m a → n ≤ m

theorem IsDistance.unique (h : IsDistance edge source m a) (h' : IsDistance edge source n a) : m = n :=
  le_antisymm (h.least n h'.walk) (h'.least m h.walk)

theorem Walk.exists_distance (h : Walk edge source n a) : ∃ m ≤ n, IsDistance edge source m a := by
  classical
  have hsome : ∃ m, Walk edge source m a := ⟨n, h⟩
  exact ⟨Nat.find hsome, Nat.find_min' hsome h, Nat.find_spec hsome, fun m hm => Nat.find_min' hsome hm⟩

/-- A table of labels for the distances up to a limit. -/
structure Labelling (edge : α → α → Prop) (source : Set α) (limit : ℕ) (label : α → Option ℕ) : Prop where
  zero : ∀ a, label a = some 0 ↔ a ∈ source
  back : ∀ b n, label b = some (n + 1) → ∃ a, label a = some n ∧ edge a b
  forward : ∀ a b n, label a = some n → n < limit → edge a b → ∃ m ≤ n + 1, label b = some m
  bound : ∀ a n, label a = some n → n ≤ limit

namespace Labelling

section
variable (h : Labelling edge source limit label)
include h

theorem walk : ∀ {n : ℕ} {a : α}, label a = some n → Walk edge source n a := by
  intro n
  induction n with
  | zero => exact fun ha => .source ((h.zero _).mp ha)
  | succ n ih =>
    intro b hb
    obtain ⟨a, ha, hab⟩ := h.back b n hb
    exact .step (ih ha) hab

theorem le_of_walk (hwalk : Walk edge source n a) (hn : n ≤ limit) :
    ∃ m ≤ n, label a = some m := by
  induction hwalk with
  | source ha => exact ⟨0, le_refl 0, (h.zero _).mpr ha⟩
  | @step n a b _ hab ih =>
    obtain ⟨m, hm, ha⟩ := ih (Nat.le_of_succ_le hn)
    obtain ⟨k, hk, hb⟩ := h.forward a b m ha (by omega) hab
    exact ⟨k, by omega, hb⟩

theorem label_iff : label a = some n ↔ IsDistance edge source n a ∧ n ≤ limit := by
  refine ⟨?_, ?_⟩
  · intro ha
    refine ⟨⟨h.walk ha, ?_⟩, h.bound a n ha⟩
    intro m hm
    by_contra hlt
    have hn := h.bound a n ha
    obtain ⟨k, hk, ha'⟩ := h.le_of_walk hm (by omega)
    rw [ha] at ha'
    cases ha'
    omega
  · intro ⟨hdist, hn⟩
    obtain ⟨m, hm, ha⟩ := h.le_of_walk hdist.walk hn
    have hle := hdist.least m (h.walk ha)
    rw [ha, le_antisymm hm hle]

theorem beyond_iff :
    (∃ a b, label a = some limit ∧ edge a b ∧ label b = none) ↔ ∃ b n, limit < n ∧ IsDistance edge source n b := by
  refine ⟨?_, ?_⟩
  · intro ⟨a, b, ha, hab, hb⟩
    obtain ⟨n, -, hdist⟩ := (Walk.step (h.walk ha) hab).exists_distance
    refine ⟨b, n, ?_, hdist⟩
    by_contra hle
    rw [(h.label_iff).mpr ⟨hdist, not_lt.mp hle⟩] at hb
    cases hb
  · intro ⟨b, n, hn, hdist⟩
    have hnone : label b = none := by
      cases hb : label b with
      | none => rfl
      | some m =>
        obtain ⟨hdist', hm⟩ := h.label_iff.mp hb
        have := hdist.unique hdist'
        omega
    -- along a walk to an element without a label, some edge leaves the labels
    have hleave : ∀ {n : ℕ} {b : α}, Walk edge source n b → label b = none →
        ∃ a b, label a = some limit ∧ edge a b ∧ label b = none := by
      intro n b hwalk
      induction hwalk with
      | source hb =>
        intro hnone
        rw [(h.zero _).mpr hb] at hnone
        cases hnone
      | @step n a b _ hab ih =>
        intro hnone
        cases ha : label a with
        | none => exact ih ha
        | some m =>
          have hm : m = limit := by
            by_contra hne
            have hbound := h.bound a m ha
            obtain ⟨k, -, hb⟩ := h.forward a b m ha (by omega) hab
            rw [hb] at hnone
            cases hnone
          exact ⟨a, b, hm ▸ ha, hab, hnone⟩
    exact hleave hdist.walk hnone

end

end Labelling

end Distance
