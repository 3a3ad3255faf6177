/-
Reading a list against a budget. A look at an element leaves it out, takes it
at a cost, or fails; the reading stops before the first element that would
overrun the budget. Where only the first elements of a list are read, what is
read need not be what the wanted elements of the whole list would give:
`read_take_iff` says when it is.
-/
import Mathlib.Algebra.Ring.Nat
import Mathlib.Data.List.Nodup
import Mathlib.Data.List.Infix

namespace Cutting

variable {α : Type*}

/-- What a look at an element says. -/
inductive Verdict where
  | skip
  | take (cost : Nat)
  | fail
  deriving DecidableEq, Repr

def Verdict.taken : Verdict → Bool
  | .take _ => true
  | _ => false

def Verdict.cost : Verdict → Nat
  | .take k => k
  | _ => 0

variable {xs : List α}

section Cut

variable (weigh : α → Nat) (budget : Nat)

def total (xs : List α) : Nat := (xs.map weigh).sum

/-- The elements before the first one that would overrun the budget. -/
def cut (used : Nat) : List α → List α
  | [] => []
  | x :: xs => if budget < used + weigh x then [] else x :: cut (used + weigh x) xs

variable {weigh budget} {used : Nat}

@[simp] theorem total_cons (x : α) (xs : List α) : total weigh (x :: xs) = weigh x + total weigh xs := rfl

theorem cut_subset : ∀ x ∈ cut weigh budget used xs, x ∈ xs := by
  induction xs generalizing used with
  | nil => exact fun x hx => hx
  | cons y xs ih =>
    intro x hx
    rw [cut] at hx
    by_cases hover : budget < used + weigh y
    · rw [if_pos hover] at hx
      cases hx
    · rw [if_neg hover] at hx
      rcases List.mem_cons.mp hx with rfl | hx
      · exact List.mem_cons_self
      · exact List.mem_cons_of_mem _ (ih x hx)

theorem cut_append (h : used + total weigh xs ≤ budget) (ys : List α) :
    cut weigh budget used (xs ++ ys) = xs ++ cut weigh budget (used + total weigh xs) ys := by
  induction xs generalizing used with
  | nil => rfl
  | cons x xs ih =>
    rw [total_cons] at h
    rw [List.cons_append, cut, if_neg (by omega), ih (by omega), total_cons, Nat.add_assoc, List.cons_append]

theorem cut_congr {weigh' : α → Nat} (h : ∀ x ∈ xs, weigh x = weigh' x) :
    cut weigh budget used xs = cut weigh' budget used xs := by
  induction xs generalizing used with
  | nil => rfl
  | cons x xs ih =>
    obtain ⟨hx, hxs⟩ := List.forall_mem_cons.mp h
    rw [cut, cut, hx, ih hxs]

theorem cut_of_full (h : ∀ x ∈ xs, 0 < weigh x) : cut weigh budget budget xs = [] := by
  cases xs with
  | nil => rfl
  | cons x xs =>
    have := h x List.mem_cons_self
    rw [cut, if_pos (by omega)]

end Cut

variable (look : α → Verdict) (budget : Nat)

/-- The elements that are taken in turn, none where a look fails before the budget is overrun. -/
def read (used : Nat) : List α → Option (List α)
  | [] => some []
  | x :: xs =>
    match look x with
    | .skip => read used xs
    | .fail => none
    | .take k => if budget < used + k then some [] else (read (used + k) xs).map (x :: ·)

/-- The elements looked at before the budget is overrun. -/
def passed (used : Nat) : List α → List α
  | [] => []
  | x :: xs =>
    if (look x).taken = true ∧ budget < used + (look x).cost then [] else x :: passed (used + (look x).cost) xs

variable {look budget} {used : Nat}

theorem Verdict.cost_of_not_taken {v : Verdict} (h : v.taken = false) : v.cost = 0 := by
  cases v with
  | take k => cases h
  | skip => rfl
  | fail => rfl

theorem passed_initial (xs : List α) : passed look budget used xs <+: xs := by
  induction xs generalizing used with
  | nil => exact List.prefix_rfl
  | cons x xs ih =>
    rw [passed]
    by_cases hover : (look x).taken = true ∧ budget < used + (look x).cost
    · rw [if_pos hover]
      exact List.nil_prefix
    · rw [if_neg hover]
      exact List.cons_prefix_cons.mpr ⟨rfl, ih⟩

theorem total_passed (h : used ≤ budget) :
    used + total (fun x => (look x).cost) ((passed look budget used xs).filter fun x => (look x).taken) ≤ budget := by
  induction xs generalizing used with
  | nil => exact h
  | cons x xs ih =>
    rw [passed]
    by_cases htaken : (look x).taken = true
    · by_cases hover : budget < used + (look x).cost
      · rw [if_pos ⟨htaken, hover⟩]
        exact h
      · rw [if_neg (fun hboth => hover hboth.2), List.filter_cons_of_pos (by exact htaken), total_cons, ← Nat.add_assoc]
        exact ih (by omega)
    · have hcost : (look x).cost = 0 := Verdict.cost_of_not_taken (Bool.eq_false_iff.mpr htaken)
      rw [if_neg (fun hboth => htaken hboth.1), List.filter_cons_of_neg (by exact htaken), hcost]
      exact ih h

theorem read_eq (xs : List α) : read look budget used xs =
    if ∀ x ∈ passed look budget used xs, look x ≠ .fail then
      some ((passed look budget used xs).filter fun x => (look x).taken)
    else none := by
  induction xs generalizing used with
  | nil => simp [read, passed]
  | cons x xs ih =>
    rw [read, passed]
    cases hlook : look x with
    | skip =>
      have hnot : ¬ (Verdict.skip.taken = true ∧ budget < used + Verdict.skip.cost) := by simp [Verdict.taken]
      rw [if_neg hnot, ih, List.filter_cons_of_neg (by simp [hlook, Verdict.taken])]
      simp only [Verdict.cost, Nat.add_zero, List.forall_mem_cons, hlook, ne_eq, reduceCtorEq, not_false_eq_true, true_and]
    | fail =>
      have hnot : ¬ (Verdict.fail.taken = true ∧ budget < used + Verdict.fail.cost) := by simp [Verdict.taken]
      rw [if_neg hnot, if_neg (fun hall => hall x List.mem_cons_self hlook)]
    | take k =>
      by_cases hover : budget < used + k
      · simp [hover, Verdict.taken, Verdict.cost]
      · have hnot : ¬ ((Verdict.take k).taken = true ∧ budget < used + (Verdict.take k).cost) := fun hboth => hover hboth.2
        rw [if_neg hnot, List.filter_cons_of_pos (by simp [hlook, Verdict.taken])]
        dsimp only
        rw [if_neg hover, ih]
        simp only [Verdict.cost, List.forall_mem_cons, hlook, ne_eq, reduceCtorEq, not_false_eq_true, true_and]
        split <;> rfl

theorem mem_of_read {ys : List α} (h : read look budget used xs = some ys) : ∀ x ∈ ys, x ∈ xs := by
  rw [read_eq] at h
  by_cases hfail : ∀ x ∈ passed look budget used xs, look x ≠ .fail
  · rw [if_pos hfail, Option.some.injEq] at h
    intro x hx
    rw [← h] at hx
    exact (passed_initial xs).subset (List.mem_of_mem_filter hx)
  · rw [if_neg hfail] at h
    cases h

/-! ## What ought to be read -/

section Wanted

variable (look) (p : α → Bool)

/-- The elements of a list that ought to be read. -/
def wanted (xs : List α) : List α := xs.filter fun x => p x && (look x).taken

/-- An element that the reading should not meet: the look at it fails, or takes it where it is not wanted. -/
def Foul (x : α) : Prop := look x = .fail ∨ (look x).taken = true ∧ p x = false

instance (x : α) : Decidable (Foul look p x) := inferInstanceAs (Decidable (_ ∨ _))

variable {look p}

theorem wanted_append (xs ys : List α) : wanted look p (xs ++ ys) = wanted look p xs ++ wanted look p ys :=
  List.filter_append _ _

theorem mem_wanted {x : α} : x ∈ wanted look p xs ↔ x ∈ xs ∧ p x = true ∧ (look x).taken = true := by
  rw [wanted, List.mem_filter, Bool.and_eq_true]

theorem wanted_of_clean (h : ∀ x ∈ xs, ¬ Foul look p x) :
    (xs.filter fun x => (look x).taken) = wanted look p xs := by
  refine List.filter_congr ?_
  intro x hx
  have hclean := h x hx
  simp only [Foul, not_or, not_and, Bool.not_eq_false] at hclean
  cases htaken : (look x).taken with
  | false => rw [Bool.and_false]
  | true => rw [hclean.2 htaken, Bool.and_true]

/-- The first `n` elements give the wanted ones of the whole list if and only if none of those passed is foul and
each wanted one is passed. -/
theorem read_take_iff (hnodup : xs.Nodup) (n : Nat) :
    read look budget 0 (xs.take n) = some (cut (fun x => (look x).cost) budget 0 ((wanted look p xs).take n)) ↔
      (∀ x ∈ passed look budget 0 (xs.take n), ¬ Foul look p x) ∧
      ∀ x ∈ cut (fun x => (look x).cost) budget 0 ((wanted look p xs).take n), x ∈ passed look budget 0 (xs.take n) := by
  set ys := passed look budget 0 (xs.take n) with hys
  obtain ⟨zs, hzs⟩ : ys <+: xs := (passed_initial _).trans <| List.take_prefix n xs
  have hfits : 0 + total (fun x => (look x).cost)
      (List.filter (fun x => (look x).taken) (passed look budget 0 (xs.take n))) ≤ budget :=
    total_passed (Nat.zero_le budget)
  rw [← hys, Nat.zero_add] at hfits
  constructor
  · intro hread
    rw [read_eq, ← hys] at hread
    by_cases hfail : ∀ x ∈ ys, look x ≠ .fail
    · rw [if_pos hfail, Option.some.injEq] at hread
      have hwanted : ∀ x ∈ ys, (look x).taken = true → p x = true := by
        intro x hx htaken
        have hmem : x ∈ cut (fun x => (look x).cost) budget 0 ((wanted look p xs).take n) := by
          rw [← hread]
          exact List.mem_filter.mpr ⟨hx, htaken⟩
        exact (mem_wanted.mp (List.mem_of_mem_take (cut_subset x hmem))).2.1
      refine ⟨?_, ?_⟩
      · intro x hx hfoul
        rcases hfoul with hf | ⟨htaken, hp⟩
        · exact hfail x hx hf
        · rw [hwanted x hx htaken] at hp
          cases hp
      · intro x hx
        rw [← hread] at hx
        exact (List.mem_filter.mp hx).1
    · rw [if_neg hfail] at hread
      cases hread
  · intro ⟨hclean, hpassed⟩
    rw [wanted_of_clean hclean] at hfits
    have hread : read look budget 0 (xs.take n) = some (wanted look p ys) := by
      rw [read_eq, ← hys, if_pos (fun x hx hf => hclean x hx (.inl hf)), wanted_of_clean hclean]
    -- the wanted elements that are passed are the first of all the wanted ones
    have hlen : (wanted look p ys).length ≤ n := by
      have hwanted : (wanted look p ys).length ≤ ys.length := List.length_filter_le _ _
      have hpassed' : ys.length ≤ (xs.take n).length := (passed_initial _).length_le
      have htake := List.length_take_le n xs
      omega
    have htake : (wanted look p xs).take n =
        wanted look p ys ++ (wanted look p zs).take (n - (wanted look p ys).length) := by
      rw [← hzs, wanted_append, List.take_append, List.take_of_length_le hlen]
    rw [htake, cut_append (by omega)] at hpassed ⊢
    rw [hread]
    -- and no other one is passed
    have hrest : cut (fun x => (look x).cost) budget (0 + total (fun x => (look x).cost) (wanted look p ys))
        ((wanted look p zs).take (n - (wanted look p ys).length)) = [] := by
      refine List.eq_nil_iff_forall_not_mem.mpr ?_
      intro x hx
      have hxz : x ∈ zs := (mem_wanted.mp (List.mem_of_mem_take (cut_subset x hx))).1
      have hxy : x ∈ ys := hpassed x (List.mem_append_right _ hx)
      rw [← hzs] at hnodup
      exact (List.nodup_append.mp hnodup).2.2 x hxy x hxz rfl
    rw [hrest, List.append_nil]

end Wanted

theorem read_nothing_iff (xs : List α) :
    read look budget used xs = some [] ↔ ∀ x ∈ passed look budget used xs, look x = .skip := by
  rw [read_eq]
  constructor
  · intro hread
    by_cases hfail : ∀ x ∈ passed look budget used xs, look x ≠ .fail
    · rw [if_pos hfail, Option.some.injEq, List.filter_eq_nil_iff] at hread
      intro x hx
      cases hlook : look x with
      | skip => rfl
      | fail => exact absurd hlook (hfail x hx)
      | take k => exact absurd (by rw [hlook]; rfl) (hread x hx)
    · rw [if_neg hfail] at hread
      cases hread
  · intro hskip
    rw [if_pos (fun x hx hf => by rw [hskip x hx] at hf; cases hf), List.filter_eq_nil_iff.mpr]
    intro x hx
    rw [hskip x hx]
    exact Bool.false_ne_true

end Cutting
