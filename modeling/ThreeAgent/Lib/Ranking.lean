/-
Ranking by an integer key: each element is decorated with its key and its
place, the decorated list is sorted, and the decoration is taken off. The
places break the ties, so the result is the stable sort by the key.
-/
import Mathlib.Data.List.Basic

namespace Ranking

variable {α : Type*}

/-- The order of decorated elements: by key, and by place where the keys are the same. -/
def before (a b : Int × Nat × α) : Bool := decide (a.1 < b.1 ∨ a.1 = b.1 ∧ a.2.1 ≤ b.2.1)

def decorate (key : α → Int) (xs : List α) : List (Int × Nat × α) := xs.zipIdx.map fun e => (key e.1, e.2, e.1)

def rank (key : α → Int) (xs : List α) : List α := ((decorate key xs).mergeSort before).map (·.2.2)

/-- The order by the key alone. -/
def keyLE (key : α → Int) (a b : α) : Bool := decide (key a ≤ key b)

variable {key : α → Int} {xs : List α}

theorem keyLE_trans (a b c : α) (hab : keyLE key a b = true) (hbc : keyLE key b c = true) : keyLE key a c = true :=
  decide_eq_true (Int.le_trans (of_decide_eq_true hab) (of_decide_eq_true hbc))

theorem keyLE_total (a b : α) : (keyLE key a b || keyLE key b a) = true := by
  rw [Bool.or_eq_true]
  exact (Int.le_total (key a) (key b)).imp decide_eq_true decide_eq_true

theorem before_decorated (a b : α × Nat) :
    List.zipIdxLE (keyLE key) a b = before (key a.1, a.2, a.1) (key b.1, b.2, b.1) := by
  simp only [List.zipIdxLE, keyLE, before, Bool.if_false_right, decide_eq_true_eq]
  rcases Int.lt_trichotomy (key a.1) (key b.1) with hlt | heq | hgt
  · simp [hlt, Int.le_of_lt hlt, Int.not_le.mpr hlt]
  · simp [heq]
  · simp [Int.not_le.mpr hgt, Int.not_lt.mpr (Int.le_of_lt hgt), Int.ne_of_gt hgt]

theorem rank_eq_mergeSort (key : α → Int) (xs : List α) : rank key xs = xs.mergeSort (keyLE key) := by
  rw [rank, decorate, ← List.map_mergeSort fun a _ b _ => before_decorated a b, List.map_map,
    ← List.mergeSort_zipIdx (l := xs)]
  rfl

theorem rank_perm (key : α → Int) (xs : List α) : (rank key xs).Perm xs := by
  rw [rank_eq_mergeSort]
  exact List.mergeSort_perm xs _

theorem rank_pairwise (key : α → Int) (xs : List α) : (rank key xs).Pairwise fun a b => key a ≤ key b := by
  rw [rank_eq_mergeSort]
  exact (List.pairwise_mergeSort keyLE_trans keyLE_total xs).imp of_decide_eq_true

theorem rank_of_pairwise (h : xs.Pairwise fun a b => key a ≤ key b) : rank key xs = xs := by
  rw [rank_eq_mergeSort]
  exact List.mergeSort_of_pairwise (h.imp decide_eq_true)

theorem filter_rank (key : α → Int) (xs : List α) (k : Int) :
    (rank key xs).filter (fun x => key x = k) = xs.filter fun x => key x = k := by
  have hsame : (xs.filter fun x => key x = k).Pairwise fun a b => keyLE key a b = true := by
    apply List.pairwise_of_forall_mem_list
    intro a ha b hb
    have hka : key a = k := of_decide_eq_true (List.mem_filter.mp ha).2
    have hkb : key b = k := of_decide_eq_true (List.mem_filter.mp hb).2
    exact decide_eq_true (Int.le_of_eq (hka.trans hkb.symm))
  have hsub : (xs.filter fun x => key x = k).Sublist (rank key xs) := by
    rw [rank_eq_mergeSort]
    exact List.sublist_mergeSort keyLE_trans keyLE_total hsame List.filter_sublist
  have hfilter := hsub.filter fun x => decide (key x = k)
  rw [List.filter_filter] at hfilter
  simp only [Bool.and_self] at hfilter
  exact (hfilter.eq_of_length ((rank_perm key xs).filter _).length_eq.symm).symm

end Ranking
