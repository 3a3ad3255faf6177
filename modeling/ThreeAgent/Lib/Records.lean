/-
Records that a separator ends: a source is a list of symbols, a record is
complete when its separator has been seen, and what follows the last
separator is no record yet. The complete records of a list are all but the
last of its pieces.
-/
import Mathlib.Data.List.Basic

namespace Records

variable {α : Type*} [DecidableEq α] {sep : α}

/-- The records of a list that their separator ends, without it. -/
def complete (sep : α) (xs : List α) : List (List α) := (xs.splitOn sep).dropLast

/-- The text of records, each with its separator. -/
def joined (sep : α) (rs : List (List α)) : List α := rs.flatMap (· ++ [sep])

/-- The list is made of complete records only. -/
def Whole (sep : α) (xs : List α) : Prop := joined sep (complete sep xs) = xs

@[simp] theorem complete_nil : complete sep ([] : List α) = [] := by simp [complete]

theorem whole_nil : Whole sep ([] : List α) := by simp [Whole, joined]

variable {r rest : List α}

theorem complete_cons (h : sep ∉ r) :
    complete sep (r ++ sep :: rest) = r :: complete sep rest := by
  rw [complete, List.splitOn_append_cons_self, List.splitOn_eq_singleton h, List.singleton_append,
    List.dropLast_cons_of_ne_nil (List.splitOn_ne_nil sep rest)]
  rfl

variable {xs : List α}

theorem complete_of_not_mem (h : sep ∉ xs) : complete sep xs = [] := by
  rw [complete, List.splitOn_eq_singleton h]
  rfl

omit [DecidableEq α] in
theorem exists_record (h : sep ∈ xs) : ∃ r rest, sep ∉ r ∧ xs = r ++ sep :: rest := by
  obtain ⟨r, rest, heq, hnot⟩ := List.eq_append_cons_of_mem h
  exact ⟨r, rest, hnot, heq⟩

theorem whole_cons (h : sep ∉ r) (hrest : Whole sep rest) :
    Whole sep (r ++ sep :: rest) := by
  unfold Whole joined at *
  rw [complete_cons h, List.flatMap_cons, hrest, List.append_assoc, List.singleton_append]

variable {ys : List α}

theorem complete_append (h : Whole sep xs) :
    complete sep (xs ++ ys) = complete sep xs ++ complete sep ys := by
  generalize hn : (complete sep xs).length = n
  induction n generalizing xs with
  | zero =>
    have hnil : complete sep xs = [] := List.length_eq_zero_iff.mp hn
    have hxs : xs = [] := by
      rw [← h, hnil]
      rfl
    simp [hxs]
  | succ n ih =>
    by_cases hmem : sep ∈ xs
    · obtain ⟨r, rest, hr, rfl⟩ := exists_record hmem
      have hrest : Whole sep rest := by
        have hw := h
        unfold Whole joined at hw
        rw [complete_cons hr, List.flatMap_cons, List.append_assoc, List.singleton_append] at hw
        have hw' : (complete sep rest).flatMap (· ++ [sep]) = rest := by simpa using hw
        exact hw'
      rw [complete_cons hr, List.length_cons, Nat.add_right_cancel_iff] at hn
      rw [List.append_assoc, List.cons_append, complete_cons hr, complete_cons hr, ih hrest hn,
        List.cons_append]
    · rw [complete_of_not_mem hmem, List.length_nil] at hn
      omega

theorem whole_append (hx : Whole sep xs) (hy : Whole sep ys) : Whole sep (xs ++ ys) := by
  have hx' := hx
  have hy' := hy
  unfold Whole joined at *
  rw [complete_append hx', List.flatMap_append, hx, hy]

theorem getLast?_of_whole (h : Whole sep xs) (hne : xs ≠ []) : xs.getLast? = some sep := by
  have hrs : complete sep xs ≠ [] := by
    intro hnil
    apply hne
    rw [← h, hnil]
    rfl
  rw [← h, ← List.dropLast_append_getLast hrs, joined, List.flatMap_append, List.flatMap_singleton,
    ← List.append_assoc, List.getLast?_append]
  rfl

theorem mem_complete_append (h : Whole sep xs) (hr : r ∈ complete sep ys) :
    r ∈ complete sep (xs ++ ys) := by
  rw [complete_append h]
  exact List.mem_append_right _ hr

end Records
