/-
Tables as lists of rows. A row is looked up by a key; where the keys are
distinct, as under a primary key, a row is found under its own.
-/
import Mathlib.Data.List.Nodup

namespace Table

variable {α κ : Type*} {key : α → κ}

theorem find?_key (key : α → κ) [DecidableEq κ] {rows : List α} (hnodup : (rows.map key).Nodup) {r : α} (hr : r ∈ rows) :
    rows.find? (fun r' => key r' = key r) = some r := by
  induction rows with
  | nil => simp at hr
  | cons r' rs ih =>
    rw [List.map_cons, List.nodup_cons] at hnodup
    rw [List.find?_cons]
    rcases List.mem_cons.mp hr with rfl | hr
    · simp
    · have hne : key r' ≠ key r := by
        intro heq
        apply hnodup.1
        rw [heq]
        exact List.mem_map_of_mem hr
      simp only [hne, decide_false]
      exact ih hnodup.2 hr

theorem nodup_snoc {rows : List α} (hnodup : (rows.map key).Nodup) {r : α} (hfree : ∀ r' ∈ rows, key r' ≠ key r) :
    ((rows ++ [r]).map key).Nodup := by
  rw [List.map_append, List.nodup_append]
  refine ⟨hnodup, List.nodup_singleton _, ?_⟩
  intro k hk k' hk' heq
  obtain ⟨r', hr', rfl⟩ := List.mem_map.mp hk
  rw [List.mem_singleton.mp hk'] at heq
  exact hfree r' hr' heq

end Table
