/-
A history in the order of its entries: what holds of every entry with
respect to the entries before it, and what has happened since a point of the
history that was seen.
-/
import Mathlib.Data.List.Basic

namespace Chronicle

variable {α : Type*}

/-- Every entry is good with respect to those before it. -/
def Throughout (good : List α → α → Prop) (history : List α) : Prop :=
  ∀ pre c post, history = pre ++ c :: post → good pre c

variable {good : List α → α → Prop}

theorem Throughout.nil : Throughout good [] := by
  intro pre c post h
  simp at h

theorem Throughout.snoc {history : List α} (h : Throughout good history) {c : α}
    (hc : good history c) : Throughout good (history ++ [c]) := by
  intro pre c' post heq
  rcases List.eq_nil_or_concat post with rfl | ⟨post', d, rfl⟩
  · obtain ⟨rfl, hcc⟩ := List.append_inj' heq rfl
    cases hcc
    exact hc
  · rw [List.concat_eq_append, ← List.cons_append, ← List.append_assoc] at heq
    obtain ⟨hpre, -⟩ := List.append_inj' heq rfl
    exact h pre c' post' hpre

/-- An entry of the kind has come after the first `seen` entries. -/
def Since (kind : α → Bool) (seen : Nat) (history : List α) : Prop := ∃ c ∈ history.drop seen, kind c = true

variable {kind : α → Bool} {seen : Nat}

instance {history : List α} : Decidable (Since kind seen history) :=
  inferInstanceAs (Decidable (∃ c ∈ history.drop seen, kind c = true))

theorem since_snoc {history : List α} {c : α}
    (h : Since kind seen (history ++ [c])) : Since kind seen history ∨ kind c = true := by
  obtain ⟨d, hd, hkind⟩ := h
  rw [List.drop_append] at hd
  rcases List.mem_append.mp hd with hd | hd
  · exact .inl ⟨d, hd, hkind⟩
  · rw [List.mem_singleton.mp (List.mem_of_mem_drop hd)] at hkind
    exact .inr hkind

theorem Since.snoc {history : List α} (h : Since kind seen history) (c : α) :
    Since kind seen (history ++ [c]) := by
  obtain ⟨d, hd, hkind⟩ := h
  refine ⟨d, ?_, hkind⟩
  rw [List.drop_append]
  exact List.mem_append_left _ hd

theorem since_last {history : List α} (hseen : seen ≤ history.length) {c : α}
    (hc : kind c = true) : Since kind seen (history ++ [c]) := by
  refine ⟨c, ?_, hc⟩
  rw [List.drop_append_of_le_length hseen]
  simp

end Chronicle
