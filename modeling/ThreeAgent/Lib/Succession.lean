/-
Versions that name the one before them: a list in which the first names
nothing, each later one names the one before it and lies after it in a
transitive order. A version may be added after the one that nothing names
yet; and between any two versions lies the one that follows the earlier.
-/
import Mathlib.Data.List.Chain

namespace Succession

variable {α ι : Type*} (id : α → ι) (prev : α → Option ι) (before : α → α → Prop)

/-- `b` is the version after `a`. -/
def Follows (a b : α) : Prop := prev b = some (id a) ∧ before a b

/-- The versions of one thing, in their order. -/
structure Chained (l : List α) : Prop where
  first : ∀ a ∈ l.head?, prev a = none
  next : l.IsChain (Follows id prev before)

variable {id prev before}

theorem Chained.nil : Chained id prev before [] := ⟨by simp, .nil⟩

variable {a : α}

theorem Chained.singleton (h : prev a = none) : Chained id prev before [a] :=
  ⟨by simpa using h, .singleton a⟩

variable {R : α → α → Prop}

/-- In a chain, what nothing follows is the last. -/
theorem getLast?_of_not_followed : ∀ {l : List α}, l.IsChain R → a ∈ l →
    (∀ b ∈ l, ¬ R a b) → l.getLast? = some a
  | [], _, ha, _ => by simp at ha
  | [b], _, ha, _ => by
    rw [List.mem_singleton.mp ha]
    rfl
  | b :: c :: l, hl, ha, hnone => by
    rw [List.isChain_cons_cons] at hl
    rw [List.getLast?_cons_cons]
    rcases List.mem_cons.mp ha with rfl | ha
    · exact absurd hl.1 (hnone c (by simp))
    · exact getLast?_of_not_followed hl.2 ha fun d hd => hnone d (by simp [hd])

variable {l : List α} {b : α}

theorem isChain_snoc (h : l.IsChain R)
    (hb : ∀ a ∈ l.getLast?, R a b) : (l ++ [b]).IsChain R := by
  rw [List.isChain_append]
  refine ⟨h, .singleton b, ?_⟩
  intro a ha b' hb'
  cases hb'
  exact hb a ha

theorem Chained.snoc (h : Chained id prev before l) (ha : a ∈ l)
    (hfree : ∀ c ∈ l, prev c ≠ some (id a)) (hb : prev b = some (id a)) (hlt : before a b) :
    Chained id prev before (l ++ [b]) := by
  have hlast : l.getLast? = some a := getLast?_of_not_followed h.next ha fun c hc hf => hfree c hc hf.1
  refine ⟨?_, ?_⟩
  · intro c hc
    obtain ⟨d, l', rfl⟩ := List.exists_cons_of_ne_nil (List.ne_nil_of_mem ha)
    exact h.first c (by simpa using hc)
  · refine isChain_snoc h.next ?_
    intro c hc
    rw [hlast] at hc
    cases hc
    exact ⟨hb, hlt⟩

theorem pairwise_of_isChain (htrans : ∀ a b c, before a b → before b c → before a c)
    (h : l.IsChain (Follows id prev before)) :
    l.Pairwise fun a b => ∃ c ∈ l, Follows id prev before a c ∧ (c = b ∨ before c b) := by
  induction l with
  | nil => exact .nil
  | cons a l ih =>
    have hl : l.IsChain (Follows id prev before) := by
      cases h with
      | singleton => exact .nil
      | cons_cons _ h => exact h
    refine .cons ?_ ((ih hl).imp fun hab => ?_)
    · intro b hb
      cases l with
      | nil => simp at hb
      | cons c l =>
        rw [List.isChain_cons_cons] at h
        refine ⟨c, by simp, h.1, ?_⟩
        have hpair : (c :: l).Pairwise before := by
          have : Trans before before before := ⟨fun hab hbc => htrans _ _ _ hab hbc⟩
          exact List.isChain_iff_pairwise.mp (h.2.imp fun _ _ hf => hf.2)
        rcases List.mem_cons.mp hb with rfl | hb
        · exact .inl rfl
        · exact .inr ((List.pairwise_cons.mp hpair).1 b hb)
    · obtain ⟨c, hc, hf⟩ := hab
      exact ⟨c, by simp [hc], hf⟩

theorem Chained.pairwise (h : Chained id prev before l)
    (htrans : ∀ a b c, before a b → before b c → before a c) :
    l.Pairwise fun a b => ∃ c ∈ l, Follows id prev before a c ∧ (c = b ∨ before c b) :=
  pairwise_of_isChain htrans h.next

theorem exists_before_of_mem_tail : ∀ {l : List α}, l.IsChain R → b ∈ l.tail → ∃ a ∈ l, R a b
  | [], _, hb => by simp at hb
  | [_], _, hb => by simp at hb
  | a :: c :: l, hl, hb => by
    rw [List.isChain_cons_cons] at hl
    rcases List.mem_cons.mp hb with rfl | hb
    · exact ⟨a, by simp, hl.1⟩
    · obtain ⟨d, hd, hdb⟩ := exists_before_of_mem_tail hl.2 hb
      exact ⟨d, List.mem_cons_of_mem _ hd, hdb⟩

theorem Chained.exists_previous (h : Chained id prev before l) (hb : b ∈ l) (hprev : prev b ≠ none) :
    ∃ a ∈ l, Follows id prev before a b := by
  cases l with
  | nil => cases hb
  | cons c l =>
    rcases List.mem_cons.mp hb with rfl | hb
    · exact absurd (h.first b rfl) hprev
    · exact exists_before_of_mem_tail h.next hb

theorem Chained.follows (h : Chained id prev before l) (hids : l.Pairwise fun a b => id a ≠ id b)
    (ha : a ∈ l) (hb : b ∈ l) (hab : prev b = some (id a)) : Follows id prev before a b := by
  obtain ⟨d, hd, hdb⟩ := h.exists_previous hb (by simp [hab])
  have hid : id d = id a := Option.some.inj (hdb.1.symm.trans hab)
  have : Std.Symm fun x y : α => id x ≠ id y := ⟨fun _ _ => Ne.symm⟩
  by_cases hda : d = a
  · exact hda ▸ hdb
  · exact absurd hid (hids.forall hd ha hda)

theorem Chained.pairwise_before (h : Chained id prev before l)
    (htrans : ∀ a b c, before a b → before b c → before a c) : l.Pairwise before := by
  have : Trans before before before := ⟨fun hab hbc => htrans _ _ _ hab hbc⟩
  exact List.isChain_iff_pairwise.mp (h.next.imp fun _ _ hf => hf.2)

theorem Chained.eq_of_perm {l' : List α} (h : Chained id prev before l) (hids : l.Pairwise fun a b => id a ≠ id b)
    (htrans : ∀ a b c, before a b → before b c → before a c) (hirrefl : ∀ a, ¬ before a a) (hperm : l'.Perm l)
    (hl' : l'.IsChain fun a b => prev b = some (id a)) : l' = l := by
  have hpair' : l'.Pairwise before := by
    have : Trans before before before := ⟨fun hab hbc => htrans _ _ _ hab hbc⟩
    refine List.isChain_iff_pairwise.mp ?_
    refine hl'.imp_of_mem_imp fun a b ha hb hab => ?_
    exact (h.follows hids (hperm.subset ha) (hperm.subset hb) hab).2
  exact hperm.eq_of_pairwise (fun a b _ _ hab hba => absurd (htrans a b a hab hba) (hirrefl a)) hpair'
    (h.pairwise_before htrans)

end Succession
