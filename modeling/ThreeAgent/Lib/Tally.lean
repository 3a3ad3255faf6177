/-
Counts of items, kept as the items come: the count under each key, and how
many of the items had come before. What is counted does not depend on the
order in which the items came.
-/
import Mathlib.Data.List.Basic
import Mathlib.Data.List.Count
import Mathlib.Data.List.Dedup
import Mathlib.Data.List.Induction
import Mathlib.Algebra.BigOperators.Group.List.Lemmas
import Mathlib.Algebra.Ring.Nat

namespace Tally

variable {κ : Type*} [DecidableEq κ]

/-- The count of a key, 0 where there is none. -/
def get : List (κ × Nat) → κ → Nat
  | [], _ => 0
  | (k', n) :: t, k => if k' = k then n else get t k

/-- One more item of a key. -/
def bump : List (κ × Nat) → κ → List (κ × Nat)
  | [], k => [(k, 1)]
  | (k', n) :: t, k => if k' = k then (k', n + 1) :: t else (k', n) :: bump t k

def tally (ks : List κ) : List (κ × Nat) := ks.foldl bump []

variable {t : List (κ × Nat)} {k k' : κ} {ks ks' : List κ}

theorem tally_snoc (ks : List κ) (k : κ) : tally (ks ++ [k]) = bump (tally ks) k := by
  rw [tally, List.foldl_append]
  rfl

theorem get_bump : get (bump t k) k' = if k = k' then get t k' + 1 else get t k' := by
  induction t with
  | nil => simp [bump, get]
  | cons e t ih =>
    obtain ⟨k₀, n⟩ := e
    by_cases h0 : k₀ = k
    · subst h0
      by_cases h1 : k₀ = k' <;> simp [bump, get, h1]
    · by_cases h1 : k₀ = k'
      · subst h1
        have h2 : ¬ k = k₀ := fun heq => h0 heq.symm
        simp [bump, get, h0, h2]
      · simp [bump, get, h0, h1, ih]

theorem get_tally : get (tally ks) k = ks.count k := by
  induction ks using List.reverseRecOn with
  | nil => rfl
  | append_singleton ks a ih => simp [tally_snoc, get_bump, ih, List.count_append, List.count_singleton, apply_ite]

theorem map_fst_bump : (bump t k).map Prod.fst = if k ∈ t.map Prod.fst then t.map Prod.fst else t.map Prod.fst ++ [k] := by
  induction t with
  | nil => rfl
  | cons e t ih =>
    obtain ⟨k₀, n⟩ := e
    by_cases h0 : k₀ = k
    · simp [bump, h0]
    · have h1 : ¬ k = k₀ := fun heq => h0 heq.symm
      simp only [bump, if_neg h0, List.map_cons, ih, List.mem_cons, h1, false_or]
      split
      · rfl
      · rfl

theorem mem_keys_tally : k ∈ (tally ks).map Prod.fst ↔ k ∈ ks := by
  induction ks using List.reverseRecOn with
  | nil => exact Iff.rfl
  | append_singleton ks a ih =>
    rw [tally_snoc, map_fst_bump, List.mem_append, List.mem_singleton]
    split
    · rename_i hmem
      rw [ih]
      refine ⟨Or.inl, ?_⟩
      intro hor
      rcases hor with hk | rfl
      · exact hk
      · exact ih.mp hmem
    · rw [List.mem_append, List.mem_singleton, ih]

theorem nodup_keys_tally (ks : List κ) : ((tally ks).map Prod.fst).Nodup := by
  induction ks using List.reverseRecOn with
  | nil => exact List.nodup_nil
  | append_singleton ks a ih =>
    rw [tally_snoc, map_fst_bump]
    split
    · exact ih
    · rename_i hmem
      exact List.nodup_append.mpr ⟨ih, List.nodup_singleton a, fun b hb c hc => by
        rw [List.mem_singleton.mp hc]
        exact fun heq => hmem (heq ▸ hb)⟩

theorem get_of_mem : ∀ {t : List (κ × Nat)}, (t.map Prod.fst).Nodup → ∀ {k n}, (k, n) ∈ t → get t k = n
  | [], _, _, _, h => by cases h
  | (k₀, n₀) :: t, hd, k, n, h => by
    obtain ⟨hnot, hd⟩ := List.nodup_cons.mp hd
    rcases List.mem_cons.mp h with heq | h
    · cases heq
      exact if_pos rfl
    · have hne : ¬ k₀ = k := fun heq => hnot (heq ▸ List.mem_map.mpr ⟨_, h, rfl⟩)
      rw [get, if_neg hne]
      exact get_of_mem hd h

theorem tally_eq_map (ks : List κ) : tally ks = ((tally ks).map Prod.fst).map fun k => (k, ks.count k) := by
  rw [List.map_map]
  refine (List.map_id _).symm.trans (List.map_congr_left fun e he => ?_)
  exact Prod.ext rfl ((get_of_mem (nodup_keys_tally ks) he).symm.trans get_tally)

theorem keys_tally_perm (ks : List κ) : ((tally ks).map Prod.fst).Perm ks.dedup :=
  (List.perm_ext_iff_of_nodup (nodup_keys_tally ks) (List.nodup_dedup ks)).mpr fun _ => mem_keys_tally.trans List.mem_dedup.symm

theorem counts_tally_perm (ks : List κ) : ((tally ks).map Prod.snd).Perm (ks.dedup.map fun k => ks.count k) := by
  rw [tally_eq_map, List.map_map]
  exact (keys_tally_perm ks).map _

theorem counts_perm (h : ks'.Perm ks) : ((tally ks').map Prod.snd).Perm ((tally ks).map Prod.snd) := by
  refine (counts_tally_perm ks').trans (List.Perm.trans ?_ (counts_tally_perm ks).symm)
  rw [List.map_congr_left fun k _ => h.count_eq k]
  exact h.dedup.map _

/-! ## Items that came before -/

/-- How many of the items that satisfy `p` come again after an equal one, counted as they come. -/
def repeats (p : κ → Bool) (ks : List κ) : Nat :=
  (ks.foldl (fun (s : List κ × Nat) k => (s.1 ++ [k], if k ∈ s.1 ∧ p k = true then s.2 + 1 else s.2)) ([], 0)).2

theorem repeats_snoc (p : κ → Bool) (ks : List κ) (k : κ) :
    repeats p (ks ++ [k]) = if k ∈ ks ∧ p k = true then repeats p ks + 1 else repeats p ks := by
  have hfst : ∀ ks : List κ, (ks.foldl (fun (s : List κ × Nat) k => (s.1 ++ [k], if k ∈ s.1 ∧ p k = true then s.2 + 1 else s.2))
      ([], 0)).1 = ks := by
    intro ks
    induction ks using List.reverseRecOn with
    | nil => rfl
    | append_singleton ks a ih =>
      rw [List.foldl_append, List.foldl_cons, List.foldl_nil]
      exact congrArg (· ++ [a]) ih
  rw [repeats, List.foldl_append, List.foldl_cons, List.foldl_nil]
  dsimp only
  rw [hfst]
  rfl

theorem countP_dedup_snoc (p : κ → Bool) (ks : List κ) (k : κ) :
    (ks ++ [k]).dedup.countP p = ks.dedup.countP p + if k ∉ ks ∧ p k = true then 1 else 0 := by
  rw [((List.perm_append_singleton k ks).dedup).countP_eq]
  by_cases hk : k ∈ ks
  · rw [List.dedup_cons_of_mem hk, if_neg fun h => h.1 hk, Nat.add_zero]
  · rw [List.dedup_cons_of_notMem hk, List.countP_cons]
    simp [hk]

theorem repeats_add_dedup (p : κ → Bool) (ks : List κ) : repeats p ks + ks.dedup.countP p = ks.countP p := by
  induction ks using List.reverseRecOn with
  | nil => rfl
  | append_singleton ks k ih =>
    rw [repeats_snoc, countP_dedup_snoc, List.countP_append, List.countP_singleton, ← ih]
    by_cases hk : k ∈ ks
    · by_cases hp : p k = true
      · simp [hk, hp]
        omega
      · simp [hp]
    · by_cases hp : p k = true
      · simp [hk, hp]
        omega
      · simp [hp]

theorem repeats_perm (p : κ → Bool) (h : ks'.Perm ks) : repeats p ks' = repeats p ks := by
  have hks := repeats_add_dedup p ks
  have hks' := repeats_add_dedup p ks'
  rw [h.countP_eq, h.dedup.countP_eq] at hks'
  omega

theorem repeats_eq_sum (ks : List κ) : repeats (fun _ => true) ks = (ks.dedup.map fun k => ks.count k - 1).sum := by
  have hall := repeats_add_dedup (fun _ => true) ks
  have hle : ∀ l : List κ, (∀ k ∈ l, k ∈ ks) →
      (l.map fun k => ks.count k - 1).sum + l.length = (l.map fun k => ks.count k).sum := by
    intro l hl
    induction l with
    | nil => rfl
    | cons k l ih =>
      have hk := List.count_pos_iff.mpr (hl k List.mem_cons_self)
      have hrest := ih fun k' hk' => hl k' (List.mem_cons_of_mem k hk')
      simp only [List.map_cons, List.sum_cons, List.length_cons]
      omega
  have hsum := hle ks.dedup fun k hk => List.mem_dedup.mp hk
  rw [List.sum_map_count_dedup_eq_length] at hsum
  simp only [List.countP_true] at hall
  omega

section Names

variable {σ : Type*} [DecidableEq σ] {names : List σ} {name : κ → σ}

omit [DecidableEq κ] in
theorem sum_countP_name (hd : names.Nodup) (hmem : ∀ n, n ∈ names ↔ n ∈ ks.map name) :
    (names.map fun n => ks.countP fun k => name k = n).sum = ks.length := by
  have hperm : names.Perm (ks.map name).dedup :=
    (List.perm_ext_iff_of_nodup hd (List.nodup_dedup _)).mpr fun n => (hmem n).trans List.mem_dedup.symm
  have hcount : ∀ n, (ks.countP fun k => name k = n) = (ks.map name).count n := by
    intro n
    rw [List.count, List.countP_map]
    exact List.countP_congr fun k _ => by simp
  rw [List.map_congr_left fun n _ => hcount n, (hperm.map _).sum_eq, List.sum_map_count_dedup_eq_length, List.length_map]

theorem sum_repeats_name (hd : names.Nodup) (hmem : ∀ n, n ∈ names ↔ n ∈ ks.map name) :
    (names.map fun n => repeats (fun k => name k = n) ks).sum = repeats (fun _ => true) ks := by
  have hall := sum_countP_name hd hmem
  have hdedup : ∀ n, n ∈ names ↔ n ∈ ks.dedup.map name := fun n => (hmem n).trans (by simp)
  have hdistinct := sum_countP_name hd hdedup
  have hsum : (names.map fun n => repeats (fun k => name k = n) ks).sum
      + (names.map fun n => ks.dedup.countP fun k => name k = n).sum =
      (names.map fun n => ks.countP fun k => name k = n).sum := by
    rw [← List.sum_map_add]
    exact congrArg List.sum (List.map_congr_left fun n _ => repeats_add_dedup _ ks)
  have hrepeats := repeats_add_dedup (fun _ => true) ks
  simp only [List.countP_true] at hrepeats
  omega

end Names

end Tally
