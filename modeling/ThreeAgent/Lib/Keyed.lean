/-
Items under keys that determine them. A loop keeps each item in a dictionary
under its key; where two items of one key are the same, the dictionary holds
the items and nothing else, whatever their order and repetition. Sorted by a
key, they are one list.
-/
import Mathlib.Data.List.Induction
import Mathlib.Data.List.Perm.Lattice
import Mathlib.Data.List.Sort
import Mathlib.Data.Prod.Lex
import ThreeAgent.Lib.Dict

namespace Keyed

open PyDict

variable {α κ : Type*}

/-- `sorted(items, key=key)`. -/
def sortedBy [LinearOrder κ] (key : α → κ) (items : List α) : List α :=
  items.insertionSort fun a b => key a ≤ key b

/-- `d.values()`. -/
def values (d : Dict α) : List α := d.map Prod.snd

/-- Two items with one key are the same. -/
def Determines (key : α → κ) (items : List α) : Prop := ∀ a ∈ items, ∀ b ∈ items, key a = key b → a = b

theorem Determines.mono {key : α → κ} {items items' : List α} (h : Determines key items) (hsub : items' ⊆ items) :
    Determines key items' :=
  fun a ha b hb => h a (hsub ha) b (hsub hb)

/-! ## Sorting by a key -/

section

variable [LinearOrder κ] {key : α → κ} {items items' : List α}

theorem sortedBy_perm : (sortedBy key items).Perm items := List.perm_insertionSort _ items

@[simp] theorem mem_sortedBy {a : α} : a ∈ sortedBy key items ↔ a ∈ items := sortedBy_perm.mem_iff

theorem sortedBy_pairwise : (sortedBy key items).Pairwise fun a b => key a ≤ key b := by
  have htotal : Std.Total fun a b : α => key a ≤ key b := ⟨fun a b => le_total (key a) (key b)⟩
  have htrans : IsTrans α fun a b => key a ≤ key b := ⟨fun _ _ _ => le_trans⟩
  exact List.pairwise_insertionSort _ items

theorem sortedBy_congr (h : Determines key items) (hnodup : items.Nodup) (hnodup' : items'.Nodup)
    (hmem : ∀ a, a ∈ items ↔ a ∈ items') : sortedBy key items = sortedBy key items' := by
  have hperm : (sortedBy key items).Perm (sortedBy key items') :=
    sortedBy_perm.trans (((List.perm_ext_iff_of_nodup hnodup hnodup').mpr hmem).trans sortedBy_perm.symm)
  refine hperm.eq_of_pairwise ?_ sortedBy_pairwise sortedBy_pairwise
  intro a b ha hb hab hba
  have hb' : b ∈ items := (hmem b).mpr (mem_sortedBy.mp hb)
  exact h a (mem_sortedBy.mp ha) b hb' (le_antisymm hab hba)

theorem filter_sortedBy_congr {p : α → Bool} (h : Determines key items) (hnodup : items.Nodup) (hnodup' : items'.Nodup)
    (hmem : ∀ a, p a = true → (a ∈ items ↔ a ∈ items')) :
    (sortedBy key items).filter p = (sortedBy key items').filter p := by
  have hperm : ((sortedBy key items).filter p).Perm ((sortedBy key items').filter p) := by
    refine (List.perm_ext_iff_of_nodup ((sortedBy_perm.nodup_iff.mpr hnodup).filter p)
      ((sortedBy_perm.nodup_iff.mpr hnodup').filter p)).mpr ?_
    intro a
    rw [List.mem_filter, List.mem_filter, mem_sortedBy, mem_sortedBy]
    exact and_congr_left fun hp => hmem a hp
  refine hperm.eq_of_pairwise ?_ (sortedBy_pairwise.filter p) (sortedBy_pairwise.filter p)
  intro a b ha hb hab hba
  obtain ⟨ha, -⟩ := List.mem_filter.mp ha
  obtain ⟨hb, hp⟩ := List.mem_filter.mp hb
  exact h a (mem_sortedBy.mp ha) b ((hmem b hp).mpr (mem_sortedBy.mp hb)) (le_antisymm hab hba)

end

/-! ## The dictionary of the items -/

/-- The dictionary holds each of the items under its key, and nothing else. -/
structure Keeps (key : α → String) (d : Dict α) (items : List α) : Prop where
  nodup : (keys d).Nodup
  mem : ∀ k a, (k, a) ∈ d ↔ a ∈ items ∧ key a = k

namespace Keeps

variable {key : α → String} {d : Dict α} {items : List α} {a b : α}

theorem nil : Keeps key [] ([] : List α) where
  nodup := List.nodup_nil
  mem := by simp

section
variable (h : Keeps key d items)
include h

theorem get?_iff {k : String} : get? d k = some a ↔ a ∈ items ∧ key a = k := by
  rw [← h.mem]
  exact ⟨mem_of_get?, get?_of_mem h.nodup⟩

theorem get?_none {k : String} (hnone : get? d k = none) : ∀ a ∈ items, key a ≠ k := by
  intro a ha hk
  rw [h.get?_iff.mpr ⟨ha, hk⟩] at hnone
  cases hnone

theorem skip (ha : a ∈ items) : Keeps key d (items ++ [a]) where
  nodup := h.nodup
  mem := by
    intro k b
    rw [h.mem, List.mem_append, List.mem_singleton]
    refine and_congr_left fun _ => ⟨Or.inl, ?_⟩
    intro hb
    rcases hb with hb | rfl
    · exact hb
    · exact ha

theorem set_new (hnone : get? d (key a) = none) :
    Keeps key (PyDict.set d (key a) a) (items ++ [a]) where
  nodup := nodup_set h.nodup (has_eq_false.mpr hnone)
  mem := by
    intro k b
    rw [set_of_absent (has_eq_false.mpr hnone), List.mem_append, h.mem, List.mem_append]
    simp only [List.mem_singleton, Prod.mk.injEq]
    constructor
    · rintro (⟨hb, hk⟩ | ⟨rfl, rfl⟩)
      · exact ⟨.inl hb, hk⟩
      · exact ⟨.inr rfl, rfl⟩
    · rintro ⟨hb | rfl, hk⟩
      · exact .inl ⟨hb, hk⟩
      · exact .inr ⟨hk.symm, rfl⟩

theorem set (hsame : ∀ b ∈ items, key b = key a → b = a) :
    Keeps key (PyDict.set d (key a) a) (items ++ [a]) := by
  cases hget : get? d (key a) with
  | none => exact h.set_new hget
  | some b =>
    obtain ⟨hb, hkey⟩ := h.get?_iff.mp hget
    have hba : b = a := hsame b hb hkey
    subst hba
    obtain ⟨front, back, hd, hset⟩ := set_split (v := b) hget
    rw [hset, ← hd]
    exact h.skip hb

theorem mem_values : a ∈ values d ↔ a ∈ items := by
  rw [values, List.mem_map]
  constructor
  · rintro ⟨⟨k, b⟩, hmem, rfl⟩
    exact ((h.mem k b).mp hmem).1
  · intro ha
    exact ⟨(key a, a), (h.mem _ _).mpr ⟨ha, rfl⟩, rfl⟩

theorem nodup_values : (values d).Nodup := by
  have hinj : (values d).map key = keys d := by
    rw [values, keys, List.map_map]
    refine List.map_congr_left ?_
    rintro ⟨k, a⟩ hmem
    exact ((h.mem k a).mp hmem).2
  refine List.Nodup.of_map key ?_
  rw [hinj]
  exact h.nodup

theorem length_le {others : List α} (hsub : items ⊆ others) : d.length ≤ others.length := by
  have hlen : d.length = (values d).length := (List.length_map _).symm
  rw [hlen]
  exact (List.subperm_of_subset h.nodup_values fun a ha => hsub (h.mem_values.mp ha)).length_le

end

end Keeps

theorem mem_values_iff {d : Dict α} (hd : (keys d).Nodup) {v : α} : v ∈ values d ↔ ∃ k, get? d k = some v := by
  refine ⟨?_, ?_⟩
  · intro h
    obtain ⟨⟨k, _⟩, hmem, rfl⟩ := List.mem_map.mp h
    exact ⟨k, get?_of_mem hd hmem⟩
  · intro ⟨k, hk⟩
    exact List.mem_map.mpr ⟨_, mem_of_get? hk, rfl⟩

theorem keys_determine {d : Dict α} (hd : (keys d).Nodup) : Determines Prod.fst d := by
  intro a ha b hb hkey
  have hget := get?_of_mem hd (k := a.1) (v := a.2) ha
  rw [hkey, get?_of_mem hd (k := b.1) (v := b.2) hb] at hget
  exact Prod.ext hkey (Option.some.inj hget).symm

/-! ## The last item of each key -/

/-- `{key(item): item for item in items}`. -/
def latest (key : α → String) (items : List α) : Dict α :=
  items.foldl (fun d a => PyDict.set d (key a) a) []

section

variable {key : α → String} {items : List α} {a b : α}

theorem latest_snoc : latest key (items ++ [a]) = PyDict.set (latest key items) (key a) a := by
  rw [latest, List.foldl_append]
  rfl

theorem mem_latest (items : List α) :
    (keys (latest key items)).Nodup ∧ ∀ k a, (k, a) ∈ latest key items → a ∈ items ∧ key a = k := by
  induction items using List.reverseRecOn with
  | nil => exact ⟨List.nodup_nil, by simp [latest]⟩
  | append_singleton items b ih =>
    obtain ⟨hnodup, hmem⟩ := ih
    rw [latest_snoc]
    refine ⟨?_, ?_⟩
    · cases hget : get? (latest key items) (key b) with
      | none => exact nodup_set hnodup (has_eq_false.mpr hget)
      | some old =>
        rw [keys_set_of_present hget]
        exact hnodup
    · intro k a ha
      rcases mem_set ha with he | ha
      · cases he
        exact ⟨by simp, rfl⟩
      · obtain ⟨ha, hk⟩ := hmem k a ha
        exact ⟨List.mem_append_left _ ha, hk⟩

theorem mem_values_latest : a ∈ values (latest key items) ↔ get? (latest key items) (key a) = some a := by
  obtain ⟨hnodup, hmem⟩ := @mem_latest _ key items
  rw [values, List.mem_map]
  constructor
  · rintro ⟨⟨k, b⟩, hb, rfl⟩
    rw [(hmem k b hb).2]
    exact get?_of_mem hnodup hb
  · intro hget
    exact ⟨(key a, a), mem_of_get? hget, rfl⟩

theorem values_latest_subset : values (latest key items) ⊆ items := by
  intro a ha
  exact ((mem_latest items).2 _ _ (mem_of_get? (mem_values_latest.mp ha))).1

theorem nodup_values_latest : (values (latest key items)).Nodup := by
  obtain ⟨hnodup, hmem⟩ := @mem_latest _ key items
  have hinj : (values (latest key items)).map key = keys (latest key items) := by
    rw [values, keys, List.map_map]
    refine List.map_congr_left ?_
    intro e he
    exact (hmem e.1 e.2 he).2
  refine List.Nodup.of_map key ?_
  rw [hinj]
  exact hnodup

theorem mem_values_latest_of_alone (ha : a ∈ items) (halone : ∀ b ∈ items, key b = key a → b = a) :
    a ∈ values (latest key items) := by
  rw [mem_values_latest, latest, get?_foldl_set]
  cases hfind : items.reverse.find? fun x => key x = key a with
  | none =>
    have hnone := List.find?_eq_none.mp hfind a (List.mem_reverse.mpr ha)
    simp at hnone
  | some b =>
    have hb := List.mem_reverse.mp (List.mem_of_find?_eq_some hfind)
    have hkey : key b = key a := by simpa using List.find?_some hfind
    rw [halone b hb hkey]
    rfl

theorem mem_values_latest_snoc : a ∈ values (latest key (items ++ [b])) ∧ key a = key b ↔ a = b := by
  rw [mem_values_latest, latest_snoc]
  constructor
  · rintro ⟨hget, hkey⟩
    rw [hkey, get?_set_self] at hget
    exact (Option.some.inj hget).symm
  · rintro rfl
    exact ⟨get?_set_self, rfl⟩

end

/-! ## Finding oneself first -/

section First

variable {p : α → α → Bool}

theorem find?_self_of_surjective (hp : ∀ a b, p a b = true → p b b = true) : ∀ {xs : List α}, xs.Nodup →
    (∀ a ∈ xs, ∃ b ∈ xs, xs.find? (p · b) = some a) → ∀ b ∈ xs, xs.find? (p · b) = some b := by
  intro xs
  induction xs using List.reverseRecOn with
  | nil =>
    intro _ _ b hb
    cases hb
  | append_singleton xs x ih =>
    intro hnodup hsurj
    obtain ⟨hxs, -, hdisjoint⟩ := List.nodup_append.mp hnodup
    have hx : x ∉ xs := fun hmem => hdisjoint x hmem x (List.mem_singleton_self x) rfl
    -- an element that finds the last one finds it as itself
    have hlast : (xs ++ [x]).find? (p · x) = some x := by
      obtain ⟨b, hb, hfind⟩ := hsurj x (by simp)
      have hpx : p x b = true := @List.find?_some _ (p · b) _ _ hfind
      rcases List.mem_append.mp hb with hb | hb
      · rw [List.find?_append] at hfind
        cases hfirst : xs.find? (p · b) with
        | none => exact absurd (hp x b hpx) (List.find?_eq_none.mp hfirst b hb)
        | some a =>
          rw [hfirst] at hfind
          exact absurd (Option.some.inj hfind ▸ List.mem_of_find?_eq_some hfirst) hx
      · rwa [List.mem_singleton.mp hb] at hfind
    have hfront : ∀ b ∈ xs, xs.find? (p · b) = some b := by
      refine ih hxs ?_
      intro a ha
      obtain ⟨b, hb, hfind⟩ := hsurj a (List.mem_append_left _ ha)
      have hne : a ≠ x := fun heq => hx (heq ▸ ha)
      have hb' : b ∈ xs := by
        refine (List.mem_append.mp hb).resolve_right fun hbx => ?_
        rw [List.mem_singleton.mp hbx, hlast] at hfind
        exact hne (Option.some.inj hfind).symm
      refine ⟨b, hb', ?_⟩
      rw [List.find?_append] at hfind
      cases hfirst : xs.find? (p · b) with
      | none =>
        rw [hfirst, Option.none_or] at hfind
        exact absurd (List.mem_singleton.mp (List.mem_of_find?_eq_some hfind)) hne
      | some a' =>
        rw [hfirst] at hfind
        exact hfind
    intro b hb
    rcases List.mem_append.mp hb with hb | hb
    · rw [List.find?_append, hfront b hb]
      rfl
    · rw [List.mem_singleton.mp hb]
      exact hlast

theorem find?_self_iff {xs : List α} (hnodup : xs.Nodup) : (∀ b ∈ xs, xs.find? (p · b) = some b) ↔
    xs.Pairwise (fun a b => p a b = false) ∧ ∀ b ∈ xs, p b b = true := by
  induction xs using List.reverseRecOn with
  | nil => simp
  | append_singleton xs x ih =>
    obtain ⟨hxs, -, hdisjoint⟩ := List.nodup_append.mp hnodup
    have hx : x ∉ xs := fun hmem => hdisjoint x hmem x (List.mem_singleton_self x) rfl
    have hfront : (∀ b ∈ xs, (xs ++ [x]).find? (p · b) = some b) ↔ ∀ b ∈ xs, xs.find? (p · b) = some b := by
      refine forall₂_congr fun b hb => ?_
      rw [List.find?_append]
      cases hfirst : xs.find? (p · b) with
      | some a => rw [Option.some_or]
      | none =>
        rw [Option.none_or]
        refine ⟨fun hfind => ?_, fun hnone => by cases hnone⟩
        exact absurd (List.mem_singleton.mp (List.mem_of_find?_eq_some hfind) ▸ hb) hx
    have hlast : (xs ++ [x]).find? (p · x) = some x ↔ (∀ a ∈ xs, p a x = false) ∧ p x x = true := by
      rw [List.find?_append]
      constructor
      · intro hfind
        cases hfirst : xs.find? (p · x) with
        | some a =>
          rw [hfirst] at hfind
          exact absurd (Option.some.inj hfind ▸ List.mem_of_find?_eq_some hfirst) hx
        | none =>
          rw [hfirst, Option.none_or] at hfind
          exact ⟨fun a ha => by simpa using List.find?_eq_none.mp hfirst a ha, @List.find?_some _ (p · x) _ _ hfind⟩
      · intro ⟨hnone, hself⟩
        have hfirst : xs.find? (p · x) = none := List.find?_eq_none.mpr fun a ha => by simp [hnone a ha]
        rw [hfirst, Option.none_or, List.find?_cons, hself]
    simp only [List.forall_mem_append, List.forall_mem_singleton, hfront, hlast, ih hxs, List.pairwise_append,
      List.pairwise_singleton, true_and]
    constructor
    · intro ⟨⟨hpair, hself⟩, hnone, hx⟩
      exact ⟨⟨hpair, hnone⟩, hself, hx⟩
    · intro ⟨⟨hpair, hnone⟩, hself, hx⟩
      exact ⟨⟨hpair, hself⟩, hnone, hx⟩

end First

end Keyed
