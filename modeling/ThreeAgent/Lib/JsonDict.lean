/-
Dictionaries by their items: two dictionaries with the same keys, and the
same item under each of them, are one dictionary.
-/
import ThreeAgent.Lib.JsonFacts

namespace PyJson

variable {ks : List String}

variable {F : Type}

variable {kvs : List (String × Json F)} {v : Json F}

variable {k : String}

theorem mem_iff_lookup (h : KeySorted kvs) :
    (k, v) ∈ kvs ↔ kvs.lookup k = some v := by
  induction kvs with
  | nil => simp
  | cons e kvs ih =>
    obtain ⟨hhead, htail⟩ := List.pairwise_cons.mp h
    rw [lookup_cons_ite, List.mem_cons]
    by_cases hk : k = e.1
    · rw [if_pos hk]
      have hnot : (k, v) ∉ kvs := fun hmem => lt_irrefl k (by simpa [hk] using hhead _ hmem)
      constructor
      · rintro (rfl | hmem)
        · rfl
        · exact absurd hmem hnot
      · intro hv
        cases hv
        subst hk
        exact .inl rfl
    · rw [if_neg hk, ih htail]
      constructor
      · rintro (rfl | hmem)
        · exact absurd rfl hk
        · exact hmem
      · exact .inr

theorem keySorted_ext {kvs' : List (String × Json F)} (h : KeySorted kvs) (h' : KeySorted kvs')
    (hget : ∀ k, kvs.lookup k = kvs'.lookup k) : kvs = kvs' := by
  have hnodup : ∀ {l : List (String × Json F)}, KeySorted l → l.Nodup := by
    intro l hl
    refine List.Pairwise.imp ?_ hl
    rintro a b hlt rfl
    exact lt_irrefl _ hlt
  have hperm : kvs.Perm kvs' := by
    rw [List.perm_ext_iff_of_nodup (hnodup h) (hnodup h')]
    rintro ⟨k, v⟩
    rw [mem_iff_lookup h, mem_iff_lookup h', hget]
  exact hperm.eq_of_pairwise (fun a b _ _ hab hba => absurd hab (lt_asymm hba)) h h'

theorem isDict_of_hasKeys (h : v.hasKeys ks = true) : v.isDict = true := by
  simp only [Json.hasKeys, Bool.and_eq_true] at h
  exact h.1.1

theorem mem_keys_of_hasKeys (h : v.hasKeys ks = true) :
    k ∈ v.keys ↔ k ∈ ks := by
  simp only [Json.hasKeys, Bool.and_eq_true, List.all_eq_true, decide_eq_true_eq] at h
  exact ⟨h.1.2 k, h.2 k⟩

theorem hasKeys_iff :
    v.hasKeys ks = true ↔ v.isDict = true ∧ ∀ k, k ∈ v.keys ↔ k ∈ ks := by
  constructor
  · intro h
    exact ⟨isDict_of_hasKeys h, fun k => mem_keys_of_hasKeys h⟩
  · rintro ⟨hdict, hkeys⟩
    simp only [Json.hasKeys, hdict, Bool.true_and, Bool.and_eq_true, List.all_eq_true, decide_eq_true_eq]
    exact ⟨fun k hk => (hkeys k).mp hk, fun k hk => (hkeys k).mpr hk⟩

variable {w : Json F}

theorem hasKeys_setKey (h : v.hasKeys ks = true) (hk : k ∈ ks) :
    (v.setKey k w).hasKeys ks = true := by
  obtain ⟨hdict, hkeys⟩ := hasKeys_iff.mp h
  cases v with
  | obj kvs =>
    refine hasKeys_iff.mpr ⟨rfl, fun k' => ?_⟩
    have hmem : k' ∈ (Json.insertKey k w kvs).map Prod.fst ↔ k' = k ∨ k' ∈ kvs.map Prod.fst := mem_keys_insertKey
    rw [show ((Json.obj kvs).setKey k w).keys = (Json.insertKey k w kvs).map Prod.fst from rfl, hmem]
    rw [show k' ∈ kvs.map Prod.fst ↔ k' ∈ ks from hkeys k']
    constructor
    · rintro (rfl | hk')
      · exact hk
      · exact hk'
    · exact .inr
  | _ => cases hdict

theorem item_setKey (h : v.hasKeys ks = true) (k k' : String) :
    (v.setKey k w).item k' = if k' = k then w else v.item k' := by
  rw [Json.item, get?_setKey (isDict_of_hasKeys h)]
  split
  · rfl
  · rfl

theorem item_dict (kvs : List (String × Json F)) (k : String) :
    (Json.dict kvs).item k = (kvs.reverse.lookup k).getD .null := by
  rw [Json.item, get?_dict]

theorem get?_eq_item (h : k ∈ v.keys) : v.get? k = some (v.item k) := by
  cases v with
  | obj kvs =>
    have hsome : (kvs.lookup k).isSome = true := by
      obtain ⟨e, he, rfl⟩ := List.mem_map.mp h
      rw [List.lookup_isSome_iff]
      exact ⟨e, he, by simp⟩
    obtain ⟨w, hw⟩ := Option.isSome_iff_exists.mp hsome
    simp only [Json.item, Json.get?, hw, Option.getD_some]
  | _ => cases h

theorem get?_eq_none (h : k ∉ v.keys) : v.get? k = none := by
  cases v with
  | obj kvs =>
    rw [Json.get?, List.lookup_eq_none_iff]
    intro e he
    have hne : k ≠ e.1 := fun hk => h (hk ▸ List.mem_map.mpr ⟨e, he, rfl⟩)
    simpa using hne
  | _ => rfl

theorem canonical_item (h : Canonical v) (key : String) : Canonical (v.item key) := by
  rw [Json.item]
  cases hget : v.get? key with
  | none => trivial
  | some w =>
    cases v with
    | obj kvs =>
      obtain ⟨before, after, rfl, -⟩ := List.lookup_eq_some_iff.mp hget
      exact entriesCanonical_iff.mp h.2 (key, w) (by simp)
    | _ => cases hget

theorem canonical_ext (hv : Canonical v) (hw : Canonical w) (hvk : v.hasKeys ks = true)
    (hwk : w.hasKeys ks = true) (h : ∀ k ∈ ks, v.item k = w.item k) : v = w := by
  have hget : ∀ k, v.get? k = w.get? k := by
    intro k
    by_cases hk : k ∈ ks
    · rw [get?_eq_item ((mem_keys_of_hasKeys hvk).mpr hk), get?_eq_item ((mem_keys_of_hasKeys hwk).mpr hk), h k hk]
    · rw [get?_eq_none (mt (mem_keys_of_hasKeys hvk).mp hk), get?_eq_none (mt (mem_keys_of_hasKeys hwk).mp hk)]
  have hvd := isDict_of_hasKeys hvk
  have hwd := isDict_of_hasKeys hwk
  cases v with
  | obj kvs =>
    cases w with
    | obj kvs' => rw [keySorted_ext hv.1 hw.1 hget]
    | _ => cases hwd
  | _ => cases hvd

theorem get?_dict_of_mem (hnodup : (kvs.map Prod.fst).Nodup) {e : String × Json F}
    (he : e ∈ kvs) : (Json.dict kvs).get? e.1 = some e.2 := by
  rw [get?_dict]
  have hrev : (kvs.reverse.map Prod.fst).Nodup := by rwa [List.map_reverse, List.nodup_reverse]
  have hmem : e ∈ kvs.reverse := List.mem_reverse.mpr he
  revert hrev hmem
  generalize kvs.reverse = l
  intro hrev hmem
  induction l with
  | nil => cases hmem
  | cons e' l ih =>
    obtain ⟨hnot, htail⟩ := List.nodup_cons.mp hrev
    rw [lookup_cons_ite]
    rcases List.mem_cons.mp hmem with rfl | hmem
    · rw [if_pos rfl]
    · have hne : e.1 ≠ e'.1 := fun hk => hnot (hk ▸ List.mem_map.mpr ⟨e, hmem, rfl⟩)
      rw [if_neg hne]
      exact ih htail hmem

section Written

variable [PyFloat F]

theorem dumpable_of_dict (hnodup : (kvs.map Prod.fst).Nodup)
    (h : dumpable (Json.dict kvs) = true) : ∀ e ∈ kvs, dumpable e.2 = true := fun _ he =>
  dumpable_get? h (get?_dict_of_mem hnodup he)

theorem dumps_eq_iff {t : String} (hv : Canonical v) (hw : Canonical w) (h : dumps v = some t) :
    dumps w = some t ↔ w = v := by
  constructor
  · intro h'
    have he := loads_dumps hv h
    rw [loads_dumps hw h'] at he
    exact Option.some.inj he
  · rintro rfl
    exact h

end Written

end PyJson
