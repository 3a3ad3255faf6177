/-
Grouping by key. A loop adds each item to the group of its key; what it ends
with has each key once, in the order in which the keys first occur, with the
items of the key in their order.
-/
import ThreeAgent.Lib.Dict
import ThreeAgent.Lib.Text

namespace Grouping

open PyDict PyText

variable {α : Type} (key : α → String)

/-- One round of the loop. -/
def addTo (groups : Dict (List α)) (item : α) : Dict (List α) :=
  PyDict.set groups (key item) ((get? groups (key item)).getD [] ++ [item])

def group (items : List α) : Dict (List α) := items.foldl (addTo key) []

/-! ## Tables over a list of keys -/

/-- A dictionary of what a function gives for each key. -/
def table (ks : List String) (f : String → List α) : Dict (List α) := ks.map fun k => (k, f k)

variable {ks : List String} {f g : String → List α} {k : String}

theorem table_congr (h : ∀ k ∈ ks, f k = g k) : table ks f = table ks g := by
  refine List.map_congr_left ?_
  intro k hk
  rw [h k hk]

theorem get?_table (hk : k ∈ ks) : get? (table ks f) k = some (f k) := by
  induction ks with
  | nil => cases hk
  | cons k' ks ih =>
    rw [table, List.map_cons, get?_cons]
    by_cases heq : k' = k
    · rw [if_pos heq, heq]
    · rw [if_neg heq]
      exact ih ((List.mem_cons.mp hk).resolve_left (Ne.symm heq))

theorem get?_table_absent (hk : k ∉ ks) : get? (table ks f) k = none := by
  induction ks with
  | nil => rfl
  | cons k' ks ih =>
    obtain ⟨hne, hk⟩ := not_or.mp fun h => hk (List.mem_cons.mpr h)
    rw [table, List.map_cons, get?_cons, if_neg (Ne.symm hne)]
    exact ih hk

theorem set_table_absent {v : List α} (hk : k ∉ ks) : PyDict.set (table ks f) k v = table ks f ++ [(k, v)] :=
  set_of_absent (has_eq_false.mpr (get?_table_absent hk))

theorem set_table {v : List α} (hnodup : ks.Nodup) (hk : k ∈ ks) :
    PyDict.set (table ks f) k v = table ks fun k' => if k' = k then v else f k' := by
  induction ks with
  | nil => cases hk
  | cons k' ks ih =>
    obtain ⟨hnot, hnodup⟩ := List.nodup_cons.mp hnodup
    rw [table, List.map_cons, table, List.map_cons, PyDict.set]
    by_cases heq : k' = k
    · subst heq
      rw [if_pos rfl, if_pos rfl]
      refine congrArg _ (table_congr ?_)
      intro k hk
      rw [if_neg]
      intro h
      exact hnot (h ▸ hk)
    · rw [if_neg heq, if_neg heq]
      exact congrArg _ (ih hnodup ((List.mem_cons.mp hk).resolve_left (Ne.symm heq)))

/-! ## The groups -/

/-- The items of a key. -/
def itemsOf (items : List α) (k : String) : List α := items.filter (key · = k)

theorem itemsOf_append (items : List α) (item : α) (k : String) :
    itemsOf key (items ++ [item]) k = if k = key item then itemsOf key items k ++ [item] else itemsOf key items k := by
  rw [itemsOf, List.filter_append]
  by_cases hk : k = key item
  · rw [if_pos hk, List.filter_cons_of_pos (by simp [hk])]
    rfl
  · rw [if_neg hk, List.filter_cons_of_neg (by simp [Ne.symm hk]), List.filter_nil, List.append_nil]
    rfl

theorem itemsOf_eq_nil {items : List α} (hk : k ∉ items.map key) : itemsOf key items k = [] := by
  rw [itemsOf, List.filter_eq_nil_iff]
  intro item hitem
  rw [decide_eq_true_eq]
  intro h
  exact hk (List.mem_map.mpr ⟨item, hitem, h⟩)

/-- **The groups** are the items of each key, the keys in the order of their first items. -/
theorem group_eq (items : List α) : group key items = table (dedup (items.map key)) (itemsOf key items) := by
  induction items using List.reverseRecOn with
  | nil => rfl
  | append_singleton items item ih =>
    rw [group, List.foldl_append, List.foldl_cons, List.foldl_nil]
    rw [show items.foldl (addTo key) [] = _ from ih, addTo, List.map_append, List.map_cons, List.map_nil]
    by_cases hk : key item ∈ items.map key
    · have hkeys : dedup (items.map key ++ [key item]) = dedup (items.map key) := by
        rw [dedup_append, dedup, List.filter_cons_of_neg (by simpa using hk)]
        simp [dedup]
      rw [hkeys, get?_table (mem_dedup.mpr hk), set_table (dedup_nodup _) (mem_dedup.mpr hk)]
      refine table_congr ?_
      intro k _
      rw [itemsOf_append]
      by_cases heq : k = key item
      · rw [if_pos heq, if_pos heq, heq]
        rfl
      · rw [if_neg heq, if_neg heq]
    · have hkeys : dedup (items.map key ++ [key item]) = dedup (items.map key) ++ [key item] := by
        rw [dedup_append, dedup, List.filter_cons_of_pos (by simpa using hk)]
        simp [dedup]
      have habsent : key item ∉ dedup (items.map key) := fun h => hk (mem_dedup.mp h)
      rw [hkeys, get?_table_absent habsent, set_table_absent habsent, table, table, List.map_append]
      refine congrArg₂ (· ++ ·) (table_congr ?_) ?_
      · intro k hmem
        rw [itemsOf_append, if_neg]
        intro h
        exact habsent (h ▸ hmem)
      · rw [List.map_cons, itemsOf_append, if_pos rfl, itemsOf_eq_nil key hk]
        rfl

theorem itemsOf_perm (items : List α) (hnodup : ks.Nodup) (hcover : ∀ item ∈ items, key item ∈ ks) :
    (ks.flatMap (itemsOf key items)).Perm items := by
  induction ks generalizing items with
  | nil =>
    rw [List.eq_nil_iff_forall_not_mem.mpr fun item hitem => List.not_mem_nil (hcover item hitem)]
    rfl
  | cons k ks ih =>
    obtain ⟨hnot, hnodup⟩ := List.nodup_cons.mp hnodup
    have hrest : ks.flatMap (itemsOf key items) = ks.flatMap (itemsOf key (items.filter fun item => !decide (key item = k))) := by
      refine List.flatMap_congr ?_
      intro k' hk'
      rw [itemsOf, itemsOf, List.filter_filter]
      refine List.filter_congr ?_
      intro item _
      by_cases heq : key item = k'
      · have hne : ¬ k' = k := fun h => hnot (h ▸ hk')
        simp [heq, hne]
      · simp [heq]
    rw [List.flatMap_cons, hrest]
    refine ((ih _ hnodup ?_).append_left _).trans (List.filter_append_perm _ items)
    intro item hitem
    obtain ⟨hmem, hne⟩ := List.mem_filter.mp hitem
    exact (List.mem_cons.mp (hcover item hmem)).resolve_left (by simpa using hne)

end Grouping
