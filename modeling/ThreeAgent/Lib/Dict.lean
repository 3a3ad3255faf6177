/-
A Python `dict` with string keys: its entries in insertion order. Setting a
present key replaces its value in place, setting an absent one appends, and
`pop` drops the key.
-/
import Mathlib.Data.List.Basic
import Mathlib.Data.List.Nodup

namespace PyDict

variable {k k' : String}

variable {β γ : Type*}

/-- The entries, in insertion order. -/
abbrev Dict (β : Type*) := List (String × β)

/-- `d.get(k)`. -/
def get? : Dict β → String → Option β
  | [], _ => none
  | (k', v) :: d, k => if k' = k then some v else get? d k

/-- `d[k] = v`. -/
def set : Dict β → String → β → Dict β
  | [], k, v => [(k, v)]
  | (k', v') :: d, k, v => if k' = k then (k, v) :: d else (k', v') :: set d k v

/-- `d.pop(k, None)`. -/
def pop (d : Dict β) (k : String) : Dict β := d.filter fun e => e.1 ≠ k

/-- `k in d`. -/
def has (d : Dict β) (k : String) : Bool := (get? d k).isSome

/-- `list(d)`. -/
def keys (d : Dict β) : List String := d.map Prod.fst

@[simp] theorem get?_nil (k : String) : get? ([] : Dict β) k = none := rfl

variable {v : β} {d : Dict β}

theorem get?_cons :
    get? ((k', v) :: d) k = if k' = k then some v else get? d k := rfl

theorem get?_set :
    get? (set d k v) k' = if k = k' then some v else get? d k' := by
  induction d with
  | nil => simp [set, get?_cons]
  | cons e d ih =>
    obtain ⟨k₀, v₀⟩ := e
    by_cases h0 : k₀ = k
    · subst h0
      simp only [set, ite_true, get?_cons]
      by_cases h1 : k₀ = k' <;> simp [h1]
    · simp only [set, if_neg h0, get?_cons, ih]
      by_cases h1 : k₀ = k'
      · subst h1
        rw [if_pos rfl, if_neg (fun he => h0 he.symm), if_pos rfl]
      · rw [if_neg h1, if_neg h1]

@[simp] theorem get?_set_self : get? (set d k v) k = some v := by
  simp [get?_set]

theorem get?_set_ne (h : k ≠ k') :
    get? (set d k v) k' = get? d k' := by
  simp [get?_set, h]

theorem get?_pop : get? (pop d k) k' = if k = k' then none else get? d k' := by
  induction d with
  | nil => simp [pop]
  | cons e d ih =>
    obtain ⟨k₀, v₀⟩ := e
    simp only [pop] at ih
    by_cases h0 : k₀ = k
    · subst h0
      simp only [pop, ne_eq, not_true_eq_false, decide_false, Bool.false_eq_true, not_false_eq_true,
        List.filter_cons_of_neg, ih, get?_cons]
      by_cases h1 : k₀ = k' <;> simp [h1]
    · have hkeep : decide (k₀ ≠ k) = true := by simpa using h0
      simp only [pop, List.filter_cons, hkeep, ite_true, get?_cons, ih]
      by_cases h1 : k₀ = k'
      · subst h1
        rw [if_pos rfl, if_neg (fun he => h0 he.symm), if_pos rfl]
      · rw [if_neg h1, if_neg h1]

theorem has_iff : has d k = true ↔ ∃ v, get? d k = some v := by
  simp [has, Option.isSome_iff_exists]

theorem has_eq_false : has d k = false ↔ get? d k = none := by
  simp [has]

theorem mem_of_get? (h : get? d k = some v) : (k, v) ∈ d := by
  induction d with
  | nil => simp at h
  | cons e d ih =>
    obtain ⟨k₀, v₀⟩ := e
    rw [get?_cons] at h
    split at h
    · rename_i he
      cases h
      simp [he]
    · simp [ih h]

theorem has_of_mem (h : (k, v) ∈ d) : has d k = true := by
  induction d with
  | nil => simp at h
  | cons e d ih =>
    obtain ⟨k₀, v₀⟩ := e
    by_cases h0 : k₀ = k
    · simp [has, get?_cons, h0]
    · have hmem : (k, v) ∈ d := by
        rcases List.mem_cons.mp h with he | he
        · cases he
          exact absurd rfl h0
        · exact he
      simpa [has, get?_cons, h0] using ih hmem

theorem mem_keys : k ∈ keys d ↔ has d k = true := by
  constructor
  · intro h
    obtain ⟨⟨k', v⟩, hmem, rfl⟩ := List.mem_map.mp h
    exact has_of_mem hmem
  · intro h
    obtain ⟨v, hv⟩ := has_iff.mp h
    exact List.mem_map.mpr ⟨_, mem_of_get? hv, rfl⟩

theorem get?_of_mem (hd : (keys d).Nodup) (h : (k, v) ∈ d) :
    get? d k = some v := by
  induction d with
  | nil => simp at h
  | cons e d ih =>
    obtain ⟨k₀, v₀⟩ := e
    simp only [keys, List.map_cons, List.nodup_cons] at hd
    rcases List.mem_cons.mp h with he | he
    · cases he
      simp [get?_cons]
    · have hne : k₀ ≠ k := by
        intro h0
        exact hd.1 (h0 ▸ List.mem_map.mpr ⟨_, he, rfl⟩)
      rw [get?_cons, if_neg hne]
      exact ih hd.2 he

theorem mem_set {e : String × β}
    (h : e ∈ set d k v) : e = (k, v) ∨ e ∈ d := by
  induction d with
  | nil => exact .inl (by simpa [set] using h)
  | cons e' d ih =>
    by_cases hk : e'.1 = k
    · simp only [set, hk, if_true, List.mem_cons] at h
      rcases h with rfl | h
      · exact .inl rfl
      · exact .inr (List.mem_cons_of_mem _ h)
    · simp only [set, if_neg hk, List.mem_cons] at h
      rcases h with rfl | h
      · exact .inr List.mem_cons_self
      · rcases ih h with rfl | h
        · exact .inl rfl
        · exact .inr (List.mem_cons_of_mem _ h)

theorem set_of_absent (h : has d k = false) : set d k v = d ++ [(k, v)] := by
  induction d with
  | nil => rfl
  | cons e d ih =>
    obtain ⟨k₀, v₀⟩ := e
    rw [has_eq_false, get?_cons] at h
    split at h
    · cases h
    · rename_i h0
      simp only [set, if_neg h0, List.cons_append]
      rw [ih (has_eq_false.mpr h)]

theorem keys_set_of_absent (h : has d k = false) :
    keys (set d k v) = keys d ++ [k] := by
  rw [set_of_absent h]
  simp [keys]

theorem nodup_set (hd : (keys d).Nodup) (h : has d k = false) :
    (keys (set d k v)).Nodup := by
  rw [keys_set_of_absent h, List.nodup_append]
  refine ⟨hd, by simp, ?_⟩
  intro a ha b hb hab
  have hb' : b = k := by simpa using hb
  rw [hab, hb', mem_keys] at ha
  rw [ha] at h
  cases h

theorem nodup_pop (hd : (keys d).Nodup) : (keys (pop d k)).Nodup :=
  (List.filter_sublist.map _).nodup hd

theorem length_pop_le : (pop d k).length ≤ d.length := List.length_filter_le _ _

theorem has_set : has (set d k v) k' = (decide (k = k') || has d k') := by
  by_cases h : k = k' <;> simp [has, get?_set, h]

theorem has_pop : has (pop d k) k' = (decide (k ≠ k') && has d k') := by
  by_cases h : k = k' <;> simp [has, get?_pop, h]

theorem set_split {old : β} (h : get? d k = some old) :
    ∃ front back, d = front ++ (k, old) :: back ∧ set d k v = front ++ (k, v) :: back := by
  induction d with
  | nil => cases h
  | cons e d ih =>
    obtain ⟨k', v'⟩ := e
    rw [get?_cons] at h
    by_cases hk : k' = k
    · rw [if_pos hk, Option.some_inj] at h
      subst hk h
      exact ⟨[], d, rfl, by rw [set, if_pos rfl]; rfl⟩
    · rw [if_neg hk] at h
      obtain ⟨front, back, hd, hset⟩ := ih h
      exact ⟨(k', v') :: front, back, by rw [hd]; rfl, by rw [set, if_neg hk, hset]; rfl⟩

theorem keys_set_of_present {old : β} (h : get? d k = some old) :
    keys (set d k v) = keys d := by
  obtain ⟨front, back, hd, hset⟩ := set_split (v := v) h
  rw [hset, hd]
  simp [keys]

theorem set_set {v' : β} : set (set d k v) k v' = set d k v' := by
  induction d with
  | nil => simp [set]
  | cons e d ih =>
    obtain ⟨k', w⟩ := e
    by_cases hk : k' = k
    · simp [set, hk]
    · simp [set, hk, ih]

theorem get?_map_snd (f : β → γ) (k : String) (d : Dict β) :
    get? (d.map fun row => (row.1, f row.2)) k = (get? d k).map f := by
  induction d with
  | nil => rfl
  | cons e d ih =>
    rw [List.map_cons, get?_cons, get?_cons, ih]
    split
    · rfl
    · rfl

theorem get?_foldl_set {α : Type*} (key : α → String) (val : α → β) (xs : List α) (d : Dict β) (k : String) :
    get? (xs.foldl (fun d x => set d (key x) (val x)) d) k =
      ((xs.reverse.find? fun x => key x = k).map val).or (get? d k) := by
  induction xs generalizing d with
  | nil => simp
  | cons x xs ih =>
    rw [List.foldl_cons, ih, get?_set, List.reverse_cons, List.find?_append]
    cases hlast : xs.reverse.find? fun x => key x = k with
    | some y => simp
    | none => by_cases hk : key x = k <;> simp [hk]

end PyDict
