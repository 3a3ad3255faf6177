/-
`json.dumps` as it is called without `allow_nan=False`: an infinity or a NaN
is written by its name, which `json.loads` reads. `JsonFloat` adds to the
interpreter what names a float that is not finite.
-/
import ThreeAgent.Lib.JsonFacts
import ThreeAgent.Lib.Runtime

namespace PyJson

/-- The floats that are not finite are one NaN and the two infinities. -/
class JsonFloat (F : Type) extends PyRuntime F where
  /-- `x != x`. -/
  isNan : F → Bool
  eq_nan : ∀ x : F, PyFloat.isFinite x = false → isNan x = true → x = PyFloat.nan
  eq_inf : ∀ x : F, PyFloat.isFinite x = false → isNan x = false → Num.lt (.int 0) (.float x) = true →
    x = PyFloat.inf
  eq_negInf : ∀ x : F, PyFloat.isFinite x = false → isNan x = false → Num.lt (.int 0) (.float x) = false →
    x = PyFloat.negInf

variable {F : Type} [JsonFloat F]

/-- A float in a JSON text. -/
def spellFloat (x : F) : List Char :=
  if PyFloat.isFinite x then PyFloat.repr x
  else if JsonFloat.isNan x then ['N', 'a', 'N']
  else if Num.lt (.int 0) (.float x) then ['I', 'n', 'f', 'i', 'n', 'i', 't', 'y']
  else ['-', 'I', 'n', 'f', 'i', 'n', 'i', 't', 'y']

/-- `json.dumps(v, ensure_ascii=False, sort_keys=True, separators=(",", ":"))`, `none` for the `ValueError` of an integer
that is too long. -/
def dumpsLax (v : Json F) : Option String :=
  if shortInts v then some (String.ofList (layoutText .compact spellFloat 0 v)) else none

/-- `json.dumps(v, ensure_ascii=False, indent=2)`. The entries of a dictionary stand in key order, which changes neither
the length of the text nor what is read from it. -/
def dumpsIndented (v : Json F) : Option String :=
  if shortInts v then some (String.ofList (layoutText .indented spellFloat 0 v)) else none

/-! ## Reading back -/

theorem floatReads_spellFloat (x : F) : FloatReads spellFloat x := by
  cases hfin : PyFloat.isFinite x with
  | true =>
    have hspell : spellFloat x = PyFloat.repr x := by simp [spellFloat, hfin]
    rw [FloatReads, hspell]
    exact ⟨float_head hfin, fun r fuel hr => readValue_float hfin hr fuel⟩
  | false =>
    cases hnan : JsonFloat.isNan x with
    | true =>
      obtain rfl := JsonFloat.eq_nan x hfin hnan
      have hspell : spellFloat (PyFloat.nan : F) = ['N', 'a', 'N'] := by simp [spellFloat, hfin, hnan]
      rw [FloatReads, hspell]
      exact ⟨⟨_, _, rfl, by decide, by decide, by decide⟩, fun _ _ _ => rfl⟩
    | false =>
      cases hpos : Num.lt (.int 0) (.float x) with
      | true =>
        obtain rfl := JsonFloat.eq_inf x hfin hnan hpos
        have hspell : spellFloat (PyFloat.inf : F) = ['I', 'n', 'f', 'i', 'n', 'i', 't', 'y'] := by
          simp [spellFloat, hfin, hnan, hpos]
        rw [FloatReads, hspell]
        exact ⟨⟨_, _, rfl, by decide, by decide, by decide⟩, fun _ _ _ => rfl⟩
      | false =>
        obtain rfl := JsonFloat.eq_negInf x hfin hnan hpos
        have hspell : spellFloat (PyFloat.negInf : F) = ['-', 'I', 'n', 'f', 'i', 'n', 'i', 't', 'y'] := by
          simp [spellFloat, hfin, hnan, hpos]
        rw [FloatReads, hspell]
        exact ⟨⟨_, _, rfl, by decide, by decide, by decide⟩, fun _ _ _ => rfl⟩

mutual

theorem spelled_of_shortInts (v : Json F) (h : shortInts v = true) : Spelled spellFloat v := by
  cases v with
  | int n =>
    rw [shortInts, decide_eq_true_eq] at h
    exact h
  | float x => exact floatReads_spellFloat x
  | arr vs => exact elemsSpelled_of_shortInts vs h
  | obj kvs => exact entriesSpelled_of_shortInts kvs h
  | null => trivial
  | bool b => trivial
  | str s => trivial

theorem elemsSpelled_of_shortInts (vs : List (Json F)) (h : elemsShortInts vs = true) : ElemsSpelled spellFloat vs := by
  cases vs with
  | nil => trivial
  | cons v vs =>
    simp only [elemsShortInts, Bool.and_eq_true] at h
    exact ⟨spelled_of_shortInts v h.1, elemsSpelled_of_shortInts vs h.2⟩

theorem entriesSpelled_of_shortInts (kvs : List (String × Json F)) (h : entriesShortInts kvs = true) :
    EntriesSpelled spellFloat kvs := by
  cases kvs with
  | nil => trivial
  | cons e kvs =>
    obtain ⟨k, v⟩ := e
    simp only [entriesShortInts, Bool.and_eq_true] at h
    exact ⟨spelled_of_shortInts v h.1, entriesSpelled_of_shortInts kvs h.2⟩

end

variable {v : Json F} {t : String}

theorem dumpsLax_some :
    dumpsLax v = some t ↔ shortInts v = true ∧ String.ofList (layoutText .compact spellFloat 0 v) = t := by
  unfold dumpsLax
  split <;> simp_all

theorem loads_dumpsLax (hc : Canonical v) (h : dumpsLax v = some t) : loads t = some v := by
  obtain ⟨hshort, rfl⟩ := dumpsLax_some.mp h
  have hread := loads_layout (l := .compact) hc (spelled_of_shortInts v hshort) (List.forall_mem_nil _) 0
  rwa [List.append_nil] at hread

theorem dumpsLax_inj {w : Json F} (hv : Canonical v) (hw : Canonical w) (h : dumpsLax v = some t)
    (h' : dumpsLax w = some t) : v = w :=
  Option.some.inj ((loads_dumpsLax hv h).symm.trans (loads_dumpsLax hw h'))

/-! ## Values that can be written -/

mutual

theorem shortInts_of_dumpable (v : Json F) (h : dumpable v = true) : shortInts v = true := by
  cases v with
  | int n => exact h
  | arr vs => exact elemsShortInts_of_dumpable vs h
  | obj kvs => exact entriesShortInts_of_dumpable kvs h
  | null => rfl
  | bool b => rfl
  | float x => rfl
  | str s => rfl

theorem elemsShortInts_of_dumpable (vs : List (Json F)) (h : elemsDumpable vs = true) : elemsShortInts vs = true := by
  cases vs with
  | nil => rfl
  | cons v vs =>
    simp only [elemsDumpable, Bool.and_eq_true] at h
    simp only [elemsShortInts, Bool.and_eq_true]
    exact ⟨shortInts_of_dumpable v h.1, elemsShortInts_of_dumpable vs h.2⟩

theorem entriesShortInts_of_dumpable (kvs : List (String × Json F)) (h : entriesDumpable kvs = true) :
    entriesShortInts kvs = true := by
  cases kvs with
  | nil => rfl
  | cons e kvs =>
    obtain ⟨k, v⟩ := e
    simp only [entriesDumpable, Bool.and_eq_true] at h
    simp only [entriesShortInts, Bool.and_eq_true]
    exact ⟨shortInts_of_dumpable v h.1, entriesShortInts_of_dumpable kvs h.2⟩

end

theorem Writable.dumpsLax (h : Writable v) : ∃ t, dumpsLax v = some t :=
  ⟨_, if_pos (shortInts_of_dumpable v h.dumpable)⟩

theorem Writable.dumpsIndented (h : Writable v) : ∃ t, dumpsIndented v = some t :=
  ⟨_, if_pos (shortInts_of_dumpable v h.dumpable)⟩

omit [JsonFloat F] in
theorem Writable.setKey [PyFloat F] {w : Json F} {k : String} (hv : Writable v) (hw : Writable w) :
    Writable (v.setKey k w) := by
  refine ⟨canonical_setKey hv.canonical hw.canonical, ?_⟩
  cases v with
  | obj kvs =>
    refine entriesDumpable_iff.mpr ?_
    intro e he
    rcases mem_insertKey he with rfl | he
    · exact hw.dumpable
    · exact entriesDumpable_iff.mp hv.dumpable e he
  | _ => exact hv.dumpable

/-! ## Lengths -/

variable {d n m g : Nat}

section Lengths

variable {G : Type} {l : Layout} {spell : G → List Char}

theorem length_escapeChar_le (c : Char) : (escapeChar c).length ≤ 6 := by
  unfold escapeChar
  split_ifs <;> simp [hex4]

theorem length_stringText_le (s : String) : (stringText s).length ≤ 6 * s.toList.length + 2 := by
  have hall : ∀ cs : List Char, (cs.flatMap escapeChar).length ≤ 6 * cs.length := by
    intro cs
    induction cs with
    | nil => exact Nat.le_refl _
    | cons c cs ih =>
      have := length_escapeChar_le c
      rw [List.flatMap_cons, List.length_append, List.length_cons]
      omega
  have := hall s.toList
  simp only [stringText, List.length_append, List.length_cons, List.length_nil]
  omega

variable {kvs : List (String × Json G)}

theorem length_entries_le (hgap : ∀ d' ≤ d + 1, (l.gap d').length ≤ g)
    (hspace : l.space.length ≤ 1)
    (h : ∀ e ∈ kvs, (stringText e.1).length ≤ n ∧ (layoutText l spell (d + 1) e.2).length ≤ m) :
    (entriesLayout l spell d kvs).length ≤ kvs.length * (n + m + g + 3) + g + 1 := by
  induction kvs with
  | nil =>
    have := hgap d (by omega)
    simp only [entriesLayout, List.length_append, List.length_cons, List.length_nil]
    omega
  | cons e kvs ih =>
    obtain ⟨k, v⟩ := e
    obtain ⟨hk, hv⟩ := h (k, v) (by simp)
    have hgap' := hgap (d + 1) (by omega)
    have hrest := ih fun e he => h e (by simp [he])
    simp only at hk hv
    simp only [entriesLayout, List.length_append, List.length_cons, Nat.succ_mul]
    omega

theorem length_obj_le (hgap : ∀ d' ≤ d + 1, (l.gap d').length ≤ g)
    (hspace : l.space.length ≤ 1)
    (h : ∀ e ∈ kvs, (stringText e.1).length ≤ n ∧ (layoutText l spell (d + 1) e.2).length ≤ m) :
    (layoutText l spell d (.obj kvs)).length ≤ kvs.length * (n + m + g + 3) + g + 2 := by
  have hentries := length_entries_le hgap hspace h
  cases kvs with
  | nil => simp [layoutText]
  | cons e kvs =>
    obtain ⟨k, v⟩ := e
    simp only [entriesLayout, List.length_append, List.length_cons] at hentries
    simp only [layoutText, List.length_append, List.length_cons]
    omega

theorem length_insertKey_le (k : String) (v : Json G) (kvs : List (String × Json G)) :
    (Json.insertKey k v kvs).length ≤ kvs.length + 1 := by
  induction kvs with
  | nil => simp [Json.insertKey]
  | cons e kvs ih =>
    simp only [Json.insertKey]
    split_ifs
    · simp
    · simp
    · simp only [List.length_cons]
      omega

theorem entries_dict (kvs : List (String × Json G)) :
    ∃ entries, Json.dict kvs = .obj entries ∧ entries.length ≤ kvs.length ∧ ∀ e ∈ entries, e ∈ kvs := by
  have hfold : ∀ (l acc : List (String × Json G)),
      (l.foldl (fun acc kv => Json.insertKey kv.1 kv.2 acc) acc).length ≤ acc.length + l.length ∧
        ∀ e ∈ l.foldl (fun acc kv => Json.insertKey kv.1 kv.2 acc) acc, e ∈ acc ∨ e ∈ l := by
    intro l
    induction l with
    | nil => exact fun acc => ⟨Nat.le_refl _, fun e he => .inl he⟩
    | cons kv l ih =>
      intro acc
      obtain ⟨hlength, hmem⟩ := ih (Json.insertKey kv.1 kv.2 acc)
      have := length_insertKey_le kv.1 kv.2 acc
      refine ⟨by rw [List.foldl_cons, List.length_cons]; omega, ?_⟩
      intro e he
      rcases hmem e he with h | h
      · rcases mem_insertKey h with rfl | h
        · exact .inr (by simp)
        · exact .inl h
      · exact .inr (by simp [h])
  obtain ⟨hlength, hmem⟩ := hfold kvs []
  refine ⟨_, rfl, by simpa using hlength, ?_⟩
  intro e he
  rcases hmem e he with h | h
  · cases h
  · exact h

theorem length_dict_le (hgap : ∀ d' ≤ d + 1, (l.gap d').length ≤ g)
    (hspace : l.space.length ≤ 1)
    (h : ∀ e ∈ kvs, (stringText e.1).length ≤ n ∧ (layoutText l spell (d + 1) e.2).length ≤ m) :
    (layoutText l spell d (.dict kvs)).length ≤ kvs.length * (n + m + g + 3) + g + 2 := by
  obtain ⟨entries, hdict, hlength, hmem⟩ := entries_dict kvs
  rw [hdict]
  have hobj := length_obj_le hgap hspace fun e he => h e (hmem e he)
  have := Nat.mul_le_mul_right (n + m + g + 3) hlength
  omega

end Lengths

/-! ## Reading what is not canonical -/

section Normal

variable {G : Type}

theorem entriesShortInts_iff {kvs : List (String × Json G)} : entriesShortInts kvs = true ↔ ∀ e ∈ kvs, shortInts e.2 = true := by
  induction kvs with
  | nil => simp [entriesShortInts]
  | cons e kvs ih => simp [entriesShortInts, ih]

mutual

theorem shortInts_normal (v : Json G) (h : shortInts v = true) : shortInts (normal v) = true := by
  cases v with
  | arr vs => exact elemsShortInts_normal vs h
  | obj kvs =>
    obtain ⟨entries, hdict, -, hmem⟩ := entries_dict (entriesNormal kvs)
    have hkvs := entriesShortInts_normal kvs h
    rw [normal, hdict, shortInts, entriesShortInts_iff]
    exact fun e he => entriesShortInts_iff.mp hkvs e (hmem e he)
  | _ => exact h

theorem elemsShortInts_normal (vs : List (Json G)) (h : elemsShortInts vs = true) : elemsShortInts (elemsNormal vs) = true := by
  cases vs with
  | nil => rfl
  | cons v vs =>
    simp only [elemsShortInts, Bool.and_eq_true] at h
    simp only [elemsNormal, elemsShortInts, Bool.and_eq_true]
    exact ⟨shortInts_normal v h.1, elemsShortInts_normal vs h.2⟩

theorem entriesShortInts_normal (kvs : List (String × Json G)) (h : entriesShortInts kvs = true) :
    entriesShortInts (entriesNormal kvs) = true := by
  cases kvs with
  | nil => rfl
  | cons e kvs =>
    obtain ⟨k, v⟩ := e
    simp only [entriesShortInts, Bool.and_eq_true] at h
    simp only [entriesNormal, entriesShortInts, Bool.and_eq_true]
    exact ⟨shortInts_normal v h.1, entriesShortInts_normal kvs h.2⟩

end

end Normal

theorem loads_dumpsLax_normal (h : dumpsLax v = some t) : loads t = some (normal v) := by
  obtain ⟨hshort, rfl⟩ := dumpsLax_some.mp h
  have hread := loads_normal (l := .compact) (spelled_of_shortInts v hshort) (List.forall_mem_nil _) 0
  rwa [List.append_nil] at hread

/-- **The text that is written of what was read** is the text that was read, just when the value was canonical. -/
theorem dumpsLax_normal (h : dumpsLax v = some t) :
    ∃ t', dumpsLax (normal v) = some t' ∧ (t' = t ↔ Canonical v) := by
  obtain ⟨hshort, rfl⟩ := dumpsLax_some.mp h
  have hnormal := shortInts_normal v hshort
  refine ⟨_, dumpsLax_some.mpr ⟨hnormal, rfl⟩, ?_⟩
  constructor
  · intro htext
    have heq := layoutText_inj (normal v) v 0 (spelled_of_shortInts _ hnormal) (spelled_of_shortInts v hshort)
      (String.ofList_injective htext)
    rw [← heq]
    exact canonical_normal v
  · intro hcanonical
    rw [normal_of_canonical v hcanonical]

end PyJson
