/-
`json.loads` reads back what `json.dumps` wrote: for a value whose
dictionaries are in key order, the text of the value reads as the value; and
every value it reads is of that kind.

A number ends where its token ends, so the reader of a value is followed
through a text whose continuation does not extend a number (`Ends`).
-/
import Mathlib.Data.String.Basic
import Mathlib.Tactic.IntervalCases
import ThreeAgent.Lib.Json

namespace PyJson

variable {r ws : List Char} {k : String}

/-! ## Strings -/

theorem hexValue_digitChar : ∀ d < 16, hexValue (Nat.digitChar d) = some d := by decide

variable {n : Nat}

theorem readHex4_hex4 (h : n < 65536) (r : List Char) : readHex4 (hex4 n ++ r) = some (n, r) := by
  have h1 := hexValue_digitChar (n / 4096 % 16) (by omega)
  have h2 := hexValue_digitChar (n / 256 % 16) (by omega)
  have h3 := hexValue_digitChar (n / 16 % 16) (by omega)
  have h4 := hexValue_digitChar (n % 16) (by omega)
  have hn : ((n / 4096 % 16 * 16 + n / 256 % 16) * 16 + n / 16 % 16) * 16 + n % 16 = n := by omega
  simp [hex4, readHex4, h1, h2, h3, h4, hn]

theorem readString_escapeChar (c : Char) (r : List Char) (fuel : Nat) :
    readString (fuel + 1) (escapeChar c ++ r) = (readString fuel r).map fun p => (c :: p.1, p.2) := by
  have hmap : ∀ (d : Char) (o : Option (List Char × List Char)),
      (o.bind fun p => some (d :: p.1, p.2)) = o.map fun p => (d :: p.1, p.2) := fun _ _ => Option.map_eq_bind.symm
  unfold escapeChar
  split_ifs with h1 h2 h3 h4 h5 h6 h7 h8
  · subst h1
    simp [readString, readEscape, hmap]
  · subst h2
    simp [readString, readEscape, hmap]
  · subst h3
    simp [readString, readEscape, hmap]
  · subst h4
    simp [readString, readEscape, hmap]
  · subst h5
    simp [readString, readEscape, hmap]
  · have hc : c = Char.ofNat 8 := by rw [← h6, Char.ofNat_toNat]
    subst hc
    simp [readString, readEscape, hmap]
  · have hc : c = Char.ofNat 12 := by rw [← h7, Char.ofNat_toNat]
    subst hc
    simp [readString, readEscape, hmap]
  · have hhex := readHex4_hex4 (n := c.toNat) (by omega) r
    have hlt : c.toNat < 0xD800 ∨ 0xDFFF < c.toNat := by omega
    have hesc : readEscape ('u' :: (hex4 c.toNat ++ r)) = some (c, r) := by
      simp only [readEscape, hhex, Option.bind_eq_bind, Option.bind_some, if_pos hlt, Char.ofNat_toNat]
    simp [readString, hesc, hmap]
  · simp [readString, h1, h2, h8, hmap]

theorem readString_escaped (r : List Char) : ∀ (s : List Char) (fuel : Nat), s.length < fuel →
    readString fuel (s.flatMap escapeChar ++ '"' :: r) = some (s, r)
  | [], 0, h => by simp at h
  | [], fuel + 1, _ => by simp [readString]
  | c :: s, 0, h => by simp at h
  | c :: s, fuel + 1, h => by
    have ih := readString_escaped r s fuel (by simpa using h)
    rw [List.flatMap_cons, List.append_assoc, readString_escapeChar, ih]
    rfl

theorem length_le_escaped : ∀ s : List Char, s.length ≤ (s.flatMap escapeChar).length
  | [] => by simp
  | c :: s => by
    have ih := length_le_escaped s
    have hc : 1 ≤ (escapeChar c).length := by
      unfold escapeChar
      split_ifs <;> simp
    simp only [List.flatMap_cons, List.length_append, List.length_cons]
    omega

/-! ## Numbers -/

/-- The continuation of a value inside a text: nothing, a separator, a closing bracket or white space. -/
def Ends (r : List Char) : Prop :=
  ∀ c ∈ r.head?, c = ',' ∨ c = ']' ∨ c = '\x7d' ∨ c = ' ' ∨ c = '\t' ∨ c = '\n' ∨ c = '\r'

variable {c : Char}

theorem isDigit_cases (h : isDigit c = true) :
    c = '0' ∨ c = '1' ∨ c = '2' ∨ c = '3' ∨ c = '4' ∨ c = '5' ∨ c = '6' ∨ c = '7' ∨ c = '8' ∨ c = '9' := by
  have hrange : 48 ≤ c.toNat ∧ c.toNat ≤ 57 := by
    simp only [isDigit, Bool.and_eq_true, decide_eq_true_eq] at h
    exact ⟨h.1, h.2⟩
  have hof : c = Char.ofNat c.toNat := (Char.ofNat_toNat c).symm
  obtain ⟨h1, h2⟩ := hrange
  rw [hof]
  interval_cases c.toNat <;> decide

theorem isDigit_of_ends (h : Ends r) : ∀ c ∈ r.head?, isDigit c = false := by
  intro c hc
  rcases h c hc with rfl | rfl | rfl | rfl | rfl | rfl | rfl <;> decide

variable {ds : List Char}

theorem takeWhile_digits (hds : ∀ c ∈ ds, isDigit c = true) (hr : ∀ c ∈ r.head?, isDigit c = false) :
    (ds ++ r).takeWhile isDigit = ds ∧ (ds ++ r).dropWhile isDigit = r := by
  induction ds with
  | nil =>
    cases r with
    | nil => simp
    | cons c r =>
      have hc : isDigit c = false := hr c (by simp)
      simp [hc]
  | cons d ds ih =>
    have hd : isDigit d = true := hds d (by simp)
    have ih := ih fun c hc => hds c (by simp [hc])
    simp [hd, ih.1, ih.2]

theorem readFraction_ends (h : Ends r) : readFraction r = ([], r) := by
  cases r with
  | nil => rfl
  | cons c r =>
    rcases h c (by simp) with rfl | rfl | rfl | rfl | rfl | rfl | rfl <;> rfl

theorem readExponent_ends (h : Ends r) : readExponent r = (none, r) := by
  cases r with
  | nil => rfl
  | cons c r =>
    rcases h c (by simp) with rfl | rfl | rfl | rfl | rfl | rfl | rfl <;> rfl

theorem toDigits_isDigit : ∀ c ∈ Nat.toDigits 10 n, isDigit c = true := by
  intro c hc
  have := Nat.isDigit_of_mem_toDigits (by decide) (by decide) hc
  simp only [Char.isDigit, ge_iff_le, Bool.and_eq_true, decide_eq_true_eq] at this
  simp only [isDigit, Bool.and_eq_true, decide_eq_true_eq]
  exact this

theorem toDigits_head : (Nat.toDigits 10 n).head? = some '0' → Nat.toDigits 10 n = ['0'] := by
  induction n using Nat.base_induction 10 (by decide) with
  | single m hm =>
    rw [Nat.toDigits_of_lt_base hm]
    intro h
    simpa using h
  | digit m k hk hm ih =>
    rw [← Nat.toDigits_append_toDigits (by decide) hm hk]
    intro h
    rw [List.head?_append_of_ne_nil _ Nat.toDigits_ne_nil] at h
    have hz := ih h
    have hm0 : Nat.ofDigitChars 10 (Nat.toDigits 10 m) 0 = 0 := by rw [hz]; rfl
    rw [Nat.ofDigitChars_ten_toDigits] at hm0
    omega

theorem maxStrDigits_pos : 0 < PyText.maxStrDigits := by
  unfold PyText.maxStrDigits
  omega

section Numbers

variable {F : Type} [PyFloat F]

/-- The whole part of a number, when nothing after it extends it. -/
theorem whole_split {whole : List Char} (hne : whole ≠ []) (hd : ∀ c ∈ whole, isDigit c = true)
    (hlead : whole.head? = some '0' → whole = ['0']) (hr : ∀ c ∈ r.head?, isDigit c = false) :
    (if (whole ++ r).head? = some '0' then ['0'] else (whole ++ r).takeWhile isDigit) = whole ∧
      (if (whole ++ r).head? = some '0' then (whole ++ r).tail else (whole ++ r).dropWhile isDigit) = r := by
  rw [List.head?_append_of_ne_nil _ hne]
  by_cases h0 : whole.head? = some '0'
  · rw [if_pos h0, if_pos h0, hlead h0]
    simp
  · rw [if_neg h0, if_neg h0]
    exact takeWhile_digits hd hr

theorem readNumber_int (negative : Bool) (hn : n < 10 ^ PyText.maxStrDigits) (hr : Ends r) :
    readNumber (F := F) negative (Nat.toDigits 10 n ++ r) = some (.int (if negative then -(n : Int) else n), r) := by
  obtain ⟨hw, hrest⟩ := whole_split (r := r) Nat.toDigits_ne_nil (toDigits_isDigit (n := n)) toDigits_head (isDigit_of_ends hr)
  have hlen : (Nat.toDigits 10 n).length ≤ PyText.maxStrDigits :=
    (Nat.length_toDigits_le_iff (by decide) maxStrDigits_pos).mpr hn
  have hval : natOfDigits (Nat.toDigits 10 n) = n := Nat.ofDigitChars_ten_toDigits
  have hne : (Nat.toDigits 10 n).isEmpty = false := by simp
  simp only [readNumber, hw, hrest, readFraction_ends hr, readExponent_ends hr, hne]
  rw [if_neg (by simp), if_pos ⟨trivial, trivial⟩, if_neg (by omega), hval]

theorem readFraction_text {fraction : List Char} (hd : ∀ c ∈ fraction, isDigit c = true)
    (hr : ∀ c ∈ r.head?, isDigit c = false ∧ c ≠ '.') :
    readFraction ((if fraction = [] then [] else '.' :: fraction) ++ r) = (fraction, r) := by
  by_cases h : fraction = []
  · subst h
    cases r with
    | nil => rfl
    | cons c r =>
      have hc := (hr c (by simp)).2
      simp only [ite_true, List.nil_append]
      unfold readFraction
      split
      · rename_i heq
        simp only [List.cons.injEq] at heq
        exact absurd heq.1 hc
      · rfl
  · obtain ⟨h1, h2⟩ := takeWhile_digits hd fun c hc => (hr c hc).1
    simp only [if_neg h, List.cons_append, readFraction, h1, h2]
    rw [if_neg (by simpa using h)]

theorem readExponent_text {mark : List Char} (hm : mark ∈ FloatToken.marks) (hne : ds ≠ [])
    (hd : ∀ c ∈ ds, isDigit c = true) (hr : ∀ c ∈ r.head?, isDigit c = false) :
    readExponent (mark ++ ds ++ r) = (some (mark, ds), r) := by
  obtain ⟨h1, h2⟩ := takeWhile_digits hd hr
  have hmark : readMark (mark ++ ds ++ r) = some (mark, ds ++ r) := by
    obtain ⟨d, ds', rfl⟩ := List.exists_cons_of_ne_nil hne
    have hdig := hd d (by simp)
    simp only [FloatToken.marks, List.mem_cons, List.not_mem_nil, or_false] at hm
    rcases isDigit_cases hdig with rfl | rfl | rfl | rfl | rfl | rfl | rfl | rfl | rfl | rfl <;>
      rcases hm with rfl | rfl | rfl | rfl | rfl | rfl <;> rfl
  rw [readExponent, hmark]
  simp only [h1, h2]
  rw [if_neg (by simpa using hne)]

theorem readNumber_token {t : FloatToken} (ht : t.Valid) (hr : Ends r) :
    readNumber (F := F) t.negative (t.text.drop (if t.negative then 1 else 0) ++ r) =
      some (.float (PyFloat.ofToken t.text), r) := by
  obtain ⟨negative, whole, fraction, exponent⟩ := t
  -- what follows the whole part and the fraction: an exponent, or the end
  obtain ⟨hread, hhead⟩ : readExponent (FloatToken.exponentText exponent ++ r) = (exponent, r) ∧
      ∀ c ∈ (FloatToken.exponentText exponent ++ r).head?, isDigit c = false ∧ c ≠ '.' := by
    cases exponent with
    | none =>
      refine ⟨readExponent_ends hr, fun c hc => ⟨isDigit_of_ends hr c hc, ?_⟩⟩
      rcases hr c hc with rfl | rfl | rfl | rfl | rfl | rfl | rfl <;> decide
    | some md =>
      obtain ⟨m, ds⟩ := md
      obtain ⟨hm, hne, hds⟩ := ht.exponent_mark m ds rfl
      refine ⟨readExponent_text hm hne hds (isDigit_of_ends hr), ?_⟩
      simp only [FloatToken.marks, List.mem_cons, List.not_mem_nil, or_false] at hm
      rcases hm with rfl | rfl | rfl | rfl | rfl | rfl <;> simp [FloatToken.exponentText] <;> decide
  have hfrac := readFraction_text (r := FloatToken.exponentText exponent ++ r) ht.fraction_digits hhead
  have hafter : ∀ c ∈ ((if fraction = [] then [] else '.' :: fraction) ++
      (FloatToken.exponentText exponent ++ r)).head?, isDigit c = false := by
    intro c hc
    by_cases hf : fraction = []
    · rw [if_pos hf, List.nil_append] at hc
      exact (hhead c hc).1
    · rw [if_neg hf] at hc
      simp only [List.cons_append, List.head?_cons, Option.mem_def, Option.some.injEq] at hc
      rw [← hc]
      decide
  obtain ⟨hw, hrest⟩ := whole_split ht.whole_ne ht.whole_digits ht.whole_lead hafter
  have hdrop : (FloatToken.text ⟨negative, whole, fraction, exponent⟩).drop (if negative then 1 else 0) ++ r =
      whole ++ ((if fraction = [] then [] else '.' :: fraction) ++ (FloatToken.exponentText exponent ++ r)) := by
    cases negative <;> simp [FloatToken.text]
  have hne : whole.isEmpty = false := by simpa using ht.whole_ne
  have hnot : ¬ (fraction = [] ∧ exponent = none) := by
    rintro ⟨h1, h2⟩
    rcases ht.not_int with h | h
    · exact h h1
    · exact h h2
  rw [hdrop]
  simp only [readNumber, hw, hrest, hfrac, hread, hne]
  rw [if_neg (by simp), if_neg hnot]

end Numbers

/-! ## Dictionaries -/

/-- The entries are in strict key order. -/
def KeySorted {α : Type} (kvs : List (String × α)) : Prop := kvs.Pairwise fun a b => a.1 < b.1

mutual

/-- Every dictionary in the value is in key order. -/
def Canonical {F : Type} : Json F → Prop
  | .arr vs => ElemsCanonical vs
  | .obj kvs => KeySorted kvs ∧ EntriesCanonical kvs
  | _ => True

def ElemsCanonical {F : Type} : List (Json F) → Prop
  | [] => True
  | v :: vs => Canonical v ∧ ElemsCanonical vs

def EntriesCanonical {F : Type} : List (String × Json F) → Prop
  | [] => True
  | (_, v) :: kvs => Canonical v ∧ EntriesCanonical kvs

end

variable {k' : String}

section Dictionaries

variable {F : Type}

theorem elemsCanonical_iff {vs : List (Json F)} : ElemsCanonical vs ↔ ∀ v ∈ vs, Canonical v := by
  induction vs with
  | nil => simp [ElemsCanonical]
  | cons v vs ih => simp [ElemsCanonical, ih]

variable {kvs : List (String × Json F)}

theorem entriesCanonical_iff : EntriesCanonical kvs ↔ ∀ e ∈ kvs, Canonical e.2 := by
  induction kvs with
  | nil => simp [EntriesCanonical]
  | cons e kvs ih => simp [EntriesCanonical, ih]

theorem keySorted_of_isChain {α : Type} {kvs : List (String × α)} (h : (kvs.map Prod.fst).IsChain (· < ·)) :
    KeySorted kvs := by
  rw [List.isChain_iff_pairwise, List.pairwise_map] at h
  exact h

variable {v : Json F}

theorem insertKey_of_lt : ∀ {kvs : List (String × Json F)}, (∀ e ∈ kvs, e.1 < k) →
    Json.insertKey k v kvs = kvs ++ [(k, v)]
  | [], _ => rfl
  | (k', v') :: kvs, h => by
    have hk : k' < k := h (k', v') (by simp)
    rw [Json.insertKey, if_neg (not_lt_of_gt hk), if_neg (ne_of_gt hk),
      insertKey_of_lt fun e he => h e (by simp [he])]
    rfl

theorem dict_of_keySorted (h : KeySorted kvs) : Json.dict kvs = .obj kvs := by
  have key : ∀ (l acc : List (String × Json F)), KeySorted (acc ++ l) →
      l.foldl (fun acc kv => Json.insertKey kv.1 kv.2 acc) acc = acc ++ l := by
    intro l
    induction l with
    | nil => simp
    | cons e l ih =>
      intro acc hs
      rw [List.foldl_cons, insertKey_of_lt, ih]
      · simp
      · simpa using hs
      · intro e' he'
        exact (List.pairwise_append.mp hs).2.2 e' he' e (by simp)
  rw [Json.dict, key kvs [] (by simpa using h), List.nil_append]

variable {e : String × Json F}

theorem mem_insertKey : ∀ {kvs : List (String × Json F)},
    e ∈ Json.insertKey k v kvs → e = (k, v) ∨ e ∈ kvs
  | [], h => .inl (by simpa [Json.insertKey] using h)
  | (k', v') :: kvs, h => by
    rw [Json.insertKey] at h
    split_ifs at h with h1 h2
    · simpa using h
    · rcases List.mem_cons.mp h with h | h
      · exact .inl h
      · exact .inr (by simp [h])
    · rcases List.mem_cons.mp h with h | h
      · exact .inr (by simp [h])
      · rcases mem_insertKey h with h | h
        · exact .inl h
        · exact .inr (by simp [h])

theorem keySorted_insertKey : ∀ {kvs : List (String × Json F)}, KeySorted kvs →
    KeySorted (Json.insertKey k v kvs)
  | [], _ => by simp [Json.insertKey, KeySorted]
  | (k', v') :: kvs, h => by
    obtain ⟨hhead, htail⟩ := List.pairwise_cons.mp h
    rw [Json.insertKey]
    split_ifs with h1 h2
    · refine List.pairwise_cons.mpr ⟨?_, h⟩
      intro e he
      rcases List.mem_cons.mp he with rfl | he
      · exact h1
      · exact lt_trans h1 (hhead e he)
    · subst h2
      exact List.pairwise_cons.mpr ⟨hhead, htail⟩
    · refine List.pairwise_cons.mpr ⟨?_, keySorted_insertKey htail⟩
      intro e he
      rcases mem_insertKey he with rfl | he
      · exact lt_of_le_of_ne (not_lt.mp h1) fun he => h2 he.symm
      · exact hhead e he

theorem lookup_cons_ite :
    (e :: kvs).lookup k = if k = e.1 then some e.2 else kvs.lookup k := by
  obtain ⟨k', v⟩ := e
  rw [List.lookup_cons]
  by_cases h : k = k'
  · simp [h]
  · rw [if_neg h, beq_eq_false_iff_ne.mpr h]

theorem lookup_insertKey : ∀ {kvs : List (String × Json F)},
    (Json.insertKey k v kvs).lookup k' = if k' = k then some v else kvs.lookup k'
  | [] => lookup_cons_ite
  | (k₀, v₀) :: kvs => by
    rw [Json.insertKey]
    by_cases h1 : k < k₀
    · rw [if_pos h1, lookup_cons_ite]
    · rw [if_neg h1]
      by_cases h2 : k = k₀
      · subst h2
        rw [if_pos rfl, lookup_cons_ite, lookup_cons_ite]
        by_cases h3 : k' = k <;> simp [h3]
      · rw [if_neg h2, lookup_cons_ite, lookup_insertKey, lookup_cons_ite]
        by_cases h3 : k' = k
        · rw [if_pos h3, if_pos h3, if_neg]
          rw [h3]
          exact h2
        · rw [if_neg h3, if_neg h3]

theorem get?_dict (kvs : List (String × Json F)) (k : String) : (Json.dict kvs).get? k = kvs.reverse.lookup k := by
  have key : ∀ (l acc : List (String × Json F)),
      (l.foldl (fun acc kv => Json.insertKey kv.1 kv.2 acc) acc).lookup k = (l.reverse ++ acc).lookup k := by
    intro l
    induction l with
    | nil => simp
    | cons e l ih =>
      intro acc
      rw [List.foldl_cons, ih, List.reverse_cons, List.append_assoc, List.lookup_append, List.lookup_append,
        lookup_insertKey, List.singleton_append, lookup_cons_ite]
  have := key kvs []
  rwa [List.append_nil] at this

@[simp] theorem isDict_dict (kvs : List (String × Json F)) : (Json.dict kvs).isDict = true := rfl

theorem canonical_dict (h : ∀ e ∈ kvs, Canonical e.2) : Canonical (Json.dict kvs) := by
  have key : ∀ (l acc : List (String × Json F)), KeySorted acc → (∀ e ∈ acc, Canonical e.2) →
      (∀ e ∈ l, Canonical e.2) →
      KeySorted (l.foldl (fun acc kv => Json.insertKey kv.1 kv.2 acc) acc) ∧
        ∀ e ∈ l.foldl (fun acc kv => Json.insertKey kv.1 kv.2 acc) acc, Canonical e.2 := by
    intro l
    induction l with
    | nil => exact fun acc hs hc _ => ⟨hs, hc⟩
    | cons e l ih =>
      intro acc hs hc hl
      refine ih _ (keySorted_insertKey hs) ?_ fun e' he' => hl e' (by simp [he'])
      intro e' he'
      rcases mem_insertKey he' with rfl | he'
      · exact hl e (by simp)
      · exact hc e' he'
  obtain ⟨h1, h2⟩ := key kvs [] .nil (by simp) h
  exact ⟨h1, entriesCanonical_iff.mpr h2⟩

mutual

/-- A value as its dictionaries are built from their entries in the order in which they stand. -/
def normal {F : Type} : Json F → Json F
  | .arr vs => .arr (elemsNormal vs)
  | .obj kvs => .dict (entriesNormal kvs)
  | v => v

def elemsNormal {F : Type} : List (Json F) → List (Json F)
  | [] => []
  | v :: vs => normal v :: elemsNormal vs

def entriesNormal {F : Type} : List (String × Json F) → List (String × Json F)
  | [] => []
  | (k, v) :: kvs => (k, normal v) :: entriesNormal kvs

end

mutual

theorem normal_of_canonical (v : Json F) (h : Canonical v) : normal v = v := by
  cases v with
  | arr vs => rw [normal, elemsNormal_of_canonical vs h]
  | obj kvs => rw [normal, entriesNormal_of_canonical kvs h.2, dict_of_keySorted h.1]
  | _ => rfl

theorem elemsNormal_of_canonical (vs : List (Json F)) (h : ElemsCanonical vs) : elemsNormal vs = vs := by
  cases vs with
  | nil => rfl
  | cons v vs => rw [elemsNormal, normal_of_canonical v h.1, elemsNormal_of_canonical vs h.2]

theorem entriesNormal_of_canonical (kvs : List (String × Json F)) (h : EntriesCanonical kvs) : entriesNormal kvs = kvs := by
  cases kvs with
  | nil => rfl
  | cons e kvs =>
    obtain ⟨k, v⟩ := e
    rw [entriesNormal, normal_of_canonical v h.1, entriesNormal_of_canonical kvs h.2]

end

mutual

theorem canonical_normal (v : Json F) : Canonical (normal v) := by
  cases v with
  | arr vs => exact elemsCanonical_normal vs
  | obj kvs =>
    refine canonical_dict ?_
    exact entriesCanonical_iff.mp (entriesCanonical_normal kvs)
  | _ => trivial

theorem elemsCanonical_normal (vs : List (Json F)) : ElemsCanonical (elemsNormal vs) := by
  cases vs with
  | nil => trivial
  | cons v vs => exact ⟨canonical_normal v, elemsCanonical_normal vs⟩

theorem entriesCanonical_normal (kvs : List (String × Json F)) : EntriesCanonical (entriesNormal kvs) := by
  cases kvs with
  | nil => trivial
  | cons e kvs =>
    obtain ⟨k, v⟩ := e
    exact ⟨canonical_normal v, entriesCanonical_normal kvs⟩

end

@[simp] theorem isDict_setKey (v : Json F) (k : String) (w : Json F) : (v.setKey k w).isDict = v.isDict := by
  cases v <;> rfl

theorem get?_setKey {w : Json F} (hv : v.isDict = true) (k k' : String) :
    (v.setKey k w).get? k' = if k' = k then some w else v.get? k' := by
  cases v with
  | obj kvs => exact lookup_insertKey
  | _ => cases hv

theorem canonical_setKey {w : Json F} (hv : Canonical v) (hw : Canonical w) :
    Canonical (v.setKey k w) := by
  cases v with
  | obj kvs =>
    refine ⟨keySorted_insertKey hv.1, entriesCanonical_iff.mpr ?_⟩
    intro e he
    rcases mem_insertKey he with rfl | he
    · exact hw
    · exact entriesCanonical_iff.mp hv.2 e he
  | _ => exact hv

theorem canonical_strs (xs : List String) : Canonical (Json.strs xs : Json F) := by
  refine elemsCanonical_iff.mpr ?_
  intro v hv
  obtain ⟨s, -, rfl⟩ := List.mem_map.mp hv
  trivial

theorem mem_keys_insertKey :
    k' ∈ (Json.insertKey k v kvs).map Prod.fst ↔ k' = k ∨ k' ∈ kvs.map Prod.fst := by
  induction kvs with
  | nil => simp [Json.insertKey]
  | cons e kvs ih =>
    obtain ⟨k₀, v₀⟩ := e
    simp only [Json.insertKey]
    split
    · simp
    · split
      · rename_i he
        simp [he]
      · simp only [List.map_cons, List.mem_cons, ih]
        tauto

theorem mem_keys_dict :
    k ∈ (Json.dict kvs).keys ↔ k ∈ kvs.map Prod.fst := by
  have key : ∀ (l acc : List (String × Json F)),
      k ∈ (l.foldl (fun acc kv => Json.insertKey kv.1 kv.2 acc) acc).map Prod.fst ↔
        k ∈ l.map Prod.fst ∨ k ∈ acc.map Prod.fst := by
    intro l
    induction l with
    | nil => simp
    | cons e l ih =>
      intro acc
      rw [List.foldl_cons, ih, mem_keys_insertKey, List.map_cons, List.mem_cons]
      tauto
  exact (key kvs []).trans (by simp)

theorem hasKeys_dict {ks : List String} (h : kvs.map Prod.fst = ks) :
    (Json.dict kvs).hasKeys ks = true := by
  simp only [Json.hasKeys, isDict_dict, Bool.true_and, Bool.and_eq_true, List.all_eq_true, decide_eq_true_eq,
    mem_keys_dict, h]
  exact ⟨fun _ hk => hk, fun _ hk => hk⟩

end Dictionaries

/-! ## Values -/

variable {t : String} {cs r' : List Char} {fuel d : Nat}

section Values

variable {F : Type} [PyFloat F]

theorem readValue_digit (h : isDigit c = true) (fuel : Nat) (cs : List Char) :
    readValue (F := F) (fuel + 1) (c :: cs) = readNumber false (c :: cs) := by
  rcases isDigit_cases h with rfl | rfl | rfl | rfl | rfl | rfl | rfl | rfl | rfl | rfl <;> rfl

theorem readValue_minus (h : isDigit c = true) (fuel : Nat) (cs : List Char) :
    readValue (F := F) (fuel + 1) ('-' :: c :: cs) = readNumber true (c :: cs) := by
  rcases isDigit_cases h with rfl | rfl | rfl | rfl | rfl | rfl | rfl | rfl | rfl | rfl <;> rfl

theorem readValue_int {n : Int} (hn : n.natAbs < 10 ^ PyText.maxStrDigits) (hr : Ends r) (fuel : Nat) :
    readValue (F := F) (fuel + 1) (intText n ++ r) = some (.int n, r) := by
  cases n with
  | ofNat n =>
    obtain ⟨c, cs, hcs⟩ := List.exists_cons_of_ne_nil (Nat.toDigits_ne_nil (n := n) (b := 10))
    have hc : isDigit c = true := toDigits_isDigit (n := n) c (by simp [hcs])
    have hread := readNumber_int (F := F) false (n := n) (r := r) (by simpa using hn) hr
    rw [intText, hcs, List.cons_append, readValue_digit hc, ← List.cons_append, ← hcs, hread]
    rfl
  | negSucc n =>
    obtain ⟨c, cs, hcs⟩ := List.exists_cons_of_ne_nil (Nat.toDigits_ne_nil (n := n + 1) (b := 10))
    have hc : isDigit c = true := toDigits_isDigit (n := n + 1) c (by simp [hcs])
    have hread := readNumber_int (F := F) true (n := n + 1) (r := r) (by simpa using hn) hr
    rw [intText, hcs, List.cons_append, List.cons_append, readValue_minus hc, ← List.cons_append, ← hcs, hread]
    rfl

theorem readValue_float {x : F} (hx : PyFloat.isFinite x = true) (hr : Ends r) (fuel : Nat) :
    readValue (F := F) (fuel + 1) (PyFloat.repr x ++ r) = some (.float x, r) := by
  obtain ⟨t, ht, htext⟩ := PyFloat.repr_token x hx
  have hread := readNumber_token (F := F) ht hr
  have hx' : PyFloat.ofToken t.text = x := by rw [← htext, PyFloat.ofToken_repr x hx]
  obtain ⟨c, cs, hcs⟩ := List.exists_cons_of_ne_nil ht.whole_ne
  have hc : isDigit c = true := ht.whole_digits c (by simp [hcs])
  rw [hx'] at hread
  rw [htext]
  cases hneg : t.negative with
  | false =>
    obtain ⟨cs', hcs'⟩ : ∃ cs', t.text = c :: cs' := by simp [FloatToken.text, hneg, hcs]
    rw [hneg] at hread
    rw [hcs', List.cons_append, readValue_digit hc, ← List.cons_append, ← hcs']
    simpa using hread
  | true =>
    obtain ⟨cs', hcs'⟩ : ∃ cs', t.text = '-' :: c :: cs' := by simp [FloatToken.text, hneg, hcs]
    rw [hneg] at hread
    rw [hcs', List.cons_append, List.cons_append, readValue_minus hc, ← List.cons_append]
    simpa [hcs'] using hread

/-- A character that starts a value: not white space and not a closing bracket. -/
def Starts (c : Char) : Prop := isWs c = false ∧ c ≠ ']' ∧ c ≠ '\x7d'

theorem starts_of_isDigit (h : isDigit c = true) : Starts c := by
  rcases isDigit_cases h with rfl | rfl | rfl | rfl | rfl | rfl | rfl | rfl | rfl | rfl <;>
    exact ⟨by decide, by decide, by decide⟩

theorem float_head {x : F} (h : PyFloat.isFinite x = true) : ∃ c cs, PyFloat.repr x = c :: cs ∧ Starts c := by
  obtain ⟨t, ht, htext⟩ := PyFloat.repr_token x h
  obtain ⟨c, cs, hcs⟩ := List.exists_cons_of_ne_nil ht.whole_ne
  have hc : isDigit c = true := ht.whole_digits c (by simp [hcs])
  rw [htext]
  cases hneg : t.negative with
  | false => exact ⟨c, _, by simp [FloatToken.text, hneg, hcs]; rfl, starts_of_isDigit hc⟩
  | true => exact ⟨'-', _, by simp [FloatToken.text, hneg]; rfl, by decide, by decide, by decide⟩

theorem skipWs_of_starts (h : isWs c = false) : skipWs (c :: cs) = c :: cs := by
  simp [skipWs, h]

theorem skipWs_append (h : ∀ c ∈ ws, isWs c = true) (cs : List Char) :
    skipWs (ws ++ cs) = skipWs cs := by
  induction ws with
  | nil => rfl
  | cons c ws ih =>
    have hc : isWs c = true := h c (by simp)
    rw [List.cons_append, skipWs, List.dropWhile_cons, if_pos hc]
    exact ih fun c hc => h c (by simp [hc])

theorem ends_of_ws (h : ∀ c ∈ ws, isWs c = true) (hr : Ends r) : Ends (ws ++ r) := by
  cases ws with
  | nil => exact hr
  | cons c ws =>
    intro c' hc'
    obtain rfl : c = c' := by simpa using hc'
    have hws := h c (by simp)
    simp only [isWs, Bool.or_eq_true, decide_eq_true_eq] at hws
    tauto

/-- A float that reads back from its spelling. -/
def FloatReads (spell : F → List Char) (x : F) : Prop :=
  (∃ c cs, spell x = c :: cs ∧ Starts c) ∧
    ∀ (r : List Char) (fuel : Nat), Ends r → readValue (fuel + 1) (spell x ++ r) = some (.float x, r)

mutual

/-- Every number of the value reads back from its spelling. -/
def Spelled (spell : F → List Char) : Json F → Prop
  | .int n => n.natAbs < 10 ^ PyText.maxStrDigits
  | .float x => FloatReads spell x
  | .arr vs => ElemsSpelled spell vs
  | .obj kvs => EntriesSpelled spell kvs
  | _ => True

def ElemsSpelled (spell : F → List Char) : List (Json F) → Prop
  | [] => True
  | v :: vs => Spelled spell v ∧ ElemsSpelled spell vs

def EntriesSpelled (spell : F → List Char) : List (String × Json F) → Prop
  | [] => True
  | (_, v) :: kvs => Spelled spell v ∧ EntriesSpelled spell kvs

end

variable {v : Json F}

variable {w : Json F}

section Layouts

variable {l : Layout} {spell : F → List Char}

theorem layoutText_head (h : Spelled spell v) (d : Nat) :
    ∃ c cs, layoutText l spell d v = c :: cs ∧ Starts c := by
  cases v with
  | null => exact ⟨_, _, rfl, by decide, by decide, by decide⟩
  | bool b => cases b <;> exact ⟨_, _, rfl, by decide, by decide, by decide⟩
  | int n =>
    cases n with
    | ofNat n =>
      obtain ⟨c, cs, hcs⟩ := List.exists_cons_of_ne_nil (Nat.toDigits_ne_nil (n := n) (b := 10))
      exact ⟨c, cs, hcs, starts_of_isDigit (toDigits_isDigit (n := n) c (by simp [hcs]))⟩
    | negSucc n => exact ⟨_, _, rfl, by decide, by decide, by decide⟩
  | float x => exact h.1
  | str s => exact ⟨_, _, rfl, by decide, by decide, by decide⟩
  | arr vs => cases vs <;> exact ⟨_, _, rfl, by decide, by decide, by decide⟩
  | obj kvs =>
    cases kvs with
    | nil => exact ⟨_, _, rfl, by decide, by decide, by decide⟩
    | cons e kvs => exact ⟨_, _, rfl, by decide, by decide, by decide⟩

theorem skipWs_layoutText (h : Spelled spell v) (d : Nat) (r : List Char) :
    skipWs (layoutText l spell d v ++ r) = layoutText l spell d v ++ r := by
  obtain ⟨c, cs, hcs, hc⟩ := layoutText_head (l := l) h d
  rw [hcs, List.cons_append, skipWs_of_starts hc.1]

/-- The rest of an array, once the white space before its bracket is skipped. -/
def elemsRest (l : Layout) (spell : F → List Char) (d : Nat) : List (Json F) → List Char
  | [] => [']']
  | v :: vs => elemsLayout l spell d (v :: vs)

def entriesRest (l : Layout) (spell : F → List Char) (d : Nat) : List (String × Json F) → List Char
  | [] => ['\x7d']
  | e :: kvs => entriesLayout l spell d (e :: kvs)

omit [PyFloat F] in
theorem skipWs_elemsLayout (d : Nat) (vs : List (Json F)) (r : List Char) :
    skipWs (elemsLayout l spell d vs ++ r) = elemsRest l spell d vs ++ r := by
  cases vs with
  | nil =>
    rw [elemsLayout, List.append_assoc, skipWs_append (l.gap_ws d)]
    exact skipWs_of_starts (by decide)
  | cons v vs => exact skipWs_of_starts (by decide)

omit [PyFloat F] in
theorem skipWs_entriesLayout (d : Nat) (kvs : List (String × Json F)) (r : List Char) :
    skipWs (entriesLayout l spell d kvs ++ r) = entriesRest l spell d kvs ++ r := by
  cases kvs with
  | nil =>
    rw [entriesLayout, List.append_assoc, skipWs_append (l.gap_ws d)]
    exact skipWs_of_starts (by decide)
  | cons e kvs => exact skipWs_of_starts (by decide)

omit [PyFloat F] in
theorem ends_elemsLayout (d : Nat) (vs : List (Json F)) (r : List Char) : Ends (elemsLayout l spell d vs ++ r) := by
  cases vs with
  | nil =>
    rw [elemsLayout, List.append_assoc]
    refine ends_of_ws (l.gap_ws d) ?_
    intro c hc
    simp at hc
    simp [← hc]
  | cons v vs =>
    intro c hc
    simp [elemsLayout] at hc
    simp [← hc]

omit [PyFloat F] in
theorem ends_entriesLayout (d : Nat) (kvs : List (String × Json F)) (r : List Char) :
    Ends (entriesLayout l spell d kvs ++ r) := by
  cases kvs with
  | nil =>
    rw [entriesLayout, List.append_assoc]
    refine ends_of_ws (l.gap_ws d) ?_
    intro c hc
    simp at hc
    simp [← hc]
  | cons e kvs =>
    intro c hc
    simp [entriesLayout] at hc
    simp [← hc]

theorem readString_text {s : String} (r : List Char) (h : (stringText s).length ≤ fuel) :
    readString fuel (s.toList.flatMap escapeChar ++ ['"'] ++ r) = some (s.toList, r) := by
  have hlen := length_le_escaped s.toList
  rw [List.append_assoc, List.singleton_append]
  refine readString_escaped r s.toList fuel ?_
  simp only [stringText, List.length_append, List.length_cons, List.length_nil] at h
  omega

theorem readElems_comma (fuel : Nat) (cs : List Char) : readElems (F := F) (fuel + 1) (',' :: cs) =
    (readValue fuel (skipWs cs)).bind fun p => (readElems fuel (skipWs p.2)).bind fun q => some (p.1 :: q.1, q.2) := rfl

theorem readEntries_comma (fuel : Nat) (cs : List Char) : readEntries (F := F) (fuel + 1) (',' :: cs) =
    (readEntry fuel (skipWs cs)).bind fun p => (readEntries fuel (skipWs p.2)).bind fun q => some (p.1 :: q.1, q.2) := rfl

theorem readValue_bracket (h : (skipWs cs).head? ≠ some ']') :
    readValue (F := F) (fuel + 1) ('[' :: cs) = (readElems (fuel + 1) (',' :: cs)).map fun p => (.arr p.1, p.2) := by
  rw [readElems_comma, readValue]
  split
  · rename_i heq
    exact absurd (congrArg List.head? heq) h
  · simp only [Option.bind_eq_bind, Option.map_bind, Function.comp_def, Option.map_some]

theorem readValue_brace (h : (skipWs cs).head? ≠ some '\x7d') :
    readValue (F := F) (fuel + 1) ('\x7b' :: cs) =
      (readEntries (fuel + 1) (',' :: cs)).map fun p => (Json.dict p.1, p.2) := by
  rw [readEntries_comma, readValue]
  split
  · rename_i heq
    exact absurd (congrArg List.head? heq) h
  · simp only [Option.bind_eq_bind, Option.map_bind, Function.comp_def, Option.map_some]

theorem readEntry_layout
    (hk : (stringText k).length ≤ fuel + 1) (hv : Spelled spell v)
    (hread : readValue fuel (layoutText l spell d v ++ r) = some (w, r)) :
    readEntry (fuel + 1) (stringText k ++ ':' :: (l.space ++ (layoutText l spell d v ++ r))) = some ((k, w), r) := by
  have hstr := readString_text (':' :: (l.space ++ (layoutText l spell d v ++ r))) hk
  have hcolon : skipWs (':' :: (l.space ++ (layoutText l spell d v ++ r))) =
      ':' :: (l.space ++ (layoutText l spell d v ++ r)) := skipWs_of_starts (by decide)
  simp only [stringText, List.cons_append, readEntry, hstr, Option.bind_eq_bind, Option.bind_some, hcolon,
    skipWs_append l.space_ws, skipWs_layoutText hv, hread, String.ofList_toList]

mutual

theorem readValue_layout (v : Json F) (d fuel : Nat) (r : List Char) (hd : Spelled spell v)
    (hf : (layoutText l spell d v).length ≤ fuel) (hr : Ends r) :
    readValue (fuel + 1) (layoutText l spell d v ++ r) = some (normal v, r) := by
  cases v with
  | null => rfl
  | bool b => cases b <;> rfl
  | int n => exact readValue_int hd hr fuel
  | float x => exact hd.2 r fuel hr
  | str s =>
    rw [layoutText] at hf
    have hstr := readString_text (s := s) r (le_trans hf (Nat.le_succ fuel))
    simp only [layoutText, stringText, List.cons_append, readValue, hstr, Option.bind_eq_bind, Option.bind_some,
      String.ofList_toList, normal]
  | arr vs =>
    cases vs with
    | nil => rfl
    | cons v vs =>
      have helems := readElems_layout (v :: vs) d fuel r hd hf
      obtain ⟨c, cs, hcs, hstart⟩ := layoutText_head (l := l) hd.1 (d + 1)
      simp only [elemsRest, elemsLayout, List.cons_append, List.append_assoc] at helems
      simp only [layoutText, List.cons_append, List.append_assoc]
      rw [readValue_bracket, helems]
      · rfl
      · rw [skipWs_append (l.gap_ws _), skipWs_layoutText hd.1, hcs]
        exact fun he => hstart.2.1 (Option.some.inj he)
  | obj kvs =>
    cases kvs with
    | nil => rfl
    | cons e kvs =>
      obtain ⟨k, v⟩ := e
      have hentries := readEntries_layout ((k, v) :: kvs) d fuel r hd hf
      simp only [entriesRest, entriesLayout, List.cons_append, List.append_assoc] at hentries
      simp only [layoutText, List.cons_append, List.append_assoc]
      rw [readValue_brace, hentries]
      · rfl
      · rw [skipWs_append (l.gap_ws _), stringText, List.cons_append, List.cons_append, skipWs_of_starts (by decide)]
        exact fun he => absurd (Option.some.inj he) (by decide)

theorem readElems_layout (vs : List (Json F)) (d fuel : Nat) (r : List Char)
    (hd : ElemsSpelled spell vs) (hf : (elemsLayout l spell d vs).length ≤ fuel) :
    readElems (fuel + 1) (elemsRest l spell d vs ++ r) = some (elemsNormal vs, r) := by
  cases vs with
  | nil => rfl
  | cons v vs =>
    simp only [ElemsSpelled] at hd
    simp only [elemsLayout, List.length_cons, List.length_append] at hf
    obtain ⟨fuel, rfl⟩ : ∃ n, fuel = n + 1 := ⟨fuel - 1, by omega⟩
    have hv := readValue_layout v (d + 1) fuel (elemsLayout l spell d vs ++ r) hd.1 (by omega)
      (ends_elemsLayout d vs r)
    have hvs := readElems_layout vs d fuel r hd.2 (by omega)
    rw [show elemsRest l spell d (v :: vs) = elemsLayout l spell d (v :: vs) from rfl]
    simp only [elemsLayout, List.cons_append, List.append_assoc, readElems_comma, skipWs_append (l.gap_ws _),
      skipWs_layoutText hd.1, hv, Option.bind_some, skipWs_elemsLayout, hvs, elemsNormal]

theorem readEntries_layout (kvs : List (String × Json F)) (d fuel : Nat) (r : List Char)
    (hd : EntriesSpelled spell kvs) (hf : (entriesLayout l spell d kvs).length ≤ fuel) :
    readEntries (fuel + 1) (entriesRest l spell d kvs ++ r) = some (entriesNormal kvs, r) := by
  cases kvs with
  | nil => rfl
  | cons e kvs =>
    obtain ⟨k, v⟩ := e
    simp only [EntriesSpelled] at hd
    simp only [entriesLayout, List.length_cons, List.length_append] at hf
    obtain ⟨fuel, rfl⟩ : ∃ n, fuel = n + 2 := ⟨fuel - 2, by omega⟩
    have hv := readValue_layout v (d + 1) fuel (entriesLayout l spell d kvs ++ r) hd.1 (by omega)
      (ends_entriesLayout d kvs r)
    have hkvs := readEntries_layout kvs d (fuel + 1) r hd.2 (by omega)
    have hentry := readEntry_layout (l := l) (k := k) (by omega) hd.1 hv
    have hskip : ∀ rest, skipWs (stringText k ++ rest) = stringText k ++ rest := fun _ => skipWs_of_starts (by decide)
    rw [show entriesRest l spell d ((k, v) :: kvs) = entriesLayout l spell d ((k, v) :: kvs) from rfl]
    simp only [entriesLayout, List.cons_append, List.append_assoc, readEntries_comma,
      skipWs_append (l.gap_ws _), hskip, hentry, Option.bind_some, skipWs_entriesLayout, hkvs, entriesNormal]

end

theorem loads_normal (hd : Spelled spell v) (hws : ∀ c ∈ ws, isWs c = true) (d : Nat) :
    loads (String.ofList (layoutText l spell d v ++ ws)) = some (normal v) := by
  have hends : Ends ws := by
    have h := ends_of_ws hws (r := []) (by simp [Ends])
    rwa [List.append_nil] at h
  have hread := readValue_layout (l := l) v d (layoutText l spell d v ++ ws).length ws hd (by simp) hends
  have hempty : skipWs ws = [] := by
    have h := skipWs_append hws []
    rwa [List.append_nil] at h
  simp only [loads, String.toList_ofList, skipWs_layoutText hd, hread, hempty, if_true]

theorem loads_layout (hc : Canonical v) (hd : Spelled spell v)
    (hws : ∀ c ∈ ws, isWs c = true) (d : Nat) : loads (String.ofList (layoutText l spell d v ++ ws)) = some v := by
  rw [loads_normal hd hws d, normal_of_canonical v hc]

theorem layoutText_split (hv : Spelled spell v) (hw : Spelled spell w)
    (hr : Ends r) (hr' : Ends r') (h : layoutText l spell d v ++ r = layoutText l spell d w ++ r') :
    normal v = normal w ∧ layoutText l spell d v = layoutText l spell d w ∧ r = r' := by
  have hread := readValue_layout (l := l) v d ((layoutText l spell d v).length + (layoutText l spell d w).length) r hv
    (by omega) hr
  have hread' := readValue_layout (l := l) w d ((layoutText l spell d v).length + (layoutText l spell d w).length) r' hw
    (by omega) hr'
  rw [h, hread', Option.some_inj] at hread
  obtain ⟨hnormal, rfl⟩ := Prod.mk.inj hread
  exact ⟨hnormal.symm, List.append_cancel_right h, rfl⟩

theorem normal_eq_of_layoutText (hv : Spelled spell v) (hw : Spelled spell w)
    (h : layoutText l spell d v = layoutText l spell d w) : normal v = normal w := by
  have hnil : Ends [] := by simp [Ends]
  exact (layoutText_split hv hw hnil hnil (congrArg (· ++ []) h)).1

theorem stringText_split (h : stringText k ++ r = stringText k' ++ r') :
    k = k' ∧ r = r' := by
  have hread := readString_text r (Nat.le_max_left (stringText k).length (stringText k').length)
  have hread' := readString_text r' (Nat.le_max_right (stringText k).length (stringText k').length)
  simp only [stringText, List.cons_append, List.cons.injEq, true_and] at h
  rw [h, hread', Option.some_inj] at hread
  obtain ⟨hkey, rfl⟩ := Prod.mk.inj hread
  exact ⟨String.toList_inj.mp hkey.symm, rfl⟩

mutual

/-- **A text is the text of one value**, with its entries as they stand. -/
theorem layoutText_inj (v w : Json F) (d : Nat) (hv : Spelled spell v) (hw : Spelled spell w)
    (h : layoutText l spell d v = layoutText l spell d w) : v = w := by
  have hnormal := normal_eq_of_layoutText hv hw h
  cases v with
  | arr vs =>
    cases w with
    | arr ws =>
      cases vs with
      | nil =>
        cases ws with
        | nil => rfl
        | cons w ws => simp [normal, elemsNormal] at hnormal
      | cons v vs =>
        cases ws with
        | nil => simp [normal, elemsNormal] at hnormal
        | cons w ws =>
          rw [elemsLayout_inj (v :: vs) (w :: ws) d hv hw (congrArg (',' :: ·) (List.cons.inj h).2)]
    | _ => simp [normal, Json.dict] at hnormal
  | obj kvs =>
    cases w with
    | obj kvs' =>
      cases kvs with
      | nil =>
        cases kvs' with
        | nil => rfl
        | cons e kvs' =>
          have hskip := congrArg skipWs (List.cons.inj h).2
          rw [skipWs_append (l.gap_ws _)] at hskip
          simp [stringText, skipWs, isWs] at hskip
      | cons e kvs =>
        cases kvs' with
        | nil =>
          have hskip := congrArg skipWs (List.cons.inj h).2
          rw [skipWs_append (l.gap_ws _)] at hskip
          simp [stringText, skipWs, isWs] at hskip
        | cons e' kvs' =>
          rw [entriesLayout_inj (e :: kvs) (e' :: kvs') d hv hw (congrArg (',' :: ·) (List.cons.inj h).2)]
    | _ => simp [normal, Json.dict] at hnormal
  | _ => cases w <;> simp_all [normal, Json.dict]

theorem elemsLayout_inj (vs ws : List (Json F)) (d : Nat) (hv : ElemsSpelled spell vs) (hw : ElemsSpelled spell ws)
    (h : elemsLayout l spell d vs = elemsLayout l spell d ws) : vs = ws := by
  have hrest : elemsRest l spell d vs ++ [] = elemsRest l spell d ws ++ [] := by
    rw [← skipWs_elemsLayout, h, skipWs_elemsLayout]
  cases vs with
  | nil =>
    cases ws with
    | nil => rfl
    | cons w ws => simp [elemsRest, elemsLayout] at hrest
  | cons v vs =>
    cases ws with
    | nil => simp [elemsRest, elemsLayout] at hrest
    | cons w ws =>
      simp only [elemsLayout, List.cons.injEq, List.append_cancel_left_eq, true_and] at h
      obtain ⟨-, hhead, htail⟩ := layoutText_split hv.1 hw.1 (by simpa using ends_elemsLayout d vs [])
        (by simpa using ends_elemsLayout d ws []) h
      rw [layoutText_inj v w (d + 1) hv.1 hw.1 hhead, elemsLayout_inj vs ws d hv.2 hw.2 htail]

theorem entriesLayout_inj (kvs kvs' : List (String × Json F)) (d : Nat) (hv : EntriesSpelled spell kvs)
    (hw : EntriesSpelled spell kvs') (h : entriesLayout l spell d kvs = entriesLayout l spell d kvs') : kvs = kvs' := by
  have hrest : entriesRest l spell d kvs ++ [] = entriesRest l spell d kvs' ++ [] := by
    rw [← skipWs_entriesLayout, h, skipWs_entriesLayout]
  cases kvs with
  | nil =>
    cases kvs' with
    | nil => rfl
    | cons e' kvs' => simp [entriesRest, entriesLayout] at hrest
  | cons e kvs =>
    cases kvs' with
    | nil => simp [entriesRest, entriesLayout] at hrest
    | cons e' kvs' =>
      obtain ⟨k, v⟩ := e
      obtain ⟨k', w⟩ := e'
      simp only [entriesLayout, List.cons.injEq, List.append_cancel_left_eq, true_and] at h
      obtain ⟨rfl, h⟩ := stringText_split h
      simp only [List.cons.injEq, List.append_cancel_left_eq, true_and] at h
      obtain ⟨-, hhead, htail⟩ := layoutText_split hv.1 hw.1 (by simpa using ends_entriesLayout d kvs [])
        (by simpa using ends_entriesLayout d kvs' []) h
      rw [layoutText_inj v w (d + 1) hv.1 hw.1 hhead, entriesLayout_inj kvs kvs' d hv.2 hw.2 htail]

end

end Layouts

mutual

theorem text_eq_layout (v : Json F) (d : Nat) : text v = layoutText .compact PyFloat.repr d v := by
  cases v with
  | bool b => cases b <;> rfl
  | arr vs =>
    cases vs with
    | nil => rfl
    | cons v vs => rw [text, layoutText, text_eq_layout v (d + 1), elemsText_eq_layout vs d]; rfl
  | obj kvs =>
    cases kvs with
    | nil => rfl
    | cons e kvs =>
      obtain ⟨k, v⟩ := e
      rw [text, layoutText, text_eq_layout v (d + 1), entriesText_eq_layout kvs d]
      rfl
  | null => rfl
  | int n => rfl
  | float x => rfl
  | str s => rfl

theorem elemsText_eq_layout (vs : List (Json F)) (d : Nat) : elemsText vs = elemsLayout .compact PyFloat.repr d vs := by
  cases vs with
  | nil => rfl
  | cons v vs => rw [elemsText, elemsLayout, text_eq_layout v (d + 1), elemsText_eq_layout vs d]; rfl

theorem entriesText_eq_layout (kvs : List (String × Json F)) (d : Nat) :
    entriesText kvs = entriesLayout .compact PyFloat.repr d kvs := by
  cases kvs with
  | nil => rfl
  | cons e kvs =>
    obtain ⟨k, v⟩ := e
    rw [entriesText, entriesLayout, text_eq_layout v (d + 1), entriesText_eq_layout kvs d]
    rfl

end

mutual

theorem spelled_of_dumpable (v : Json F) (h : dumpable v = true) : Spelled PyFloat.repr v := by
  cases v with
  | int n =>
    rw [dumpable, decide_eq_true_eq] at h
    exact h
  | float x => exact ⟨float_head h, fun r fuel hr => readValue_float h hr fuel⟩
  | arr vs => exact elemsSpelled_of_dumpable vs h
  | obj kvs => exact entriesSpelled_of_dumpable kvs h
  | null => trivial
  | bool b => trivial
  | str s => trivial

theorem elemsSpelled_of_dumpable (vs : List (Json F)) (h : elemsDumpable vs = true) : ElemsSpelled PyFloat.repr vs := by
  cases vs with
  | nil => trivial
  | cons v vs =>
    simp only [elemsDumpable, Bool.and_eq_true] at h
    exact ⟨spelled_of_dumpable v h.1, elemsSpelled_of_dumpable vs h.2⟩

theorem entriesSpelled_of_dumpable (kvs : List (String × Json F)) (h : entriesDumpable kvs = true) :
    EntriesSpelled PyFloat.repr kvs := by
  cases kvs with
  | nil => trivial
  | cons e kvs =>
    obtain ⟨k, v⟩ := e
    simp only [entriesDumpable, Bool.and_eq_true] at h
    exact ⟨spelled_of_dumpable v h.1, entriesSpelled_of_dumpable kvs h.2⟩

end

theorem loads_dumps (hc : Canonical v) (h : dumps v = some t) : loads t = some v := by
  unfold dumps at h
  split at h
  · rename_i hd
    cases h
    have hread := loads_layout (l := .compact) hc (spelled_of_dumpable v hd) (List.forall_mem_nil _) 0
    rwa [List.append_nil, ← text_eq_layout] at hread
  · cases h

theorem canonical_number {negative : Bool} (h : readNumber negative cs = some (v, r)) :
    Canonical v := by
  simp only [readNumber] at h
  split_ifs at h
  all_goals
    cases h
    trivial

/-- What the reader builds is in key order. -/
theorem canonical_read (fuel : Nat) :
    (∀ cs (v : Json F) r, readValue fuel cs = some (v, r) → Canonical v) ∧
    (∀ cs (vs : List (Json F)) r, readElems fuel cs = some (vs, r) → ElemsCanonical vs) ∧
    (∀ cs (kv : String × Json F) r, readEntry fuel cs = some (kv, r) → Canonical kv.2) ∧
    (∀ cs (kvs : List (String × Json F)) r, readEntries fuel cs = some (kvs, r) → ∀ e ∈ kvs, Canonical e.2) := by
  induction fuel with
  | zero =>
    refine ⟨?_, ?_, ?_, ?_⟩
    · intro cs v r h
      simp [readValue] at h
    · intro cs vs r h
      simp [readElems] at h
    · intro cs kv r h
      simp [readEntry] at h
    · intro cs kvs r h
      simp [readEntries] at h
  | succ fuel ih =>
    obtain ⟨ihv, ihe, ihk, ihs⟩ := ih
    refine ⟨?_, ?_, ?_, ?_⟩
    · intro cs v r h
      unfold readValue at h
      split at h
      case h_7 =>
        simp only [Option.bind_eq_bind, Option.bind_eq_some_iff, Option.some.injEq, Prod.mk.injEq] at h
        obtain ⟨_, -, rfl, -⟩ := h
        trivial
      case h_8 =>
        split at h
        · cases h
          trivial
        · simp only [Option.bind_eq_bind, Option.bind_eq_some_iff, Option.some.injEq, Prod.mk.injEq] at h
          obtain ⟨⟨v₁, r₁⟩, hv, ⟨vs, r₂⟩, hvs, rfl, -⟩ := h
          exact ⟨ihv _ _ _ hv, ihe _ _ _ hvs⟩
      case h_9 =>
        split at h
        · cases h
          exact ⟨.nil, trivial⟩
        · simp only [Option.bind_eq_bind, Option.bind_eq_some_iff, Option.some.injEq, Prod.mk.injEq] at h
          obtain ⟨⟨kv, r₁⟩, hkv, ⟨kvs, r₂⟩, hkvs, rfl, -⟩ := h
          refine canonical_dict ?_
          intro e he
          rcases List.mem_cons.mp he with rfl | he
          · exact ihk _ _ _ hkv
          · exact ihs _ _ _ hkvs e he
      case h_10 => exact canonical_number h
      case h_11 => exact canonical_number h
      all_goals
        cases h
        trivial
    · intro cs vs r h
      unfold readElems at h
      split at h
      · cases h
        trivial
      · simp only [Option.bind_eq_bind, Option.bind_eq_some_iff, Option.some.injEq, Prod.mk.injEq] at h
        obtain ⟨⟨v₁, r₁⟩, hv, ⟨vs', r₂⟩, hvs, rfl, -⟩ := h
        exact ⟨ihv _ _ _ hv, ihe _ _ _ hvs⟩
      · cases h
    · intro cs kv r h
      unfold readEntry at h
      split at h
      · simp only [Option.bind_eq_bind, Option.bind_eq_some_iff] at h
        obtain ⟨_, -, h⟩ := h
        split at h
        · simp only [Option.bind_eq_some_iff, Option.some.injEq, Prod.mk.injEq] at h
          obtain ⟨⟨v₁, r₁⟩, hv, rfl, -⟩ := h
          exact ihv _ _ _ hv
        · cases h
      · cases h
    · intro cs kvs r h
      unfold readEntries at h
      split at h
      · cases h
        simp
      · simp only [Option.bind_eq_bind, Option.bind_eq_some_iff, Option.some.injEq, Prod.mk.injEq] at h
        obtain ⟨⟨kv, r₁⟩, hkv, ⟨kvs', r₂⟩, hkvs, rfl, -⟩ := h
        intro e he
        rcases List.mem_cons.mp he with rfl | he
        · exact ihk _ _ _ hkv
        · exact ihs _ _ _ hkvs e he
      · cases h

theorem canonical_loads (h : loads t = some v) : Canonical v := by
  unfold loads at h
  split at h
  · rename_i v' r hr
    split at h
    · cases h
      exact (canonical_read _).1 _ _ _ hr
    · cases h
  · cases h

variable {kvs : List (String × Json F)}

theorem entriesDumpable_iff :
    entriesDumpable kvs = true ↔ ∀ e ∈ kvs, dumpable e.2 = true := by
  induction kvs with
  | nil => simp [entriesDumpable]
  | cons e kvs ih => simp [entriesDumpable, ih]

variable {vs : List (Json F)}

theorem elemsDumpable_iff : elemsDumpable vs = true ↔ ∀ v ∈ vs, dumpable v = true := by
  induction vs with
  | nil => simp [elemsDumpable]
  | cons v vs ih => simp [elemsDumpable, ih]

theorem dumpable_dict (h : ∀ e ∈ kvs, dumpable e.2 = true) :
    dumpable (Json.dict kvs) = true := by
  have key : ∀ (l acc : List (String × Json F)), (∀ e ∈ acc, dumpable e.2 = true) → (∀ e ∈ l, dumpable e.2 = true) →
      ∀ e ∈ l.foldl (fun acc kv => Json.insertKey kv.1 kv.2 acc) acc, dumpable e.2 = true := by
    intro l
    induction l with
    | nil => exact fun acc ha _ => ha
    | cons e l ih =>
      intro acc ha hl
      refine ih _ ?_ fun e' he' => hl e' (by simp [he'])
      intro e' he'
      rcases mem_insertKey he' with rfl | he'
      · exact hl e (by simp)
      · exact ha e' he'
  exact entriesDumpable_iff.mpr (key kvs [] (by simp) h)

theorem dumpable_int {n : Int} (h : n.natAbs < 2 ^ 64) : dumpable (.int n : Json F) = true := by
  have hpow : 10 ^ 20 ≤ 10 ^ PyText.maxStrDigits := by
    refine Nat.pow_le_pow_right (by decide) ?_
    unfold PyText.maxStrDigits
    omega
  rw [dumpable, decide_eq_true_eq]
  exact lt_of_lt_of_le (lt_of_lt_of_le h (by decide)) hpow

theorem dumpable_strs (xs : List String) : dumpable (Json.strs xs : Json F) = true := by
  refine elemsDumpable_iff.mpr ?_
  intro v hv
  obtain ⟨s, -, rfl⟩ := List.mem_map.mp hv
  rfl

theorem dumps_of_dumpable (h : dumpable v = true) : dumps v = some (String.ofList (text v)) := by
  rw [dumps, if_pos h]

theorem dumpable_of_dumps (h : dumps v = some t) : dumpable v = true := by
  unfold dumps at h
  split at h
  · assumption
  · cases h

theorem dumpable_get? {d : Json F} (h : dumpable d = true) (hget : d.get? k = some v) :
    dumpable v = true := by
  cases d with
  | obj kvs =>
    have hall := entriesDumpable_iff.mp h
    obtain ⟨e, he, rfl⟩ : ∃ e ∈ kvs, e.2 = v := by
      clear h hall
      induction kvs with
      | nil => cases hget
      | cons e kvs ih =>
        rw [Json.get?, lookup_cons_ite] at hget
        split at hget
        · cases hget
          exact ⟨e, by simp, rfl⟩
        · obtain ⟨e', he', rfl⟩ := ih hget
          exact ⟨e', by simp [he'], rfl⟩
    exact hall e he
  | _ => cases hget

/-! ## Values that are written and read back -/

/-- The value can be written, and what is written is the value itself. -/
structure Writable (v : Json F) : Prop where
  canonical : Canonical v
  dumpable : dumpable v = true

theorem Writable.str (s : String) : Writable (.str s : Json F) := ⟨trivial, rfl⟩

theorem Writable.bool (b : Bool) : Writable (.bool b : Json F) := ⟨trivial, rfl⟩

theorem Writable.int {n : Int} (h : PyJson.dumpable (.int n : Json F) = true) : Writable (.int n : Json F) := ⟨trivial, h⟩

theorem Writable.strs (xs : List String) : Writable (.strs xs : Json F) := ⟨canonical_strs xs, dumpable_strs xs⟩

theorem Writable.ofOption {α : Type} {f : α → Json F} {o : Option α} (h : ∀ a ∈ o, Writable (f a)) :
    Writable (.ofOption f o) := by
  cases o with
  | none => exact ⟨trivial, rfl⟩
  | some a => exact h a rfl

theorem Writable.arr (h : ∀ v ∈ vs, Writable v) : Writable (.arr vs) :=
  ⟨elemsCanonical_iff.mpr fun v hv => (h v hv).canonical, elemsDumpable_iff.mpr fun v hv => (h v hv).dumpable⟩

theorem Writable.dict (h : ∀ e ∈ kvs, Writable e.2) : Writable (.dict kvs) :=
  ⟨canonical_dict fun e he => (h e he).canonical, dumpable_dict fun e he => (h e he).dumpable⟩

theorem Writable.loads (h : Writable v) : loads (String.ofList (text v)) = some v :=
  loads_dumps h.canonical (dumps_of_dumpable h.dumpable)

end Values

end PyJson
