/-
The parts of Python's `str` that the models read, over Lean strings: every
operation goes through the list of code points, so `strip`, `split` and the
prefix test have the list lemmas behind them.

A Lean character is a Unicode scalar value; a Python string may also hold a
lone surrogate, which cannot be encoded as UTF-8 and is not represented.
-/
import Mathlib.Algebra.Order.BigOperators.Group.List
import Mathlib.Algebra.Order.Group.Nat
import Mathlib.Algebra.Ring.Nat
import Mathlib.Data.List.Basic
import Mathlib.Data.List.Infix
import Mathlib.Data.List.DropRight
import Mathlib.Data.List.Sort

namespace PyText

/-- `str.isspace` of one character. -/
def isSpace (c : Char) : Bool :=
  let n := c.toNat
  (0x09 ≤ n && n ≤ 0x0D) || (0x1C ≤ n && n ≤ 0x20) || n == 0x85 || n == 0xA0 || n == 0x1680 ||
    (0x2000 ≤ n && n ≤ 0x200A) || n == 0x2028 || n == 0x2029 || n == 0x202F || n == 0x205F || n == 0x3000

/-- Both ends stripped of the characters in `p`. -/
def stripList (p : Char → Bool) (cs : List Char) : List Char :=
  (cs.dropWhile p).rdropWhile p

/-- `s.strip()`. -/
def strip (s : String) : String := String.ofList (stripList isSpace s.toList)

/-- `s.strip(c)` for a one-character argument. -/
def stripChar (c : Char) (s : String) : String := String.ofList (stripList (· == c) s.toList)

/-- `s.startswith(p)`. -/
def startsWith (s p : String) : Bool := p.toList.isPrefixOf s.toList

/-- `s.endswith(p)`. -/
def endsWith (s p : String) : Bool := p.toList.isSuffixOf s.toList

/-- `sub in s`. -/
def contains (s sub : String) : Bool := s.toList.tails.any (sub.toList.isPrefixOf ·)

/-- `s.replace(a, b)` for one-character arguments. -/
def replaceChar (a b : Char) (s : String) : String :=
  String.ofList (s.toList.map fun c => if c = a then b else c)

/-- `s.split(c)` for a one-character separator. -/
def split (c : Char) (s : String) : List String := (s.toList.splitOn c).map String.ofList

/-- `c.join(parts)` for a one-character separator. -/
def join (c : Char) (parts : List String) : String :=
  String.ofList (List.intercalate [c] (parts.map String.toList))

/-- `[A-Za-z0-9]`. -/
def isAsciiAlnum (c : Char) : Bool :=
  ('A' ≤ c && c ≤ 'Z') || ('a' ≤ c && c ≤ 'z') || ('0' ≤ c && c ≤ '9')

/-- `tuple(dict.fromkeys(xs))`: the first occurrence of each, in order. -/
def dedup {α : Type*} [DecidableEq α] : List α → List α
  | [] => []
  | x :: xs => x :: (dedup xs).filter (· ≠ x)

/-- `sorted(xs)`. -/
def sorted (xs : List String) : List String := xs.insertionSort (· ≤ ·)

/-! ## Digits -/

/-- The zero of each run of ten decimal digits (Unicode 14, as Python 3.11 has it). -/
def decimalZeros : List Nat :=
  [0x30, 0x660, 0x6f0, 0x7c0, 0x966, 0x9e6, 0xa66, 0xae6, 0xb66, 0xbe6, 0xc66, 0xce6, 0xd66, 0xde6,
   0xe50, 0xed0, 0xf20, 0x1040, 0x1090, 0x17e0, 0x1810, 0x1946, 0x19d0, 0x1a80, 0x1a90, 0x1b50, 0x1bb0,
   0x1c40, 0x1c50, 0xa620, 0xa8d0, 0xa900, 0xa9d0, 0xa9f0, 0xaa50, 0xabf0, 0xff10, 0x104a0, 0x10d30,
   0x11066, 0x110f0, 0x11136, 0x111d0, 0x112f0, 0x11450, 0x114d0, 0x11650, 0x116c0, 0x11730, 0x118e0,
   0x11950, 0x11c50, 0x11d50, 0x11da0, 0x16a60, 0x16ac0, 0x16b50, 0x1d7ce, 0x1d7d8, 0x1d7e2, 0x1d7ec,
   0x1d7f6, 0x1e140, 0x1e2f0, 0x1e950, 0x1fbf0]

/-- The digits that are not decimal, such as superscripts: `str.isdigit` accepts them, `int` does not. -/
def otherDigits : List (Nat × Nat) :=
  [(0xb2, 0xb3), (0xb9, 0xb9), (0x1369, 0x1371), (0x19da, 0x19da), (0x2070, 0x2070), (0x2074, 0x2079),
   (0x2080, 0x2089), (0x2460, 0x2468), (0x2474, 0x247c), (0x2488, 0x2490), (0x24ea, 0x24ea),
   (0x24f5, 0x24fd), (0x24ff, 0x24ff), (0x2776, 0x277e), (0x2780, 0x2788), (0x278a, 0x2792),
   (0x10a40, 0x10a43), (0x10e60, 0x10e68), (0x11052, 0x1105a), (0x1f100, 0x1f10a)]

/-- The value of a decimal digit. -/
def decimalValue (c : Char) : Option Nat :=
  (decimalZeros.find? fun z => z ≤ c.toNat && c.toNat < z + 10).map (c.toNat - ·)

/-- `s.isdigit()`. -/
def isDigitText (s : String) : Bool :=
  s != "" && s.toList.all fun c =>
    (decimalValue c).isSome || otherDigits.any fun r => r.1 ≤ c.toNat && c.toNat ≤ r.2

/-- The digits of an integer literal: decimal digits, single underscores between them. -/
def intDigits : List Char → Nat → Option Nat
  | [], n => some n
  | '_' :: c :: cs, n => (decimalValue c).bind fun d => intDigits cs (10 * n + d)
  | c :: cs, n => (decimalValue c).bind fun d => intDigits cs (10 * n + d)

/-- An unsigned integer literal. -/
def intMagnitude : List Char → Option Nat
  | [] => none
  | c :: cs => (decimalValue c).bind (intDigits cs)

/-- The interpreter's refusal to convert longer integers to or from text. -/
@[irreducible] def maxStrDigits : Nat := 4300

/-- `int(s)` of a text, `none` for the `ValueError`. -/
def int? (s : String) : Option Int :=
  if maxStrDigits < (s.toList.filter fun c => (decimalValue c).isSome).length then none
  else match (strip s).toList with
  | '-' :: cs => (intMagnitude cs).map fun n => -(n : Int)
  | '+' :: cs => (intMagnitude cs).map fun n => (n : Int)
  | cs => (intMagnitude cs).map fun n => (n : Int)

/-- The upper case of one character, where it has ASCII letters; any other character is kept. -/
def upperChar (c : Char) : List Char :=
  if 'a' ≤ c ∧ c ≤ 'z' then [Char.ofNat (c.toNat - 32)]
  else if c = 'ß' then ['S', 'S']
  else if c = 'ı' then ['I']
  else if c = 'ſ' then ['S']
  else if c.toNat = 0xFB00 then ['F', 'F']
  else if c.toNat = 0xFB01 then ['F', 'I']
  else if c.toNat = 0xFB02 then ['F', 'L']
  else if c.toNat = 0xFB03 then ['F', 'F', 'I']
  else if c.toNat = 0xFB04 then ['F', 'F', 'L']
  else if c.toNat = 0xFB05 ∨ c.toNat = 0xFB06 then ['S', 'T']
  else [c]

/-- `s.upper()`, as far as its ASCII letters go. -/
def upper (s : String) : String := String.ofList (s.toList.flatMap upperChar)

/-- The lower case of one character, where it has ASCII letters; any other character is kept. -/
def lowerChar (c : Char) : List Char :=
  if 'A' ≤ c ∧ c ≤ 'Z' then [Char.ofNat (c.toNat + 32)]
  else if c.toNat = 0x130 then ['i', Char.ofNat 0x307]
  else if c.toNat = 0x212A then ['k']
  else [c]

/-- `s.lower()`, as far as its ASCII letters go. -/
def lower (s : String) : String := String.ofList (s.toList.flatMap lowerChar)

/-- `s.replace(old, new)` for a non-empty `old`; the fuel is the length of the text. -/
def replaceList (old new : List Char) : Nat → List Char → List Char
  | 0, cs => cs
  | _ + 1, [] => []
  | n + 1, c :: cs =>
    if old.isPrefixOf (c :: cs) then new ++ replaceList old new n ((c :: cs).drop old.length)
    else c :: replaceList old new n cs

/-- `s.replace(old, new)`. -/
def replace (s old new : String) : String :=
  String.ofList (replaceList old.toList new.toList s.toList.length s.toList)

/-- `s.partition(c)` for a one-character separator: the part before it, whether it was found, the rest. -/
def partition (c : Char) (s : String) : String × Bool × String :=
  let head := s.toList.takeWhile (· ≠ c)
  let tail := s.toList.dropWhile (· ≠ c)
  (String.ofList head, !tail.isEmpty, String.ofList tail.tail)

/-- `s.split()`: the runs of characters between white space. -/
def splitWs (s : String) : List String :=
  ((s.toList.splitOnP isSpace).filter (· ≠ [])).map String.ofList

/-! ## Facts -/

variable {α : Type*}

/-- A fact about each character of a literal, from the Boolean test over them (a character type is finite, and the
decision over all of it would be preferred otherwise). -/
theorem forall_mem_of_all {p : α → Prop} [DecidablePred p] {l : List α}
    (h : l.all (fun c => decide (p c)) = true) : ∀ c ∈ l, p c := by
  simpa using h

theorem forall_char_of_all {p : Char → Prop} [DecidablePred p] {ts : List String}
    (h : ts.all (fun t => t.toList.all fun c => decide (p c)) = true) : ∀ t ∈ ts, ∀ c ∈ t.toList, p c := by
  simpa using h

theorem mem_dedup [DecidableEq α] {a : α} {xs : List α} : a ∈ dedup xs ↔ a ∈ xs := by
  induction xs with
  | nil => simp [dedup]
  | cons x xs ih =>
    simp only [dedup, List.mem_cons, List.mem_filter, decide_eq_true_eq, ih]
    by_cases h : a = x <;> simp [h]

variable {xs : List String}

theorem mem_sorted {a : String} : a ∈ sorted xs ↔ a ∈ xs := by
  simp [sorted]

variable {s : String}

theorem startsWith_iff {p : String} : startsWith s p = true ↔ p.toList <+: s.toList := by
  simp [startsWith]

theorem contains_iff {sub : String} : contains s sub = true ↔ sub.toList <:+: s.toList := by
  simp only [contains, List.any_eq_true, List.mem_tails, List.isPrefixOf_iff_prefix]
  constructor
  · rintro ⟨t, ht, hp⟩
    exact hp.isInfix.trans ht.isInfix
  · rintro ⟨l, r, h⟩
    exact ⟨sub.toList ++ r, ⟨l, by rw [← h, List.append_assoc]⟩, List.prefix_append _ _⟩

theorem startsWith_trans {r p : String} (h : startsWith r (s ++ "/") = true)
    (h' : startsWith s (p ++ "/") = true) : startsWith r (p ++ "/") = true := by
  rw [startsWith_iff] at *
  have hs : s.toList <+: (s ++ "/").toList := by
    rw [String.toList_append]
    exact List.prefix_append _ _
  exact h'.trans (hs.trans h)

variable {p : Char → Bool} {cs : List Char}

theorem stripList_eq_self (hne : cs ≠ []) (hhead : p (cs.head hne) = false) (hlast : p (cs.getLast hne) = false) :
    stripList p cs = cs := by
  have hd : cs.dropWhile p = cs := by
    cases cs with
    | nil => rfl
    | cons c cs =>
      have hc : p c = false := hhead
      simp [hc]
  rw [stripList, hd, List.rdropWhile_eq_self_iff]
  intro h
  simpa using hlast

theorem stripList_of_forall (h : ∀ c ∈ cs, p c = false) : stripList p cs = cs := by
  by_cases hne : cs = []
  · simp [hne, stripList]
  · exact stripList_eq_self hne (h _ (List.head_mem hne)) (h _ (List.getLast_mem hne))

theorem stripList_subset : stripList p cs ⊆ cs := by
  intro c hc
  have h1 : stripList p cs <+: cs.dropWhile p := List.rdropWhile_prefix p _
  exact (List.dropWhile_suffix p).subset (h1.subset hc)

theorem stripList_stripList (p : Char → Bool) (cs : List Char) :
    stripList p (stripList p cs) = stripList p cs := by
  have hfront : (stripList p cs).dropWhile p = stripList p cs := by
    rw [List.dropWhile_eq_self_iff]
    intro hlen
    have hpre : stripList p cs <+: cs.dropWhile p := List.rdropWhile_prefix p _
    have hlen' : 0 < (cs.dropWhile p).length := lt_of_lt_of_le hlen hpre.length_le
    have hidem := List.dropWhile_idempotent (p := p) cs
    rw [List.dropWhile_eq_self_iff] at hidem
    have hget : (stripList p cs)[0] = (cs.dropWhile p)[0] := hpre.getElem hlen
    rw [hget]
    exact hidem hlen'
  rw [stripList, hfront]
  exact List.rdropWhile_idempotent p _

theorem stripList_ends (hne : stripList p cs ≠ []) :
    p ((stripList p cs).head hne) = false ∧ p ((stripList p cs).getLast hne) = false := by
  have hself := stripList_stripList p cs
  have hpre : stripList p (stripList p cs) <+: (stripList p cs).dropWhile p := List.rdropWhile_prefix p _
  have hsuf : (stripList p cs).dropWhile p <:+ stripList p cs := List.dropWhile_suffix p
  have hdrop : (stripList p cs).dropWhile p = stripList p cs :=
    hsuf.eq_of_length (le_antisymm hsuf.length_le (by rw [hself] at hpre; exact hpre.length_le))
  have hrdrop : (stripList p cs).rdropWhile p = stripList p cs := by
    conv_rhs => rw [← hself, stripList, hdrop]
  constructor
  · rw [List.dropWhile_eq_self_iff] at hdrop
    have h := hdrop (List.length_pos_of_ne_nil hne)
    rwa [List.head_eq_getElem, ← Bool.not_eq_true]
  · rw [List.rdropWhile_eq_self_iff] at hrdrop
    rw [← Bool.not_eq_true]
    exact hrdrop hne

/-! ## Segments

A separated text is handled through its segments: the separator occurs in none of them, and a text
with no empty segment neither starts nor ends with the separator nor has two of them in a row. -/

section Segments

variable {c : Char} {cs : List Char}

theorem splitOn_not_mem : ∀ {cs seg : List Char}, seg ∈ cs.splitOn c → c ∉ seg
  | [], seg, h => by
    simp only [List.splitOn_nil, List.mem_singleton] at h
    simp [h]
  | d :: ds, seg, h => by
    rw [List.splitOn_cons_eq_if_modifyHead] at h
    by_cases hd : (d == c) = true
    · simp only [hd, ite_true, List.mem_cons] at h
      rcases h with rfl | h
      · simp
      · exact splitOn_not_mem h
    · rw [if_neg hd] at h
      obtain ⟨seg₀, segs, hs⟩ := List.exists_cons_of_ne_nil (List.splitOn_ne_nil c ds)
      rw [hs, List.modifyHead_cons, List.mem_cons] at h
      rcases h with rfl | h
      · have hmem : seg₀ ∈ ds.splitOn c := by simp [hs]
        have h₀ : c ∉ seg₀ := splitOn_not_mem hmem
        simp only [beq_iff_eq] at hd
        simp only [List.mem_cons, not_or]
        exact ⟨fun he => hd he.symm, h₀⟩
      · have hmem : seg ∈ ds.splitOn c := by simp [hs, h]
        exact splitOn_not_mem hmem

theorem mem_intercalate {x : Char} : ∀ {segs : List (List Char)}, x ∈ [c].intercalate segs →
    x = c ∨ ∃ seg ∈ segs, x ∈ seg
  | [], h => by simp at h
  | [seg], h => by
    rw [List.intercalate_singleton] at h
    exact .inr ⟨seg, by simp, h⟩
  | seg :: seg' :: segs, h => by
    rw [List.intercalate_cons_cons] at h
    simp only [List.mem_append, List.mem_singleton] at h
    rcases h with (h | rfl) | h
    · exact .inr ⟨seg, by simp, h⟩
    · exact .inl rfl
    · rcases mem_intercalate h with rfl | ⟨s, hs, hx⟩
      · exact .inl rfl
      · exact .inr ⟨s, by simp [List.mem_cons.mp hs], hx⟩

theorem mem_of_mem_splitOn {x : Char} {seg : List Char} (h : seg ∈ cs.splitOn c) (hx : x ∈ seg) :
    x ∈ cs := by
  obtain ⟨l, r, hlr⟩ := List.append_of_mem h
  have hcs : [c].intercalate (cs.splitOn c) = cs := List.intercalate_splitOn c
  rw [hlr] at hcs
  rw [← hcs]
  have key : ∀ l : List (List Char), x ∈ [c].intercalate (l ++ seg :: r) := by
    intro l
    induction l with
    | nil =>
      cases r with
      | nil => simpa using hx
      | cons s r => simp [List.intercalate_cons_cons, hx]
    | cons s l ih =>
      rw [List.cons_append, List.intercalate_cons_of_ne_nil (by simp)]
      exact List.mem_append_right _ ih
  exact key l

theorem length_intercalate : ∀ segs : List (List Char),
    ([c].intercalate segs).length = (segs.map List.length).sum + (segs.length - 1)
  | [] => by simp
  | [seg] => by simp
  | seg :: seg' :: segs => by
    have ih := length_intercalate (seg' :: segs)
    rw [List.intercalate_cons_cons]
    simp only [List.length_append, ih, List.map_cons, List.sum_cons, List.length_cons, List.length_nil]
    omega

theorem length_intercalate_filter_le (p : List Char → Bool) :
    ([c].intercalate ((cs.splitOn c).filter p)).length ≤ cs.length := by
  have hsub : ((cs.splitOn c).filter p).Sublist (cs.splitOn c) := List.filter_sublist
  have hlen := hsub.length_le
  have hsum := (hsub.map List.length).sum_le_sum fun _ _ => Nat.zero_le _
  have hcs := length_intercalate (c := c) (cs.splitOn c)
  rw [List.intercalate_splitOn] at hcs
  rw [length_intercalate]
  omega

theorem nil_mem_splitOn_of_adjacent (h : [c, c] <:+: cs) : [] ∈ cs.splitOn c := by
  obtain ⟨l, r, rfl⟩ := h
  have : l ++ [c, c] ++ r = l ++ c :: ([] ++ c :: r) := by simp
  rw [this, List.splitOn_append_cons_self, List.splitOn_append_cons_self]
  simp

theorem stripList_sep (h : [] ∉ cs.splitOn c) : stripList (· == c) cs = cs := by
  have hne : cs ≠ [] := by
    rintro rfl
    simp at h
  refine stripList_eq_self hne ?_ ?_
  · rw [beq_eq_false_iff_ne]
    intro he
    apply h
    rw [← List.cons_head_tail hne, he, ← List.nil_append (c :: cs.tail),
      List.splitOn_append_cons_self]
    simp
  · rw [beq_eq_false_iff_ne]
    intro he
    apply h
    rw [← List.dropLast_append_getLast hne, he, List.splitOn_append_cons_self]
    simp

end Segments

/-! ### Texts that are kept -/

theorem strip_eq_self (h : ∀ c ∈ s.toList, isSpace c = false) : strip s = s := by
  rw [strip, stripList_of_forall h, String.ofList_toList]

@[simp] theorem strip_strip (s : String) : strip (strip s) = strip s := by
  unfold strip
  rw [String.toList_ofList, stripList_stripList]

variable {c : Char}

theorem isSpace_of_range (h : 33 ≤ c.toNat ∧ c.toNat ≤ 126) : isSpace c = false := by
  simp only [isSpace, Bool.or_eq_false_iff, Bool.and_eq_false_iff, decide_eq_false_iff_not, beq_eq_false_iff_ne]
  omega

theorem lower_eq_self (h : ∀ c ∈ s.toList, c.toNat ≤ 126 ∧ ¬ (65 ≤ c.toNat ∧ c.toNat ≤ 90)) :
    lower s = s := by
  have hchar : ∀ c ∈ s.toList, lowerChar c = [c] := by
    intro c hc
    obtain ⟨hascii, hcase⟩ := h c hc
    have hupper : ¬ ('A' ≤ c ∧ c ≤ 'Z') := fun hcc => hcase ⟨hcc.1, hcc.2⟩
    rw [lowerChar, if_neg hupper, if_neg (by omega), if_neg (by omega)]
  rw [lower, List.flatMap_congr hchar, List.flatMap_singleton', String.ofList_toList]

/-! ### Case

A case mapping sends a character to itself or to characters that it keeps, none of them white space. -/

/-- What a case mapping does to one character. -/
def CaseMapping (f : Char → List Char) : Prop :=
  ∀ c, f c = [c] ∨ f c ≠ [] ∧ ∀ d ∈ f c, f d = [d] ∧ isSpace d = false

variable {d : Char}

section CaseMapping

variable {f : Char → List Char}

theorem CaseMapping.ne_nil (hf : CaseMapping f) (c : Char) : f c ≠ [] := by
  rcases hf c with h | ⟨h, -⟩
  · simp [h]
  · exact h

theorem CaseMapping.fixed (hf : CaseMapping f) (hd : d ∈ f c) : f d = [d] := by
  rcases hf c with h | ⟨-, h⟩
  · rw [h, List.mem_singleton] at hd
    rw [hd, h]
  · exact (h d hd).1

theorem CaseMapping.not_space (hf : CaseMapping f) (hc : isSpace c = false) (hd : d ∈ f c) : isSpace d = false := by
  rcases hf c with h | ⟨-, h⟩
  · rw [h, List.mem_singleton] at hd
    rwa [hd]
  · exact (h d hd).2

theorem head_flatMap_mem {β : Type*} {f : α → List β} {l : List α} {hl : l ≠ []} (hf : f (l.head hl) ≠ [])
    (hne : l.flatMap f ≠ []) : (l.flatMap f).head hne ∈ f (l.head hl) := by
  cases l with
  | nil => exact absurd rfl hl
  | cons a l =>
    simp only [List.flatMap_cons, List.head_cons] at hf ⊢
    rw [List.head_append_of_ne_nil hf]
    exact List.head_mem hf

theorem getLast_flatMap_mem {β : Type*} {f : α → List β} {l : List α} {hl : l ≠ []} (hf : f (l.getLast hl) ≠ [])
    (hne : l.flatMap f ≠ []) : (l.flatMap f).getLast hne ∈ f (l.getLast hl) := by
  obtain ⟨l', a, rfl⟩ : ∃ l' a, l = l' ++ [a] := ⟨_, _, (List.dropLast_append_getLast hl).symm⟩
  simp only [List.flatMap_append, List.flatMap_singleton, List.getLast_append_singleton] at hf ⊢
  rw [List.getLast_append_of_ne_nil _ hf]
  exact List.getLast_mem hf

theorem CaseMapping.flatMap_flatMap (hf : CaseMapping f) (cs : List Char) : (cs.flatMap f).flatMap f = cs.flatMap f := by
  have hchar : ∀ d ∈ cs.flatMap f, f d = [d] := by
    intro d hd
    obtain ⟨c, -, hdc⟩ := List.mem_flatMap.mp hd
    exact hf.fixed hdc
  rw [List.flatMap_congr hchar, List.flatMap_singleton']

theorem CaseMapping.stripList_flatMap (hf : CaseMapping f) (cs : List Char) :
    stripList isSpace ((stripList isSpace cs).flatMap f) = (stripList isSpace cs).flatMap f := by
  by_cases hnil : stripList isSpace cs = []
  · rw [hnil]
    rfl
  obtain ⟨hhead, hlast⟩ := stripList_ends hnil
  have hne : (stripList isSpace cs).flatMap f ≠ [] := by
    rw [Ne, List.flatMap_eq_nil_iff]
    exact fun h => hf.ne_nil _ (h _ (List.head_mem hnil))
  exact stripList_eq_self hne (hf.not_space hhead (head_flatMap_mem (hf.ne_nil _) hne))
    (hf.not_space hlast (getLast_flatMap_mem (hf.ne_nil _) hne))

end CaseMapping

theorem toNat_ofNat {n : Nat} (h : n < 0xD800) : (Char.ofNat n).toNat = n := by
  rw [Char.ofNat, dif_pos (.inl h)]
  rfl

theorem lowerChar_of_range (h : 97 ≤ d.toNat ∧ d.toNat ≤ 122) : lowerChar d = [d] := by
  have hnot : ¬ ('A' ≤ d ∧ d ≤ 'Z') := fun hd => by
    have hle : d.toNat ≤ 90 := hd.2
    omega
  rw [lowerChar, if_neg hnot, if_neg (by omega), if_neg (by omega)]

theorem caseMapping_lower : CaseMapping lowerChar := by
  intro c
  by_cases hup : 'A' ≤ c ∧ c ≤ 'Z'
  · have hlo : 65 ≤ c.toNat := hup.1
    have hhi : c.toNat ≤ 90 := hup.2
    have hval : (Char.ofNat (c.toNat + 32)).toNat = c.toNat + 32 := toNat_ofNat (by omega)
    have hc : lowerChar c = [Char.ofNat (c.toNat + 32)] := by rw [lowerChar, if_pos hup]
    rw [hc]
    refine .inr ⟨by simp, fun d hd => ?_⟩
    rw [List.mem_singleton.mp hd]
    exact ⟨lowerChar_of_range (by omega), isSpace_of_range ⟨by omega, by omega⟩⟩
  by_cases hdot : c.toNat = 0x130
  · have hc : lowerChar c = ['i', Char.ofNat 0x307] := by rw [lowerChar, if_neg hup, if_pos hdot]
    rw [hc]
    exact .inr ⟨List.cons_ne_nil _ _, forall_mem_of_all (by decide)⟩
  by_cases hkelvin : c.toNat = 0x212A
  · have hc : lowerChar c = ['k'] := by rw [lowerChar, if_neg hup, if_neg hdot, if_pos hkelvin]
    rw [hc]
    exact .inr ⟨List.cons_ne_nil _ _, forall_mem_of_all (by decide)⟩
  · exact .inl (by rw [lowerChar, if_neg hup, if_neg hdot, if_neg hkelvin])

theorem upperChar_of_ascii (hascii : c.toNat ≤ 126) (hcase : ¬ (97 ≤ c.toNat ∧ c.toNat ≤ 122)) : upperChar c = [c] := by
  have hlower : ¬ ('a' ≤ c ∧ c ≤ 'z') := fun hcc => hcase ⟨hcc.1, hcc.2⟩
  have hne : ∀ d : Char, 126 < d.toNat → c ≠ d := fun d hd he => by rw [he] at hascii; omega
  rw [upperChar, if_neg hlower, if_neg (hne _ (by decide)), if_neg (hne _ (by decide)), if_neg (hne _ (by decide)),
    if_neg (by omega), if_neg (by omega), if_neg (by omega), if_neg (by omega), if_neg (by omega), if_neg (by omega)]

theorem upperChar_cases (c : Char) :
    upperChar c = [c] ∨ upperChar c ≠ [] ∧ ∀ d ∈ upperChar c, 65 ≤ d.toNat ∧ d.toNat ≤ 90 := by
  unfold upperChar
  split
  · rename_i h
    have hlo : 97 ≤ c.toNat := h.1
    have hhi : c.toNat ≤ 122 := h.2
    refine .inr ⟨by simp, fun d hd => ?_⟩
    rw [List.mem_singleton.mp hd, toNat_ofNat (by omega)]
    omega
  repeat' split
  all_goals first
    | exact .inl rfl
    | exact .inr ⟨by simp, by simp⟩

theorem caseMapping_upper : CaseMapping upperChar := by
  intro c
  rcases upperChar_cases c with h | ⟨hne, h⟩
  · exact .inl h
  · refine .inr ⟨hne, fun d hd => ?_⟩
    obtain ⟨hlo, hhi⟩ := h d hd
    exact ⟨upperChar_of_ascii (by omega) (by omega), isSpace_of_range ⟨by omega, by omega⟩⟩

theorem lower_strip_lower_strip (s : String) : lower (strip (lower (strip s))) = lower (strip s) := by
  simp only [lower, strip, String.toList_ofList, caseMapping_lower.stripList_flatMap, caseMapping_lower.flatMap_flatMap]

theorem upper_strip_upper_strip (s : String) : upper (strip (upper (strip s))) = upper (strip s) := by
  simp only [upper, strip, String.toList_ofList, caseMapping_upper.stripList_flatMap, caseMapping_upper.flatMap_flatMap]

theorem isAsciiAlnum_iff : isAsciiAlnum c = true ↔
    (65 ≤ c.toNat ∧ c.toNat ≤ 90) ∨ (97 ≤ c.toNat ∧ c.toNat ≤ 122) ∨ (48 ≤ c.toNat ∧ c.toNat ≤ 57) := by
  simp only [isAsciiAlnum, Bool.or_eq_true, Bool.and_eq_true, decide_eq_true_eq, or_assoc]
  exact Iff.rfl

theorem lowerChar_of_not_upper (hascii : c.toNat ≤ 126) (h : ¬ (65 ≤ c.toNat ∧ c.toNat ≤ 90)) : lowerChar c = [c] := by
  rw [lowerChar, if_neg (show ¬ ('A' ≤ c ∧ c ≤ 'Z') from h), if_neg (by omega), if_neg (by omega)]

theorem lowerChar_alnum (h : isAsciiAlnum c = true) : ∃ d, lowerChar c = [d] ∧ isAsciiAlnum d = true := by
  by_cases hup : 65 ≤ c.toNat ∧ c.toNat ≤ 90
  · refine ⟨Char.ofNat (c.toNat + 32), if_pos (show 'A' ≤ c ∧ c ≤ 'Z' from hup), ?_⟩
    rw [isAsciiAlnum_iff, toNat_ofNat (by omega)]
    omega
  · refine ⟨c, lowerChar_of_not_upper ?_ hup, h⟩
    rw [isAsciiAlnum_iff] at h
    omega

/-! ### Words -/

/-- A text of words: none of them empty, none with white space in it. -/
def Words (ws : List (List Char)) : Prop := ∀ w ∈ ws, w ≠ [] ∧ ∀ c ∈ w, isSpace c = false

theorem splitOnP_not_space : ∀ {cs w : List Char}, w ∈ cs.splitOnP isSpace → ∀ c ∈ w, isSpace c = false
  | [], w, hw => by
    rw [List.splitOnP_nil] at hw
    rw [List.mem_singleton.mp hw]
    simp
  | d :: cs, w, hw => by
    rw [List.splitOnP_cons_eq_if_modifyHead] at hw
    split at hw
    · rcases List.mem_cons.mp hw with rfl | hw
      · simp
      · exact splitOnP_not_space hw
    · rename_i hd
      obtain ⟨head, tail, htail⟩ := List.exists_cons_of_ne_nil (List.splitOnP_ne_nil isSpace cs)
      rw [htail, List.modifyHead_cons] at hw
      rcases List.mem_cons.mp hw with rfl | hw
      · intro c hc
        rcases List.mem_cons.mp hc with rfl | hc
        · simpa using hd
        · exact splitOnP_not_space (htail ▸ List.mem_cons_self) c hc
      · exact splitOnP_not_space (htail ▸ List.mem_cons_of_mem _ hw)

theorem words_split (cs : List Char) : Words ((cs.splitOnP isSpace).filter (· ≠ [])) := by
  intro w hw
  obtain ⟨hmem, hne⟩ := List.mem_filter.mp hw
  exact ⟨by simpa using hne, splitOnP_not_space hmem⟩

/-- Words joined by a blank are split into the same words. -/
theorem splitOnP_intercalate : ∀ {ws : List (List Char)}, Words ws →
    (([' '].intercalate ws).splitOnP isSpace).filter (· ≠ []) = ws
  | [], _ => by rfl
  | [w], h => by
    rw [List.intercalate_singleton, List.splitOnP_eq_singleton (h w (by simp)).2]
    simp [(h w (by simp)).1]
  | w :: v :: ws, h => by
    have hfirst : (w ++ ' ' :: [' '].intercalate (v :: ws)).splitOnP isSpace =
        w :: ([' '].intercalate (v :: ws)).splitOnP isSpace :=
      List.splitOnP_append_cons_of_forall_mem (h w (by simp)).2 ' ' (by decide) _
    rw [List.intercalate_cons_cons, List.append_assoc, List.singleton_append, hfirst,
      List.filter_cons_of_pos (by simpa using (h w (by simp)).1),
      splitOnP_intercalate fun u hu => h u (by simp [hu])]

theorem dedup_nodup [DecidableEq α] (xs : List α) : (dedup xs).Nodup := by
  induction xs with
  | nil => exact List.nodup_nil
  | cons x xs ih =>
    rw [dedup, List.nodup_cons]
    refine ⟨?_, ih.filter _⟩
    intro hx
    simpa using (List.mem_filter.mp hx).2

theorem dedup_of_nodup [DecidableEq α] {xs : List α} (h : xs.Nodup) : dedup xs = xs := by
  induction xs with
  | nil => rfl
  | cons x xs ih =>
    rw [List.nodup_cons] at h
    rw [dedup, ih h.2, List.filter_eq_self.mpr]
    intro y hy
    simp only [decide_eq_true_eq]
    exact fun heq => h.1 (heq ▸ hy)

theorem dedup_append [DecidableEq α] (xs ys : List α) :
    dedup (xs ++ ys) = dedup xs ++ (dedup ys).filter (· ∉ xs) := by
  induction xs with
  | nil => simp [dedup]
  | cons x xs ih =>
    rw [List.cons_append, dedup, ih, dedup, List.filter_append, List.filter_filter, List.cons_append]
    refine congrArg (x :: ·) (congrArg _ (List.filter_congr ?_))
    intro y _
    simp [not_or]

theorem dedup_append_of_subset [DecidableEq α] {xs ys : List α} (h : xs.Nodup) (hsub : ys ⊆ xs) :
    dedup (xs ++ ys) = xs := by
  rw [dedup_append, dedup_of_nodup h, List.filter_eq_nil_iff.mpr, List.append_nil]
  intro y hy
  simp [hsub (mem_dedup.mp hy)]

theorem sorted_sorted (xs : List String) : sorted (sorted xs) = sorted xs :=
  (List.pairwise_insertionSort _ _).insertionSort_eq

theorem sorted_dedup_sorted (xs : List String) : sorted (dedup (sorted (dedup xs))) = sorted (dedup xs) := by
  have hnodup : (sorted (dedup xs)).Nodup := (List.perm_insertionSort _ _).nodup_iff.mpr (dedup_nodup xs)
  rw [dedup_of_nodup hnodup, sorted_sorted]

variable {ys : List String}

theorem sorted_congr (h : xs.Perm ys) : sorted xs = sorted ys :=
  List.Perm.eq_of_pairwise (fun _ _ _ _ => String.le_antisymm) (List.pairwise_insertionSort _ _) (List.pairwise_insertionSort _ _)
    (((List.perm_insertionSort _ xs).trans h).trans (List.perm_insertionSort _ ys).symm)

theorem sorted_dedup_congr (h : ∀ a, a ∈ xs ↔ a ∈ ys) : sorted (dedup xs) = sorted (dedup ys) := by
  refine sorted_congr ((List.perm_ext_iff_of_nodup (dedup_nodup xs) (dedup_nodup ys)).mpr ?_)
  intro a
  rw [mem_dedup, mem_dedup, h]

theorem length_dedup_le [DecidableEq α] (xs : List α) : (dedup xs).length ≤ xs.length :=
  (List.subperm_of_subset (dedup_nodup xs) fun _ => mem_dedup.mp).length_le

theorem length_sorted (xs : List String) : (sorted xs).length = xs.length := List.length_insertionSort _ xs

theorem sorted_dedup_ne_nil {refs : List String} (h : refs ≠ []) : sorted (dedup refs) ≠ [] := by
  obtain ⟨r, hr⟩ := List.exists_mem_of_ne_nil _ h
  exact List.ne_nil_of_mem (mem_sorted.mpr (mem_dedup.mpr hr))

end PyText
