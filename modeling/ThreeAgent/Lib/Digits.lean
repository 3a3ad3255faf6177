/-
Digit texts: what `isdigit` accepts and what `int` reads of it, and the parts
that `partition` cuts a text into.

`isdigit` accepts more than `int` reads: digits that are not decimal, and texts
of more digits than the interpreter converts (`Unreadable`). No digit is white
space, a sign or an underscore (`digit_plain`), so `int` reads the rest of them
digit by digit.
-/
import ThreeAgent.Lib.Text

namespace PyText

variable {c : Char} {s : String} {n : Nat}

/-- `c.isdigit()`. -/
def isDigitChar (c : Char) : Bool :=
  (decimalValue c).isSome || otherDigits.any fun r => r.1 ≤ c.toNat && c.toNat ≤ r.2

theorem isDigitText_iff : isDigitText s = true ↔ s ≠ "" ∧ ∀ c ∈ s.toList, isDigitChar c = true := by
  rw [isDigitText, Bool.and_eq_true, bne_iff_ne, List.all_eq_true]
  rfl

/-- A code point that is neither a sign, a separator, an underscore nor white space. -/
def plainCode (n : Nat) : Bool :=
  48 ≤ n && n != 95 &&
    !((0x09 ≤ n && n ≤ 0x0D) || (0x1C ≤ n && n ≤ 0x20) || n == 0x85 || n == 0xA0 || n == 0x1680 ||
      (0x2000 ≤ n && n ≤ 0x200A) || n == 0x2028 || n == 0x2029 || n == 0x202F || n == 0x205F || n == 0x3000)

theorem decimal_codes : ∀ z ∈ decimalZeros, ∀ d < 10, plainCode (z + d) = true := by decide

theorem other_codes : ∀ r ∈ otherDigits, r.2 ≤ r.1 + 10 ∧ ∀ d < 11, r.1 + d ≤ r.2 → plainCode (r.1 + d) = true := by
  decide

theorem plainCode_digit (h : isDigitChar c = true) : plainCode c.toNat = true := by
  rcases Bool.or_eq_true .. |>.mp h with h | h
  · rw [decimalValue, Option.isSome_map, List.find?_isSome] at h
    obtain ⟨z, hz, hrange⟩ := h
    simp only [Bool.and_eq_true, decide_eq_true_eq] at hrange
    have := decimal_codes z hz (c.toNat - z) (by omega)
    rwa [Nat.add_sub_cancel' hrange.1] at this
  · obtain ⟨r, hr, hrange⟩ := List.any_eq_true.mp h
    simp only [Bool.and_eq_true, decide_eq_true_eq] at hrange
    obtain ⟨hwidth, hcode⟩ := other_codes r hr
    have := hcode (c.toNat - r.1) (by omega) (by omega)
    rwa [Nat.add_sub_cancel' hrange.1] at this

theorem digit_plain (h : isDigitChar c = true) : 48 ≤ c.toNat ∧ c ≠ '_' ∧ isSpace c = false := by
  have hcode := plainCode_digit h
  simp only [plainCode, Bool.and_eq_true, decide_eq_true_eq, bne_iff_ne, Bool.not_eq_true'] at hcode
  refine ⟨hcode.1.1, ?_, hcode.2⟩
  rintro rfl
  exact hcode.1.2 rfl

theorem not_mem_digits (h : isDigitText s = true) (hc : c.toNat < 48) : c ∉ s.toList := by
  intro hmem
  have := (digit_plain ((isDigitText_iff.mp h).2 c hmem)).1
  omega

theorem strip_digits (h : isDigitText s = true) : strip s = s :=
  strip_eq_self fun c hc => (digit_plain ((isDigitText_iff.mp h).2 c hc)).2.2

/-! ## Numbers -/

/-- The number that decimal digits write. -/
def digitsValue (cs : List Char) : Nat := cs.foldl (fun n c => 10 * n + (decimalValue c).getD 0) 0

/-- A decimal number: decimal digits, and the number that they write. -/
def Decimal (s : String) (n : Nat) : Prop :=
  s ≠ "" ∧ (∀ c ∈ s.toList, (decimalValue c).isSome = true) ∧ digitsValue s.toList = n

/-- A digit text that `int` refuses: one of its digits is not decimal, or there are too many of them. -/
def Unreadable (s : String) : Prop :=
  isDigitText s = true ∧ ((∃ c ∈ s.toList, decimalValue c = none) ∨ maxStrDigits < s.toList.length)

theorem Decimal.digits (h : Decimal s n) : isDigitText s = true :=
  isDigitText_iff.mpr ⟨h.1, fun c hc => by rw [isDigitChar, h.2.1 c hc, Bool.true_or]⟩

theorem Decimal.unique {m : Nat} (h : Decimal s n) (h' : Decimal s m) : n = m := h.2.2.symm.trans h'.2.2

theorem intDigits_cons {cs : List Char} (h : c ≠ '_') :
    intDigits (c :: cs) n = (decimalValue c).bind fun d => intDigits cs (10 * n + d) := by
  rw [intDigits]
  intro c' cs' hc _
  exact absurd hc h

theorem intDigits_some {cs : List Char} (hcs : ∀ c ∈ cs, (decimalValue c).isSome = true) :
    intDigits cs n = some (cs.foldl (fun n c => 10 * n + (decimalValue c).getD 0) n) := by
  induction cs generalizing n with
  | nil => rfl
  | cons c cs ih =>
    obtain ⟨d, hd⟩ := Option.isSome_iff_exists.mp (hcs c (by simp))
    have hc : c ≠ '_' := (digit_plain (by rw [isDigitChar, hcs c (by simp), Bool.true_or])).2.1
    rw [intDigits_cons hc, hd, Option.bind_some, ih fun c' hc' => hcs c' (by simp [hc']), List.foldl_cons, hd,
      Option.getD_some]

theorem intDigits_none {cs : List Char} (hcs : ∀ c ∈ cs, isDigitChar c = true)
    (hnone : ∃ c ∈ cs, decimalValue c = none) : intDigits cs n = none := by
  induction cs generalizing n with
  | nil => simp at hnone
  | cons c cs ih =>
    rw [intDigits_cons (digit_plain (hcs c (by simp))).2.1]
    cases hd : decimalValue c with
    | none => rfl
    | some d =>
      rw [Option.bind_some]
      refine ih (fun c' hc' => hcs c' (by simp [hc'])) ?_
      obtain ⟨c', hc', hnone⟩ := hnone
      rcases List.mem_cons.mp hc' with rfl | hc'
      · rw [hd] at hnone
        cases hnone
      · exact ⟨c', hc', hnone⟩

theorem int?_eq (h : isDigitText s = true) : int? s =
    if maxStrDigits < (s.toList.filter fun c => (decimalValue c).isSome).length then none
    else (intDigits s.toList 0).map fun n => (n : Int) := by
  obtain ⟨hne, hall⟩ := isDigitText_iff.mp h
  rw [int?, strip_digits h]
  cases hs : s.toList with
  | nil => exact absurd (String.toList_eq_nil_iff.mp hs) hne
  | cons c cs =>
    have hc := digit_plain (hall c (by simp [hs]))
    have hminus : c ≠ '-' := by
      rintro rfl
      exact absurd hc.1 (by decide)
    have hplus : c ≠ '+' := by
      rintro rfl
      exact absurd hc.1 (by decide)
    congr 1
    rw [intDigits_cons hc.2.1]
    simp only [Nat.mul_zero, Nat.zero_add]
    split
    · rename_i heq
      cases heq
      exact absurd rfl hminus
    · rename_i heq
      cases heq
      exact absurd rfl hplus
    · rfl

theorem int?_digits (h : isDigitText s = true) :
    (Unreadable s ∧ int? s = none) ∨ (¬ Unreadable s ∧ ∃ n, Decimal s n ∧ int? s = some (n : Int)) := by
  obtain ⟨hne, hall⟩ := isDigitText_iff.mp h
  rw [int?_eq h]
  by_cases hother : ∃ c ∈ s.toList, decimalValue c = none
  · refine .inl ⟨⟨h, .inl hother⟩, ?_⟩
    rw [intDigits_none hall hother]
    split <;> rfl
  · have hsome : ∀ c ∈ s.toList, (decimalValue c).isSome = true := by
      intro c hc
      rw [Option.isSome_iff_ne_none]
      exact fun hnone => hother ⟨c, hc, hnone⟩
    rw [List.filter_eq_self.mpr hsome]
    by_cases hlong : maxStrDigits < s.toList.length
    · exact .inl ⟨⟨h, .inr hlong⟩, if_pos hlong⟩
    · refine .inr ⟨?_, digitsValue s.toList, ⟨hne, hsome, rfl⟩, ?_⟩
      · rintro ⟨-, hbad | hbad⟩
        · exact hother hbad
        · exact hlong hbad
      · rw [if_neg hlong, intDigits_some hsome]
        rfl

/-! ## Parts -/

theorem partition_of_not_mem (h : c ∉ s.toList) : partition c s = (s, false, "") := by
  have hall : ∀ x ∈ s.toList, decide (x ≠ c) = true := fun x hx =>
    decide_eq_true fun hxc => h (hxc ▸ hx)
  rw [partition, List.takeWhile_eq_self_iff.mpr hall, List.dropWhile_eq_nil_iff.mpr hall, String.ofList_toList]
  rfl

theorem partition_of_mem {b r : String} (hb : c ∉ b.toList) (hs : s.toList = b.toList ++ c :: r.toList) :
    partition c s = (b, true, r) := by
  have hall : ∀ x ∈ b.toList, decide (x ≠ c) = true := fun x hx =>
    decide_eq_true fun hxc => hb (hxc ▸ hx)
  rw [partition, hs, List.takeWhile_append_of_pos hall, List.dropWhile_append_of_pos hall,
    List.takeWhile_cons_of_neg (by simp), List.dropWhile_cons_of_neg (by simp), List.append_nil, List.tail_cons,
    String.ofList_toList, String.ofList_toList]
  rfl

theorem partition_cases (c : Char) (s : String) : (c ∉ s.toList ∧ partition c s = (s, false, "")) ∨
    ∃ b r : String, c ∉ b.toList ∧ s.toList = b.toList ++ c :: r.toList ∧ partition c s = (b, true, r) := by
  by_cases h : c ∈ s.toList
  · obtain ⟨b, r, hs, hb⟩ := List.eq_append_cons_of_mem h
    have hs' : s.toList = (String.ofList b).toList ++ c :: (String.ofList r).toList := by
      rw [String.toList_ofList, String.toList_ofList, hs]
    have hb' : c ∉ (String.ofList b).toList := by
      rw [String.toList_ofList]
      exact hb
    exact .inr ⟨String.ofList b, String.ofList r, hb', hs', partition_of_mem hb' hs'⟩
  · exact .inl ⟨h, partition_of_not_mem h⟩

end PyText
