/-
Numbers written with leading zeros: their digits, their length, what `int`
reads of them and how their texts are ordered.

Texts of one length are ordered as the numbers they write (`lt_of_lt`); a text
that is longer need not be.
-/
import ThreeAgent.Lib.Clock
import ThreeAgent.Lib.Digits
import ThreeAgent.Lib.JsonFacts

namespace Padded

open PyText PyJson Clock

variable {w k m : Nat}

theorem padded_eq : padded w (k : Int) = List.replicate (w - (Nat.toDigits 10 k).length) '0' ++ Nat.toDigits 10 k := rfl

theorem isDigit_padded : ∀ c ∈ padded w (k : Int), isDigit c = true := by
  intro c hc
  rw [padded_eq, List.mem_append] at hc
  rcases hc with hc | hc
  · rw [List.eq_of_mem_replicate hc]
    decide
  · exact toDigits_isDigit c hc

theorem ofDigitChars_padded : Nat.ofDigitChars 10 (padded w (k : Int)) 0 = k := by
  rw [padded_eq, Nat.ofDigitChars_append, Nat.ofDigitChars_replicate_zero, Nat.mul_zero,
    Nat.ofDigitChars_ten_toDigits]

theorem padded_inj (h : padded w (k : Int) = padded w (m : Int)) : k = m := by
  rw [← ofDigitChars_padded (w := w) (k := k), h, ofDigitChars_padded]

theorem length_padded (hw : 0 < w) (hk : k < 10 ^ w) : (padded w (k : Int)).length = w := by
  have hle : (Nat.toDigits 10 k).length ≤ w := (Nat.length_toDigits_le_iff (by decide) hw).mpr hk
  rw [padded_eq, List.length_append, List.length_replicate]
  omega

theorem padded_ne_nil : padded w (k : Int) ≠ [] := by
  rw [padded_eq]
  exact List.append_ne_nil_of_right_ne_nil _ Nat.toDigits_ne_nil

/-! ## Reading -/

theorem decimalValue_isDigit {c : Char} (h : isDigit c = true) : decimalValue c = some (c.toNat - '0'.toNat) := by
  rcases isDigit_cases h with rfl | rfl | rfl | rfl | rfl | rfl | rfl | rfl | rfl | rfl <;> decide

theorem digitsValue_eq {cs : List Char} (h : ∀ c ∈ cs, isDigit c = true) : digitsValue cs = Nat.ofDigitChars 10 cs 0 := by
  have key : ∀ (cs : List Char) (n : Nat), (∀ c ∈ cs, isDigit c = true) →
      cs.foldl (fun n c => 10 * n + (decimalValue c).getD 0) n = Nat.ofDigitChars 10 cs n := by
    intro cs
    induction cs with
    | nil => exact fun _ _ => rfl
    | cons c cs ih =>
      intro n h
      rw [List.foldl_cons, Nat.ofDigitChars_cons, decimalValue_isDigit (h c (by simp)), Option.getD_some]
      exact ih _ fun d hd => h d (by simp [hd])
  exact key cs 0 h

theorem decimal_padded : Decimal (String.ofList (padded w (k : Int))) k := by
  refine ⟨?_, ?_, ?_⟩
  · rw [ne_eq, ← String.toList_eq_nil_iff, String.toList_ofList]
    exact padded_ne_nil
  · intro c hc
    rw [String.toList_ofList] at hc
    rw [decimalValue_isDigit (isDigit_padded c hc)]
    rfl
  · rw [String.toList_ofList, digitsValue_eq isDigit_padded, ofDigitChars_padded]

theorem int?_padded (h : (padded w (k : Int)).length ≤ maxStrDigits) :
    int? (String.ofList (padded w (k : Int))) = some (k : Int) := by
  have hdecimal := decimal_padded (w := w) (k := k)
  rcases int?_digits hdecimal.digits with ⟨⟨-, hbad⟩, -⟩ | ⟨-, n, hn, hread⟩
  · rw [String.toList_ofList] at hbad
    rcases hbad with ⟨c, hc, hnone⟩ | hlong
    · rw [decimalValue_isDigit (isDigit_padded c hc)] at hnone
      cases hnone
    · omega
  · rw [hread, hn.unique hdecimal]

/-! ## Order -/

theorem ofDigitChars_lt_of_lt {xs ys : List Char} (hlen : xs.length = ys.length) (hxs : ∀ c ∈ xs, isDigit c = true)
    {n m : Nat} (h : n < m) : Nat.ofDigitChars 10 xs n < Nat.ofDigitChars 10 ys m := by
  induction xs generalizing ys n m with
  | nil =>
    rw [List.length_nil, eq_comm, List.length_eq_zero_iff] at hlen
    subst hlen
    exact h
  | cons x xs ih =>
    cases ys with
    | nil => cases hlen
    | cons y ys =>
      have hx : x.toNat - '0'.toNat ≤ 9 := by
        rcases isDigit_cases (hxs x (by simp)) with rfl | rfl | rfl | rfl | rfl | rfl | rfl | rfl | rfl | rfl <;> decide
      rw [Nat.ofDigitChars_cons, Nat.ofDigitChars_cons]
      exact ih (Nat.succ.inj hlen) (fun c hc => hxs c (by simp [hc])) (by omega)

theorem ofDigitChars_lt {xs ys : List Char} (hlen : xs.length = ys.length) (hxs : ∀ c ∈ xs, isDigit c = true)
    (h : xs < ys) {n : Nat} : Nat.ofDigitChars 10 xs n < Nat.ofDigitChars 10 ys n := by
  induction xs generalizing ys n with
  | nil =>
    rw [List.length_nil, eq_comm, List.length_eq_zero_iff] at hlen
    subst hlen
    exact absurd h (List.not_lt_nil _)
  | cons x xs ih =>
    cases ys with
    | nil => cases hlen
    | cons y ys =>
      rw [Nat.ofDigitChars_cons, Nat.ofDigitChars_cons]
      have htail : ∀ c ∈ xs, isDigit c = true := fun c hc => hxs c (by simp [hc])
      rcases List.cons_lt_cons_iff.mp h with hxy | ⟨rfl, hrest⟩
      · have hx : '0'.toNat ≤ x.toNat := by
          rcases isDigit_cases (hxs x (by simp)) with rfl | rfl | rfl | rfl | rfl | rfl | rfl | rfl | rfl | rfl <;> decide
        have hlt : x.toNat < y.toNat := hxy
        exact ofDigitChars_lt_of_lt (Nat.succ.inj hlen) htail (by omega)
      · exact ih (Nat.succ.inj hlen) htail hrest

theorem lt_of_lt (hw : 0 < w) (hm : m < 10 ^ w) (h : k < m) : padded w (k : Int) < padded w (m : Int) := by
  have hlen : (padded w (m : Int)).length = (padded w (k : Int)).length := by
    rw [length_padded hw hm, length_padded hw (by omega)]
  rcases lt_trichotomy (padded w (k : Int)) (padded w (m : Int)) with hlt | heq | hgt
  · exact hlt
  · exact absurd (padded_inj heq) (by omega)
  · have := ofDigitChars_lt (n := 0) hlen isDigit_padded hgt
    rw [ofDigitChars_padded, ofDigitChars_padded] at this
    omega

end Padded
