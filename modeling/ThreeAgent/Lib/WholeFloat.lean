/-
A concrete float type for runs that can be evaluated: the whole numbers, with
`float(n)` rounding to 53 bits as binary64 does, written with the fraction
`.0`. The times it reads are those in UTC, to the second.
-/
import Mathlib.Data.Prod.Lex
import ThreeAgent.Lib.PythonJson

namespace PyJson

/-- A float that is a whole number. -/
structure WholeFloat where
  value : Int
  deriving DecidableEq, Repr

namespace WholeFloat

/-- The nearest integer of 53 significant bits, ties to even. -/
def round53 (n : Nat) : Nat :=
  let unit := 2 ^ (Nat.log2 n - 52)
  Clock.roundHalfEven n unit * unit

/-- `float(n)`. -/
def ofInt (n : Int) : Option WholeFloat :=
  if n.natAbs < 2 ^ 1024 then some ⟨if n < 0 then -(round53 n.natAbs : Int) else round53 n.natAbs⟩ else none

def digits (x : WholeFloat) : FloatToken where
  negative := decide (x.value < 0)
  whole := Nat.toDigits 10 x.value.natAbs
  fraction := ['0']
  exponent := none

theorem digits_valid (x : WholeFloat) : x.digits.Valid where
  whole_ne := Nat.toDigits_ne_nil
  whole_digits := toDigits_isDigit
  whole_lead := toDigits_head
  fraction_digits := by simp [digits, isDigit]
  exponent_mark := by simp [digits]
  not_int := by simp [digits]

/-- The number of a token's whole part. -/
def ofToken (cs : List Char) : WholeFloat :=
  match cs with
  | '-' :: cs => ⟨-(natOfDigits (cs.takeWhile isDigit) : Int)⟩
  | cs => ⟨(natOfDigits (cs.takeWhile isDigit) : Int)⟩

theorem ofToken_digits (x : WholeFloat) : ofToken x.digits.text = x := by
  have hwhole := (takeWhile_digits (r := '.' :: ['0']) (toDigits_isDigit (n := x.value.natAbs)) (by simp [isDigit])).1
  have hval : natOfDigits (Nat.toDigits 10 x.value.natAbs) = x.value.natAbs := Nat.ofDigitChars_ten_toDigits
  obtain ⟨v⟩ := x
  by_cases h : v < 0
  · have htext : (digits ⟨v⟩).text = '-' :: (Nat.toDigits 10 v.natAbs ++ '.' :: ['0']) := by
      simp [digits, FloatToken.text, FloatToken.exponentText, h]
    rw [htext, ofToken, hwhole, hval]
    congr 1
    show -((v.natAbs : Nat) : Int) = v
    omega
  · have htext : (digits ⟨v⟩).text = Nat.toDigits 10 v.natAbs ++ '.' :: ['0'] := by
      simp [digits, FloatToken.text, FloatToken.exponentText, h]
    obtain ⟨c, cs, hcs⟩ := List.exists_cons_of_ne_nil (Nat.toDigits_ne_nil (n := v.natAbs) (b := 10))
    have hc : isDigit c = true := toDigits_isDigit (n := v.natAbs) c (by simp [hcs])
    have hne : c ≠ '-' := by
      rintro rfl
      exact absurd hc (by decide)
    rw [htext, hcs, List.cons_append, ofToken]
    · rw [← List.cons_append, ← hcs, hwhole, hval]
      congr 1
      show ((v.natAbs : Nat) : Int) = v
      omega
    · intro cs' he
      exact hne (List.cons.inj he).1

/-- The value of a number. -/
def numValue : Num WholeFloat → Int
  | .int n => n
  | .float x => x.value

instance : PyFloat WholeFloat where
  isFinite _ := true
  repr x := x.digits.text
  ofToken := ofToken
  nan := ⟨0⟩
  inf := ⟨0⟩
  negInf := ⟨0⟩
  ofInt := ofInt
  isZero x := decide (x.value = 0)
  eqInt x n := decide (x.value = n)
  lt a b := decide (numValue a < numValue b)
  sum xs := some ⟨(xs.map numValue).sum⟩
  repr_token x _ := ⟨x.digits, digits_valid x, rfl⟩
  ofToken_repr x _ := ofToken_digits x
  lt_int x n h m := by
    rw [decide_eq_true_eq] at h
    subst h
    rfl
  int_lt x n h m := by
    rw [decide_eq_true_eq] at h
    subst h
    rfl
  lt_float x n h y := by
    rw [decide_eq_true_eq] at h
    subst h
    rfl
  float_lt x n h y := by
    rw [decide_eq_true_eq] at h
    subst h
    rfl

/-- Days from the epoch to a date. -/
def daysFromCivil (y m d : Int) : Int :=
  let y := if m ≤ 2 then y - 1 else y
  let era := y / 400
  let yoe := y - era * 400
  let doy := (153 * (m + (if m > 2 then -3 else 9)) + 2) / 5 + d - 1
  era * 146097 + (yoe * 365 + yoe / 4 - yoe / 100 + doy) - 719468

/-- `datetime.fromisoformat` of a time in UTC to the second, `none` for every other text. -/
def fromIso (text : String) : Option DateTime :=
  match text.toList with
  | [y1, y2, y3, y4, '-', m1, m2, '-', d1, d2, 'T', h1, h2, ':', n1, n2, ':', s1, s2, '+', '0', '0', ':', '0', '0'] =>
    let parts := [[y1, y2, y3, y4], [m1, m2], [d1, d2], [h1, h2], [n1, n2], [s1, s2]]
    if parts.all (·.all isDigit) then
      match parts.map fun p => (natOfDigits p : Int) with
      | [y, m, d, h, n, s] =>
        some ⟨(daysFromCivil y m d * 86400 + h * 3600 + n * 60 + s) * 1000000, some 0⟩
      | _ => none
    else none
  | _ => none

instance : PyRuntime WholeFloat where
  containerText _ := ""
  truncate x := some x.value
  fromIso := fromIso
  realColumn x := x

instance : JsonFloat WholeFloat where
  isNan _ := false
  eq_nan _ h _ := by cases h
  eq_inf _ h _ _ := by cases h
  eq_negInf _ h _ _ := by cases h

example : fromIso "2026-01-01T00:00:00+00:00" = some ⟨1767225600000000, some 0⟩ := by decide
example : ofInt 9007199254740995 = some ⟨9007199254740996⟩ := by decide +kernel

/-! ## Sorting keys -/

/-- Where a key stands: strings, numbers, `None`. -/
def keyRank : Key WholeFloat → Nat ×ₗ Int ×ₗ String
  | .str s => toLex (0, toLex (0, s))
  | .num n => toLex (1, toLex (numValue n, ""))
  | .bool b => toLex (1, toLex (if b then 1 else 0, ""))
  | .none => toLex (2, toLex (0, ""))

theorem numValue_lt {m n : Num WholeFloat} (h : Num.lt m n = true) : numValue m < numValue n := by
  cases m <;> cases n <;> exact of_decide_eq_true h

theorem keyRank_lt {a b : Key WholeFloat} (h : a.lt b = true) : keyRank a < keyRank b := by
  have hnumber : ∀ {k : Key WholeFloat} {n : Num WholeFloat}, k.number? = some n →
      keyRank k = toLex (1, toLex (numValue n, "")) := by
    intro k n hk
    cases k with
    | num m =>
      cases hk
      rfl
    | bool b =>
      cases hk
      rfl
    | str s => cases hk
    | none => cases hk
  have hnumbers : ∀ {m n : Num WholeFloat}, a.number? = some m → b.number? = some n → Num.lt m n = true →
      keyRank a < keyRank b := by
    intro m n hm hn hlt
    rw [hnumber hm, hnumber hn]
    exact Prod.Lex.right _ (Prod.Lex.left _ _ (numValue_lt hlt))
  cases a with
  | str s =>
    cases b with
    | str t => exact Prod.Lex.right _ (Prod.Lex.right _ (of_decide_eq_true h))
    | _ => cases h
  | none => cases b <;> cases h
  | num m =>
    cases b with
    | num n => exact hnumbers rfl rfl h
    | bool b => exact hnumbers rfl rfl h
    | _ => cases h
  | bool c =>
    cases b with
    | num n => exact hnumbers rfl rfl h
    | bool d => exact hnumbers rfl rfl h
    | _ => cases h

instance : SortsItems WholeFloat where
  sort items := items.insertionSort fun a b => keyRank a.1 ≤ keyRank b.1
  perm items := List.perm_insertionSort _ items
  ascending items h := by
    have hsorted : (items.insertionSort fun a b => keyRank a.1 ≤ keyRank b.1).Pairwise fun a b => keyRank a.1 ≤ keyRank b.1 := by
      have htotal : Std.Total fun a b : Key WholeFloat × Json WholeFloat => keyRank a.1 ≤ keyRank b.1 := ⟨fun _ _ => le_total _ _⟩
      have htrans : IsTrans (Key WholeFloat × Json WholeFloat) fun a b => keyRank a.1 ≤ keyRank b.1 := ⟨fun _ _ _ => le_trans⟩
      exact List.pairwise_insertionSort _ items
    have hcompared := (List.Perm.pairwise_iff (fun hab => hab.symm)
      (List.perm_insertionSort (fun a b => keyRank a.1 ≤ keyRank b.1) items)).mpr h
    refine (hsorted.and hcompared).imp ?_
    intro a b ⟨hle, hlt⟩
    rcases hlt with hlt | hlt
    · exact hlt
    · exact absurd (keyRank_lt hlt) (not_lt.mpr hle)

example : (Value.obj [(.num (.int 10), .null), (.num (.int 9), .null)] : Value WholeFloat).dumps =
    some "\x7b\"9\":null,\"10\":null\x7d" := by decide +kernel

end WholeFloat

end PyJson
