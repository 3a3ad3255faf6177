/-
Instants of a wall clock, in microseconds since the Unix epoch, as an aware
`datetime` in UTC denotes them: their range, their ISO text, and the binary64
number of seconds between two of them.
-/
import Mathlib.Tactic.Ring
import ThreeAgent.Lib.Outcome

namespace Clock

/-- `datetime.min` and `datetime.max` in UTC. -/
def minInstant : Int := -62135596800000000
def maxInstant : Int := 253402300799999999

/-- `t + timedelta(microseconds=us)`; the `OverflowError` of a date out of range is `overflow`. -/
def plus {ε : Type} (overflow : ε) (t : Int) (us : Int) : Except ε Int := do
  Outcome.require (minInstant ≤ t + us ∧ t + us ≤ maxInstant) overflow
  return t + us

theorem plus_ok {ε : Type} {overflow : ε} {t t' : Int} {us : Int} (h : plus overflow t us = .ok t') :
    t' = t + us := by
  simp only [plus, Outcome.bind_ok, Outcome.pure_ok] at h
  obtain ⟨_, -, rfl⟩ := h
  rfl

/-- The microseconds of a minute. -/
def minute : Int := 60000000

/-- `t.replace(second=0, microsecond=0)`. -/
def floorMinute (t : Int) : Int := t / minute * minute

theorem lt_floorMinute_add (t : Int) : t < floorMinute t + minute := by
  unfold floorMinute minute
  omega

/-! ## ISO texts -/

/-- Year, month and day of a day number of the proleptic Gregorian calendar, counted from the epoch. -/
def civil (day : Int) : Int × Int × Int :=
  let z := day + 719468
  let era := z / 146097
  let doe := z - era * 146097
  let yoe := (doe - doe / 1460 + doe / 36524 - doe / 146096) / 365
  let doy := doe - (365 * yoe + yoe / 4 - yoe / 100)
  let mp := (5 * doy + 2) / 153
  let d := doy - (153 * mp + 2) / 5 + 1
  let m := if mp < 10 then mp + 3 else mp - 9
  (yoe + era * 400 + (if m ≤ 2 then 1 else 0), m, d)

/-- A number written with at least `width` digits. -/
def padded (width : Nat) (n : Int) : List Char :=
  let digits := Nat.toDigits 10 n.toNat
  List.replicate (width - digits.length) '0' ++ digits

/-- `t.isoformat()` of an instant in UTC: the fraction is left out when it is zero. -/
def iso (t : Int) : String :=
  let us := t % 1000000
  let secs := t / 1000000
  let sod := secs % 86400
  let (y, m, d) := civil (secs / 86400)
  String.ofList <|
    padded 4 y ++ '-' :: padded 2 m ++ '-' :: padded 2 d ++ 'T' :: padded 2 (sod / 3600) ++
      ':' :: padded 2 (sod / 60 % 60) ++ ':' :: padded 2 (sod % 60) ++
      (if us = 0 then [] else '.' :: padded 6 us) ++ ['+', '0', '0', ':', '0', '0']

example : iso 0 = "1970-01-01T00:00:00+00:00" := by decide
example : iso 1709210096000007 = "2024-02-29T12:34:56.000007+00:00" := by decide
example : iso minInstant = "0001-01-01T00:00:00+00:00" := by decide

/-! ## Seconds as a binary64 number -/

/-- The integer nearest to `n / d`, ties to even. -/
def roundHalfEven (n d : Nat) : Nat :=
  let q := n / d
  let r := n % d
  if 2 * r < d then q else if d < 2 * r then q + 1 else if q % 2 = 0 then q else q + 1

theorem le_roundHalfEven {n d m : Nat} (hd : 0 < d) (h : m * d ≤ n) : m ≤ roundHalfEven n d := by
  have hq : m ≤ n / d := (Nat.le_div_iff_mul_le hd).mpr h
  unfold roundHalfEven
  simp only
  split_ifs <;> omega

/-- The binary exponent at which `us / 10^6` seconds has a 53-bit significand. -/
def secondsScale (us : Nat) : Nat := Nat.log2 ((2 ^ 53 * 1000000 - 1) / us)

/-- `int(elapsed // divisor)` for `elapsed = timedelta(microseconds=us).total_seconds()`: the seconds are
the nearest binary64 number `r / 2 ^ k`, and the division of it by an integer floors exactly. -/
def secondsFloorDiv (us divisor : Nat) : Nat :=
  roundHalfEven (us * 2 ^ secondsScale us) 1000000 / (2 ^ secondsScale us * divisor)

/-- **Rounding never loses a whole period.** A multiple of the divisor is itself a binary64 number, so
the seconds are not rounded below it. -/
theorem lt_secondsFloorDiv {us divisor : Nat} (hd : 0 < divisor) :
    us < (secondsFloorDiv us divisor + 1) * divisor * 1000000 := by
  set k := secondsScale us with hk
  set q := us / (divisor * 1000000) with hq
  have hpos : 0 < divisor * 1000000 := Nat.mul_pos hd (by decide)
  have hle : q * (divisor * 1000000) ≤ us := Nat.div_mul_le_self us _
  have hlt : us < (q + 1) * (divisor * 1000000) := by
    rw [hq, Nat.mul_comm]
    exact Nat.lt_mul_div_succ us hpos
  have hround : q * (2 ^ k * divisor) ≤ roundHalfEven (us * 2 ^ k) 1000000 := by
    apply le_roundHalfEven (by decide)
    calc q * (2 ^ k * divisor) * 1000000 = q * (divisor * 1000000) * 2 ^ k := by ring
      _ ≤ us * 2 ^ k := Nat.mul_le_mul_right _ hle
  have hfloor : q ≤ secondsFloorDiv us divisor := by
    rw [secondsFloorDiv, ← hk]
    exact (Nat.le_div_iff_mul_le (Nat.mul_pos (Nat.two_pow_pos k) hd)).mpr hround
  calc us < (q + 1) * (divisor * 1000000) := hlt
    _ ≤ (secondsFloorDiv us divisor + 1) * (divisor * 1000000) :=
      Nat.mul_le_mul_right _ (Nat.succ_le_succ hfloor)
    _ = (secondsFloorDiv us divisor + 1) * divisor * 1000000 := by ring

end Clock
