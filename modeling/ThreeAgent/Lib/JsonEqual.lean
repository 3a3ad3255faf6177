/-
`==` of two JSON values: numbers by value, whatever their types, and
containers by their parts. A NaN equals nothing; but the reader has one object
for it, and two containers take a part that is the same object as equal.
-/
import ThreeAgent.Lib.WholeFloat

namespace PyJson

/-- Floats that are compared. -/
class EqFloat (F : Type) extends JsonFloat F where
  /-- `x == y`. -/
  eq : F → F → Bool
  eq_right : ∀ x y, eq x y = true → eq y y = true
  eq_of_eqInt : ∀ x n, PyFloat.eqInt x n = true → eq x x = true

instance : EqFloat WholeFloat where
  eq x y := decide (x = y)
  eq_right _ y _ := decide_eq_true (Eq.refl y)
  eq_of_eqInt x _ _ := decide_eq_true (Eq.refl x)

variable {F : Type} [EqFloat F]

namespace Num

/-- `a == b`. -/
def same : Num F → Num F → Bool
  | .int a, .int b => a = b
  | .int a, .float y => PyFloat.eqInt y a
  | .float x, .int b => PyFloat.eqInt x b
  | .float x, .float y => EqFloat.eq x y

theorem same_right {a b : Num F} (h : same a b = true) : same b b = true := by
  cases b with
  | int b => simp [same]
  | float y =>
    cases a with
    | int a => exact EqFloat.eq_of_eqInt y a h
    | float x => exact EqFloat.eq_right x y h

end Num

namespace Json

/-- The number that a value is, a truth value being one or zero. -/
def number? : Json F → Option (Num F)
  | .bool b => some (.int (if b then 1 else 0))
  | .int n => some (.int n)
  | .float x => some (.float x)
  | _ => none

/-- `v == w` where neither is a container. -/
def sameScalar (v w : Json F) : Bool :=
  match v, w with
  | .null, .null => true
  | .str s, .str t => s = t
  | v, w =>
    match v.number?, w.number? with
    | some a, some b => Num.same a b
    | _, _ => false

def isNan : Json F → Bool
  | .float x => JsonFloat.isNan x
  | _ => false

mutual

/-- `v == w`. -/
def same : Json F → Json F → Bool
  | .arr xs, w => match w with
    | .arr ys => sameElems xs ys
    | _ => false
  | .obj kvs, w => match w with
    | .obj kvs' => sameEntries kvs kvs'
    | _ => false
  | v, w => sameScalar v w

def sameElems : List (Json F) → List (Json F) → Bool
  | [], [] => true
  | x :: xs, y :: ys => (x.isNan && y.isNan || same x y) && sameElems xs ys
  | _, _ => false

/-- The entries stand in key order. -/
def sameEntries : List (String × Json F) → List (String × Json F) → Bool
  | [], [] => true
  | (k, v) :: kvs, (k', v') :: kvs' => decide (k = k') && (v.isNan && v'.isNan || same v v') && sameEntries kvs kvs'
  | _, _ => false

end

theorem sameScalar_right {v w : Json F} (h : sameScalar v w = true) : same w w = true := by
  cases w with
  | null => rfl
  | str t => simp [same, sameScalar]
  | arr ys => cases v <;> simp [sameScalar, number?] at h
  | obj kvs => cases v <;> simp [sameScalar, number?] at h
  | bool b => simp [same, sameScalar, number?, Num.same]
  | int n => simp [same, sameScalar, number?, Num.same]
  | float y =>
    cases v with
    | bool b => exact @Num.same_right F _ (.int (if b then 1 else 0)) (.float y) h
    | int n => exact @Num.same_right F _ (.int n) (.float y) h
    | float x => exact @Num.same_right F _ (.float x) (.float y) h
    | _ => cases h

theorem samePart_right {v w : Json F} (hright : same v w = true → same w w = true)
    (h : (v.isNan && w.isNan || same v w) = true) : (w.isNan && w.isNan || same w w) = true := by
  rw [Bool.or_eq_true, Bool.and_eq_true] at h ⊢
  exact h.imp (fun hnan => ⟨hnan.2, hnan.2⟩) hright

mutual

/-- What another value equals equals itself. -/
theorem same_right : ∀ {v w : Json F}, same v w = true → same w w = true
  | .arr xs, w, h => by
    cases w with
    | arr ys => exact sameElems_right h
    | _ => simp [same] at h
  | .obj kvs, w, h => by
    cases w with
    | obj kvs' => exact sameEntries_right h
    | _ => simp [same] at h
  | .null, _, h => sameScalar_right (by simpa only [same] using h)
  | .bool _, _, h => sameScalar_right (by simpa only [same] using h)
  | .int _, _, h => sameScalar_right (by simpa only [same] using h)
  | .float _, _, h => sameScalar_right (by simpa only [same] using h)
  | .str _, _, h => sameScalar_right (by simpa only [same] using h)

theorem sameElems_right : ∀ {xs ys : List (Json F)}, sameElems xs ys = true → sameElems ys ys = true
  | [], [], _ => rfl
  | [], _ :: _, h => by cases h
  | _ :: _, [], h => by cases h
  | x :: xs, y :: ys, h => by
    rw [sameElems, Bool.and_eq_true] at h ⊢
    exact ⟨samePart_right (same_right (v := x)) h.1, sameElems_right h.2⟩

theorem sameEntries_right : ∀ {kvs kvs' : List (String × Json F)}, sameEntries kvs kvs' = true → sameEntries kvs' kvs' = true
  | [], [], _ => rfl
  | [], _ :: _, h => by cases h
  | _ :: _, [], h => by cases h
  | (k, v) :: kvs, (k', v') :: kvs', h => by
    rw [sameEntries, Bool.and_eq_true, Bool.and_eq_true] at h ⊢
    exact ⟨⟨decide_eq_true rfl, samePart_right (same_right (v := v)) h.1.2⟩, sameEntries_right h.2⟩

end

end Json

end PyJson
