/-
Unsigned integers of a fixed width as bytes, in either order: what is read from
bytes is below the power of their number, and each side gives the other back.
-/
import Mathlib.Data.Nat.ModEq
import Mathlib.Algebra.Order.Ring.Nat
import Mathlib.Tactic.Ring

/-- The end that comes first. -/
inductive ByteOrder
  | little
  | big
  deriving DecidableEq, Repr

namespace ByteOrder

/-- The number of bytes, the lowest first. -/
def littleNat : List UInt8 → Nat
  | [] => 0
  | b :: bs => b.toNat + 256 * littleNat bs

/-- The lowest bytes of a number, the lowest first. -/
def littleBytes : Nat → Nat → List UInt8
  | 0, _ => []
  | width + 1, n => UInt8.ofNat (n % 256) :: littleBytes width (n / 256)

/-- `struct.unpack` of one unsigned integer. -/
def unpack : ByteOrder → List UInt8 → Nat
  | little, bytes => littleNat bytes
  | big, bytes => littleNat bytes.reverse

/-- `struct.pack` of one unsigned integer. -/
def pack : ByteOrder → Nat → Nat → List UInt8
  | little, width, n => littleBytes width n
  | big, width, n => (littleBytes width n).reverse

variable {order : ByteOrder} {width n : Nat} {bytes : List UInt8}

theorem length_littleBytes : (littleBytes width n).length = width := by
  induction width generalizing n with
  | zero => rfl
  | succ width ih => rw [littleBytes, List.length_cons, ih]

theorem littleNat_littleBytes (h : n < 256 ^ width) : littleNat (littleBytes width n) = n := by
  induction width generalizing n with
  | zero =>
    rw [Nat.pow_zero] at h
    rw [littleBytes, littleNat]
    omega
  | succ width ih =>
    have hbyte : (UInt8.ofNat (n % 256)).toNat = n % 256 := by
      rw [UInt8.toNat_ofNat']
      omega
    rw [littleBytes, littleNat, hbyte, ih (by rw [Nat.pow_succ] at h; omega)]
    omega

theorem littleBytes_littleNat : littleBytes bytes.length (littleNat bytes) = bytes := by
  induction bytes with
  | nil => rfl
  | cons b bs ih =>
    have hb := b.toNat_lt
    have hmod : (b.toNat + 256 * littleNat bs) % 256 = b.toNat := by omega
    have hdiv : (b.toNat + 256 * littleNat bs) / 256 = littleNat bs := by omega
    rw [List.length_cons, littleNat, littleBytes, hmod, hdiv, ih, UInt8.ofNat_toNat]

theorem littleNat_lt : littleNat bytes < 256 ^ bytes.length := by
  induction bytes with
  | nil => exact Nat.one_pos
  | cons b bs ih =>
    have hb := b.toNat_lt
    rw [littleNat, List.length_cons, Nat.pow_succ]
    omega

@[simp] theorem length_pack : (pack order width n).length = width := by
  cases order with
  | little => exact length_littleBytes
  | big => rw [pack, List.length_reverse, length_littleBytes]

theorem unpack_pack (h : n < 256 ^ width) : unpack order (pack order width n) = n := by
  cases order with
  | little => exact littleNat_littleBytes h
  | big => rw [pack, unpack, List.reverse_reverse, littleNat_littleBytes h]

theorem pack_unpack : pack order bytes.length (unpack order bytes) = bytes := by
  cases order with
  | little => exact littleBytes_littleNat
  | big =>
    have h := @littleBytes_littleNat bytes.reverse
    rw [List.length_reverse] at h
    rw [pack, unpack, h, List.reverse_reverse]

theorem unpack_lt : unpack order bytes < 256 ^ bytes.length := by
  cases order with
  | little => exact littleNat_lt
  | big =>
    rw [unpack, ← List.length_reverse]
    exact littleNat_lt

/-! ## Fields of a longer text -/

/-- The field that starts there. -/
def field (order : ByteOrder) (data : List UInt8) (start width : Nat) : Nat :=
  unpack order ((data.drop start).take width)

variable {data front back : List UInt8} {start : Nat}

theorem field_lt (h : start + width ≤ data.length) : field order data start width < 256 ^ width := by
  have hlen : ((data.drop start).take width).length = width := by
    rw [List.length_take, List.length_drop]
    omega
  have hlt := @unpack_lt order ((data.drop start).take width)
  rwa [hlen] at hlt

theorem field_drop {m : Nat} : field order (data.drop m) start width = field order data (m + start) width := by
  rw [field, field, List.drop_drop]

theorem field_skip (h : front.length = start) {m : Nat} :
    field order (front ++ back) (start + m) width = field order back m width := by
  rw [← field_drop, ← h, List.drop_left]

theorem field_pack (h : n < 256 ^ width) : field order (pack order width n ++ back) 0 width = n := by
  rw [field, List.drop_zero, List.take_left' length_pack, unpack_pack h]

theorem pack_field (h : start + width ≤ data.length) :
    pack order width (field order data start width) ++ data.drop (start + width) = data.drop start := by
  have hlen : ((data.drop start).take width).length = width := by
    rw [List.length_take, List.length_drop]
    omega
  have hpack := @pack_unpack order ((data.drop start).take width)
  rw [hlen] at hpack
  rw [field, hpack, ← List.drop_drop, List.take_append_drop]

end ByteOrder
