/-
UTF-8: `str.encode("utf-8")`, the strict `bytes.decode("utf-8")`, and
`bytes.decode("utf-8", errors="replace")`, where each ill-formed part, as long
as it could still have begun a character, becomes one replacement character.
-/
import Mathlib.Data.List.Basic

namespace Utf8

/-- `text.encode("utf-8")`. -/
def encode (text : String) : List UInt8 := text.toList.flatMap String.utf8EncodeChar

/-- `bytes.decode("utf-8")`, `none` for the `UnicodeDecodeError`. -/
def decode? (bytes : List UInt8) : Option String := String.fromUTF8? bytes.toByteArray

theorem decode?_encode (text : String) : decode? (encode text) = some text := by
  have hbytes : (encode text).toByteArray = text.toByteArray := String.utf8Encode_toList
  rw [decode?, hbytes, String.fromUTF8?, dif_pos text.isValidUTF8]
  rfl

theorem length_encode_le (cs : List Char) : (encode (String.ofList cs)).length ≤ 4 * cs.length := by
  rw [encode, String.toList_ofList]
  induction cs with
  | nil => exact Nat.le_refl _
  | cons c cs ih =>
    have hchar := c.utf8Size_le_four
    rw [List.flatMap_cons, List.length_append, String.length_utf8EncodeChar, List.length_cons]
    omega

/-- U+FFFD. -/
def replacement : Char := Char.ofNat 0xFFFD

def within (lo hi b : UInt8) : Bool := lo ≤ b && b ≤ hi

/-- The bytes that may follow the first byte of a character, `none` where it starts none. -/
def continuations (b : UInt8) : Option (List (UInt8 × UInt8)) :=
  if b < 0x80 then some []
  else if within 0xC2 0xDF b then some [(0x80, 0xBF)]
  else if b = 0xE0 then some [(0xA0, 0xBF), (0x80, 0xBF)]
  else if b = 0xED then some [(0x80, 0x9F), (0x80, 0xBF)]
  else if within 0xE1 0xEF b then some [(0x80, 0xBF), (0x80, 0xBF)]
  else if b = 0xF0 then some [(0x90, 0xBF), (0x80, 0xBF), (0x80, 0xBF)]
  else if within 0xF1 0xF3 b then some [(0x80, 0xBF), (0x80, 0xBF), (0x80, 0xBF)]
  else if b = 0xF4 then some [(0x80, 0x8F), (0x80, 0xBF), (0x80, 0xBF)]
  else none

/-- The bits of the first byte that belong to the character. -/
def firstBits (b : UInt8) : Nat :=
  if b < 0x80 then b.toNat else if b < 0xE0 then b.toNat % 32 else if b < 0xF0 then b.toNat % 16 else b.toNat % 8

/-- The character whose bits so far are `n` and whose further bytes lie in `ranges`, with the bytes
after it; a byte out of its range is left for the next character. -/
def character : List (UInt8 × UInt8) → Nat → List UInt8 → Char × List UInt8
  | [], n, rest => (Char.ofNat n, rest)
  | _ :: _, _, [] => (replacement, [])
  | (lo, hi) :: ranges, n, b :: rest =>
    if within lo hi b then character ranges (64 * n + b.toNat % 64) rest else (replacement, b :: rest)

/-- The characters of a byte string; the fuel is its length. -/
def decodeList : Nat → List UInt8 → List Char
  | 0, _ => []
  | _ + 1, [] => []
  | fuel + 1, b :: rest =>
    match continuations b with
    | none => replacement :: decodeList fuel rest
    | some ranges =>
      let (c, rest') := character ranges (firstBits b) rest
      c :: decodeList fuel rest'

/-- `bytes.decode("utf-8", errors="replace")`. -/
def decodeReplace (bytes : List UInt8) : String := String.ofList (decodeList bytes.length bytes)

-- the euro sign, a lone continuation byte, and a sequence cut short by an ASCII byte
example : (decodeReplace [0xE2, 0x82, 0xAC, 0x80, 0xF0, 0x9F, 0x41]).toList = ['€', '\uFFFD', '\uFFFD', 'A'] := by
  decide

end Utf8
