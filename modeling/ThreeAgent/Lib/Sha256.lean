/-
SHA-256, as `hashlib.sha256(text.encode("utf-8")).hexdigest()` computes it.

Nothing is proved here about collisions, and nothing could be: a development
that needs two texts of one run to have different digests says so in a
hypothesis about those texts. What is proved is the shape of a digest.
-/
import Mathlib.Data.List.Basic
import Mathlib.Tactic.IntervalCases

namespace Sha256

/-- The modulus of 32-bit words. -/
def word : Nat := 2 ^ 32

def roundConstants : List Nat :=
  [0x428a2f98, 0x71374491, 0xb5c0fbcf, 0xe9b5dba5, 0x3956c25b, 0x59f111f1, 0x923f82a4, 0xab1c5ed5,
   0xd807aa98, 0x12835b01, 0x243185be, 0x550c7dc3, 0x72be5d74, 0x80deb1fe, 0x9bdc06a7, 0xc19bf174,
   0xe49b69c1, 0xefbe4786, 0x0fc19dc6, 0x240ca1cc, 0x2de92c6f, 0x4a7484aa, 0x5cb0a9dc, 0x76f988da,
   0x983e5152, 0xa831c66d, 0xb00327c8, 0xbf597fc7, 0xc6e00bf3, 0xd5a79147, 0x06ca6351, 0x14292967,
   0x27b70a85, 0x2e1b2138, 0x4d2c6dfc, 0x53380d13, 0x650a7354, 0x766a0abb, 0x81c2c92e, 0x92722c85,
   0xa2bfe8a1, 0xa81a664b, 0xc24b8b70, 0xc76c51a3, 0xd192e819, 0xd6990624, 0xf40e3585, 0x106aa070,
   0x19a4c116, 0x1e376c08, 0x2748774c, 0x34b0bcb5, 0x391c0cb3, 0x4ed8aa4a, 0x5b9cca4f, 0x682e6ff3,
   0x748f82ee, 0x78a5636f, 0x84c87814, 0x8cc70208, 0x90befffa, 0xa4506ceb, 0xbef9a3f7, 0xc67178f2]

def rotr (x n : Nat) : Nat := (x >>> n) ||| ((x <<< (32 - n)) % word)

def smallSigma0 (x : Nat) : Nat := rotr x 7 ^^^ rotr x 18 ^^^ (x >>> 3)

def smallSigma1 (x : Nat) : Nat := rotr x 17 ^^^ rotr x 19 ^^^ (x >>> 10)

def bigSigma0 (x : Nat) : Nat := rotr x 2 ^^^ rotr x 13 ^^^ rotr x 22

def bigSigma1 (x : Nat) : Nat := rotr x 6 ^^^ rotr x 11 ^^^ rotr x 25

def choose (x y z : Nat) : Nat := (x &&& y) ^^^ ((word - 1 - x) &&& z)

def majority (x y z : Nat) : Nat := (x &&& y) ^^^ (x &&& z) ^^^ (y &&& z)

/-- The eight working variables. -/
structure State where
  a : Nat
  b : Nat
  c : Nat
  d : Nat
  e : Nat
  f : Nat
  g : Nat
  h : Nat

def initial : State :=
  ⟨0x6a09e667, 0xbb67ae85, 0x3c6ef372, 0xa54ff53a, 0x510e527f, 0x9b05688c, 0x1f83d9ab, 0x5be0cd19⟩

def round (s : State) (k w : Nat) : State :=
  let t1 := (s.h + bigSigma1 s.e + choose s.e s.f s.g + k + w) % word
  let t2 := (bigSigma0 s.a + majority s.a s.b s.c) % word
  ⟨(t1 + t2) % word, s.a, s.b, s.c, (s.d + t1) % word, s.e, s.f, s.g⟩

/-- The rounds, over a sliding window of the sixteen last schedule words. -/
def rounds : List Nat → List Nat → State → State
  | [], _, s => s
  | k :: ks, w, s =>
    let next := (smallSigma1 (w.getD 14 0) + w.getD 9 0 + smallSigma0 (w.getD 1 0) + w.headD 0) % word
    rounds ks (w.tail ++ [next]) (round s k (w.headD 0))

def compress (s : State) (block : List Nat) : State :=
  let t := rounds roundConstants block s
  ⟨(s.a + t.a) % word, (s.b + t.b) % word, (s.c + t.c) % word, (s.d + t.d) % word,
    (s.e + t.e) % word, (s.f + t.f) % word, (s.g + t.g) % word, (s.h + t.h) % word⟩

/-- Big-endian words of a byte list whose length is a multiple of four. -/
def words : List Nat → List Nat
  | a :: b :: c :: d :: rest => (((a * 256 + b) * 256 + c) * 256 + d) :: words rest
  | _ => []

/-- The message, a one bit, zeros up to 56 modulo 64, and the bit length on eight bytes. -/
def pad (bytes : List Nat) : List Nat :=
  let n := bytes.length
  bytes ++ [0x80] ++ List.replicate ((119 - n % 64) % 64) 0 ++
    (List.range 8).map fun i => ((8 * n) >>> (8 * (7 - i))) % 256

def blocks : Nat → List Nat → State → State
  | 0, _, s => s
  | n + 1, ws, s => blocks n (ws.drop 16) (compress s (ws.take 16))

def hexWord (x : Nat) : List Char :=
  (List.range 8).map fun i => Nat.digitChar ((x >>> (4 * (7 - i))) % 16)

/-- The digest of a byte list in lower-case hexadecimal. -/
def digest (bytes : List Nat) : List Char :=
  let ws := words (pad bytes)
  let s := blocks (ws.length / 16) ws initial
  [s.a, s.b, s.c, s.d, s.e, s.f, s.g, s.h].flatMap hexWord

/-- `text.encode("utf-8")`. -/
def utf8 (text : String) : List Nat :=
  text.toList.flatMap fun c => (String.utf8EncodeChar c).map UInt8.toNat

/-- `hashlib.sha256(text.encode("utf-8")).hexdigest()`. -/
def hexdigest (text : String) : String := String.ofList (digest (utf8 text))

example : hexdigest "abc" = "ba7816bf8f01cfea414140de5dae2223b00361a396177a9cb410ff61f20015ad" := by
  decide +kernel

/-! ## The shape of a digest -/

/-- `[0-9a-f]`. -/
def isHexDigit (c : Char) : Bool := ('0' ≤ c && c ≤ '9') || ('a' ≤ c && c ≤ 'f')

theorem isHexDigit_range {c : Char} (h : isHexDigit c = true) :
    (48 ≤ c.toNat ∧ c.toNat ≤ 57) ∨ (97 ≤ c.toNat ∧ c.toNat ≤ 102) := by
  simp only [isHexDigit, Bool.or_eq_true, Bool.and_eq_true, decide_eq_true_eq] at h
  exact h

theorem isHexDigit_digitChar {n : Nat} (h : n < 16) : isHexDigit (Nat.digitChar n) = true := by
  interval_cases n <;> decide

theorem hexWord_length (x : Nat) : (hexWord x).length = 8 := by simp [hexWord]

theorem hexWord_isHexDigit (x : Nat) : ∀ c ∈ hexWord x, isHexDigit c = true := by
  intro c hc
  simp only [hexWord, List.mem_map] at hc
  obtain ⟨i, -, rfl⟩ := hc
  exact isHexDigit_digitChar (Nat.mod_lt _ (by decide))

theorem digest_length (bytes : List Nat) : (digest bytes).length = 64 := by simp [digest, hexWord_length]

theorem digest_isHexDigit (bytes : List Nat) : ∀ c ∈ digest bytes, isHexDigit c = true := by
  intro c hc
  simp only [digest, List.mem_flatMap] at hc
  obtain ⟨x, -, hx⟩ := hc
  exact hexWord_isHexDigit x c hx

theorem hexdigest_length (text : String) : (hexdigest text).toList.length = 64 := by
  rw [hexdigest, String.toList_ofList]
  exact digest_length _

theorem hexdigest_isHexDigit (text : String) : ∀ c ∈ (hexdigest text).toList, isHexDigit c = true := by
  rw [hexdigest, String.toList_ofList]
  exact digest_isHexDigit _

end Sha256
