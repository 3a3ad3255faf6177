/-
HMAC-SHA-256, as `hmac.new(key, message, hashlib.sha256).hexdigest()` computes
it. Nothing is proved about forgery; what is proved is the shape of a tag.
-/
import ThreeAgent.Lib.Sha256

namespace Hmac

/-- The bytes of a 32-bit word, the highest first. -/
def wordBytes (x : Nat) : List Nat := (List.range 4).map fun i => (x >>> (8 * (3 - i))) % 256

/-- `hashlib.sha256(bytes).digest()`. -/
def rawDigest (bytes : List Nat) : List Nat :=
  let ws := Sha256.words (Sha256.pad bytes)
  let s := Sha256.blocks (ws.length / 16) ws Sha256.initial
  [s.a, s.b, s.c, s.d, s.e, s.f, s.g, s.h].flatMap wordBytes

/-- The key on one block: hashed when it is longer, filled up with zeros. -/
def blockKey (key : List Nat) : List Nat :=
  let k := if 64 < key.length then rawDigest key else key
  k ++ List.replicate (64 - k.length) 0

/-- `hmac.new(key, text.encode("utf-8"), hashlib.sha256).hexdigest()`. -/
def hexdigest (key : List UInt8) (text : String) : String :=
  let k := blockKey (key.map UInt8.toNat)
  let inner := rawDigest (k.map (· ^^^ 0x36) ++ Sha256.utf8 text)
  String.ofList (Sha256.digest (k.map (· ^^^ 0x5c) ++ inner))

-- the tag of the message "Hi There" under a key of twenty bytes 0x0b
example : hexdigest (List.replicate 20 0x0b) "Hi There" =
    "b0344c61d8db38535ca8afceaf0bf12b881dc200c9833da726e9376c2e32cff7" := by
  decide +kernel

theorem hexdigest_length (key : List UInt8) (text : String) : (hexdigest key text).toList.length = 64 := by
  simp [hexdigest, Sha256.digest, Sha256.hexWord_length]

theorem hexdigest_isHexDigit (key : List UInt8) (text : String) :
    ∀ c ∈ (hexdigest key text).toList, Sha256.isHexDigit c = true := by
  intro c hc
  simp only [hexdigest, Sha256.digest, String.toList_ofList, List.mem_flatMap] at hc
  obtain ⟨x, -, hx⟩ := hc
  exact Sha256.hexWord_isHexDigit x c hx

end Hmac
