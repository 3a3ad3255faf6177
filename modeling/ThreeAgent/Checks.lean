/-
The field checks and digests that every runtime module repeats with its own
exception class: a SHA-256 fingerprint, a single line, a reference, and the
canonical JSON text of a payload with its digest.
-/
import ThreeAgent.Errors
import ThreeAgent.Lib.JsonFacts
import ThreeAgent.Lib.Runtime
import ThreeAgent.Lib.Sha256Eval

namespace ThreeAgent

open PyText Outcome PyJson Sha256

/-- `_SHA256_RE.fullmatch`. -/
def sha256Re (s : String) : Bool :=
  startsWith s "sha256:" && decide ((s.toList.drop 7).length = 64) && (s.toList.drop 7).all Sha256.isHexDigit

/-- `f"INVALID_{field_name.upper()}"`. -/
def invalidField (cls : ErrorClass) (field : String) : Raised := ⟨cls, "INVALID_" ++ upper field⟩

/-- `_sha256`. -/
def checkSha256 (cls : ErrorClass) (value field : String) : Except Raised Unit :=
  require (sha256Re value = true) (invalidField cls field)

/-- `_single_line`. -/
def checkSingleLine (cls : ErrorClass) (value field : String) (maxLen : Nat) : Except Raised Unit := do
  require (value ≠ "" ∧ value = strip value) (invalidField cls field)
  require (value.toList.length ≤ maxLen ∧ '\n' ∉ value.toList ∧ '\r' ∉ value.toList) (invalidField cls field)

/-- `_REF_RE.fullmatch`. -/
def refRe (cs : List Char) : Bool :=
  match cs with
  | [] => false
  | c :: rest =>
    isAsciiAlnum c && (rest.all fun c => isAsciiAlnum c || c ∈ ['.', '_', ':', '@', '+', '-', '/']) &&
      decide (rest.length ≤ 255)

/-- `_reference`. -/
def checkReference (cls : ErrorClass) (value field : String) : Except Raised Unit := do
  checkSingleLine cls value field 256
  require (refRe value.toList = true ∧ contains value "://" = false) (invalidField cls field)
  require (".." ∉ split '/' value) (invalidField cls field)

/-- `_canonical_json`: sorted keys, compact separators, no NaN. -/
def canonicalText {F : Type} [PyFloat F] (notCanonical : Raised) (v : Json F) : Except Raised String :=
  match dumps v with
  | some text => return text
  | none => throw notCanonical

/-- `"sha256:" + hashlib.sha256(text.encode("utf-8")).hexdigest()`. -/
def hashText (text : String) : String := "sha256:" ++ Sha256.hexdigest text

/-- `_digest`. -/
def digestOf {F : Type} [PyFloat F] (notCanonical : Raised) (v : Json F) : Except Raised String := do
  let text ← canonicalText notCanonical v
  return hashText text

/-- `digest.split(":", 1)[1][:n]`. -/
def digestPrefix (digest : String) (n : Nat) : String := String.ofList ((digest.toList.drop 7).take n)

/-! ## Facts -/

theorem sha256Re_digest (bytes : List Nat) : sha256Re ("sha256:" ++ String.ofList (digest bytes)) = true := by
  have hlist : ("sha256:" ++ String.ofList (digest bytes)).toList = "sha256:".toList ++ digest bytes := by
    rw [String.toList_append]
    exact congrArg ("sha256:".toList ++ ·) String.toList_ofList
  have hdrop : ("sha256:" ++ String.ofList (digest bytes)).toList.drop 7 = digest bytes := by
    rw [hlist]
    rfl
  simp only [sha256Re, Bool.and_eq_true, decide_eq_true_eq, List.all_eq_true, hdrop]
  refine ⟨⟨?_, digest_length bytes⟩, digest_isHexDigit bytes⟩
  rw [startsWith_iff, hlist]
  exact List.prefix_append _ _

theorem sha256Re_hashText (text : String) : sha256Re (hashText text) = true := sha256Re_digest _

theorem isAsciiAlnum_of_hexDigit {c : Char} (h : isHexDigit c = true) : isAsciiAlnum c = true := by
  simp only [isHexDigit, isAsciiAlnum, Bool.or_eq_true, Bool.and_eq_true, decide_eq_true_eq] at h ⊢
  rcases h with h | h
  · exact .inr h
  · exact .inl (.inr ⟨h.1, h.2.trans (by decide)⟩)

theorem not_isSpace_of_hexDigit {c : Char} (h : isHexDigit c = true) : isSpace c = false := by
  simp only [isHexDigit, Bool.or_eq_true, Bool.and_eq_true, decide_eq_true_eq, Char.le_def, UInt32.le_iff_toNat_le]
    at h
  have h0 : '0'.val.toNat = 48 := rfl
  have h9 : '9'.val.toNat = 57 := rfl
  have ha : 'a'.val.toNat = 97 := rfl
  have hf : 'f'.val.toNat = 102 := rfl
  rw [h0, h9, ha, hf] at h
  have hn : c.toNat = c.val.toNat := rfl
  simp only [isSpace, Bool.or_eq_false_iff, Bool.and_eq_false_iff, decide_eq_false_iff_not, beq_eq_false_iff_ne, hn]
  omega

theorem strip_hashText (text : String) : strip (hashText text) = hashText text := by
  have hchars : ∀ c ∈ (hashText text).toList, isSpace c = false := by
    intro c hc
    rw [hashText, String.toList_append, List.mem_append] at hc
    rcases hc with hc | hc
    · exact (forall_mem_of_all (by decide) : ∀ c ∈ "sha256:".toList, isSpace c = false) c hc
    · exact not_isSpace_of_hexDigit (hexdigest_isHexDigit text c hc)
  rw [strip, stripList_of_forall hchars, String.ofList_toList]

/-- The bytes of a text that is given as its characters. -/
def charBytes (cs : List Char) : List Nat := cs.flatMap fun c => (String.utf8EncodeChar c).map UInt8.toNat

theorem hashText_ne {cs cs' : List Char} (h : fastDigest (charBytes cs) ≠ fastDigest (charBytes cs')) :
    hashText (String.ofList cs) ≠ hashText (String.ofList cs') := by
  intro heq
  apply h
  have hlist := congrArg String.toList heq
  simp only [hashText, hexdigest_ofList, String.toList_append, String.toList_ofList] at hlist
  exact List.append_cancel_left hlist

theorem digestPrefix_hashText (text : String) {n : Nat} (h : n ≤ 64) :
    (digestPrefix (hashText text) n).toList.length = n ∧
      ∀ c ∈ (digestPrefix (hashText text) n).toList, isHexDigit c = true := by
  have hdigits : (digestPrefix (hashText text) n).toList = (hexdigest text).toList.take n := by
    rw [digestPrefix, String.toList_ofList, hashText, String.toList_append]
    rfl
  rw [hdigits, List.length_take, hexdigest_length]
  refine ⟨by omega, ?_⟩
  intro c hc
  exact hexdigest_isHexDigit text c (List.mem_of_mem_take hc)

variable {F : Type} {e : Raised} {v : Json F}

theorem canonicalText_ok [PyFloat F] {t : String} : canonicalText e v = .ok t ↔ dumps v = some t := by
  unfold canonicalText
  cases dumps v with
  | none => simp
  | some s => simp

theorem digestOf_ok [PyFloat F] {d : String} : digestOf e v = .ok d ↔ ∃ t, dumps v = some t ∧ d = hashText t := by
  simp only [digestOf, bind_ok, canonicalText_ok, pure_ok]
  constructor
  · rintro ⟨t, ht, rfl⟩
    exact ⟨t, ht, rfl⟩
  · rintro ⟨t, ht, rfl⟩
    exact ⟨t, ht, rfl⟩

theorem digestOf_error [PyFloat F] {e' : Raised} (h : digestOf e v = .error e') : e' = e := by
  cases hdumps : dumps v with
  | some t =>
    rw [digestOf_ok.mpr ⟨t, hdumps, rfl⟩] at h
    cases h
  | none =>
    simp only [digestOf, canonicalText, hdumps] at h
    cases h
    rfl

theorem digestOf_dumpable [PyFloat F] (h : dumpable v = true) : ∃ d, digestOf e v = .ok d :=
  ⟨_, digestOf_ok.mpr ⟨_, dumps_of_dumpable h, rfl⟩⟩

theorem sha256Re_digestOf [PyFloat F] {d : String} (h : digestOf e v = .ok d) : sha256Re d = true := by
  obtain ⟨t, -, rfl⟩ := digestOf_ok.mp h
  exact sha256Re_hashText t

end ThreeAgent
