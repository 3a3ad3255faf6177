/-
What the modules of security monitoring share (`contracts.py`,
`checkpoint.py`): the compact identifiers, the UTC timestamps and the
canonical fingerprint of a payload. Each check gives back the value it
normalised, and checking that value again changes nothing.
-/
import ThreeAgent.Checks
import ThreeAgent.Lib.Timestamp

namespace ThreeAgent.SecurityMonitoring

open PyText Outcome PyJson

/-- `MonitoringContractError(message)`. -/
def contractError (message : String) : Raised := ⟨.monitoringContractError, message⟩

/-- `sqlite3.IntegrityError` of a UNIQUE constraint. -/
def uniqueFailed (columns : String) : Raised := ⟨.integrityError, "UNIQUE constraint failed: " ++ columns⟩

/-- `APPROVED_DATA_CLASSES`. -/
def approvedDataClasses : List String := ["public", "internal", "confidential", "restricted", "secret"]

/-- `canonical_json`. -/
def canonicalJson (payload : Json Unit) : String := String.ofList (text payload)

/-- `sha256_fingerprint`. -/
def sha256Fingerprint (payload : Json Unit) : String := hashText (canonicalJson payload)

/-- `_compact`. -/
def compact (value fieldName : String) (maxLen : Nat) : Except Raised String := do
  require (strip value ≠ "" ∧ (strip value).toList.length ≤ maxLen ∧ refRe (strip value).toList = true)
    (contractError (fieldName ++ " must be a compact identifier"))
  require (contains (strip value) "://" = false) (contractError (fieldName ++ " must not contain a URL"))
  return strip value

/-- `OverflowError: date value out of range`. -/
def dateOverflow : Raised := ⟨.overflowError, "date value out of range"⟩

/-- `_SHA256_RE.fullmatch(str(value or "").strip())`, the stripped text kept. -/
def fingerprintText (value message : String) : Except Raised String := do
  require (sha256Re (strip value) = true) (contractError message)
  return strip value

/-- `_utc_timestamp`. -/
def utcTimestamp [PyTime] (value fieldName : String) : Except Raised String := do
  let parsed ← orRaise (PyTime.read (strip value)) (contractError (fieldName ++ " must be ISO-8601"))
  let offset ← orRaise parsed.offset (contractError (fieldName ++ " must include timezone"))
  require (offset = 0) (contractError (fieldName ++ " must be UTC"))
  orRaise (PyTime.write (parsed.wall - offset)) dateOverflow

/-- `_iso_timestamp`. -/
def isoTimestamp [PyTime] (value fieldName : String) : Except Raised String := do
  let parsed ← orRaise (PyTime.read (strip value)) (contractError (fieldName ++ " must be ISO-8601"))
  require (parsed.offset ≠ none) (contractError (fieldName ++ " must include timezone"))
  return strip value

/-- `_utc` and the normalising `_timestamp`: any time with an offset, written in UTC. -/
def normalizedTimestamp [PyTime] (value fieldName : String) : Except Raised String := do
  let parsed ← orRaise (PyTime.read (strip value)) (contractError (fieldName ++ " must be ISO-8601"))
  let instant ← orRaise parsed.instant? (contractError (fieldName ++ " must include timezone"))
  orRaise (PyTime.write instant) dateOverflow

/-! ## Facts -/

variable {value fieldName t : String}

theorem compact_ok {maxLen : Nat} :
    compact value fieldName maxLen = .ok t ↔ (strip value ≠ "" ∧ (strip value).toList.length ≤ maxLen ∧
      refRe (strip value).toList = true) ∧ contains (strip value) "://" = false ∧ strip value = t := by
  simp only [compact, bind_ok, require_ok, pure_ok, exists_const]

theorem compact_compact {maxLen : Nat} (h : compact value fieldName maxLen = .ok t) :
    compact t fieldName maxLen = .ok t := by
  obtain ⟨hshape, hurl, rfl⟩ := compact_ok.mp h
  rw [compact_ok, strip_strip]
  exact ⟨hshape, hurl, rfl⟩

theorem fingerprintText_ok {message : String} :
    fingerprintText value message = .ok t ↔ sha256Re (strip value) = true ∧ strip value = t := by
  simp only [fingerprintText, bind_ok, require_ok, pure_ok, exists_const]

theorem fingerprintText_fingerprintText {message : String} (h : fingerprintText value message = .ok t) :
    fingerprintText t message = .ok t := by
  obtain ⟨hre, rfl⟩ := fingerprintText_ok.mp h
  rw [fingerprintText_ok, strip_strip]
  exact ⟨hre, rfl⟩

theorem utcTimestamp_ok [PyTime] : utcTimestamp value fieldName = .ok t ↔
      ∃ wall, PyTime.read (strip value) = some ⟨wall, some 0⟩ ∧ PyTime.write wall = some t := by
  simp only [utcTimestamp, bind_ok, orRaise_ok, require_ok]
  constructor
  · rintro ⟨⟨wall, offset⟩, hread, zero, hoff, _, rfl, hwrite⟩
    have hoff' : offset = some 0 := hoff
    rw [hoff'] at hread
    rw [Int.sub_zero] at hwrite
    exact ⟨wall, hread, hwrite⟩
  · rintro ⟨wall, hread, hwrite⟩
    refine ⟨_, hread, 0, rfl, (), rfl, ?_⟩
    rw [Int.sub_zero]
    exact hwrite

theorem utcTimestamp_utcTimestamp [PyTime] (h : utcTimestamp value fieldName = .ok t)
    (fieldName' : String) : utcTimestamp t fieldName' = .ok t := by
  obtain ⟨wall, -, hwrite⟩ := utcTimestamp_ok.mp h
  rw [utcTimestamp_ok, PyTime.strip_write _ _ hwrite]
  exact ⟨wall, PyTime.read_write _ _ hwrite, hwrite⟩

theorem isoTimestamp_ok [PyTime] : isoTimestamp value fieldName = .ok t ↔
    (∃ parsed, PyTime.read (strip value) = some parsed ∧ parsed.offset ≠ none) ∧ strip value = t := by
  simp only [isoTimestamp, bind_ok, orRaise_ok, require_ok, pure_ok, exists_const]
  constructor
  · rintro ⟨parsed, hread, hoffset, rfl⟩
    exact ⟨⟨parsed, hread, hoffset⟩, rfl⟩
  · rintro ⟨⟨parsed, hread, hoffset⟩, rfl⟩
    exact ⟨parsed, hread, hoffset, rfl⟩

theorem isoTimestamp_isoTimestamp [PyTime] (h : isoTimestamp value fieldName = .ok t)
    (fieldName' : String) : isoTimestamp t fieldName' = .ok t := by
  obtain ⟨hread, rfl⟩ := isoTimestamp_ok.mp h
  rw [isoTimestamp_ok, strip_strip]
  exact ⟨hread, rfl⟩

theorem normalizedTimestamp_ok [PyTime] : normalizedTimestamp value fieldName = .ok t ↔
      ∃ instant, PyTime.instant? (strip value) = some instant ∧ PyTime.write instant = some t := by
  simp only [normalizedTimestamp, bind_ok, orRaise_ok, PyTime.instant?, Option.bind_eq_some_iff]
  constructor
  · rintro ⟨parsed, hread, instant, hinstant, hwrite⟩
    exact ⟨instant, ⟨parsed, hread, hinstant⟩, hwrite⟩
  · rintro ⟨instant, ⟨parsed, hread, hinstant⟩, hwrite⟩
    exact ⟨parsed, hread, instant, hinstant, hwrite⟩

theorem instant?_of_normalizedTimestamp [PyTime]
    (h : normalizedTimestamp value fieldName = .ok t) : ∃ instant, PyTime.write instant = some t ∧
      strip t = t ∧ PyTime.instant? t = some instant := by
  obtain ⟨instant, -, hwrite⟩ := normalizedTimestamp_ok.mp h
  exact ⟨instant, hwrite, PyTime.strip_write _ _ hwrite, PyTime.instant?_write hwrite⟩

theorem normalizedTimestamp_normalizedTimestamp [PyTime]
    (h : normalizedTimestamp value fieldName = .ok t) (fieldName' : String) :
    normalizedTimestamp t fieldName' = .ok t := by
  obtain ⟨instant, hwrite, hstrip, hinstant⟩ := instant?_of_normalizedTimestamp h
  rw [normalizedTimestamp_ok, hstrip]
  exact ⟨instant, hinstant, hwrite⟩

theorem sha256Re_range {s : String} (h : sha256Re s = true) {c : Char} (hc : c ∈ s.toList) :
    (48 ≤ c.toNat ∧ c.toNat ≤ 58) ∨ (97 ≤ c.toNat ∧ c.toNat ≤ 122) := by
  simp only [sha256Re, Bool.and_eq_true, decide_eq_true_eq, List.all_eq_true] at h
  obtain ⟨⟨hpre, -⟩, hhex⟩ := h
  obtain ⟨tail, htail⟩ := startsWith_iff.mp hpre
  have hdrop : s.toList.drop 7 = tail := by
    rw [← htail]
    rfl
  rw [← htail, List.mem_append] at hc
  rcases hc with hc | hc
  · exact (forall_mem_of_all (by decide) : ∀ c ∈ "sha256:".toList,
      (48 ≤ c.toNat ∧ c.toNat ≤ 58) ∨ (97 ≤ c.toNat ∧ c.toNat ≤ 122)) c hc
  · have hdigit := hhex c (by rw [hdrop]; exact hc)
    simp only [Sha256.isHexDigit, Bool.or_eq_true, Bool.and_eq_true, decide_eq_true_eq] at hdigit
    rcases hdigit with ⟨hlo, hhi⟩ | ⟨hlo, hhi⟩
    · have hlo' : 48 ≤ c.toNat := hlo
      have hhi' : c.toNat ≤ 57 := hhi
      omega
    · have hlo' : 97 ≤ c.toNat := hlo
      have hhi' : c.toNat ≤ 102 := hhi
      omega

theorem strip_of_sha256Re {s : String} (h : sha256Re s = true) : strip s = s := by
  refine strip_eq_self fun c hc => isSpace_of_range ?_
  have := sha256Re_range h hc
  omega

theorem lower_of_sha256Re {s : String} (h : sha256Re s = true) : lower s = s := by
  refine lower_eq_self fun c hc => ?_
  have := sha256Re_range h hc
  omega

theorem sha256Fingerprint_shape (payload : Json Unit) : startsWith (sha256Fingerprint payload) "sha256:" = true ∧
    (sha256Fingerprint payload).toList.length = 71 := by
  rw [sha256Fingerprint, hashText, startsWith_iff, String.toList_append, List.length_append, Sha256.hexdigest_length]
  exact ⟨List.prefix_append _ _, rfl⟩

/-! ### The values of the samples -/

/-- An interpreter, as far as it reads one time. -/
@[reducible] def sampleTime : PyTime :=
  PyTime.ofTable [("2026-01-01T00:00:00Z", 1767225600000000)] (by decide) (by decide)

/-- The fingerprint of the samples. -/
def sampleFingerprint : String := hashText "sample"

theorem normalizedTimestamp_sample (fieldName : String) :
    @normalizedTimestamp sampleTime "2026-01-01T00:00:00Z" fieldName = .ok "2026-01-01T00:00:00Z" := by
  rw [@normalizedTimestamp_ok _ _ _ sampleTime]
  exact ⟨1767225600000000, by decide, by decide⟩

end ThreeAgent.SecurityMonitoring
