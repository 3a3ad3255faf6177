/-
Checkpoints of monitored sources (`checkpoint.py`,
`checkpoint_compatibility.py`): the descriptor of a source, the byte cursor
kept for it, and the decision whether the source may be read on from there.
-/
import ThreeAgent.MonitoringContracts

namespace ThreeAgent.SecurityMonitoring

open PyText Outcome PyJson

def sourceDescriptorSchema : String := "workspace-security-monitoring/source-descriptor-v1"
def sourceCheckpointSchema : String := "workspace-security-monitoring/source-checkpoint-v1"
def checkpointCompatibilitySchema : String := "workspace-security-monitoring/checkpoint-compatibility-v1"

/-- `_SOURCE_KIND_RE.fullmatch`. -/
def sourceKindRe (cs : List Char) : Bool :=
  match cs with
  | [] => false
  | c :: rest =>
    ('a' ≤ c && c ≤ 'z') && decide (rest.length ≤ 31) &&
      rest.all fun c => ('a' ≤ c && c ≤ 'z') || ('0' ≤ c && c ≤ '9') || c == '_' || c == '-'

structure SourceDescriptor where
  sourceId : String
  sourceKind : String
  identityFingerprint : String
  formatId : String
  schemaVersion : String := sourceDescriptorSchema
  deriving DecidableEq, Repr

namespace SourceDescriptor

/-- `validate`: the descriptor with its fields normalised. -/
def validate (d : SourceDescriptor) : Except Raised SourceDescriptor := do
  let sourceId ← compact d.sourceId "source_id" 128
  let kind := lower (strip d.sourceKind)
  require (sourceKindRe kind.toList = true) (contractError "source_kind must be a lowercase compact kind")
  let fingerprint ← fingerprintText d.identityFingerprint "identity_fingerprint must be a SHA-256 fingerprint"
  let formatId ← compact d.formatId "format_id" 96
  require (d.schemaVersion = sourceDescriptorSchema)
    (contractError ("unsupported source descriptor schema: " ++ d.schemaVersion))
  return { d with sourceId := sourceId, sourceKind := kind, identityFingerprint := fingerprint, formatId := formatId }

/-- `to_dict`, of a validated descriptor. -/
def payload (d : SourceDescriptor) : Json Unit := .dict
  [("format_id", .str d.formatId), ("identity_fingerprint", .str d.identityFingerprint),
   ("schema_version", .str d.schemaVersion), ("source_id", .str d.sourceId), ("source_kind", .str d.sourceKind)]

/-- `fingerprint`: `to_dict` validates first. -/
def fingerprint (d : SourceDescriptor) : Except Raised String := do
  let d ← d.validate
  return sha256Fingerprint d.payload

end SourceDescriptor

structure SourceCheckpoint where
  source : SourceDescriptor
  cursorOffsetBytes : Nat
  observedSizeBytes : Nat
  checkpointedAt : String
  lastEventAt : Option String := none
  schemaVersion : String := sourceCheckpointSchema
  deriving DecidableEq, Repr

/-- A timestamp that may be absent. -/
def optionalTimestamp [PyTime] (value : Option String) (fieldName : String) : Except Raised (Option String) :=
  match value with
  | none => return none
  | some value => some <$> utcTimestamp value fieldName

namespace SourceCheckpoint

variable [PyTime]

def validate (c : SourceCheckpoint) : Except Raised SourceCheckpoint := do
  let source ← c.source.validate
  require (c.cursorOffsetBytes ≤ c.observedSizeBytes)
    (contractError "cursor_offset_bytes must not exceed observed_size_bytes")
  let checkpointedAt ← utcTimestamp c.checkpointedAt "checkpointed_at"
  let lastEventAt ← optionalTimestamp c.lastEventAt "last_event_at"
  require (c.schemaVersion = sourceCheckpointSchema)
    (contractError ("unsupported source checkpoint schema: " ++ c.schemaVersion))
  return { c with source := source, checkpointedAt := checkpointedAt, lastEventAt := lastEventAt }

/-- `to_dict`, of a validated checkpoint. -/
def payload (c : SourceCheckpoint) : Json Unit := .dict
  [("checkpointed_at", .str c.checkpointedAt), ("cursor_offset_bytes", .int c.cursorOffsetBytes),
   ("last_event_at", .ofOption .str c.lastEventAt), ("observed_size_bytes", .int c.observedSizeBytes),
   ("schema_version", .str c.schemaVersion), ("source", c.source.payload)]

def fingerprint (c : SourceCheckpoint) : Except Raised String := do
  let c ← c.validate
  return sha256Fingerprint c.payload

end SourceCheckpoint

/-! ## Continuation -/

/-- `CHECKPOINT_ACTIONS`. -/
inductive CheckpointAction where
  | start
  | resume
  | reset
  | invalid
  deriving DecidableEq, Repr

def CheckpointAction.text : CheckpointAction → String
  | .start => "start"
  | .resume => "resume"
  | .reset => "reset"
  | .invalid => "invalid"

/-- `CHECKPOINT_REASONS`. -/
inductive CheckpointReason where
  | noCheckpoint
  | compatible
  | sourceRotated
  | sourceTruncated
  | sourceFormatChanged
  | sourceIdMismatch
  | sourceKindChanged
  | cursorBeyondCurrentExtent
  deriving DecidableEq, Repr

def CheckpointReason.text : CheckpointReason → String
  | .noCheckpoint => "no_checkpoint"
  | .compatible => "compatible"
  | .sourceRotated => "source_rotated"
  | .sourceTruncated => "source_truncated"
  | .sourceFormatChanged => "source_format_changed"
  | .sourceIdMismatch => "source_id_mismatch"
  | .sourceKindChanged => "source_kind_changed"
  | .cursorBeyondCurrentExtent => "cursor_beyond_current_extent"

structure CheckpointCompatibilityReceipt where
  sourceId : String
  action : CheckpointAction
  reasonCode : CheckpointReason
  currentSourceFingerprint : String
  previousCheckpointFingerprint : Option String
  currentSizeBytes : Nat
  resumeOffsetBytes : Option Nat
  schemaVersion : String := checkpointCompatibilitySchema
  deriving DecidableEq, Repr

namespace CheckpointCompatibilityReceipt

def validate (r : CheckpointCompatibilityReceipt) : Except Raised CheckpointCompatibilityReceipt := do
  require (∀ offset ∈ r.resumeOffsetBytes, offset ≤ r.currentSizeBytes)
    (contractError "resume_offset_bytes must not exceed current_size_bytes")
  require (¬ (r.action = .invalid ∧ r.resumeOffsetBytes ≠ none))
    (contractError "invalid checkpoint decisions must not expose a resume offset")
  require (¬ ((r.action = .start ∨ r.action = .reset) ∧ r.resumeOffsetBytes ≠ some 0))
    (contractError "start/reset decisions must resume from byte zero")
  require (¬ (r.action = .resume ∧ r.resumeOffsetBytes = none))
    (contractError "resume decisions require an explicit resume offset")
  require (r.schemaVersion = checkpointCompatibilitySchema)
    (contractError ("unsupported checkpoint compatibility schema: " ++ r.schemaVersion))
  return r

/-- `to_dict`, of a validated receipt. -/
def payload (r : CheckpointCompatibilityReceipt) : Json Unit := .dict
  [("action", .str r.action.text), ("current_size_bytes", .int r.currentSizeBytes),
   ("current_source_fingerprint", .str r.currentSourceFingerprint),
   ("previous_checkpoint_fingerprint", .ofOption .str r.previousCheckpointFingerprint),
   ("reason_code", .str r.reasonCode.text),
   ("resume_offset_bytes", .ofOption (fun n : Nat => .int n) r.resumeOffsetBytes),
   ("schema_version", .str r.schemaVersion), ("source_id", .str r.sourceId)]

def fingerprint (r : CheckpointCompatibilityReceipt) : Except Raised String := do
  let r ← r.validate
  return sha256Fingerprint r.payload

end CheckpointCompatibilityReceipt

/-- The decision on a validated checkpoint: the action, its reason and the offset to read from. -/
def continuation (current : SourceDescriptor) (currentSize : Nat) (checkpoint : SourceCheckpoint) :
    CheckpointAction × CheckpointReason × Option Nat :=
  let previous := checkpoint.source
  if previous.sourceId ≠ current.sourceId then (.invalid, .sourceIdMismatch, none)
  else if previous.sourceKind ≠ current.sourceKind then (.invalid, .sourceKindChanged, none)
  else if previous.formatId ≠ current.formatId then (.reset, .sourceFormatChanged, some 0)
  else if previous.identityFingerprint ≠ current.identityFingerprint then (.reset, .sourceRotated, some 0)
  else if currentSize < checkpoint.observedSizeBytes then (.reset, .sourceTruncated, some 0)
  else if currentSize < checkpoint.cursorOffsetBytes then (.invalid, .cursorBeyondCurrentExtent, none)
  else (.resume, .compatible, some checkpoint.cursorOffsetBytes)

/-- `SourceContinuationEvaluator.evaluate`. -/
def evaluate [PyTime] (currentSource : SourceDescriptor) (currentSize : Nat) (checkpoint : Option SourceCheckpoint) :
    Except Raised CheckpointCompatibilityReceipt := do
  let current ← currentSource.validate
  let currentFingerprint ← current.fingerprint
  match checkpoint with
  | none =>
    CheckpointCompatibilityReceipt.validate
      { sourceId := current.sourceId, action := .start, reasonCode := .noCheckpoint,
        currentSourceFingerprint := currentFingerprint, previousCheckpointFingerprint := none,
        currentSizeBytes := currentSize, resumeOffsetBytes := some 0 }
  | some checkpoint =>
    let checkpoint ← checkpoint.validate
    let previousFingerprint ← checkpoint.fingerprint
    let (action, reason, offset) := continuation current currentSize checkpoint
    CheckpointCompatibilityReceipt.validate
      { sourceId := current.sourceId, action := action, reasonCode := reason,
        currentSourceFingerprint := currentFingerprint, previousCheckpointFingerprint := some previousFingerprint,
        currentSizeBytes := currentSize, resumeOffsetBytes := offset }

/-! ## Facts -/

theorem sourceKindRe_range {cs : List Char} (h : sourceKindRe cs = true) {c : Char} (hc : c ∈ cs) :
    (97 ≤ c.toNat ∧ c.toNat ≤ 122) ∨ (48 ≤ c.toNat ∧ c.toNat ≤ 57) ∨ c.toNat = 95 ∨ c.toNat = 45 := by
  have hrange : ∀ {lo hi : Char}, lo ≤ c → c ≤ hi → lo.toNat ≤ c.toNat ∧ c.toNat ≤ hi.toNat := fun h h' => ⟨h, h'⟩
  cases cs with
  | nil => simp at hc
  | cons d ds =>
    simp only [sourceKindRe, Bool.and_eq_true, Bool.or_eq_true, decide_eq_true_eq, List.all_eq_true, beq_iff_eq] at h
    rcases List.mem_cons.mp hc with rfl | hc
    · exact .inl (hrange h.1.1.1 h.1.1.2)
    · rcases h.2 c hc with ((hl | hd) | rfl) | rfl
      · exact .inl (hrange hl.1 hl.2)
      · exact .inr (.inl (hrange hd.1 hd.2))
      · exact .inr (.inr (.inl rfl))
      · exact .inr (.inr (.inr rfl))

theorem lower_strip_of_sourceKindRe {s : String} (h : sourceKindRe s.toList = true) : lower (strip s) = s := by
  have hstrip : strip s = s := by
    refine strip_eq_self fun c hc => isSpace_of_range ?_
    have := sourceKindRe_range h hc
    omega
  rw [hstrip]
  refine lower_eq_self fun c hc => ?_
  have := sourceKindRe_range h hc
  omega

variable {d d' : SourceDescriptor}

namespace SourceDescriptor

theorem validate_ok : d.validate = .ok d' ↔
    compact d.sourceId "source_id" 128 = .ok d'.sourceId ∧ lower (strip d.sourceKind) = d'.sourceKind ∧
      sourceKindRe d'.sourceKind.toList = true ∧
      fingerprintText d.identityFingerprint "identity_fingerprint must be a SHA-256 fingerprint" =
        .ok d'.identityFingerprint ∧
      compact d.formatId "format_id" 96 = .ok d'.formatId ∧ d.schemaVersion = sourceDescriptorSchema ∧
      d'.schemaVersion = sourceDescriptorSchema := by
  simp only [validate, bind_ok, require_ok, pure_ok]
  constructor
  · rintro ⟨i, hi, _, hk, f, hf, m, hm, _, hs, rfl⟩
    exact ⟨hi, rfl, hk, hf, hm, hs, hs⟩
  · rintro ⟨hi, hl, hk, hf, hm, hs, hs'⟩
    rw [← hl] at hk
    refine ⟨_, hi, (), hk, _, hf, _, hm, (), hs, ?_⟩
    rw [hl, hs, ← hs']

theorem validate_validate (h : d.validate = .ok d') : d'.validate = .ok d' := by
  rw [validate_ok] at h ⊢
  obtain ⟨hi, hl, hk, hf, hm, hs, hs'⟩ := h
  exact ⟨compact_compact hi, lower_strip_of_sourceKindRe hk, hk, fingerprintText_fingerprintText hf,
    compact_compact hm, hs', hs'⟩

theorem fingerprint_of_validate (h : d.validate = .ok d') :
    d'.fingerprint = .ok (sha256Fingerprint d'.payload) := by
  unfold fingerprint
  rw [validate_validate h]
  rfl

end SourceDescriptor

variable {c c' : SourceCheckpoint} {source : SourceDescriptor}

section Checkpoint

variable [PyTime]

theorem optionalTimestamp_optionalTimestamp {value t : Option String} {fieldName : String}
    (h : optionalTimestamp value fieldName = .ok t) : optionalTimestamp t fieldName = .ok t := by
  cases value with
  | none =>
    obtain rfl : none = t := by simpa [optionalTimestamp] using h
    rfl
  | some value =>
    simp only [optionalTimestamp] at h
    cases hv : utcTimestamp value fieldName with
    | error e =>
      rw [hv] at h
      cases h
    | ok s =>
      rw [hv] at h
      cases h
      simp only [optionalTimestamp]
      rw [utcTimestamp_utcTimestamp hv]
      rfl

theorem SourceCheckpoint.validate_ok : c.validate = .ok c' ↔
    c.source.validate = .ok c'.source ∧ c.cursorOffsetBytes ≤ c.observedSizeBytes ∧
      utcTimestamp c.checkpointedAt "checkpointed_at" = .ok c'.checkpointedAt ∧
      optionalTimestamp c.lastEventAt "last_event_at" = .ok c'.lastEventAt ∧
      c.schemaVersion = sourceCheckpointSchema ∧ c'.schemaVersion = sourceCheckpointSchema ∧
      c'.cursorOffsetBytes = c.cursorOffsetBytes ∧ c'.observedSizeBytes = c.observedSizeBytes := by
  simp only [validate, bind_ok, require_ok, pure_ok]
  constructor
  · rintro ⟨s, hs, _, hle, t, ht, l, hl, _, hv, rfl⟩
    exact ⟨hs, hle, ht, hl, hv, hv, rfl, rfl⟩
  · rintro ⟨hs, hle, ht, hl, hv, hv', hcur, hobs⟩
    refine ⟨_, hs, (), hle, _, ht, _, hl, (), hv, ?_⟩
    rw [hv, ← hv', ← hcur, ← hobs]

theorem SourceCheckpoint.validate_validate (h : c.validate = .ok c') :
    c'.validate = .ok c' := by
  rw [validate_ok] at h ⊢
  obtain ⟨hs, hle, ht, hl, hv, hv', hcur, hobs⟩ := h
  refine ⟨SourceDescriptor.validate_validate hs, ?_, utcTimestamp_utcTimestamp ht _,
    optionalTimestamp_optionalTimestamp hl, hv', hv', rfl, rfl⟩
  rw [hcur, hobs]
  exact hle

theorem SourceCheckpoint.fingerprint_of_validate (h : c.validate = .ok c') :
    c'.fingerprint = .ok (sha256Fingerprint c'.payload) := by
  unfold fingerprint
  rw [validate_validate h]
  rfl

theorem evaluate_start (h : source.validate = .ok d) (size : Nat) :
    ∃ r, evaluate source size none = .ok r ∧ r.validate = .ok r ∧ r.action = .start ∧ r.resumeOffsetBytes = some 0 := by
  refine ⟨⟨d.sourceId, .start, .noCheckpoint, sha256Fingerprint d.payload, none, size, some 0,
    checkpointCompatibilitySchema⟩, ?_, rfl, rfl, rfl⟩
  simp only [evaluate, bind_ok]
  exact ⟨d, h, _, SourceDescriptor.fingerprint_of_validate h, rfl⟩

theorem evaluate_resume (h : source.validate = .ok d)
    (hc : c.validate = .ok c') (hsame : c'.source = d) {size : Nat} (hsize : c.observedSizeBytes ≤ size) :
    ∃ r, evaluate source size (some c) = .ok r ∧ r.validate = .ok r ∧ r.action = .resume ∧
      r.resumeOffsetBytes = some c.cursorOffsetBytes := by
  obtain ⟨-, hle, -, -, -, -, hcur, hobs⟩ := SourceCheckpoint.validate_ok.mp hc
  have hdecision : continuation d size c' = (.resume, .compatible, some c.cursorOffsetBytes) := by
    simp only [continuation, hsame, ne_eq, not_true_eq_false, if_false, hcur, hobs]
    rw [if_neg (by omega), if_neg (by omega)]
  have hvalid : ∀ r : CheckpointCompatibilityReceipt, r.action = .resume →
      r.resumeOffsetBytes = some c.cursorOffsetBytes → r.currentSizeBytes = size →
      r.schemaVersion = checkpointCompatibilitySchema → r.validate = .ok r := by
    intro r haction hoffset hcurrent hschema
    simp only [CheckpointCompatibilityReceipt.validate, bind_ok, require_ok, pure_ok, exists_const, haction, hoffset,
      hcurrent, hschema]
    refine ⟨?_, by simp, by simp, by simp, trivial, trivial⟩
    intro offset hoff
    cases hoff
    omega
  refine ⟨⟨d.sourceId, .resume, .compatible, sha256Fingerprint d.payload, some (sha256Fingerprint c'.payload), size,
    some c.cursorOffsetBytes, checkpointCompatibilitySchema⟩, ?_, hvalid _ rfl rfl rfl rfl, rfl, rfl⟩
  simp only [evaluate, bind_ok]
  refine ⟨d, h, _, SourceDescriptor.fingerprint_of_validate h, c', hc, _, SourceCheckpoint.fingerprint_of_validate hc, ?_⟩
  rw [hdecision]
  exact hvalid _ rfl rfl rfl rfl

end Checkpoint

end ThreeAgent.SecurityMonitoring
