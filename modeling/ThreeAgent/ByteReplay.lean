/-
Deterministic replay of newline-delimited evidence (`replay.py`): the limits,
the records of one batch, its receipt, and `DeterministicByteReplay.replay`.
-/
import ThreeAgent.SourceCheckpoint
import ThreeAgent.Lib.Utf8

namespace ThreeAgent.SecurityMonitoring

open PyText Outcome PyJson

def replayReceiptSchema : String := "workspace-security-monitoring/replay-receipt-v1"

abbrev Bytes := List UInt8

/-- `b"\n"`. -/
def newline : UInt8 := 10

/-- `_payload_sha256`. -/
def payloadSha256 (payload : Bytes) : String :=
  "sha256:" ++ String.ofList (Sha256.digest (payload.map UInt8.toNat))

structure ReplayRecord where
  startOffsetBytes : Nat
  endOffsetBytes : Nat
  payloadSha256 : String
  text : String
  deriving DecidableEq, Repr

/-- `evidence_dict`. -/
def ReplayRecord.evidence (r : ReplayRecord) : Json Unit := .dict
  [("end_offset_bytes", .int r.endOffsetBytes), ("payload_sha256", .str r.payloadSha256),
   ("start_offset_bytes", .int r.startOffsetBytes)]

/-- `_REPLAY_STOP_REASONS`. -/
inductive StopReason where
  | sourceEnd
  | partialRecord
  | recordLimit
  | byteLimit
  deriving DecidableEq, Repr

structure ReplayReceipt where
  sourceId : String
  compatibilityFingerprint : String
  compatibilityAction : CheckpointAction
  sourceSizeBytes : Nat
  startOffsetBytes : Nat
  nextOffsetBytes : Nat
  recordCount : Nat
  replayedBytes : Nat
  recordsFingerprint : String
  stopReason : StopReason
  schemaVersion : String := replayReceiptSchema
  deriving DecidableEq, Repr

def ReplayReceipt.validate (r : ReplayReceipt) : Except Raised ReplayReceipt := do
  require (r.startOffsetBytes ≤ r.nextOffsetBytes ∧ r.nextOffsetBytes ≤ r.sourceSizeBytes)
    (contractError "replay offsets must satisfy start <= next <= source size")
  require (r.replayedBytes = r.nextOffsetBytes - r.startOffsetBytes)
    (contractError "replayed_bytes must equal next_offset_bytes - start_offset_bytes")
  require (r.schemaVersion = replayReceiptSchema)
    (contractError ("unsupported replay receipt schema: " ++ r.schemaVersion))
  return r

structure ReplayBatch where
  records : List ReplayRecord
  receipt : ReplayReceipt
  compatibility : CheckpointCompatibilityReceipt
  deriving DecidableEq, Repr

/-- The limits of a replay, within the ranges that its constructor admits. -/
structure DeterministicByteReplay where
  maxSourceBytes : Nat := 16 * 1024 * 1024
  maxReplayBytes : Nat := 4 * 1024 * 1024
  maxRecords : Nat := 10000
  maxRecordBytes : Nat := 256 * 1024
  source_range : 4096 ≤ maxSourceBytes ∧ maxSourceBytes ≤ 128 * 1024 * 1024 := by decide
  replay_range : 1 ≤ maxReplayBytes ∧ maxReplayBytes ≤ maxSourceBytes := by decide
  records_range : 1 ≤ maxRecords ∧ maxRecords ≤ 100000 := by decide
  record_range : 1 ≤ maxRecordBytes ∧ maxRecordBytes ≤ min maxReplayBytes (1024 * 1024) := by decide

namespace DeterministicByteReplay

/-- `source_bytes.find(b"\n", cursor)`. -/
def find (bytes : Bytes) (cursor : Nat) : Option Nat :=
  ((bytes.drop cursor).findIdx? (· == newline)).map (cursor + ·)

/-- `source_bytes[a:b]`. -/
def slice (bytes : Bytes) (a b : Nat) : Bytes := (bytes.drop a).take (b - a)

/-- What the loop has at its end: the records, the cursor and the reason it stopped. -/
structure Scan where
  records : List ReplayRecord
  cursor : Nat
  stopReason : StopReason

theorem find_ge {bytes : Bytes} {cursor n : Nat} (h : find bytes cursor = some n) : cursor ≤ n := by
  obtain ⟨i, -, rfl⟩ := Option.map_eq_some_iff.mp h
  omega

/-- The `while` loop of `replay`, from the records and the cursor it has reached. -/
def scan (r : DeterministicByteReplay) (bytes : Bytes) (start : Nat) (records : List ReplayRecord) (cursor : Nat) :
    Except Raised Scan :=
  if cursor < bytes.length then
    if r.maxRecords ≤ records.length then .ok ⟨records, cursor, .recordLimit⟩
    else
      match hfind : find bytes cursor with
      | none => .ok ⟨records, cursor, .partialRecord⟩
      | some nl =>
        if nl + 1 - cursor > r.maxRecordBytes then
          .error (contractError "single replay record exceeds max_record_bytes")
        else if nl + 1 - start > r.maxReplayBytes then .ok ⟨records, cursor, .byteLimit⟩
        else
          let payload := slice bytes cursor nl
          scan r bytes start (records ++ [⟨cursor, nl + 1, SecurityMonitoring.payloadSha256 payload,
            Utf8.decodeReplace payload⟩]) (nl + 1)
  else .ok ⟨records, cursor, .sourceEnd⟩
termination_by bytes.length - cursor
decreasing_by
  have := find_ge hfind
  omega

/-- The offset that the continuation decision allows, and the exception for a decision that allows none. -/
def resumeOffset (compatibility : CheckpointCompatibilityReceipt) : Except Raised Nat :=
  match compatibility.action, compatibility.resumeOffsetBytes with
  | .invalid, _ => .error (contractError ("checkpoint is not replayable: " ++ compatibility.reasonCode.text))
  | _, none => .error (contractError ("checkpoint is not replayable: " ++ compatibility.reasonCode.text))
  | _, some offset => .ok offset

variable [PyTime]

def replay (r : DeterministicByteReplay) (source : SourceDescriptor) (bytes : Bytes)
    (checkpoint : Option SourceCheckpoint) : Except Raised ReplayBatch := do
  let source ← source.validate
  require (bytes.length ≤ r.maxSourceBytes) (contractError "replay source exceeds max_source_bytes")
  let compatibility ← evaluate source bytes.length checkpoint
  let start ← resumeOffset compatibility
  require (¬ (0 < start ∧ slice bytes (start - 1) start ≠ [newline]))
    (contractError "checkpoint cursor is not at a record boundary")
  let scanned ← scan r bytes start [] start
  let compatibilityFingerprint ← compatibility.fingerprint
  let receipt ← ReplayReceipt.validate
    { sourceId := source.sourceId, compatibilityFingerprint := compatibilityFingerprint,
      compatibilityAction := compatibility.action, sourceSizeBytes := bytes.length, startOffsetBytes := start,
      nextOffsetBytes := scanned.cursor, recordCount := scanned.records.length,
      replayedBytes := scanned.cursor - start,
      recordsFingerprint := sha256Fingerprint (.arr (scanned.records.map ReplayRecord.evidence)),
      stopReason := scanned.stopReason }
  return ⟨scanned.records, receipt, compatibility⟩

end DeterministicByteReplay

/-! ## Resumption

The source grows, and each call starts from the checkpoint of the call before. -/

/-- One call of `replay`: the content it is given, and the times of the checkpoint written after it. -/
structure Reading where
  bytes : Bytes
  checkpointedAt : String
  lastEventAt : Option String := none
  deriving DecidableEq, Repr

/-- The checkpoint after a batch: its cursor is where the batch ended. -/
def Reading.checkpoint (reading : Reading) (source : SourceDescriptor) (batch : ReplayBatch) : SourceCheckpoint :=
  { source := source, cursorOffsetBytes := batch.receipt.nextOffsetBytes, observedSizeBytes := reading.bytes.length,
    checkpointedAt := reading.checkpointedAt, lastEventAt := reading.lastEventAt }

/-- The batches of successive calls. -/
def replays [PyTime] (r : DeterministicByteReplay) (source : SourceDescriptor) :
    Option SourceCheckpoint → List Reading → Except Raised (List ReplayBatch)
  | _, [] => .ok []
  | checkpoint, reading :: readings => do
    let batch ← r.replay source reading.bytes checkpoint
    let batches ← replays r source (some (reading.checkpoint source batch)) readings
    return batch :: batches

end ThreeAgent.SecurityMonitoring
