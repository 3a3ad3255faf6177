/-
A replay that is resumed from its own checkpoints reads every complete record
of a growing source once: the batches put together are the records up to the
last cursor, and a batch that starts before a newline is not empty.
-/
import ThreeAgent.ByteReplay
import ThreeAgent.Lib.Records

namespace ThreeAgent

variable {cursor : Nat}

namespace SecurityMonitoring

open PyText Outcome PyJson Records

variable {payloads : List Bytes} {bytes front rest next : Bytes} {source d : SourceDescriptor}
  {checkpoint : Option SourceCheckpoint}

def recordsAt : Nat → List Bytes → List ReplayRecord
  | _, [] => []
  | offset, payload :: payloads =>
    ⟨offset, offset + payload.length + 1, payloadSha256 payload, Utf8.decodeReplace payload⟩ ::
      recordsAt (offset + payload.length + 1) payloads

theorem recordsAt_append : ∀ {offset : Nat} {payloads' : List Bytes},
    recordsAt offset (payloads ++ payloads') =
      recordsAt offset payloads ++ recordsAt (offset + (joined newline payloads).length) payloads' := by
  induction payloads with
  | nil =>
    intro offset payloads'
    simp [recordsAt, joined]
  | cons payload payloads ih =>
    intro offset payloads'
    have hlen : (joined newline (payload :: payloads)).length = payload.length + 1 + (joined newline payloads).length := by
      simp only [joined, List.flatMap_cons, List.length_append, List.length_singleton]
    rw [List.cons_append, recordsAt, ih, recordsAt, List.cons_append, hlen]
    simp only [Nat.add_assoc]

theorem recordsAt_ne_nil {offset : Nat} (h : payloads ≠ []) : recordsAt offset payloads ≠ [] := by
  cases payloads with
  | nil => exact absurd rfl h
  | cons payload payloads => simp [recordsAt]

namespace DeterministicByteReplay

theorem find_none (h : find bytes cursor = none) : newline ∉ bytes.drop cursor := by
  simp only [find, Option.map_eq_none_iff, List.findIdx?_eq_none_iff, beq_eq_false_iff_ne] at h
  intro hmem
  exact h _ hmem rfl

theorem find_some {nl : Nat} (h : find bytes cursor = some nl) :
    ∃ payload rest, newline ∉ payload ∧ bytes.drop cursor = payload ++ newline :: rest ∧
      nl = cursor + payload.length ∧ slice bytes cursor nl = payload ∧ bytes.drop (nl + 1) = rest := by
  obtain ⟨i, hi, rfl⟩ := Option.map_eq_some_iff.mp h
  rw [List.findIdx?_eq_some_iff_getElem] at hi
  obtain ⟨hlt, hnl, hbefore⟩ := hi
  have hget : (bytes.drop cursor)[i] = newline := by simpa using hnl
  have hsplit : bytes.drop cursor = (bytes.drop cursor).take i ++ newline :: (bytes.drop cursor).drop (i + 1) := by
    rw [← hget, List.cons_getElem_drop_succ, List.take_append_drop]
  have hlen : ((bytes.drop cursor).take i).length = i := by
    rw [List.length_take]
    omega
  refine ⟨_, _, ?_, hsplit, by rw [hlen], ?_, ?_⟩
  · intro hmem
    obtain ⟨j, hj, heq⟩ := List.getElem_of_mem hmem
    rw [hlen] at hj
    have hne := hbefore j hj
    rw [List.getElem_take] at heq
    simp [heq] at hne
  · rw [slice, Nat.add_sub_cancel_left]
  · rw [List.drop_drop, Nat.add_assoc]

/-- The loop, from a cursor where every complete record is short enough: it consumes complete records
only, and from the start of a batch at least one if there is one. -/
theorem scan_spec (r : DeterministicByteReplay) (bytes : Bytes) (start : Nat) (records : List ReplayRecord)
    (cursor : Nat) (hshort : ∀ p ∈ complete newline (bytes.drop cursor), p.length + 1 ≤ r.maxRecordBytes) :
    ∃ s chunk, scan r bytes start records cursor = .ok s ∧ chunk <+: bytes.drop cursor ∧ Whole newline chunk ∧
      s.cursor = cursor + chunk.length ∧ s.records = records ++ recordsAt cursor (complete newline chunk) ∧
      (cursor = start → records = [] → newline ∈ bytes.drop cursor → chunk ≠ []) := by
  -- where the loop stops it has consumed nothing from this cursor on
  have hstop : ∀ reason, (newline ∈ bytes.drop cursor → cursor = start → records ≠ []) →
      ∃ s chunk, (.ok ⟨records, cursor, reason⟩ : Except Raised Scan) = .ok s ∧ chunk <+: bytes.drop cursor ∧
        Whole newline chunk ∧ s.cursor = cursor + chunk.length ∧
        s.records = records ++ recordsAt cursor (complete newline chunk) ∧
        (cursor = start → records = [] → newline ∈ bytes.drop cursor → chunk ≠ []) := by
    intro reason hprogress
    refine ⟨_, [], rfl, List.nil_prefix, whole_nil, rfl, by simp [recordsAt], ?_⟩
    intro hstart hrecords hmem
    exact absurd hrecords (hprogress hmem hstart)
  rw [scan]
  by_cases hend : cursor < bytes.length
  · rw [if_pos hend]
    by_cases hlimit : r.maxRecords ≤ records.length
    · rw [if_pos hlimit]
      refine hstop _ ?_
      intro _ _ hnil
      have hpos := r.records_range.1
      rw [hnil, List.length_nil] at hlimit
      omega
    · rw [if_neg hlimit]
      split
      · rename_i hfind
        exact hstop _ fun hmem => absurd hmem (find_none hfind)
      · rename_i nl hfind
        obtain ⟨payload, rest, hnot, hdrop, rfl, hslice, hrest⟩ := find_some hfind
        have hpayload : payload.length + 1 ≤ r.maxRecordBytes := by
          apply hshort
          rw [hdrop, complete_cons hnot]
          exact List.mem_cons_self
        rw [if_neg (by omega)]
        by_cases hbytes : cursor + payload.length + 1 - start > r.maxReplayBytes
        · rw [if_pos hbytes]
          refine hstop _ ?_
          intro _ hstart
          have hmin := r.record_range.2
          omega
        · rw [if_neg hbytes]
          have hshort' : ∀ p ∈ complete newline (bytes.drop (cursor + payload.length + 1)),
              p.length + 1 ≤ r.maxRecordBytes := by
            intro p hp
            apply hshort
            rw [hdrop, complete_cons hnot, ← hrest]
            exact List.mem_cons_of_mem _ hp
          obtain ⟨s, chunk, hscan, hpre, hwhole, hcursor, hrecords, -⟩ :=
            scan_spec r bytes start (records ++ [⟨cursor, cursor + payload.length + 1,
              SecurityMonitoring.payloadSha256 payload, Utf8.decodeReplace payload⟩])
              (cursor + payload.length + 1) hshort'
          refine ⟨s, payload ++ newline :: chunk, ?_, ?_, whole_cons hnot hwhole, ?_, ?_, by simp⟩
          · rw [hslice]
            exact hscan
          · rw [hdrop, ← hrest]
            exact (List.prefix_append_right_inj _).mpr (List.cons_prefix_cons.mpr ⟨rfl, hpre⟩)
          · rw [hcursor, List.length_append, List.length_cons]
            omega
          · rw [hrecords, complete_cons hnot, recordsAt, List.append_assoc, List.singleton_append]
  · rw [if_neg hend]
    refine hstop _ ?_
    intro hmem
    rw [List.drop_of_length_le (by omega)] at hmem
    simp at hmem
termination_by bytes.length - cursor

theorem boundary_of_whole (h : Whole newline front) :
    ¬ (0 < front.length ∧ slice (front ++ rest) (front.length - 1) front.length ≠ [newline]) := by
  rintro ⟨hpos, hne⟩
  apply hne
  have hfront : front ≠ [] := List.ne_nil_of_length_pos hpos
  have hlast := getLast?_of_whole h hfront
  rw [List.getLast?_eq_some_getLast hfront, Option.some_inj] at hlast
  have hsplit : front = front.dropLast ++ [newline] := by
    rw [← hlast]
    exact (List.dropLast_append_getLast hfront).symm
  have hdrop : (front ++ rest).drop (front.length - 1) = newline :: rest := by
    rw [List.drop_append_of_le_length (by omega)]
    conv_lhs => rw [hsplit]
    rw [List.length_append, List.length_singleton, Nat.add_sub_cancel, List.drop_left]
    rfl
  rw [slice, hdrop, show front.length - (front.length - 1) = 1 by omega]
  rfl

variable [PyTime]

theorem replay_spec (r : DeterministicByteReplay) (hsource : source.validate = .ok d) {receipt : CheckpointCompatibilityReceipt}
    (hsize : (front ++ rest).length ≤ r.maxSourceBytes)
    (hevaluate : evaluate d (front ++ rest).length checkpoint = .ok receipt) (hvalid : receipt.validate = .ok receipt)
    (haction : receipt.action ≠ .invalid) (hoffset : receipt.resumeOffsetBytes = some front.length)
    (hfront : Whole newline front)
    (hshort : ∀ p ∈ complete newline (front ++ rest), p.length + 1 ≤ r.maxRecordBytes) :
    ∃ batch chunk, r.replay source (front ++ rest) checkpoint = .ok batch ∧ chunk <+: rest ∧ Whole newline chunk ∧
      batch.receipt.startOffsetBytes = front.length ∧ batch.receipt.nextOffsetBytes = front.length + chunk.length ∧
      batch.records = recordsAt front.length (complete newline chunk) ∧ (newline ∈ rest → batch.records ≠ []) := by
  have hdrop : (front ++ rest).drop front.length = rest := List.drop_left
  obtain ⟨s, chunk, hscan, hpre, hwhole, hcursor, hrecords, hprogress⟩ :=
    scan_spec r (front ++ rest) front.length [] front.length (by
      intro p hp
      rw [hdrop] at hp
      exact hshort p (mem_complete_append hfront hp))
  rw [hdrop] at hpre hprogress
  rw [List.nil_append] at hrecords
  have hresume : resumeOffset receipt = .ok front.length := by
    unfold resumeOffset
    rw [hoffset]
    cases hact : receipt.action with
    | invalid => exact absurd hact haction
    | start => rfl
    | resume => rfl
    | reset => rfl
  have hfingerprint : receipt.fingerprint = .ok (sha256Fingerprint receipt.payload) := by
    unfold CheckpointCompatibilityReceipt.fingerprint
    rw [hvalid]
    rfl
  have hlen := hpre.length_le
  refine ⟨⟨s.records, ⟨d.sourceId, sha256Fingerprint receipt.payload, receipt.action, (front ++ rest).length,
    front.length, s.cursor, s.records.length, s.cursor - front.length,
    sha256Fingerprint (.arr (s.records.map ReplayRecord.evidence)), s.stopReason, replayReceiptSchema⟩, receipt⟩,
    chunk, ?_, hpre, hwhole, rfl, hcursor, hrecords, ?_⟩
  · simp only [replay, bind_ok, require_ok, pure_ok]
    refine ⟨d, hsource, (), hsize, receipt, hevaluate, _, hresume, (), boundary_of_whole hfront, s, hscan, _,
      hfingerprint, _, ?_, rfl⟩
    simp only [ReplayReceipt.validate, bind_ok, require_ok, pure_ok, exists_const]
    refine ⟨⟨by omega, ?_⟩, trivial, trivial, trivial⟩
    rw [hcursor, List.length_append]
    omega
  · intro hmem
    have hchunk := hprogress rfl rfl hmem
    have hne : complete newline chunk ≠ [] := by
      intro hnil
      apply hchunk
      rw [← hwhole, hnil]
      rfl
    show s.records ≠ []
    rw [hrecords]
    exact recordsAt_ne_nil hne

end DeterministicByteReplay

section Resumption

variable [PyTime]

/-- The times that a reading puts into its checkpoint are UTC timestamps. -/
def Reading.Stamped (reading : Reading) : Prop :=
  (∃ t, utcTimestamp reading.checkpointedAt "checkpointed_at" = .ok t) ∧
    ∃ t, optionalTimestamp reading.lastEventAt "last_event_at" = .ok t

/-- A checkpoint from which a source may be read on behind `front`: there is none yet, or it was taken
of a content that `front` begins and that begins the next one. -/
def Positioned (d : SourceDescriptor) (front next : Bytes) (checkpoint : Option SourceCheckpoint) : Prop :=
  match checkpoint with
  | none => front = []
  | some c => ∃ c', c.validate = .ok c' ∧ c'.source = d ∧ c.cursorOffsetBytes = front.length ∧
      c.observedSizeBytes ≤ next.length

theorem evaluate_positioned (hd : d.validate = .ok d) (h : Positioned d front next checkpoint) :
    ∃ r, evaluate d next.length checkpoint = .ok r ∧ r.validate = .ok r ∧ r.action ≠ .invalid ∧
      r.resumeOffsetBytes = some front.length := by
  cases checkpoint with
  | none =>
    obtain ⟨r, hr, hvalid, haction, hoffset⟩ := evaluate_start hd next.length
    have hnil : front = [] := h
    refine ⟨r, hr, hvalid, by simp [haction], ?_⟩
    rw [hoffset, hnil]
    rfl
  | some c =>
    obtain ⟨c', hc, hsame, hcursor, hobserved⟩ := h
    obtain ⟨r, hr, hvalid, haction, hoffset⟩ := evaluate_resume hd hc hsame hobserved
    refine ⟨r, hr, hvalid, by simp [haction], ?_⟩
    rw [hoffset, hcursor]

theorem positioned_checkpoint (hsource : source.validate = .ok d) {reading : Reading}
    (hstamp : reading.Stamped) {batch : ReplayBatch}
    (hnext : batch.receipt.nextOffsetBytes = front.length) (hfront : front.length ≤ reading.bytes.length)
    (hgrow : reading.bytes <+: next) : Positioned d front next (some (reading.checkpoint source batch)) := by
  obtain ⟨⟨t, ht⟩, l, hl⟩ := hstamp
  refine ⟨⟨d, batch.receipt.nextOffsetBytes, reading.bytes.length, t, l, sourceCheckpointSchema⟩, ?_, rfl, hnext,
    hgrow.length_le⟩
  rw [SourceCheckpoint.validate_ok]
  refine ⟨hsource, ?_, ht, hl, rfl, rfl, rfl, rfl⟩
  show batch.receipt.nextOffsetBytes ≤ reading.bytes.length
  omega

theorem replays_spec (r : DeterministicByteReplay) (hsource : source.validate = .ok d)
    {readings : List Reading} (hgrow : readings.IsChain fun a b => a.bytes <+: b.bytes)
    (hsize : ∀ reading ∈ readings, reading.bytes.length ≤ r.maxSourceBytes)
    (hshort : ∀ reading ∈ readings, ∀ p ∈ complete newline reading.bytes, p.length + 1 ≤ r.maxRecordBytes)
    (hstamp : ∀ reading ∈ readings, reading.Stamped) (front : Bytes) (hfront : Whole newline front)
    (checkpoint : Option SourceCheckpoint)
    (hfirst : ∀ reading ∈ readings.head?, front <+: reading.bytes ∧ Positioned d front reading.bytes checkpoint) :
    ∃ batches chunk, replays r source checkpoint readings = .ok batches ∧ Whole newline chunk ∧
      batches.flatMap (·.records) = recordsAt front.length (complete newline chunk) ∧
      (∀ reading ∈ readings.getLast?, ∀ batch ∈ batches.getLast?, front ++ chunk <+: reading.bytes ∧
        batch.receipt.nextOffsetBytes = (front ++ chunk).length) ∧
      List.Forall₂ (fun reading batch =>
        newline ∈ reading.bytes.drop batch.receipt.startOffsetBytes → batch.records ≠ []) readings batches := by
  induction readings generalizing front checkpoint with
  | nil => exact ⟨[], [], rfl, whole_nil, rfl, by simp, .nil⟩
  | cons reading readings ih =>
    obtain ⟨⟨rest, hrest⟩, hpos⟩ := hfirst reading rfl
    obtain ⟨receipt, hevaluate, hvalid, haction, hoffset⟩ :=
      evaluate_positioned (SourceDescriptor.validate_validate hsource) hpos
    have hsize' := hsize reading List.mem_cons_self
    have hshort' := hshort reading List.mem_cons_self
    rw [← hrest] at hevaluate hsize' hshort'
    obtain ⟨batch, chunk, hreplay, hpre, hwhole, hstart, hnext, hrecords, hprogress⟩ :=
      r.replay_spec hsource hsize' hevaluate hvalid haction hoffset hfront hshort'
    rw [hrest] at hreplay
    have hconsumed : front ++ chunk <+: reading.bytes := by
      rw [← hrest]
      exact (List.prefix_append_right_inj _).mpr hpre
    have hnext' : batch.receipt.nextOffsetBytes = (front ++ chunk).length := by rw [hnext, List.length_append]
    obtain ⟨batches, chunk', hreplays, hwhole', hflat, hlast, hall⟩ := ih hgrow.of_cons
      (fun b hb => hsize b (List.mem_cons_of_mem _ hb)) (fun b hb => hshort b (List.mem_cons_of_mem _ hb))
      (fun b hb => hstamp b (List.mem_cons_of_mem _ hb)) _ (whole_append hfront hwhole)
      (some (reading.checkpoint source batch)) (by
        intro next hhead
        have hstep : reading.bytes <+: next.bytes := by
          cases readings with
          | nil => simp at hhead
          | cons b bs =>
            cases hhead
            exact (List.isChain_cons_cons.mp hgrow).1
        exact ⟨hconsumed.trans hstep,
          positioned_checkpoint hsource (hstamp reading List.mem_cons_self) hnext' hconsumed.length_le hstep⟩)
    refine ⟨batch :: batches, chunk ++ chunk', ?_, whole_append hwhole hwhole', ?_, ?_, .cons ?_ hall⟩
    · simp only [replays, bind_ok, pure_ok]
      exact ⟨batch, hreplay, batches, hreplays, rfl⟩
    · rw [List.flatMap_cons, hflat, hrecords, complete_append hwhole, recordsAt_append, hwhole, List.length_append]
    · have hlen := hall.length_eq
      cases readings with
      | nil =>
        obtain rfl : batches = [] := List.length_eq_zero_iff.mp hlen.symm
        obtain rfl : [] = chunk' := by
          have hnil : recordsAt (front ++ chunk).length (complete newline chunk') = [] := hflat.symm
          by_contra hne
          refine recordsAt_ne_nil ?_ hnil
          intro hc
          apply hne
          rw [← hwhole', hc]
          rfl
        intro b hb batch' hbatch'
        cases hb
        cases hbatch'
        rw [List.append_nil]
        exact ⟨hconsumed, hnext'⟩
      | cons b bs =>
        cases batches with
        | nil => simp at hlen
        | cons b' bs' =>
          rw [List.getLast?_cons_cons, List.getLast?_cons_cons, ← List.append_assoc]
          exact hlast
    · rw [hstart, ← hrest, List.drop_left]
      exact hprogress

/-- The batches of a source that only grows, each call resumed from the checkpoint of the one before:
no call raises, the records of all batches are the complete records up to the last cursor, in order and
at contiguous offsets, and a call that starts before a newline returns a record. -/
theorem replays_read_each_record_once (r : DeterministicByteReplay) (source d : SourceDescriptor)
    (hsource : source.validate = .ok d) (readings : List Reading)
    (hgrow : readings.IsChain fun a b => a.bytes <+: b.bytes)
    (hsize : ∀ reading ∈ readings, reading.bytes.length ≤ r.maxSourceBytes)
    (hshort : ∀ reading ∈ readings, ∀ p ∈ complete newline reading.bytes, p.length + 1 ≤ r.maxRecordBytes)
    (hstamp : ∀ reading ∈ readings, reading.Stamped) :
    ∃ batches, replays r source none readings = .ok batches ∧
      (∀ reading ∈ readings.getLast?, ∀ batch ∈ batches.getLast?,
        let upToCursor := reading.bytes.take batch.receipt.nextOffsetBytes
        batch.receipt.nextOffsetBytes ≤ reading.bytes.length ∧ Whole newline upToCursor ∧
          batches.flatMap (·.records) = recordsAt 0 (complete newline upToCursor)) ∧
      List.Forall₂ (fun reading batch =>
        newline ∈ reading.bytes.drop batch.receipt.startOffsetBytes → batch.records ≠ []) readings batches := by
  obtain ⟨batches, chunk, hreplays, hwhole, hflat, hlast, hall⟩ :=
    replays_spec r hsource hgrow hsize hshort hstamp [] whole_nil none
      (fun _ _ => ⟨List.nil_prefix, rfl⟩)
  refine ⟨batches, hreplays, ?_, hall⟩
  intro reading hreading batch hbatch
  obtain ⟨hpre, hnext⟩ := hlast reading hreading batch hbatch
  rw [List.nil_append] at hpre hnext
  have htake : reading.bytes.take batch.receipt.nextOffsetBytes = chunk := by
    rw [hnext]
    exact (List.prefix_iff_eq_take.mp hpre).symm
  refine ⟨hnext ▸ hpre.length_le, ?_, ?_⟩
  · rw [htake]
    exact hwhole
  · rw [htake]
    exact hflat

end Resumption

/-! ### A source that grows by a record and a half -/

def sampleSource : SourceDescriptor where
  sourceId := "edge-1:auth"
  sourceKind := "file"
  identityFingerprint := sampleFingerprint
  formatId := "syslog-rfc5424"

def sampleReadings : List Reading :=
  [⟨[97, 10, 98], "2026-01-01T00:00:00Z", none⟩, ⟨[97, 10, 98, 10, 99, 10], "2026-01-01T00:00:00Z", none⟩]

theorem sampleSource_valid : sampleSource.validate = .ok sampleSource := by
  have hfingerprint : fingerprintText sampleFingerprint "identity_fingerprint must be a SHA-256 fingerprint" =
      .ok sampleFingerprint := by
    rw [fingerprintText_ok, sampleFingerprint, strip_hashText]
    exact ⟨sha256Re_hashText _, rfl⟩
  rw [SourceDescriptor.validate_ok]
  exact ⟨by decide, by decide, by decide, hfingerprint, by decide, rfl, rfl⟩

theorem sampleReadings_stamped : ∀ reading ∈ sampleReadings, @Reading.Stamped sampleTime reading := by
  intro reading hreading
  have hat : reading.checkpointedAt = "2026-01-01T00:00:00Z" ∧ reading.lastEventAt = none :=
    (by decide : ∀ reading ∈ sampleReadings,
      reading.checkpointedAt = "2026-01-01T00:00:00Z" ∧ reading.lastEventAt = none) reading hreading
  unfold Reading.Stamped
  rw [hat.1, hat.2]
  refine ⟨⟨"2026-01-01T00:00:00Z", ?_⟩, none, rfl⟩
  rw [@utcTimestamp_ok _ _ _ sampleTime]
  exact ⟨1767225600000000, by decide, by decide⟩

theorem replays_read_sample : ∃ batches, @replays sampleTime {} sampleSource none sampleReadings = .ok batches ∧
    (∀ reading ∈ sampleReadings.getLast?, ∀ batch ∈ batches.getLast?,
      let upToCursor := reading.bytes.take batch.receipt.nextOffsetBytes
      batch.receipt.nextOffsetBytes ≤ reading.bytes.length ∧ Whole newline upToCursor ∧
        batches.flatMap (·.records) = recordsAt 0 (complete newline upToCursor)) ∧
    List.Forall₂ (fun reading batch =>
      newline ∈ reading.bytes.drop batch.receipt.startOffsetBytes → batch.records ≠ []) sampleReadings batches :=
  @replays_read_each_record_once sampleTime {} sampleSource sampleSource sampleSource_valid sampleReadings
    (by decide) (by decide) (by decide) sampleReadings_stamped

end SecurityMonitoring

end ThreeAgent
