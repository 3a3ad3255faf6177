/-
What the parser of capture files accepts: for every text of bytes, just the
files that a capture within the bounds is written as, with the sums over its
packets as the summary, in either mode.
-/
import ThreeAgent.PcapEvidence

namespace ThreeAgent.PcapEvidence

open PyText Outcome ByteOrder

/-! ## The grammar -/

structure Packet where
  seconds : Nat
  fraction : Nat
  originalLength : Nat
  payload : List UInt8
  deriving DecidableEq, Repr

namespace Packet

variable (order : ByteOrder) (resolution : String) (packet : Packet)

def bytes : List UInt8 :=
  order.pack 4 packet.seconds ++ (order.pack 4 packet.fraction ++ (order.pack 4 packet.payload.length ++
    (order.pack 4 packet.originalLength ++ packet.payload)))

def timestamp : Nat := timestampNs resolution packet.seconds packet.fraction

def evidence (index : Nat) : PCAPPacketEvidence where
  packetIndex := index
  timestampEpochNs := packet.timestamp resolution
  capturedLength := packet.payload.length
  originalLength := packet.originalLength
  payloadSha256 := hashBytes packet.payload

theorem length_bytes : (packet.bytes order).length = 16 + packet.payload.length := by
  simp only [bytes, List.length_append, length_pack]
  omega

/-- The fields of a packet and the bounds on them. -/
structure Classic (descriptor : Descriptor) (snaplen : Nat) : Prop where
  seconds : packet.seconds < 256 ^ 4
  fraction : packet.fraction < descriptor.fractionBase
  captured : packet.payload.length ≤ snaplen
  original : packet.payload.length ≤ packet.originalLength
  word : packet.originalLength < 256 ^ 4

end Packet

structure Capture where
  magic : List UInt8
  descriptor : Descriptor
  unused : List UInt8
  snaplen : Nat
  linktype : Nat
  packets : List Packet
  deriving DecidableEq, Repr

namespace Capture

variable (capture : Capture)

def header : List UInt8 :=
  capture.magic ++ (capture.descriptor.endian.pack 2 2 ++ (capture.descriptor.endian.pack 2 4 ++ (capture.unused ++
    (capture.descriptor.endian.pack 4 capture.snaplen ++ capture.descriptor.endian.pack 4 capture.linktype))))

def bytes : List UInt8 := capture.header ++ capture.packets.flatMap (·.bytes capture.descriptor.endian)

def timestamps : List Nat := capture.packets.map (·.timestamp capture.descriptor.resolution)

/-- The grammar of a classic capture file within the bounds of a resource. -/
structure Classic (resource : PCAPResource) : Prop where
  magic : (capture.magic, capture.descriptor) ∈ magics
  unused : capture.unused.length = 8
  snaplen : 1 ≤ capture.snaplen ∧ capture.snaplen ≤ resource.maxPacketBytes
  linktype : capture.linktype < 256 ^ 4
  packets : ∀ packet ∈ capture.packets, packet.Classic capture.descriptor capture.snaplen
  ordered : capture.timestamps.IsChain (· ≤ ·)
  count : capture.packets.length ≤ resource.maxPackets

/-- The bounds on an original length and on a file that no resource can raise. -/
structure Bounded (resource : PCAPResource) : Prop extends Classic capture resource where
  original : ∀ packet ∈ capture.packets, packet.originalLength ≤ maxOriginalPacketBytes
  size : capture.bytes.length ≤ 256 * 1024 * 1024

/-- What is reported of a capture. -/
def evidence (resource : PCAPResource) (mode : String) : PCAPCaptureEvidence where
  resourceRef := resource.resourceRef
  mode := mode
  fileSha256 := hashBytes capture.bytes
  fileSizeBytes := capture.bytes.length
  byteOrder := capture.descriptor.byteOrder
  timestampResolution := capture.descriptor.resolution
  versionMajor := 2
  versionMinor := 4
  snaplen := capture.snaplen
  linktype := capture.linktype
  packetCount := capture.packets.length
  totalCapturedBytes := (capture.packets.map fun packet => packet.payload.length).sum
  totalOriginalBytes := (capture.packets.map fun packet => packet.originalLength).sum
  firstTimestampEpochNs := capture.timestamps.head?
  lastTimestampEpochNs := capture.timestamps.getLast?
  packets := if mode = "capture" then capture.packets.mapIdx fun i packet => packet.evidence capture.descriptor.resolution (i + 1)
    else []

end Capture

/-! ## One packet -/

theorem boundedInt_ok {value minimum maximum kept : Nat} {fieldName : String} :
    boundedInt value fieldName minimum maximum = .ok kept ↔ (minimum ≤ value ∧ value ≤ maximum) ∧ value = kept := by
  rw [boundedInt, bind_unit_ok, require_ok, pure_ok]

theorem sha256Re_hashBytes (data : List UInt8) : sha256Re (hashBytes data) = true := sha256Re_digest _

section Packets

variable {resource : PCAPResource} {descriptor : Descriptor} {snaplen : Nat} {mode : String} {view : List UInt8}
  {scan scan' : PacketScan} {packet : Packet} {packets : List Packet}

theorem validate_evidence {index : Nat} (hindex : 1 ≤ index ∧ index ≤ 100000)
    (hcaptured : packet.payload.length ≤ 16 * 1024 * 1024)
    (horiginal : packet.payload.length ≤ packet.originalLength) (hbound : packet.originalLength ≤ maxOriginalPacketBytes)
    (resolution : String) : (packet.evidence resolution index).validate = .ok (packet.evidence resolution index) := by
  simp only [PCAPPacketEvidence.validate, bind_ok, boundedInt_ok, require_ok, pure_ok, exists_const]
  exact ⟨_, ⟨hindex, rfl⟩, _, ⟨⟨Nat.zero_le _, hcaptured⟩, rfl⟩, _, ⟨⟨Nat.zero_le _, hbound⟩, rfl⟩, horiginal,
    sha256Re_hashBytes _, rfl, trivial⟩

/-- What the loop holds after one packet more. -/
def PacketScan.after (mode resolution : String) (scan : PacketScan) (packet : Packet) : PacketScan where
  offset := scan.offset + 16 + packet.payload.length
  packetIndex := scan.packetIndex + 1
  packetRecords := if mode = "capture" then scan.packetRecords ++ [packet.evidence resolution (scan.packetIndex + 1)]
    else scan.packetRecords
  totalCaptured := scan.totalCaptured + packet.payload.length
  totalOriginal := scan.totalOriginal + packet.originalLength
  firstTimestamp := some (scan.firstTimestamp.getD (packet.timestamp resolution))
  lastTimestamp := some (packet.timestamp resolution)

theorem recordPacket_evidence {index : Nat} {records : List PCAPPacketEvidence} (hindex : 1 ≤ index ∧ index ≤ 100000)
    (hcaptured : packet.payload.length ≤ 16 * 1024 * 1024) (horiginal : packet.payload.length ≤ packet.originalLength)
    (hbound : packet.originalLength ≤ maxOriginalPacketBytes) (resolution : String) :
    recordPacket mode records (packet.evidence resolution index) =
      .ok (if mode = "capture" then records ++ [packet.evidence resolution index] else records) := by
  rw [recordPacket]
  split
  · rw [validate_evidence hindex hcaptured horiginal hbound]
    rfl
  · rfl

/-- What a packet of the file is, and what must be before it. -/
structure Next (resource : PCAPResource) (descriptor : Descriptor) (snaplen : Nat) (view : List UInt8) (scan : PacketScan)
    (packet : Packet) : Prop where
  bytes : packet.bytes descriptor.endian <+: view.drop scan.offset
  classic : packet.Classic descriptor snaplen
  original : packet.originalLength ≤ maxOriginalPacketBytes
  count : scan.packetIndex + 1 ≤ resource.maxPackets
  ordered : ∀ last ∈ scan.lastTimestamp, last ≤ packet.timestamp descriptor.resolution

/-- The bounds that the checks before the loop establish. -/
structure Prepared (resource : PCAPResource) (descriptor : Descriptor) (snaplen : Nat) : Prop where
  base : descriptor.fractionBase ≤ 256 ^ 4
  snaplen : snaplen ≤ resource.maxPacketBytes
  packetBytes : resource.maxPacketBytes ≤ 16 * 1024 * 1024
  packets : resource.maxPackets ≤ 100000

theorem Next.packetStep (hprepared : Prepared resource descriptor snaplen)
    (h : Next resource descriptor snaplen view scan packet) :
    packetStep resource descriptor snaplen mode view scan = .ok (scan.after mode descriptor.resolution packet) := by
  obtain ⟨tail, htail⟩ := h.bytes
  have hsize := congrArg List.length htail
  rw [List.length_append, List.length_drop, Packet.length_bytes] at hsize
  have hseconds : descriptor.endian.field view scan.offset 4 = packet.seconds := by
    rw [← Nat.add_zero scan.offset, ← field_drop, ← htail, Packet.bytes, List.append_assoc, field_pack h.classic.seconds]
  have hfraction : descriptor.endian.field view (scan.offset + 4) 4 = packet.fraction := by
    have hword := h.classic.fraction.trans_le hprepared.base
    rw [← field_drop, ← htail, Packet.bytes, List.append_assoc, ← Nat.add_zero 4, field_skip length_pack, List.append_assoc,
      field_pack hword]
  have hcaptured : descriptor.endian.field view (scan.offset + 8) 4 = packet.payload.length := by
    have hword := h.classic.original.trans_lt h.classic.word
    rw [← field_drop, ← htail, Packet.bytes]
    simp only [List.append_assoc]
    rw [show (8 : Nat) = 4 + (4 + 0) by rfl, field_skip length_pack, field_skip length_pack, field_pack hword]
  have horiginal : descriptor.endian.field view (scan.offset + 12) 4 = packet.originalLength := by
    rw [← field_drop, ← htail, Packet.bytes]
    simp only [List.append_assoc]
    rw [show (12 : Nat) = 4 + (4 + (4 + 0)) by rfl, field_skip length_pack, field_skip length_pack, field_skip length_pack,
      field_pack h.classic.word]
  have hpayload : (view.drop (scan.offset + 16)).take packet.payload.length = packet.payload := by
    rw [← List.drop_drop, ← htail, Packet.bytes]
    have hheader : (descriptor.endian.pack 4 packet.seconds ++ (descriptor.endian.pack 4 packet.fraction ++
        (descriptor.endian.pack 4 packet.payload.length ++
          (descriptor.endian.pack 4 packet.originalLength ++ packet.payload)))) ++
        tail = (descriptor.endian.pack 4 packet.seconds ++ (descriptor.endian.pack 4 packet.fraction ++
        (descriptor.endian.pack 4 packet.payload.length ++ descriptor.endian.pack 4 packet.originalLength))) ++
        (packet.payload ++ tail) := by
      simp only [List.append_assoc]
    rw [hheader, List.drop_left' (by simp only [List.length_append, length_pack]), List.take_left]
  have hsnap := h.classic.captured
  have hbytes := hprepared.snaplen
  have hmax := hprepared.packetBytes
  have hrecord := @recordPacket_evidence mode packet (scan.packetIndex + 1) scan.packetRecords
    ⟨Nat.succ_pos _, h.count.trans hprepared.packets⟩ (by omega) h.classic.original h.original descriptor.resolution
  simp only [PcapEvidence.packetStep, hseconds, hfraction, hcaptured, horiginal, hpayload, bind_ok, require_ok, pure_ok,
    exists_const]
  exact ⟨by omega, h.count, h.classic.fraction, ⟨hsnap, by omega⟩, h.classic.original, h.original, by omega,
    h.ordered, _, hrecord, rfl⟩

theorem exists_next (h : packetStep resource descriptor snaplen mode view scan = .ok scan') :
    ∃ packet, Next resource descriptor snaplen view scan packet := by
  simp only [packetStep, bind_ok, require_ok, pure_ok, exists_const] at h
  obtain ⟨hheader, hcount, hfraction, ⟨hsnap, -⟩, horiginal, hbound, hpayload, hordered, -⟩ := h
  let payload := (view.drop (scan.offset + 16)).take (descriptor.endian.field view (scan.offset + 8) 4)
  have hlen : payload.length = descriptor.endian.field view (scan.offset + 8) 4 := by
    rw [List.length_take, List.length_drop]
    omega
  have hword : maxOriginalPacketBytes < 256 ^ 4 := by decide
  refine ⟨⟨descriptor.endian.field view scan.offset 4, descriptor.endian.field view (scan.offset + 4) 4,
    descriptor.endian.field view (scan.offset + 12) 4, payload⟩, ?_, ⟨field_lt (by omega), hfraction, ?_, ?_, ?_⟩, hbound, hcount,
    hordered⟩
  · refine ⟨view.drop (scan.offset + 16 + payload.length), ?_⟩
    rw [Packet.bytes]
    dsimp only
    rw [hlen]
    simp only [List.append_assoc]
    rw [← hlen, ← List.drop_drop, hlen, List.take_append_drop, pack_field (by omega), pack_field (by omega),
      pack_field (by omega),
      pack_field (by omega)]
  · rw [hlen]
    exact hsnap
  · rw [hlen]
    exact horiginal
  · exact Nat.lt_of_le_of_lt hbound hword

/-! ## The packets of a file -/

theorem Next.drop_eq (h : Next resource descriptor snaplen view scan packet) :
    packet.bytes descriptor.endian ++ view.drop (scan.after mode descriptor.resolution packet).offset =
    view.drop scan.offset := by
  obtain ⟨tail, htail⟩ := h.bytes
  have hdrop := congrArg (List.drop (packet.bytes descriptor.endian).length) htail
  rw [List.drop_left, List.drop_drop, Packet.length_bytes, ← Nat.add_assoc] at hdrop
  rw [PacketScan.after, ← hdrop, htail]

theorem Next.offset_le (h : Next resource descriptor snaplen view scan packet) (hscan : scan.offset ≤ view.length) :
    (scan.after mode descriptor.resolution packet).offset ≤ view.length := by
  obtain ⟨tail, htail⟩ := h.bytes
  have hsize := congrArg List.length htail
  rw [List.length_append, List.length_drop, Packet.length_bytes] at hsize
  rw [PacketScan.after]
  dsimp only
  omega

/-- The packets that a part of a file holds, after those that were read. -/
structure Reads (resource : PCAPResource) (descriptor : Descriptor) (snaplen : Nat) (view : List UInt8) (scan : PacketScan)
    (packets : List Packet) : Prop where
  bytes : packets.flatMap (·.bytes descriptor.endian) = view.drop scan.offset
  classic : ∀ packet ∈ packets, packet.Classic descriptor snaplen
  original : ∀ packet ∈ packets, packet.originalLength ≤ maxOriginalPacketBytes
  count : scan.packetIndex + packets.length ≤ resource.maxPackets
  ordered : (scan.lastTimestamp.toList ++ packets.map (·.timestamp descriptor.resolution)).IsChain (· ≤ ·)

theorem isChain_cons {last : Option Nat} {t : Nat} {ts : List Nat} : (last.toList ++ t :: ts).IsChain (· ≤ ·) ↔
    (∀ s ∈ last, s ≤ t) ∧ ((some t).toList ++ ts).IsChain (· ≤ ·) := by
  cases last with
  | none => simp
  | some s => simp [List.isChain_cons_cons]

theorem reads_cons : Reads resource descriptor snaplen view scan (packet :: packets) ↔
    Next resource descriptor snaplen view scan packet ∧
      Reads resource descriptor snaplen view (scan.after mode descriptor.resolution packet) packets := by
  constructor
  · intro h
    have hbytes := h.bytes
    rw [List.flatMap_cons] at hbytes
    have hcount := h.count
    rw [List.length_cons] at hcount
    obtain ⟨hlast, hordered⟩ := isChain_cons.mp h.ordered
    have hnext : Next resource descriptor snaplen view scan packet :=
      ⟨⟨_, hbytes⟩, h.classic packet List.mem_cons_self, h.original packet List.mem_cons_self, by omega, hlast⟩
    refine ⟨hnext, ?_, fun p hp => h.classic p (List.mem_cons_of_mem _ hp), fun p hp => h.original p (List.mem_cons_of_mem _ hp),
      ?_, hordered⟩
    · exact List.append_cancel_left (hbytes.trans hnext.drop_eq.symm)
    · rw [PacketScan.after]
      dsimp only
      omega
  · intro ⟨hnext, h⟩
    have hcount := h.count
    rw [PacketScan.after] at hcount
    dsimp only at hcount
    refine ⟨?_, List.forall_mem_cons.mpr ⟨hnext.classic, h.classic⟩, List.forall_mem_cons.mpr ⟨hnext.original, h.original⟩, ?_,
      isChain_cons.mpr ⟨hnext.ordered, h.ordered⟩⟩
    · rw [List.flatMap_cons, h.bytes, hnext.drop_eq]
    · rw [List.length_cons]
      omega

theorem packetLoop_ok (hprepared : Prepared resource descriptor snaplen) (hscan : scan.offset ≤ view.length)
    (hcount : scan.packetIndex ≤ resource.maxPackets) :
    packetLoop resource descriptor snaplen mode view scan = .ok scan' ↔
      ∃ packets, Reads resource descriptor snaplen view scan packets ∧
        packets.foldl (PacketScan.after mode descriptor.resolution) scan = scan' := by
  induction hleft : view.length - scan.offset using Nat.strong_induction_on generalizing scan with
  | _ left ih =>
    rw [packetLoop]
    by_cases hmore : scan.offset < view.length
    · rw [if_pos hmore]
      have hrest : ∀ {packet}, Next resource descriptor snaplen view scan packet →
          (packetLoop resource descriptor snaplen mode view (scan.after mode descriptor.resolution packet) = .ok scan' ↔
            ∃ packets, Reads resource descriptor snaplen view (scan.after mode descriptor.resolution packet) packets ∧
              packets.foldl (PacketScan.after mode descriptor.resolution)
              (scan.after mode descriptor.resolution packet) = scan') := by
        intro packet hnext
        have hoffset : scan.offset + 16 ≤ (scan.after mode descriptor.resolution packet).offset := Nat.le_add_right _ _
        exact ih _ (by omega) (hnext.offset_le hscan) hnext.count rfl
      constructor
      · intro h
        split at h
        · cases h
        · rename_i scan₁ hstep
          obtain ⟨packet, hnext⟩ := exists_next hstep
          rw [hnext.packetStep hprepared] at hstep
          cases hstep
          obtain ⟨packets, hreads, hfold⟩ := (hrest hnext).mp h
          exact ⟨packet :: packets, reads_cons.mpr ⟨hnext, hreads⟩, hfold⟩
      · rintro ⟨packets, hreads, hfold⟩
        cases packets with
        | nil =>
          have hlen := congrArg List.length hreads.bytes
          rw [List.flatMap_nil, List.length_nil, List.length_drop] at hlen
          omega
        | cons packet packets =>
          obtain ⟨hnext, hreads⟩ := (@reads_cons resource descriptor snaplen mode view scan packet packets).mp hreads
          have hstep := @Next.packetStep resource descriptor snaplen mode view scan packet hprepared hnext
          split
          · rename_i hraised
            rw [hstep] at hraised
            cases hraised
          · rename_i hok
            rw [hstep] at hok
            cases hok
            exact (hrest hnext).mpr ⟨packets, hreads, hfold⟩
    · rw [if_neg hmore]
      have hdrop : view.drop scan.offset = [] := List.drop_eq_nil_of_le (Nat.le_of_not_lt hmore)
      constructor
      · intro h
        refine ⟨[], ⟨hdrop.symm, List.forall_mem_nil _, List.forall_mem_nil _, hcount, ?_⟩, Except.ok.inj h⟩
        rw [List.map_nil, List.append_nil]
        cases scan.lastTimestamp <;> simp
      · rintro ⟨packets, hreads, hfold⟩
        cases packets with
        | nil => exact congrArg Except.ok hfold
        | cons packet packets =>
          have hlen := congrArg List.length (hreads.bytes.trans hdrop)
          rw [List.flatMap_cons, List.length_append, Packet.length_bytes, List.length_nil] at hlen
          omega

theorem foldl_after (mode resolution : String) (packets : List Packet) :
    packets.foldl (PacketScan.after mode resolution) {} = {
      offset := 24 + (packets.map fun packet => 16 + packet.payload.length).sum
      packetIndex := packets.length
      packetRecords := if mode = "capture" then packets.mapIdx fun i packet => packet.evidence resolution (i + 1) else []
      totalCaptured := (packets.map fun packet => packet.payload.length).sum
      totalOriginal := (packets.map fun packet => packet.originalLength).sum
      firstTimestamp := (packets.map (·.timestamp resolution)).head?
      lastTimestamp := (packets.map (·.timestamp resolution)).getLast? } := by
  induction packets using List.reverseRecOn with
  | nil => simp
  | append_singleton packets packet ih =>
    rw [List.foldl_append, ih, List.foldl_cons, List.foldl_nil, PacketScan.after]
    have hfirst : some ((packets.map (·.timestamp resolution)).head?.getD (packet.timestamp resolution)) =
        ((packets ++ [packet]).map (·.timestamp resolution)).head? := by
      cases packets <;> rfl
    have hrecords : (if mode = "capture" then
        (if mode = "capture" then packets.mapIdx fun i packet => packet.evidence resolution (i + 1)
        else []) ++ [packet.evidence resolution (packets.length + 1)] else if mode = "capture" then
          packets.mapIdx fun i packet => packet.evidence resolution (i + 1) else []) =
        if mode = "capture" then (packets ++ [packet]).mapIdx fun i packet => packet.evidence resolution (i + 1) else [] := by
      split
      · rw [List.mapIdx_concat]
      · rfl
    rw [hfirst, hrecords]
    simp [Nat.add_assoc]

end Packets

/-! ## The parser -/

section Parser

variable {resource : PCAPResource} {capture : Capture} {data magic : List UInt8} {descriptor : Descriptor} {mode : String}
  {evidence : PCAPCaptureEvidence}

theorem descriptor?_eq_some : descriptor? magic = some descriptor ↔ (magic, descriptor) ∈ magics := by
  rw [descriptor?, Option.map_eq_some_iff]
  constructor
  · intro ⟨entry, hfind, hentry⟩
    have hmagic : entry.1 = magic := by simpa using List.find?_some hfind
    have hmem := List.mem_of_find?_eq_some hfind
    rw [← hmagic, ← hentry]
    exact hmem
  · intro hmem
    have hall : ∀ entry ∈ magics, (magics.find? fun other => other.1 = entry.1) = some entry := by decide
    exact ⟨_, hall _ hmem, rfl⟩

theorem magics_spec (h : (magic, descriptor) ∈ magics) : magic.length = 4 ∧ descriptor.fractionBase ≤ 256 ^ 4 ∧
    descriptor.byteOrder ∈ ["little", "big"] ∧ descriptor.resolution ∈ ["microsecond", "nanosecond"] := by
  have hall : ∀ entry ∈ magics, entry.1.length = 4 ∧ entry.2.fractionBase ≤ 256 ^ 4 ∧ entry.2.byteOrder ∈ ["little", "big"] ∧
      entry.2.resolution ∈ ["microsecond", "nanosecond"] := by decide
  exact hall _ h

/-- What the checks of a resource establish of it. -/
structure Registered (resource : PCAPResource) : Prop where
  resourceRef : checkedResourceRef resource.resourceRef = .ok resource.resourceRef
  maxPackets : resource.maxPackets ≤ 100000
  maxPacketBytes : resource.maxPacketBytes ≤ 16 * 1024 * 1024

theorem registered_of_validate (h : resource.validate = .ok resource) : Registered resource := by
  simp only [PCAPResource.validate, bind_ok, boundedInt_ok, require_ok, pure_ok, exists_const] at h
  obtain ⟨ref, href, path, hpath, maxFileBytes, -, maxPackets, ⟨⟨-, hpackets⟩, rfl⟩, maxPacketBytes,
      ⟨⟨-, hbytes⟩, rfl⟩, -, -, heq⟩ := h
  have hsame : ref = resource.resourceRef := congrArg PCAPResource.resourceRef heq
  rw [hsame] at href
  exact ⟨href, hpackets, hbytes⟩

theorem Registered.prepared (h : Registered resource) (hmagic : (magic, descriptor) ∈ magics) {snaplen : Nat}
    (hsnaplen : snaplen ≤ resource.maxPacketBytes) : Prepared resource descriptor snaplen :=
  ⟨(magics_spec hmagic).2.1, hsnaplen, h.maxPacketBytes, h.maxPackets⟩

namespace Capture

theorem Classic.length_header (h : capture.Classic resource) : capture.header.length = 24 := by
  simp only [header, List.length_append, length_pack, h.unused, (magics_spec h.magic).1]

theorem length_packets (order : ByteOrder) (packets : List Packet) :
    (packets.flatMap (·.bytes order)).length = (packets.map fun packet => 16 + packet.payload.length).sum := by
  rw [List.length_flatMap]
  simp only [Packet.length_bytes]

theorem Classic.length_bytes (h : capture.Classic resource) :
    capture.bytes.length = 24 + (capture.packets.map fun packet => 16 + packet.payload.length).sum := by
  rw [bytes, List.length_append, h.length_header, length_packets]

theorem Classic.fields (h : capture.Classic resource) (hbytes : resource.maxPacketBytes ≤ 16 * 1024 * 1024) :
    capture.bytes.take 4 = capture.magic ∧
      capture.descriptor.endian.field capture.bytes 4 2 = 2 ∧ capture.descriptor.endian.field capture.bytes 6 2 = 4 ∧
      capture.descriptor.endian.field capture.bytes 16 4 = capture.snaplen ∧
      capture.descriptor.endian.field capture.bytes 20 4 = capture.linktype := by
  obtain ⟨hmagic, -⟩ := magics_spec h.magic
  have hsnaplen := h.snaplen.2
  simp only [bytes, header, List.append_assoc]
  refine ⟨List.take_left' hmagic, ?_, ?_, ?_, ?_⟩
  · rw [show (4 : Nat) = 4 + 0 by rfl, field_skip hmagic, field_pack (by decide)]
  · rw [show (6 : Nat) = 4 + (2 + 0) by rfl, field_skip hmagic, field_skip length_pack, field_pack (by decide)]
  · rw [show (16 : Nat) = 4 + (2 + (2 + (8 + 0))) by rfl, field_skip hmagic, field_skip length_pack, field_skip length_pack,
      field_skip h.unused, field_pack (by omega)]
  · rw [show (20 : Nat) = 4 + (2 + (2 + (8 + (4 + 0)))) by rfl, field_skip hmagic, field_skip length_pack, field_skip length_pack,
      field_skip h.unused, field_skip length_pack, field_pack h.linktype]

theorem Classic.reads (h : capture.Classic resource)
    (horiginal : ∀ packet ∈ capture.packets, packet.originalLength ≤ maxOriginalPacketBytes) :
    Reads resource capture.descriptor capture.snaplen capture.bytes {} capture.packets where
  bytes := by
    rw [Capture.bytes, List.drop_left' h.length_header]
  classic := h.packets
  original := horiginal
  count := by
    rw [Nat.zero_add]
    exact h.count
  ordered := h.ordered

theorem Classic.parse_bytes (hresource : Registered resource) (h : capture.Classic resource)
    (horiginal : ∀ packet ∈ capture.packets, packet.originalLength ≤ maxOriginalPacketBytes) :
    parse resource capture.bytes mode = .ok evidence ↔ (capture.evidence resource mode).validate = .ok evidence := by
  obtain ⟨hmagic, hmajor, hminor, hsnaplen, hlinktype⟩ := h.fields hresource.maxPacketBytes
  have hlen := h.length_bytes
  have hloop := (@packetLoop_ok resource capture.descriptor capture.snaplen mode capture.bytes {} _
    (hresource.prepared h.magic h.snaplen.2) (by rw [hlen]; exact Nat.le_add_right _ _) (Nat.zero_le _)).mpr
    ⟨capture.packets, h.reads horiginal, foldl_after _ _ _⟩
  simp only [parse, hmagic, descriptor?_eq_some.mpr h.magic, bind_ok, orRaise_ok, require_ok, exists_const, Option.some.injEq,
    exists_eq_left', hmajor, hminor, hsnaplen, hlinktype, hloop, Except.ok.injEq, hlen.symm]
  have hshort : 24 ≤ capture.bytes.length := by
    rw [hlen]
    exact Nat.le_add_right _ _
  exact ⟨fun hok => hok.2.2.2.2, fun hok => ⟨hshort, ⟨trivial, trivial⟩, h.snaplen, trivial, hok⟩⟩

theorem first_le_last {ts : List Nat} (h : ts.IsChain (· ≤ ·)) {first last : Nat} (hfirst : ts.head? = some first)
    (hlast : ts.getLast? = some last) : first ≤ last := by
  cases ts with
  | nil => cases hfirst
  | cons t ts =>
    cases hfirst
    rcases List.mem_cons.mp (List.mem_of_getLast? hlast) with heq | hmem
    · exact heq.ge
    · exact List.rel_of_pairwise_cons (List.isChain_iff_pairwise.mp h) hmem

theorem Classic.checkBoundary (h : capture.Classic resource) :
    checkBoundary capture.packets.length capture.timestamps.head? capture.timestamps.getLast? = .ok () := by
  unfold PcapEvidence.checkBoundary
  cases hpackets : capture.packets with
  | nil =>
    rw [List.length_nil, if_pos rfl, require_ok, timestamps, hpackets]
    exact ⟨rfl, rfl⟩
  | cons packet packets =>
    rw [List.length_cons, if_neg (Nat.succ_ne_zero _)]
    have hne : capture.timestamps ≠ [] := by
      rw [timestamps, hpackets]
      exact List.cons_ne_nil _ _
    rw [List.head?_eq_some_head hne, List.getLast?_eq_some_getLast hne]
    exact require_ok.mpr (first_le_last h.ordered (List.head?_eq_some_head hne) (List.getLast?_eq_some_getLast hne))

theorem Bounded.validate_evidence (hresource : Registered resource) (h : capture.Bounded resource)
    (hmode : mode ∈ ["capture", "metadata"]) :
    (capture.evidence resource mode).validate = .ok (capture.evidence resource mode) := by
  obtain ⟨-, -, hbyteOrder, hresolution⟩ := magics_spec h.magic
  have hlen := h.toClassic.length_bytes
  have hsize := h.size
  have hsnaplen := h.snaplen
  have hpacketBytes := hresource.maxPacketBytes
  have hcount := h.count
  have hpackets := hresource.maxPackets
  have hlinktype := h.linktype
  simp only [PCAPCaptureEvidence.validate, bind_ok, boundedInt_ok, require_ok, pure_ok, exists_const]
  refine ⟨_, hresource.resourceRef, hmode, sha256Re_hashBytes _, _, ⟨⟨?_, hsize⟩, rfl⟩, hbyteOrder, hresolution, ⟨rfl, rfl⟩, _,
    ⟨⟨hsnaplen.1, ?_⟩, rfl⟩, _, ⟨⟨Nat.zero_le _, ?_⟩, rfl⟩, _, ⟨⟨Nat.zero_le _, ?_⟩, rfl⟩, ?_,
    ⟨⟩, h.toClassic.checkBoundary, ?_, ?_,
    ?_, ⟨⟩, ?_, rfl, rfl, rfl⟩
  · rw [evidence]
    dsimp only
    omega
  · rw [evidence]
    dsimp only
    omega
  · rw [evidence]
    dsimp only
    omega
  · rw [evidence]
    dsimp only
    omega
  · exact List.sum_le_sum fun packet hpacket => (h.packets packet hpacket).original
  · rintro ⟨hmetadata, hne⟩
    rw [evidence] at hmetadata hne
    dsimp only at hmetadata hne
    rw [hmetadata] at hne
    exact hne rfl
  · rintro ⟨hcapture, hne⟩
    rw [evidence] at hcapture hne
    dsimp only at hcapture hne
    rw [if_pos hcapture, List.length_mapIdx] at hne
    exact hne rfl
  · rw [evidence]
    dsimp only
    split
    · refine List.ext_getElem (by simp) ?_
      intro i _ _
      simp [Packet.evidence, Nat.add_comm]
    · rfl
  · refine forM_ok.mpr ?_
    intro packet hpacket
    rw [evidence] at hpacket
    dsimp only at hpacket
    split at hpacket
    · obtain ⟨i, hi, rfl⟩ := List.mem_mapIdx.mp hpacket
      have hmem : capture.packets[i] ∈ capture.packets := List.getElem_mem hi
      have hclassic := h.packets _ hmem
      have hcaptured := hclassic.captured
      rw [PcapEvidence.validate_evidence (by omega) (by omega) hclassic.original (h.original _ hmem)]
      rfl
    · cases hpacket

end Capture

theorem exists_capture (hresource : Registered resource) (h : parse resource data mode = .ok evidence) :
    ∃ capture : Capture, capture.bytes = data ∧ capture.Bounded resource ∧ mode ∈ ["capture", "metadata"] := by
  have hparse := h
  simp only [parse, bind_ok, orRaise_ok, require_ok, exists_const] at h
  obtain ⟨descriptor, hdescriptor, hshort, ⟨hmajor, hminor⟩, hsnaplen, scan, hloop, hoffset, hvalid⟩ := h
  have hmagic := descriptor?_eq_some.mp hdescriptor
  obtain ⟨packets, hreads, -⟩ := (packetLoop_ok (hresource.prepared hmagic hsnaplen.2) hshort (Nat.zero_le _)).mp hloop
  let capture : Capture := ⟨data.take 4, descriptor, (data.drop 8).take 8, descriptor.endian.field data 16 4,
    descriptor.endian.field data 20 4, packets⟩
  have hbytes : capture.bytes = data := by
    have hmajor' := @pack_field descriptor.endian 2 data 4 (by omega)
    have hminor' := @pack_field descriptor.endian 2 data 6 (by omega)
    rw [hmajor] at hmajor'
    rw [hminor] at hminor'
    have hunused : (data.drop 8).take 8 ++ data.drop 16 = data.drop 8 := by
      rw [← List.take_append_drop 8 (data.drop 8), List.drop_drop, List.take_left' (by simp; omega)]
    rw [Capture.bytes, Capture.header]
    dsimp only [capture]
    simp only [List.append_assoc]
    rw [hreads.bytes, pack_field (by omega), pack_field (by omega), hunused, hminor', hmajor', List.take_append_drop]
  have hclassic : capture.Classic resource := {
    magic := hmagic
    unused := by
      rw [List.length_take, List.length_drop]
      omega
    snaplen := hsnaplen
    linktype := field_lt (by omega)
    packets := hreads.classic
    ordered := hreads.ordered
    count := by
      have hcount := hreads.count
      rwa [Nat.zero_add] at hcount }
  rw [← hbytes, hclassic.parse_bytes hresource hreads.original] at hparse
  simp only [PCAPCaptureEvidence.validate, bind_ok, boundedInt_ok, require_ok] at hparse
  obtain ⟨-, -, -, hmode, -, -, -, ⟨⟨-, hsize⟩, -⟩, -⟩ := hparse
  exact ⟨capture, hbytes, ⟨hclassic, hreads.original, hsize⟩, hmode⟩

theorem parse_ok (hresource : Registered resource) (hmode : mode ∈ ["capture", "metadata"]) :
    parse resource data mode = .ok evidence ↔
      ∃ capture : Capture, capture.bytes = data ∧ capture.Bounded resource ∧ capture.evidence resource mode = evidence := by
  constructor
  · intro h
    obtain ⟨capture, rfl, hbounded, -⟩ := exists_capture hresource h
    rw [hbounded.toClassic.parse_bytes hresource hbounded.original, hbounded.validate_evidence hresource hmode] at h
    exact ⟨capture, rfl, hbounded, Except.ok.inj h⟩
  · intro ⟨capture, hbytes, hbounded, hevidence⟩
    rw [← hbytes, hbounded.toClassic.parse_bytes hresource hbounded.original,
      hbounded.validate_evidence hresource hmode, hevidence]

/-- In each mode just the files of captures within the bounds are parsed, with their sums as the summary; the two modes differ
in the packets that they list. -/
theorem parses_captures (hresource : resource.validate = .ok resource) (data : List UInt8) :
    (∀ mode ∈ ["capture", "metadata"], ∀ evidence, parse resource data mode = .ok evidence ↔
      ∃ capture : Capture, capture.bytes = data ∧ capture.Bounded resource ∧ capture.evidence resource mode = evidence) ∧
    ∀ evidence, parse resource data "metadata" = .ok evidence ↔
      ∃ captured, parse resource data "capture" = .ok captured ∧
        { captured with mode := "metadata", packets := [] } = evidence := by
  have hregistered := registered_of_validate hresource
  refine ⟨fun mode hmode evidence => parse_ok hregistered hmode, ?_⟩
  intro evidence
  rw [parse_ok hregistered (by decide)]
  constructor
  · intro ⟨capture, hbytes, hbounded, hevidence⟩
    exact ⟨_, (parse_ok hregistered (by decide)).mpr ⟨capture, hbytes, hbounded, rfl⟩, hevidence⟩
  · intro ⟨captured, hparse, hevidence⟩
    obtain ⟨capture, hbytes, hbounded, rfl⟩ := (parse_ok hregistered (by decide)).mp hparse
    exact ⟨capture, hbytes, hbounded, hevidence⟩

end Parser

/-! ## Two files -/

namespace Sampled

def resource : PCAPResource := { resourceRef := "pcap:sample", relativePath := "sample.pcap" }

/-- A file of one packet, of the least snapshot length. -/
def capture (originalLength : Nat) : Capture where
  magic := [0xd4, 0xc3, 0xb2, 0xa1]
  descriptor := ⟨"little", "microsecond", .little, 1000000⟩
  unused := [0, 0, 0, 0, 0, 0, 0, 0]
  snaplen := 1
  linktype := 1
  packets := [⟨1, 0, originalLength, [7]⟩]

theorem classic_capture {originalLength : Nat} (h : 1 ≤ originalLength) (hword : originalLength < 256 ^ 4) :
    (capture originalLength).Classic resource where
  magic := List.mem_cons_self
  unused := rfl
  snaplen := ⟨Nat.le_refl 1, (by decide : 1 ≤ resource.maxPacketBytes)⟩
  linktype := (by decide : 1 < 256 ^ 4)
  packets := by
    intro packet hpacket
    rw [List.mem_singleton.mp hpacket]
    exact ⟨(by decide : 1 < 256 ^ 4), (by decide : 0 < 1000000), Nat.le_refl 1, h, hword⟩
  ordered := .singleton _
  count := (by decide : 1 ≤ resource.maxPackets)

theorem parses_captures_one : ∃ evidence, parse resource (capture 60).bytes "capture" = .ok evidence :=
  ⟨_, ((parses_captures (by decide) (capture 60).bytes).1 "capture" (by decide) _).mpr
    ⟨capture 60, rfl, ⟨classic_capture (by decide) (by decide), by decide, by decide⟩, rfl⟩⟩

/-- A packet of an original length past the bound that no resource can raise: the grammar allows it, the parser does not. -/
theorem oversized_not_parsed : (capture (64 * 1024 * 1024 + 1)).Classic resource ∧ resource.validate = .ok resource ∧
    ¬ ∃ evidence, parse resource (capture (64 * 1024 * 1024 + 1)).bytes "capture" = .ok evidence := by
  refine ⟨classic_capture (by decide) (by decide), by decide, ?_⟩
  intro ⟨evidence, h⟩
  have hclassic := @classic_capture (64 * 1024 * 1024 + 1) (by decide) (by decide)
  obtain ⟨hmagic, -, -, hsnaplen, -⟩ := hclassic.fields (by decide)
  simp only [parse, hmagic, descriptor?_eq_some.mpr hclassic.magic, bind_ok, orRaise_ok, require_ok, exists_const,
    Option.some.injEq, exists_eq_left', hsnaplen] at h
  obtain ⟨-, -, -, scan, hloop, -⟩ := h
  have hstep : packetStep resource (capture (64 * 1024 * 1024 + 1)).descriptor 1 "capture"
      (capture (64 * 1024 * 1024 + 1)).bytes {} =
      .error (pcapError "PCAP_ORIGINAL_LENGTH_BOUND_EXCEEDED") := by decide
  rw [packetLoop, if_pos (by decide)] at hloop
  split at hloop
  · cases hloop
  · rename_i hok
    rw [show (capture (64 * 1024 * 1024 + 1)).snaplen = 1 from rfl, hstep] at hok
    cases hok

end Sampled

end ThreeAgent.PcapEvidence
