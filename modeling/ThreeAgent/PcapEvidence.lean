/-
Evidence of a capture file (`pcap_evidence.py`): the bounds that a registered
resource sets, the packets of a classic capture file one after the other, and
the checks of what is reported of them.
-/
import ThreeAgent.Checks
import ThreeAgent.Lib.ByteOrder

namespace ThreeAgent.PcapEvidence

open PyText Outcome

def pcapResourceSchema : String := "workspace-security-monitoring/pcap-resource-v1"
def pcapPacketEvidenceSchema : String := "workspace-security-monitoring/pcap-packet-evidence-v1"
def pcapCaptureEvidenceSchema : String := "workspace-security-monitoring/pcap-capture-evidence-v1"

def defaultMaxPcapBytes : Nat := 32 * 1024 * 1024
def defaultMaxPcapPackets : Nat := 4096
def defaultMaxPacketBytes : Nat := 1024 * 1024
def maxOriginalPacketBytes : Nat := 64 * 1024 * 1024
def maxResourceRefLength : Nat := 128
def maxRelativePathLength : Nat := 240

def pcapError (message : String) : Raised := ⟨.pcapEvidenceError, message⟩

/-- `_RESOURCE_RE.fullmatch`. -/
def resourceRe : List Char → Bool
  | [] => false
  | c :: rest =>
    isAsciiAlnum c && (rest.all fun c => isAsciiAlnum c || c ∈ ['.', '_', ':', '@', '+', '-', '/']) && decide (rest.length ≤ 127)

/-- `PurePosixPath(text).parts`, but for the root. -/
def pathParts (text : String) : List String := (split '/' text).filter fun part => part ∉ ["", "."]

/-- `_resource_ref`. -/
def checkedResourceRef (value : String) : Except Raised String := do
  let text := strip value
  require (text ≠ "" ∧ text.toList.length ≤ maxResourceRefLength ∧ resourceRe text.toList = true)
    (pcapError "pcap resource_ref must be a compact identifier")
  require (contains text "://" = false ∧ ".." ∉ pathParts text)
    (pcapError "pcap resource_ref must not escape its trust domain")
  return text

/-- `_relative_path`. The parts of a path are never empty or a dot, so that the last check of the source passes. -/
def checkedRelativePath (value : String) : Except Raised String := do
  let text := replaceChar '\\' '/' (strip value)
  require (text ≠ "" ∧ text.toList.length ≤ maxRelativePathLength) (pcapError "pcap relative_path is invalid")
  require (startsWith text "/" = false ∧ ".." ∉ pathParts text ∧ pathParts text ≠ [])
    (pcapError "pcap relative_path must be safe and relative")
  return join '/' (pathParts text)

/-- `_bounded_int`. -/
def boundedInt (value : Nat) (fieldName : String) (minimum maximum : Nat) : Except Raised Nat := do
  require (minimum ≤ value ∧ value ≤ maximum)
    (pcapError (fieldName ++ " must be within " ++ toString minimum ++ ".." ++ toString maximum))
  return value

structure PCAPResource where
  resourceRef : String
  relativePath : String
  maxFileBytes : Nat := defaultMaxPcapBytes
  maxPackets : Nat := defaultMaxPcapPackets
  maxPacketBytes : Nat := defaultMaxPacketBytes
  schemaVersion : String := pcapResourceSchema
  deriving DecidableEq, Repr

def PCAPResource.validate (resource : PCAPResource) : Except Raised PCAPResource := do
  let resourceRef ← checkedResourceRef resource.resourceRef
  let relativePath ← checkedRelativePath resource.relativePath
  let maxFileBytes ← boundedInt resource.maxFileBytes "max_file_bytes" 24 (256 * 1024 * 1024)
  let maxPackets ← boundedInt resource.maxPackets "max_packets" 1 100000
  let maxPacketBytes ← boundedInt resource.maxPacketBytes "max_packet_bytes" 64 (16 * 1024 * 1024)
  require (maxPacketBytes ≤ maxFileBytes) (pcapError "max_packet_bytes cannot exceed max_file_bytes")
  require (resource.schemaVersion = pcapResourceSchema) (pcapError "unsupported PCAP resource schema")
  return { resource with resourceRef, relativePath, maxFileBytes, maxPackets, maxPacketBytes }

structure PCAPPacketEvidence where
  packetIndex : Nat
  timestampEpochNs : Nat
  capturedLength : Nat
  originalLength : Nat
  payloadSha256 : String
  schemaVersion : String := pcapPacketEvidenceSchema
  deriving DecidableEq, Repr

def PCAPPacketEvidence.validate (packet : PCAPPacketEvidence) : Except Raised PCAPPacketEvidence := do
  let _ ← boundedInt packet.packetIndex "packet_index" 1 100000
  let _ ← boundedInt packet.capturedLength "captured_length" 0 (16 * 1024 * 1024)
  let _ ← boundedInt packet.originalLength "original_length" 0 maxOriginalPacketBytes
  require (packet.capturedLength ≤ packet.originalLength)
    (pcapError "original_length cannot be smaller than captured_length")
  require (sha256Re packet.payloadSha256 = true) (pcapError "packet payload_sha256 is invalid")
  require (packet.schemaVersion = pcapPacketEvidenceSchema) (pcapError "unsupported packet evidence schema")
  return packet

structure PCAPCaptureEvidence where
  resourceRef : String
  mode : String
  fileSha256 : String
  fileSizeBytes : Nat
  byteOrder : String
  timestampResolution : String
  versionMajor : Nat
  versionMinor : Nat
  snaplen : Nat
  linktype : Nat
  packetCount : Nat
  totalCapturedBytes : Nat
  totalOriginalBytes : Nat
  firstTimestampEpochNs : Option Nat
  lastTimestampEpochNs : Option Nat
  packets : List PCAPPacketEvidence
  boundedComplete : Bool := true
  schemaVersion : String := pcapCaptureEvidenceSchema
  deriving DecidableEq, Repr

/-- The checks of the first and the last timestamp. -/
def checkBoundary (packetCount : Nat) (firstTimestamp lastTimestamp : Option Nat) : Except Raised Unit :=
  if packetCount = 0 then
    require (firstTimestamp = none ∧ lastTimestamp = none) (pcapError "empty PCAP cannot expose packet timestamps")
  else
    match firstTimestamp, lastTimestamp with
    | some first, some last => require (first ≤ last) (pcapError "PCAP timestamps are not monotonic at summary boundary")
    | _, _ => throw (pcapError "non-empty PCAP requires first/last timestamps")

def PCAPCaptureEvidence.validate (evidence : PCAPCaptureEvidence) : Except Raised PCAPCaptureEvidence := do
  let resourceRef ← checkedResourceRef evidence.resourceRef
  require (evidence.mode ∈ ["capture", "metadata"]) (pcapError "unsupported PCAP evidence mode")
  require (sha256Re evidence.fileSha256 = true) (pcapError "file_sha256 is invalid")
  let _ ← boundedInt evidence.fileSizeBytes "file_size_bytes" 24 (256 * 1024 * 1024)
  require (evidence.byteOrder ∈ ["little", "big"]) (pcapError "unsupported PCAP byte_order")
  require (evidence.timestampResolution ∈ ["microsecond", "nanosecond"]) (pcapError "unsupported PCAP timestamp_resolution")
  require (evidence.versionMajor = 2 ∧ evidence.versionMinor = 4) (pcapError "only classic PCAP version 2.4 is admitted")
  let _ ← boundedInt evidence.snaplen "snaplen" 1 (16 * 1024 * 1024)
  let _ ← boundedInt evidence.linktype "linktype" 0 0xFFFFFFFF
  let _ ← boundedInt evidence.packetCount "packet_count" 0 100000
  require (evidence.totalCapturedBytes ≤ evidence.totalOriginalBytes) (pcapError "total_original_bytes is invalid")
  checkBoundary evidence.packetCount evidence.firstTimestampEpochNs evidence.lastTimestampEpochNs
  require (¬ (evidence.mode = "metadata" ∧ evidence.packets ≠ [])) (pcapError "metadata mode cannot expose packet records")
  require (¬ (evidence.mode = "capture" ∧ evidence.packets.length ≠ evidence.packetCount))
    (pcapError "capture mode packet records must match packet_count")
  require (evidence.packets.map (·.packetIndex) = List.range' 1 evidence.packets.length)
    (pcapError "packet evidence indices must be contiguous")
  evidence.packets.forM fun packet => do
    let _ ← packet.validate
  require (evidence.boundedComplete = true) (pcapError "v0.7 never returns partial PCAP evidence as complete")
  require (evidence.schemaVersion = pcapCaptureEvidenceSchema) (pcapError "unsupported PCAP capture evidence schema")
  return { evidence with resourceRef }

/-! ## The parser -/

/-- What a magic number says of a file. -/
structure Descriptor where
  byteOrder : String
  resolution : String
  endian : ByteOrder
  fractionBase : Nat
  deriving DecidableEq, Repr

/-- `_MAGIC`. -/
def magics : List (List UInt8 × Descriptor) :=
  [([0xd4, 0xc3, 0xb2, 0xa1], ⟨"little", "microsecond", .little, 1000000⟩),
    ([0xa1, 0xb2, 0xc3, 0xd4], ⟨"big", "microsecond", .big, 1000000⟩),
    ([0x4d, 0x3c, 0xb2, 0xa1], ⟨"little", "nanosecond", .little, 1000000000⟩),
    ([0xa1, 0xb2, 0x3c, 0x4d], ⟨"big", "nanosecond", .big, 1000000000⟩)]

/-- `_MAGIC.get(magic)`. -/
def descriptor? (magic : List UInt8) : Option Descriptor := (magics.find? fun entry => entry.1 = magic).map Prod.snd

/-- `"sha256:" + hashlib.sha256(data).hexdigest()`. -/
def hashBytes (data : List UInt8) : String := "sha256:" ++ String.ofList (Sha256.digest (data.map UInt8.toNat))

def timestampNs (resolution : String) (tsSec tsFraction : Nat) : Nat :=
  tsSec * 1000000000 + if resolution = "microsecond" then tsFraction * 1000 else tsFraction

/-- What the loop over the packets holds. -/
structure PacketScan where
  offset : Nat := 24
  packetIndex : Nat := 0
  packetRecords : List PCAPPacketEvidence := []
  totalCaptured : Nat := 0
  totalOriginal : Nat := 0
  firstTimestamp : Option Nat := none
  lastTimestamp : Option Nat := none
  deriving DecidableEq, Repr

/-- `packet_records` with one packet more, in capture mode. -/
def recordPacket (mode : String) (packetRecords : List PCAPPacketEvidence) (packet : PCAPPacketEvidence) :
    Except Raised (List PCAPPacketEvidence) :=
  if mode = "capture" then do
    let packet ← packet.validate
    return packetRecords ++ [packet]
  else return packetRecords

/-- One round of the loop over the packets. -/
def packetStep (resource : PCAPResource) (descriptor : Descriptor) (snaplen : Nat) (mode : String) (view : List UInt8)
    (scan : PacketScan) : Except Raised PacketScan := do
  require (16 ≤ view.length - scan.offset) (pcapError "PCAP_PACKET_HEADER_TRUNCATED")
  let tsSec := descriptor.endian.field view scan.offset 4
  let tsFraction := descriptor.endian.field view (scan.offset + 4) 4
  let capturedLen := descriptor.endian.field view (scan.offset + 8) 4
  let originalLen := descriptor.endian.field view (scan.offset + 12) 4
  let offset := scan.offset + 16
  let packetIndex := scan.packetIndex + 1
  require (packetIndex ≤ resource.maxPackets) (pcapError "PCAP_PACKET_COUNT_BOUND_EXCEEDED")
  require (tsFraction < descriptor.fractionBase) (pcapError "PCAP_TIMESTAMP_FRACTION_INVALID")
  require (capturedLen ≤ snaplen ∧ capturedLen ≤ resource.maxPacketBytes) (pcapError "PCAP_PACKET_LENGTH_BOUND_EXCEEDED")
  require (capturedLen ≤ originalLen) (pcapError "PCAP_ORIGINAL_LENGTH_INVALID")
  require (originalLen ≤ maxOriginalPacketBytes) (pcapError "PCAP_ORIGINAL_LENGTH_BOUND_EXCEEDED")
  require (capturedLen ≤ view.length - offset) (pcapError "PCAP_PACKET_PAYLOAD_TRUNCATED")
  let payload := (view.drop offset).take capturedLen
  let timestamp := timestampNs descriptor.resolution tsSec tsFraction
  require (∀ last ∈ scan.lastTimestamp, last ≤ timestamp) (pcapError "PCAP_PACKET_TIMESTAMP_ORDER_INVALID")
  let packetRecords ← recordPacket mode scan.packetRecords {
    packetIndex := packetIndex
    timestampEpochNs := timestamp
    capturedLength := capturedLen
    originalLength := originalLen
    payloadSha256 := hashBytes payload }
  return {
    offset := offset + capturedLen
    packetIndex := packetIndex
    packetRecords := packetRecords
    totalCaptured := scan.totalCaptured + capturedLen
    totalOriginal := scan.totalOriginal + originalLen
    firstTimestamp := some (scan.firstTimestamp.getD timestamp)
    lastTimestamp := some timestamp }

theorem offset_packetStep {resource : PCAPResource} {descriptor : Descriptor} {snaplen : Nat} {mode : String} {view : List UInt8}
    {scan scan' : PacketScan} (h : packetStep resource descriptor snaplen mode view scan = .ok scan') :
    scan.offset + 16 ≤ scan'.offset := by
  simp only [packetStep, bind_ok, require_ok, pure_ok] at h
  obtain ⟨-, -, -, -, -, -, -, -, -, -, -, -, -, -, -, -, -, -, rfl⟩ := h
  exact Nat.le_add_right (scan.offset + 16) _

/-- The loop over the packets. Each round passes a header, so that it ends. -/
def packetLoop (resource : PCAPResource) (descriptor : Descriptor) (snaplen : Nat) (mode : String) (view : List UInt8)
    (scan : PacketScan) : Except Raised PacketScan :=
  if scan.offset < view.length then
    match hstep : packetStep resource descriptor snaplen mode view scan with
    | .error raised => .error raised
    | .ok scan' => packetLoop resource descriptor snaplen mode view scan'
  else .ok scan
termination_by view.length - scan.offset
decreasing_by
  have := offset_packetStep hstep
  omega

/-- `BoundedPCAPEvidenceReader._parse`. The time zone and the accuracy of the header are not used. -/
def parse (resource : PCAPResource) (data : List UInt8) (mode : String) : Except Raised PCAPCaptureEvidence := do
  let descriptor ← orRaise (descriptor? (data.take 4)) (pcapError "PCAP_MAGIC_UNSUPPORTED")
  require (24 ≤ data.length) (pcapError "PCAP_GLOBAL_HEADER_TRUNCATED")
  let versionMajor := descriptor.endian.field data 4 2
  let versionMinor := descriptor.endian.field data 6 2
  let snaplen := descriptor.endian.field data 16 4
  let linktype := descriptor.endian.field data 20 4
  require (versionMajor = 2 ∧ versionMinor = 4) (pcapError "PCAP_VERSION_UNSUPPORTED")
  require (1 ≤ snaplen ∧ snaplen ≤ resource.maxPacketBytes) (pcapError "PCAP_SNAPLEN_BOUND_EXCEEDED")
  let scan ← packetLoop resource descriptor snaplen mode data {}
  require (scan.offset = data.length) (pcapError "PCAP_TRAILING_STRUCTURE_INVALID")
  PCAPCaptureEvidence.validate {
    resourceRef := resource.resourceRef
    mode := mode
    fileSha256 := hashBytes data
    fileSizeBytes := data.length
    byteOrder := descriptor.byteOrder
    timestampResolution := descriptor.resolution
    versionMajor := versionMajor
    versionMinor := versionMinor
    snaplen := snaplen
    linktype := linktype
    packetCount := scan.packetIndex
    totalCapturedBytes := scan.totalCaptured
    totalOriginalBytes := scan.totalOriginal
    firstTimestampEpochNs := scan.firstTimestamp
    lastTimestampEpochNs := scan.lastTimestamp
    packets := scan.packetRecords }

end ThreeAgent.PcapEvidence
