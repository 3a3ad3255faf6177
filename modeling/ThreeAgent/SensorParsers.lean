/-
The parsers of monitored records (`parsers.py`), the canonical event they
build (`contracts.py`), and `DeterministicByteReplay.replay_and_parse`, which
parses the records of a batch and writes the next checkpoint (`replay.py`).

A severity and a source type are enumerations here, so that the checks against
the lists of their names are made by the types. The clock that a quarantined
record is stamped with is an argument: `replay_and_parse` overwrites it.
-/
import ThreeAgent.ByteReplay

namespace ThreeAgent.SecurityMonitoring

open PyText Outcome PyJson

/-! ## The interpreter -/

/-- What `datetime.fromtimestamp(x, tz=timezone.utc)` does. -/
inductive FromTimestamp where
  | time (instant : Int)
  /-- A `ValueError` or an `OverflowError`. -/
  | refused
  /-- The `OSError` of a time that the platform's `gmtime` cannot represent. -/
  | osError

/-- The interpreter's times, as the parsers use them. -/
class PySensor (F : Type) extends PyTime where
  /-- The values that a `datetime` can have. -/
  representable : DateTime → Prop
  /-- `t.isoformat()`. -/
  isoformat : DateTime → String
  fromTimestamp : F → FromTimestamp
  /-- Whether `json.loads` gives up on the text with a `RecursionError`. -/
  tooDeep : String → Bool
  /-- `json.loads` of a text that escapes half of a surrogate pair, which `loads` does not read; the half stands in the
  string as the interpreter has it. -/
  loadsUnpaired : String → Option (Json F)
  read_representable : ∀ s d, read s = some d → representable d
  fromTimestamp_representable : ∀ x t, fromTimestamp x = .time t → representable ⟨t, some 0⟩
  read_isoformat : ∀ d, representable d → d.offset.isSome = true → read (isoformat d) = some d
  strip_isoformat : ∀ d, representable d → strip (isoformat d) = isoformat d
  write_representable : ∀ t, representable ⟨t, some 0⟩ → ∃ s, write t = some s

/-! ## Events -/

/-- `SEVERITIES`. -/
inductive Severity where
  | info
  | low
  | medium
  | high
  | critical
  deriving DecidableEq, Repr

/-- The values of `_SUPPORTED_FORMATS`. -/
inductive SourceType where
  | syslog
  | suricataEve
  | zeekJson
  deriving DecidableEq, Repr

def SourceType.text : SourceType → String
  | .syslog => "syslog"
  | .suricataEve => "suricata_eve"
  | .zeekJson => "zeek_json"

/-- `_SUPPORTED_FORMATS.get`. -/
def supportedFormat : String → Option SourceType
  | "syslog-rfc5424" => some .syslog
  | "suricata-eve-jsonl" => some .suricataEve
  | "zeek-jsonl" => some .zeekJson
  | _ => none

structure CanonicalEvent where
  eventId : String
  sourceId : String
  sourceType : String
  observedAt : String
  category : String
  severity : Severity
  messageSha256 : String
  parserVersion : String
  evidenceRef : Option String := none
  schemaVersion : String := "workspace-security-monitoring/event-v1"
  deriving DecidableEq, Repr

/-- `_compact` of a reference that may be absent. -/
def optionalCompact (value : Option String) (fieldName : String) : Except Raised (Option String) :=
  match value with
  | none => return none
  | some value => some <$> compact value fieldName 256

/-- `CanonicalEvent.validate`: the event with its fields normalised. -/
def CanonicalEvent.validate [PyTime] (e : CanonicalEvent) : Except Raised CanonicalEvent := do
  let eventId ← compact e.eventId "event_id" 128
  let sourceId ← compact e.sourceId "source_id" 128
  let sourceType ← compact e.sourceType "source_type" 64
  let observedAt ← isoTimestamp e.observedAt "observed_at"
  let category ← compact e.category "category" 96
  require (sha256Re e.messageSha256 = true) (contractError "message_sha256 must be a SHA-256 fingerprint")
  let parserVersion ← compact e.parserVersion "parser_version" 96
  let evidenceRef ← optionalCompact e.evidenceRef "evidence_ref"
  return { e with
    eventId := eventId, sourceId := sourceId, sourceType := sourceType, observedAt := observedAt, category := category,
    parserVersion := parserVersion, evidenceRef := evidenceRef }

structure QuarantinedRecord where
  sourceId : String
  sourceType : String
  parserVersion : String
  reasonCode : String
  payloadSha256 : String
  observedAt : String
  deriving DecidableEq, Repr

/-- `CanonicalEvent | QuarantinedRecord`. -/
inductive ParsedRecord where
  | event (e : CanonicalEvent)
  | quarantined (q : QuarantinedRecord)
  deriving DecidableEq, Repr

/-! ## Syslog -/

def syslogParserVersion : String := "workspace-syslog/v1"

/-- `_severity_from_syslog_priority`. -/
def severityFromSyslogPriority (priority : Nat) : Severity :=
  let severity := priority % 8
  if severity ≤ 1 then .critical
  else if severity ≤ 3 then .high
  else if severity = 4 then .medium
  else if severity ≤ 6 then .low
  else .info

/-- The groups of `_SYSLOG_RE` that are used. -/
structure SyslogMatch where
  pri : String
  timestamp : String
  app : String
  deriving DecidableEq, Repr

/-- The characters of the group `app`. -/
def isAppChar (c : Char) : Bool := isAsciiAlnum c || c ∈ ['_', '.', '-', '/']

/-- `\S+` and the white space after it, both as long as they can be: the part and the rest. -/
def word? (cs : List Char) : Option (String × List Char) :=
  let part := cs.takeWhile fun c => !isSpace c
  let rest := cs.drop part.length
  if part = [] ∨ rest = [] then none else some (String.ofList part, rest.dropWhile isSpace)

/-- `(?:\[(?P<pid>\d+)\])?:`, the rest after it. -/
def afterTag? : List Char → Option (List Char)
  | ':' :: cs => some cs
  | '[' :: cs =>
    let pid := cs.takeWhile fun c => (decimalValue c).isSome
    match pid, cs.drop pid.length with
    | _ :: _, ']' :: ':' :: rest => some rest
    | _, _ => none
  | _ => none

/-- The part of `_SYSLOG_RE` after the priority. -/
def syslogBody (pri : String) (cs : List Char) : Option SyslogMatch := do
  let (timestamp, cs) ← word? cs
  let (_, cs) ← word? cs
  let app := cs.takeWhile isAppChar
  guard (app ≠ [])
  let message ← afterTag? (cs.drop app.length)
  -- `\s*` may take line ends, `.*` takes none
  guard ('\n' ∉ message.dropWhile isSpace)
  return ⟨pri, timestamp, String.ofList app⟩

/-- `_SYSLOG_RE.match` of a stripped text. A run of the pattern ends where its characters end, since what follows it
starts with another, so that no shorter run matches either. -/
def syslogRe (text : String) : Option SyslogMatch :=
  match text.toList with
  | '<' :: cs =>
    let pri := cs.takeWhile fun c => (decimalValue c).isSome
    match cs.drop pri.length with
    | '>' :: cs => if 1 ≤ pri.length ∧ pri.length ≤ 3 then syslogBody (String.ofList pri) cs else none
    | _ => none
  | _ => none

/-- The priority and the time of a header, none for the `ValueError`. -/
def syslogHeader [PyTime] (m : SyslogMatch) : Option (Nat × DateTime) := do
  let priority ← int? m.pri
  guard (0 ≤ priority ∧ priority ≤ 191)
  let timestamp ← PyTime.read m.timestamp
  guard (timestamp.offset.isSome = true)
  return (priority.toNat, timestamp)

/-- `"syslog." + app.lower().replace("/", "_")[:72]`. -/
def syslogCategory (app : String) : String :=
  "syslog." ++ String.ofList ((replaceChar '/' '_' (lower app)).toList.take 72)

/-- The event that both parsers build before they validate it. -/
def recordEvent (F : Type) [PySensor F] (sourceId : String) (sourceType : SourceType) (line parserVersion : String)
    (time : DateTime) (category : String) (severity : Severity) : CanonicalEvent where
  eventId := "evt-" ++ digestPrefix (hashText line) 24
  sourceId := sourceId
  sourceType := sourceType.text
  observedAt := PySensor.isoformat F time
  category := category
  severity := severity
  messageSha256 := hashText line
  parserVersion := parserVersion
  evidenceRef := some ("event:" ++ digestPrefix (hashText line) 32)

/-- `parse_syslog_line`. -/
def parseSyslogLine (F : Type) [PySensor F] (now sourceId line : String) : Except Raised ParsedRecord :=
  let quarantined (reasonCode : String) : ParsedRecord :=
    .quarantined ⟨sourceId, "syslog", syslogParserVersion, reasonCode, hashText line, now⟩
  match syslogRe (strip line) with
  | none => return quarantined "SYSLOG_PARSE_FAILED"
  | some m =>
    match syslogHeader m with
    | none => return quarantined "SYSLOG_HEADER_INVALID"
    | some (priority, timestamp) => do
      let e ← (recordEvent F sourceId .syslog line syslogParserVersion timestamp (syslogCategory m.app)
        (severityFromSyslogPriority priority)).validate
      return .event e

/-! ## JSON sensors -/

def jsonSensorParserVersion : String := "workspace-json-sensor/v1"

section Json

variable {F : Type} [PyRuntime F] [PySensor F]

/-- `json.loads(raw_line)`, none for a `ValueError`. -/
def loadsPayload (rawLine : String) : Option (Json F) := (loads rawLine).or (PySensor.loadsUnpaired rawLine)

/-- `datetime.fromtimestamp(float(number), tz=timezone.utc)`, none for an exception that `_event_timestamp` catches. -/
def numberTime (number : Num F) : Except Raised (Option DateTime) :=
  match number.toFloat with
  | none => return none
  | some x =>
    match PySensor.fromTimestamp x with
    | .time instant => return some ⟨instant, some 0⟩
    | .refused => return none
    | .osError => throw ⟨.osError, "Value too large for defined data type"⟩

/-- The time that one candidate gives, if it gives one. -/
def candidateTime : Json F → Except Raised (Option DateTime)
  | .null => return none
  | .bool b => numberTime (F := F) (.int (if b then 1 else 0))
  | .int n => numberTime (F := F) (.int n)
  | .float x => numberTime (.float x)
  | v => return (PyTime.read v.toStr).filter (·.offset.isSome)

/-- The first time that the candidates give. -/
def firstTime : List (Json F) → Except Raised (Option DateTime)
  | [] => return none
  | candidate :: candidates => do
    match ← candidateTime candidate with
    | some time => return some time
    | none => firstTime candidates

/-- The candidates of `_event_timestamp`. -/
def timeCandidates (payload : Json F) : SourceType → List (Json F)
  | .suricataEve => [payload.item "timestamp"]
  | .zeekJson => [payload.item "ts", payload.item "timestamp"]
  | .syslog => [payload.item "timestamp", payload.item "ts"]

/-- `_event_timestamp` before `isoformat`, none for its `MonitoringContractError`. -/
def eventTimestamp (payload : Json F) (sourceType : SourceType) : Except Raised (Option DateTime) :=
  firstTime (timeCandidates payload sourceType)

/-- `value == n`. -/
def equalsInt : Json F → Int → Bool
  | .bool b, n => (if b then 1 else 0) == n
  | .int m, n => m == n
  | .float x, n => PyFloat.eqInt x n
  | _, _ => false

/-- `{1: "critical", 2: "high", 3: "medium", 4: "low"}.get(value, "medium")`. -/
def alertSeverity : Json F → Except Raised Severity
  | .arr _ => throw ⟨.typeError, "unhashable type: 'list'"⟩
  | .obj _ => throw ⟨.typeError, "unhashable type: 'dict'"⟩
  | v =>
    return if equalsInt v 1 then .critical else if equalsInt v 2 then .high else if equalsInt v 3 then .medium
      else if equalsInt v 4 then .low else .medium

/-- `[A-Za-z0-9_.-]`. -/
def isCategoryChar (c : Char) : Bool := isAsciiAlnum c || c ∈ ['_', '.', '-']

/-- `re.sub(r"[^A-Za-z0-9_.-]+", "_", text)`, inside a run of replaced characters or not. -/
def substituteRuns : Bool → List Char → List Char
  | _, [] => []
  | inRun, c :: cs =>
    if isCategoryChar c then c :: substituteRuns false cs
    else if inRun then substituteRuns true cs
    else '_' :: substituteRuns true cs

/-- `prefix + re.sub(..., text)[:72]`. -/
def sensorCategory (vendor : String) (text : String) : String :=
  vendor ++ String.ofList ((substituteRuns false text.toList).take 72)

/-- `str(a or b)` of a looked-up value and a text. -/
def textOrElse (v : Option (Json F)) (fallback : String) : String :=
  match v with
  | none => fallback
  | some v => if v.truthy then v.toStr else fallback

/-- The category and the severity of an event. -/
def classify (payload : Json F) : SourceType → Except Raised (String × Severity)
  | .suricataEve => do
    let eventType := textOrElse (payload.get? "event_type") "unknown"
    let severity ←
      if eventType = "alert" then alertSeverity ((payload.item "alert").item "severity") else pure .info
    return (sensorCategory "suricata." (lower eventType), severity)
  | _ =>
    let eventType := textOrElse (payload.get? "_path") (textOrElse (payload.get? "event_type") "conn")
    return (sensorCategory "zeek." (stripChar '/' (lower eventType)), .info)

end Json

/-- `parse_json_sensor_event`. -/
def parseJsonSensorEvent (F : Type) [PyRuntime F] [PySensor F] (now sourceId : String) (sourceType : SourceType)
    (rawLine : String) : Except Raised ParsedRecord := do
  let quarantined : ParsedRecord :=
    .quarantined ⟨sourceId, sourceType.text, jsonSensorParserVersion, "JSON_SENSOR_PARSE_FAILED", hashText rawLine, now⟩
  require (sourceType ≠ .syslog) (contractError "unsupported JSON sensor source_type")
  require (PySensor.tooDeep F rawLine = false) ⟨.runtimeError, "maximum recursion depth exceeded"⟩
  match (loadsPayload rawLine : Option (Json F)) with
  | some (.obj fields) =>
    match ← eventTimestamp (.obj fields) sourceType with
    | none => return quarantined
    | some time =>
      let (category, severity) ← classify (.obj fields) sourceType
      let e ← (recordEvent F sourceId sourceType rawLine jsonSensorParserVersion time category severity).validate
      return .event e
  | _ => return quarantined

/-! ## Replay and parse -/

structure ParsedReplayBatch where
  events : List CanonicalEvent
  quarantined : List QuarantinedRecord
  replay : ReplayBatch
  nextCheckpoint : SourceCheckpoint
  deriving DecidableEq, Repr

/-- The parser of a source type. -/
def parseRecord (F : Type) [PyRuntime F] [PySensor F] (now sourceId : String) (sourceType : SourceType)
    (text : String) : Except Raised ParsedRecord :=
  match sourceType with
  | .syslog => parseSyslogLine F now sourceId text
  | _ => parseJsonSensorEvent F now sourceId sourceType text

def ParsedRecord.event? : ParsedRecord → Option CanonicalEvent
  | .event e => some e
  | .quarantined _ => none

/-- `replace(parsed, observed_at=...)` of a quarantined record. -/
def ParsedRecord.quarantined? (observedAt : String) : ParsedRecord → Option QuarantinedRecord
  | .event _ => none
  | .quarantined q => some { q with observedAt := observedAt }

/-- `DeterministicByteReplay.replay_and_parse`. -/
def DeterministicByteReplay.replayAndParse (F : Type) [PyRuntime F] [PySensor F] (r : DeterministicByteReplay)
    (now : String) (source : SourceDescriptor) (bytes : Bytes) (checkpointedAt : String)
    (checkpoint : Option SourceCheckpoint) : Except Raised ParsedReplayBatch := do
  let sourceType ← orRaise (supportedFormat source.formatId)
    (contractError ("unsupported replay format_id: " ++ source.formatId))
  -- `validate` normalises the fields in place, so that the calls after it see them normalised
  let probe ← SourceCheckpoint.validate
    { source := source, cursorOffsetBytes := 0, observedSizeBytes := bytes.length, checkpointedAt := checkpointedAt }
  let source := probe.source
  let batch ← r.replay source bytes checkpoint
  let parsed ← batch.records.mapM fun record => parseRecord F now source.sourceId sourceType record.text
  let events := parsed.filterMap ParsedRecord.event?
  let kept ← checkpoint.mapM SourceCheckpoint.validate
  let lastEventAt :=
    match (events.map (·.observedAt)).max? with
    | some text => some text
    | none => if batch.compatibility.action = .resume then kept.bind (·.lastEventAt) else none
  let nextCheckpoint ← SourceCheckpoint.validate
    { source := source, cursorOffsetBytes := batch.receipt.nextOffsetBytes, observedSizeBytes := bytes.length,
      checkpointedAt := probe.checkpointedAt, lastEventAt := lastEventAt }
  return ⟨events, parsed.filterMap (ParsedRecord.quarantined? probe.checkpointedAt), batch, nextCheckpoint⟩

end ThreeAgent.SecurityMonitoring
