/-
The report of repeated prompt prefixes (`prefix_reuse.py`), rebuilt from the
lines of a telemetry file: each line is read, told apart and counted, and the
counts make the report and its decision.

The floating-point arithmetic, the texts of times, what `json.loads` raises other
than the `JSONDecodeError` and strings with half of a surrogate pair are the
interpreter's (`PyReport`).
The constants of the report's privacy block are left out.
-/
import ThreeAgent.KnowledgeIndex
import ThreeAgent.Lib.Tally

namespace ThreeAgent.PrefixReuse

open PyText Outcome PyJson PyDict Keyed

/-- The interpreter, as far as the report uses it. -/
class PyReport (F : Type) extends PyRuntime F where
  /-- What `json.loads` raises instead of a value or a `JSONDecodeError`: a `RecursionError`, or the `ValueError` of an
  integer that is too long. -/
  loadsRaises : String → Option Raised
  /-- `json.loads` of a text that escapes half of a surrogate pair, which `loads` does not read; the half stands in the
  string as the interpreter has it. -/
  loadsUnpaired : String → Option (Json F)
  /-- What `value.encode("utf-8")` raises, of a string with half of a surrogate pair. -/
  encodeRaises : String → Option Raised
  /-- `n / d`, `none` for the `OverflowError`. -/
  trueDiv : Int → Int → Option F
  /-- `round(x, digits)`. -/
  round : F → Nat → F
  /-- `a <= b`. -/
  le : F → F → Bool
  zero : F
  half : F
  one : F
  /-- `int((n - 1) * percent / 100 + 0.999999)` of a percentile. -/
  percentileIndex : Nat → Nat → Int
  /-- `t.isoformat()` of a time in UTC. -/
  isoformat : Int → String
  /-- A ratio that is not above 1 is not too large for a float. -/
  trueDiv_le : ∀ n d, 0 ≤ n → n ≤ d → 0 < d → ∃ x, trueDiv n d = some x

def telemetrySchema : String := "workspace-inference-telemetry/v2"
def reuseReportSchema : String := "workspace-prefix-reuse-report/v1"
def reuseGateSchema : String := "workspace-prefix-reuse-decision/v1"

/-- The instants that a `datetime` in UTC can have, in microseconds. -/
def minInstant : Int := -62135596800000000
def maxInstant : Int := 253402300799999999

def dateOverflow : Raised := ⟨.overflowError, "date value out of range"⟩
def divisionOverflow : Raised := ⟨.overflowError, "integer division result too large for a float"⟩
def valueError (message : String) : Raised := ⟨.valueError, message⟩

structure PrefixReusePolicy (F : Type) where
  windowDays : Int := 7
  minEvents : Int := 20
  reuseThreshold : F
  deriving DecidableEq, Repr

/-- `(model, trust_domain, template_version, schema_id, prefix_sha256)`. -/
structure EventKey where
  model : String
  trustDomain : String
  templateVersion : String
  schemaId : String
  prefixSha256 : String
  deriving DecidableEq, Repr

/-- What a line is told to be. -/
inductive Reading where
  | malformedJson
  | invalidMetadata
  | invalidTimestamp
  | future
  | outOfWindow
  | eligible (key : EventKey) (chars : Option Int) (durations : Option (Int × Int))
  deriving DecidableEq, Repr

/-- The counts of a model or of a trust domain. -/
structure Segment where
  events : Nat := 0
  repeated : Nat := 0
  deriving DecidableEq, Repr

/-- The counters of `snapshot`. -/
structure Counters where
  totalLines : Nat := 0
  malformedJson : Nat := 0
  invalidMetadata : Nat := 0
  invalidTimestamp : Nat := 0
  outOfWindow : Nat := 0
  futureEvents : Nat := 0
  eligibleEvents : Nat := 0
  repeatedEvents : Nat := 0
  distinctKeys : List EventKey := []
  keyCounts : List (EventKey × Nat) := []
  byTrust : Dict Segment := []
  byModel : Dict Segment := []
  prefixChars : List Int := []
  promptEvalNs : Int := 0
  measuredTotalNs : Int := 0
  durationEvents : Nat := 0
  deriving DecidableEq, Repr

structure ReuseDecision (F : Type) where
  dataSufficient : Bool
  minEvents : Int
  reuseThreshold : F
  reuseGatePassed : Bool
  prefillDominates : Bool
  decision : String
  allowedAction : String
  schemaVersion : String := reuseGateSchema
  deriving DecidableEq, Repr

structure SegmentRow (F : Type) where
  name : String
  events : Nat
  repeated : Nat
  rate : F
  deriving DecidableEq, Repr

/-- What `snapshot` returns. -/
structure ReuseSnapshot (F : Type) where
  days : Int
  start : String
  stop : String
  eligibleEvents : Nat
  distinctPrefixKeys : Nat
  repeatedPrefixKeys : Nat
  repeatedPrefixEvents : Nat
  reuseOpportunityRate : F
  eventsWithSize : Nat
  average : Option F
  p50 : Option Int
  p95 : Option Int
  maximum : Option Int
  durationEvents : Nat
  promptEvalDurationNs : Int
  measuredTotalDurationNs : Int
  promptEvalDurationShare : Option F
  byTrustDomainFingerprint : List (SegmentRow F)
  byModel : List (SegmentRow F)
  totalNonemptyLines : Nat
  malformedJsonLines : Nat
  invalidMetadataEvents : Nat
  invalidTimestampEvents : Nat
  outOfWindowEvents : Nat
  futureEvents : Nat
  decisionGate : ReuseDecision F
  schemaVersion : String := reuseReportSchema
  deriving DecidableEq, Repr

section Events

variable {F : Type} [PyReport F]

/-- `PrefixReusePolicy.validate`. -/
def PrefixReusePolicy.validate (p : PrefixReusePolicy F) : Except Raised (PrefixReusePolicy F) := do
  require (1 ≤ p.windowDays ∧ p.windowDays ≤ 365) (valueError "window_days must be between 1 and 365")
  require (1 ≤ p.minEvents ∧ p.minEvents ≤ 1000000) (valueError "min_events must be between 1 and 1000000")
  require (PyReport.le PyReport.zero p.reuseThreshold = true ∧ PyReport.le p.reuseThreshold PyReport.one = true)
    (valueError "reuse_threshold must be between 0 and 1")
  return p

/-- `parsed.astimezone(timezone.utc)` of a time with an offset. -/
def toUtc (wall offset : Int) : Except Raised Int := do
  require (minInstant ≤ wall - offset ∧ wall - offset ≤ maxInstant) dateOverflow
  return wall - offset

/-- `_timestamp`. -/
def timestamp (value : Option (Json F)) : Except Raised (Option Int) :=
  match value with
  | some (.str s) =>
    if strip s = "" then return none
    else
      match PyRuntime.fromIso F (replace (strip s) "Z" "+00:00") with
      | some ⟨wall, some offset⟩ => do
        let utc ← toUtc wall offset
        return some utc
      | _ => return none
  | _ => return none

/-- `_non_negative_int`. -/
def nonNegativeInt (value : Option (Json F)) : Option Int :=
  match value with
  | some (.int n) => if 0 ≤ n then some n else none
  | _ => none

/-- `_event_key`. -/
def eventKey (event : Json F) : Option EventKey :=
  match event.get? "schema_version", event.get? "prompt" with
  | some (.str schema), some (.obj fields) =>
    let prompt : Json F := .obj fields
    let model := strip (Json.textOr (event.get? "model"))
    let trustDomain := strip (Json.textOr (prompt.get? "trust_domain"))
    let templateVersion := strip (Json.textOr (prompt.get? "template_version"))
    let prefixSha256 := lower (strip (Json.textOr (prompt.get? "prefix_sha256")))
    let schemaId := strip (Json.textOr (event.get? "structured_schema_id"))
    if schema ≠ telemetrySchema ∨ model = "" ∨ trustDomain = "" ∨ templateVersion = "" ∨ sha256Re prefixSha256 = false then none
    else some { model, trustDomain, templateVersion, schemaId, prefixSha256 }
  | _, _ => none

/-- `_duration_pair`. -/
def durationPair (event : Json F) : Option (Int × Int) :=
  match event.get? "usage" with
  | some (.obj fields) =>
    let usage : Json F := .obj fields
    match nonNegativeInt (usage.get? "prompt_eval_duration_ns"), nonNegativeInt (usage.get? "total_duration_ns") with
    | some promptEval, some total => if total ≤ 0 ∨ total < promptEval then none else some (promptEval, total)
    | _, _ => none
  | _ => none

/-- `_prefix_chars`. -/
def prefixChars (event : Json F) : Option Int :=
  match event.get? "prompt" with
  | some (.obj fields) => nonNegativeInt ((Json.obj fields : Json F).get? "stable_prefix_chars")
  | _ => none

/-- `json.loads(line)` that did not raise anything but a `JSONDecodeError`, `none` for that. -/
def parsed (F : Type) [PyReport F] (line : String) : Option (Json F) :=
  (loads line).or (PyReport.loadsUnpaired line)

/-- An eligible event, once its trust domain has been hashed. -/
def eligible (F : Type) [PyReport F] (event : Json F) (key : EventKey) : Except Raised Reading :=
  match PyReport.encodeRaises F key.trustDomain with
  | some raised => throw raised
  | none => return .eligible key (prefixChars event) (durationPair event)

/-- What a line of the file is, for a window. -/
def readLine (F : Type) [PyReport F] (start stop : Int) (line : String) : Except Raised Reading :=
  match PyReport.loadsRaises F line with
  | some raised => throw raised
  | none =>
    match parsed F line with
    | none => return .malformedJson
    | some (.obj fields) => do
      let time ← timestamp ((Json.obj fields : Json F).get? "timestamp")
      match time with
      | none => return .invalidTimestamp
      | some time =>
        if stop < time then return .future
        else if time < start then return .outOfWindow
        else
          match eventKey (Json.obj fields : Json F) with
          | none => return .invalidMetadata
          | some key => eligible F (.obj fields) key
    | some _ => return .invalidMetadata

end Events

/-! ## Counting -/

/-- `rows[name]["events"] += 1`, and the repeated ones where the event is one. -/
def bumpSegment (rows : Dict Segment) (name : String) (repeated : Bool) : Dict Segment :=
  let old := (get? rows name).getD {}
  PyDict.set rows name ⟨old.events + 1, if repeated then old.repeated + 1 else old.repeated⟩

/-- `_opaque_domain`. -/
def opaqueDomain (value : String) : String := hashText value

/-- An eligible event. -/
def Counters.addEvent (c : Counters) (key : EventKey) (chars : Option Int) (durations : Option (Int × Int)) : Counters :=
  let repeated := decide (0 < Tally.get c.keyCounts key)
  { c with
    eligibleEvents := c.eligibleEvents + 1
    keyCounts := Tally.bump c.keyCounts key
    distinctKeys := if key ∈ c.distinctKeys then c.distinctKeys else c.distinctKeys ++ [key]
    repeatedEvents := if repeated then c.repeatedEvents + 1 else c.repeatedEvents
    byTrust := bumpSegment c.byTrust (opaqueDomain key.trustDomain) repeated
    byModel := bumpSegment c.byModel key.model repeated
    prefixChars := c.prefixChars ++ chars.toList
    promptEvalNs := c.promptEvalNs + (durations.map Prod.fst).getD 0
    measuredTotalNs := c.measuredTotalNs + (durations.map Prod.snd).getD 0
    durationEvents := c.durationEvents + durations.toList.length }

/-- What the loop does with a line that is not empty. -/
def Counters.count (c : Counters) (reading : Reading) : Counters :=
  let c := { c with totalLines := c.totalLines + 1 }
  match reading with
  | .malformedJson => { c with malformedJson := c.malformedJson + 1 }
  | .invalidMetadata => { c with invalidMetadata := c.invalidMetadata + 1 }
  | .invalidTimestamp => { c with invalidTimestamp := c.invalidTimestamp + 1 }
  | .future => { c with futureEvents := c.futureEvents + 1 }
  | .outOfWindow => { c with outOfWindow := c.outOfWindow + 1 }
  | .eligible key chars durations => c.addEvent key chars durations

section Snapshot

variable {F : Type} [PyReport F]

/-- One line of the loop over the file. -/
def countLine (F : Type) [PyReport F] (start stop : Int) (c : Counters) (raw : String) : Except Raised Counters :=
  if strip raw = "" then return c
  else do
    let reading ← readLine F start stop (strip raw)
    return c.count reading

/-- `_rate`. -/
def rate (numerator denominator : Nat) : Except Raised F :=
  if denominator = 0 then return PyReport.zero
  else do
    let x ← orRaise (PyReport.trueDiv numerator denominator) divisionOverflow
    return PyReport.round x 6

/-- `_segment`. -/
def segment (rows : Dict Segment) : Except Raised (List (SegmentRow F)) :=
  (sortedBy Prod.fst rows).mapM fun row => do
    let x ← rate row.2.repeated row.2.events
    return ⟨row.1, row.2.events, row.2.repeated, x⟩

/-- `_percentile` of a percentage. -/
def percentile (F : Type) [PyReport F] (values : List Int) (percent : Nat) : Option Int :=
  (values.insertionSort (· ≤ ·))[(max 0 (min ((values.length : Int) - 1)
    (PyReport.percentileIndex F values.length percent))).toNat]?

/-- `_decision`. -/
def decisionOf (eligibleEvents : Nat) (reuseRate : F) (promptEvalShare : Option F) (policy : PrefixReusePolicy F) :
    ReuseDecision F :=
  let dataSufficient := decide (policy.minEvents ≤ eligibleEvents)
  let reuseGatePassed := dataSufficient && PyReport.le policy.reuseThreshold reuseRate
  let prefillDominates := promptEvalShare.any (PyReport.le PyReport.half)
  let (decision, allowedAction) :=
    if dataSufficient = false then ("INSUFFICIENT_REPRESENTATIVE_DATA", "collect_more_metadata")
    else if reuseGatePassed = false then ("REDESIGN_PROMPT_LAYOUT_FIRST", "prompt_layout_optimization")
    else if prefillDominates = true then ("SERVING_CACHE_BENCHMARK_ELIGIBLE", "benchmark_serving_candidate")
    else ("REUSE_HIGH_PREFILL_NOT_DOMINANT", "continue_measurement")
  { dataSufficient, minEvents := policy.minEvents, reuseThreshold := policy.reuseThreshold, reuseGatePassed, prefillDominates
    decision, allowedAction }

/-- The lines of the file, none where there is no file. -/
def fileLines (content : Option String) : List String :=
  match content with
  | none => []
  | some text => split '\n' (String.ofList (KnowledgePlane.universalNewlines text.toList))

/-- The average of the prefix sizes. -/
def averageChars (sizes : List Int) : Except Raised (Option F) :=
  if sizes = [] then return none
  else do
    let x ← orRaise (PyReport.trueDiv sizes.sum sizes.length) divisionOverflow
    return some (PyReport.round x 3)

/-- The share of the prompt evaluation in the measured time. -/
def promptEvalShare (promptEvalNs measuredTotalNs : Int) : Except Raised (Option F) :=
  if measuredTotalNs ≤ 0 then return none
  else do
    let x ← orRaise (PyReport.trueDiv promptEvalNs measuredTotalNs) divisionOverflow
    return some (PyReport.round x 6)

/-- The report of the counters. -/
def report (policy : PrefixReusePolicy F) (start stop : Int) (c : Counters) : Except Raised (ReuseSnapshot F) := do
  let reuseRate ← rate c.repeatedEvents c.eligibleEvents
  let share ← promptEvalShare c.promptEvalNs c.measuredTotalNs
  let average ← averageChars c.prefixChars
  let byTrust ← segment c.byTrust
  let byModel ← segment c.byModel
  return {
    days := policy.windowDays
    start := PyReport.isoformat F start
    stop := PyReport.isoformat F stop
    eligibleEvents := c.eligibleEvents
    distinctPrefixKeys := c.distinctKeys.length
    repeatedPrefixKeys := (c.keyCounts.filter fun e => 2 ≤ e.2).length
    repeatedPrefixEvents := c.repeatedEvents
    reuseOpportunityRate := reuseRate
    eventsWithSize := c.prefixChars.length
    average := average
    p50 := percentile F c.prefixChars 50
    p95 := percentile F c.prefixChars 95
    maximum := c.prefixChars.max?
    durationEvents := c.durationEvents
    promptEvalDurationNs := c.promptEvalNs
    measuredTotalDurationNs := c.measuredTotalNs
    promptEvalDurationShare := share
    byTrustDomainFingerprint := byTrust
    byModel := byModel
    totalNonemptyLines := c.totalLines
    malformedJsonLines := c.malformedJson
    invalidMetadataEvents := c.invalidMetadata
    invalidTimestampEvents := c.invalidTimestamp
    outOfWindowEvents := c.outOfWindow
    futureEvents := c.futureEvents
    decisionGate := decisionOf c.eligibleEvents reuseRate share policy }

/-- `snapshot` of a file's content at a time. -/
def snapshot (content : Option String) (policy : PrefixReusePolicy F) (now : Int) : Except Raised (ReuseSnapshot F) := do
  let policy ← policy.validate
  let start := now - policy.windowDays * 86400000000
  require (minInstant ≤ start) dateOverflow
  let c ← (fileLines content).foldlM (countLine F start now) {}
  report policy start now c

end Snapshot

end ThreeAgent.PrefixReuse
