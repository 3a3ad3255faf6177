/-
Which process a network flow belongs to (`flow_process_attribution.py`,
`flow_process_engine.py`): the tuple of a flow, the observations of sockets
with their processes, and the assessment that each flow is given. An
assessment is checked after it is made, and one that fails ends the batch.
-/
import ThreeAgent.Lib.Keyed
import ThreeAgent.MonitoringContracts

namespace ThreeAgent.SecurityMonitoring

open PyText Outcome PyJson PyDict Keyed

/-! ## Evidence -/

def flowTupleSchema : String := "workspace-security-monitoring/flow-tuple-evidence-v1"
def socketProcessSchema : String := "workspace-security-monitoring/socket-process-observation-v1"

/-- A text that is `head` with 64 hexadecimal digits after it. -/
def typedHash (head s : String) : Bool :=
  startsWith s head && decide ((s.toList.drop head.toList.length).length = 64) &&
    (s.toList.drop head.toList.length).all Sha256.isHexDigit

/-- `_ENDPOINT_REF_RE.fullmatch`. -/
def endpointRefRe (s : String) : Bool := typedHash "endpoint:tcp:sha256:" s || typedHash "endpoint:udp:sha256:" s

/-- `_PROCESS_REF_RE.fullmatch`. -/
def processRefRe (s : String) : Bool := typedHash "entity:process:sha256:" s

/-- `_USER_REF_RE.fullmatch`. -/
def userRefRe (s : String) : Bool := typedHash "entity:user:sha256:" s

/-- `_ASSET_REF_RE.fullmatch`. -/
def socketAssetRefRe (s : String) : Bool :=
  startsWith s "asset:" && refRe (s.toList.drop 6) && decide ((s.toList.drop 6).length ≤ 128)

/-- `_validate_endpoint_ref`. -/
def validateEndpointRef (value fieldName : String) : Except Raised String := do
  let ref := lower (strip value)
  require (endpointRefRe ref = true) (contractError (fieldName ++ " must be a typed endpoint hash"))
  return ref

/-- `ref.split(":", 2)[1]`. -/
def protocolOf (ref : String) : String := (split ':' ref).getD 1 ""

structure FlowTupleEvidence where
  eventId : String
  observedAt : String
  sourceEndpointRef : String
  destinationEndpointRef : String
  evidenceRef : String
  authority : String := "evidence_only"
  schemaVersion : String := flowTupleSchema
  deriving DecidableEq, Repr

namespace FlowTupleEvidence

def validate [PyTime] (flow : FlowTupleEvidence) : Except Raised FlowTupleEvidence := do
  let eventId ← compact flow.eventId "event_id" 128
  let observedAt ← normalizedTimestamp flow.observedAt "observed_at"
  let source ← validateEndpointRef flow.sourceEndpointRef "source_endpoint_ref"
  let destination ← validateEndpointRef flow.destinationEndpointRef "destination_endpoint_ref"
  require (protocolOf source = protocolOf destination) (contractError "flow endpoints must use the same protocol")
  require (source ≠ destination) (contractError "flow endpoints must be distinct")
  let evidenceRef ← compact flow.evidenceRef "evidence_ref" 256
  require (flow.authority = "evidence_only") (contractError "flow tuple authority must remain evidence_only")
  require (flow.schemaVersion = flowTupleSchema) (contractError "unsupported flow tuple schema")
  return { flow with
    eventId := eventId
    observedAt := observedAt
    sourceEndpointRef := source
    destinationEndpointRef := destination
    evidenceRef := evidenceRef }

def protocol (flow : FlowTupleEvidence) : String := protocolOf flow.sourceEndpointRef

/-- `to_dict` of a flow that has been validated. -/
def toDict (flow : FlowTupleEvidence) : Json Unit :=
  .dict [("authority", .str flow.authority), ("destination_endpoint_ref", .str flow.destinationEndpointRef),
    ("event_id", .str flow.eventId), ("evidence_ref", .str flow.evidenceRef), ("observed_at", .str flow.observedAt),
    ("schema_version", .str flow.schemaVersion), ("source_endpoint_ref", .str flow.sourceEndpointRef)]

def fingerprint (flow : FlowTupleEvidence) : String := sha256Fingerprint flow.toDict

end FlowTupleEvidence

structure SocketProcessObservation where
  assetRef : String
  observedAt : String
  localEndpointRef : String
  remoteEndpointRef : String
  processRef : String
  evidenceRef : String
  userRef : Option String := none
  authority : String := "evidence_only"
  schemaVersion : String := socketProcessSchema
  deriving DecidableEq, Repr

namespace SocketProcessObservation

/-- The `user_ref` of an observation, where it has one. -/
def checkedUser : Option String → Except Raised (Option String)
  | none => return none
  | some value => do
    let user := lower (strip value)
    require (userRefRe user = true) (contractError "user_ref must be a typed user hash")
    return some user

def validate [PyTime] (item : SocketProcessObservation) : Except Raised SocketProcessObservation := do
  let asset := strip item.assetRef
  require (socketAssetRefRe asset = true) (contractError "socket observation asset_ref must be an approved asset reference")
  let observedAt ← normalizedTimestamp item.observedAt "observed_at"
  let localRef ← validateEndpointRef item.localEndpointRef "local_endpoint_ref"
  let remoteRef ← validateEndpointRef item.remoteEndpointRef "remote_endpoint_ref"
  require (protocolOf localRef = protocolOf remoteRef) (contractError "socket endpoints must use the same protocol")
  require (localRef ≠ remoteRef) (contractError "socket endpoints must be distinct")
  let process := lower (strip item.processRef)
  require (processRefRe process = true) (contractError "process_ref must be a typed process hash")
  let user ← checkedUser item.userRef
  let evidenceRef ← compact item.evidenceRef "evidence_ref" 256
  require (item.authority = "evidence_only") (contractError "socket observation authority must remain evidence_only")
  require (item.schemaVersion = socketProcessSchema) (contractError "unsupported socket process schema")
  return { item with
    assetRef := asset
    observedAt := observedAt
    localEndpointRef := localRef
    remoteEndpointRef := remoteRef
    processRef := process
    userRef := user
    evidenceRef := evidenceRef }

def protocol (item : SocketProcessObservation) : String := protocolOf item.localEndpointRef

/-- `to_dict` of an observation that has been validated. -/
def toDict (item : SocketProcessObservation) : Json Unit :=
  .dict [("asset_ref", .str item.assetRef), ("authority", .str item.authority), ("evidence_ref", .str item.evidenceRef),
    ("local_endpoint_ref", .str item.localEndpointRef), ("observed_at", .str item.observedAt),
    ("process_ref", .str item.processRef), ("remote_endpoint_ref", .str item.remoteEndpointRef),
    ("schema_version", .str item.schemaVersion), ("user_ref", .ofOption .str item.userRef)]

def fingerprint (item : SocketProcessObservation) : String := sha256Fingerprint item.toDict

/-- `(asset_ref, process_ref, user_ref)`. -/
def identity (item : SocketProcessObservation) : String × String × Option String :=
  (item.assetRef, item.processRef, item.userRef)

end SocketProcessObservation

/-! ## The engine -/

def flowProcessAssessmentSchema : String := "workspace-security-monitoring/flow-process-attribution-v1"
def flowProcessStatuses : List String := ["attributed", "ambiguous", "unmatched"]

/-- `_dt` of a time that has been validated. -/
def dt [PyTime] (value : String) : Int := (PyTime.instant? value).getD 0

/-- `_delta_microseconds`. -/
def deltaMicroseconds (left right : Int) : Int := ↑(left - right).natAbs

structure FlowProcessAttributionConfig where
  maxTimeSkewSeconds : Int := 5
  maxFlows : Int := 2000
  maxSocketObservations : Int := 10000
  maxAssessments : Int := 2000
  deriving DecidableEq, Repr

namespace FlowProcessAttributionConfig

/-- One of the bounds of a configuration. -/
def within (fieldName : String) (value minimum maximum : Int) : Except Raised Unit :=
  require (minimum ≤ value ∧ value ≤ maximum)
    (contractError (fieldName ++ " must be an integer within " ++ toString minimum ++ ".." ++ toString maximum))

def validate (config : FlowProcessAttributionConfig) : Except Raised Unit := do
  within "max_time_skew_seconds" config.maxTimeSkewSeconds 0 300
  within "max_flows" config.maxFlows 1 10000
  within "max_socket_observations" config.maxSocketObservations 1 50000
  within "max_assessments" config.maxAssessments 1 10000
  require (config.maxFlows ≤ config.maxAssessments) (contractError "max_assessments cannot be smaller than max_flows")

/-- `fingerprint` of a configuration that has been validated. -/
def fingerprint (config : FlowProcessAttributionConfig) : String :=
  sha256Fingerprint (.dict [("max_assessments", .int config.maxAssessments), ("max_flows", .int config.maxFlows),
    ("max_socket_observations", .int config.maxSocketObservations),
    ("max_time_skew_seconds", .int config.maxTimeSkewSeconds)])

end FlowProcessAttributionConfig

structure FlowProcessAttributionAssessment where
  attributionId : String
  flowEventId : String
  status : String
  flowFingerprint : String
  flowEvidenceRef : String
  candidateIdentityCount : Int
  assetRefs : List String
  processRefs : List String
  userRefs : List String
  socketEvidenceRefs : List String
  matchDirections : List String
  closestDeltaMicroseconds : Option Int
  configFingerprint : String
  authority : String := "advisory"
  schemaVersion : String := flowProcessAssessmentSchema
  deriving DecidableEq, Repr

namespace FlowProcessAttributionAssessment

/-- `_identity_payload`. -/
def identityPayload (a : FlowProcessAttributionAssessment) : Json Unit :=
  .dict [("asset_refs", .strs a.assetRefs), ("authority", .str a.authority),
    ("candidate_identity_count", .int a.candidateIdentityCount),
    ("closest_delta_microseconds", .ofOption .int a.closestDeltaMicroseconds),
    ("config_fingerprint", .str a.configFingerprint), ("flow_event_id", .str a.flowEventId),
    ("flow_fingerprint", .str a.flowFingerprint), ("flow_evidence_ref", .str a.flowEvidenceRef),
    ("match_directions", .strs a.matchDirections), ("process_refs", .strs a.processRefs),
    ("schema_version", .str a.schemaVersion), ("socket_evidence_refs", .strs a.socketEvidenceRefs),
    ("status", .str a.status), ("user_refs", .strs a.userRefs)]

/-- `"flowproc-" + sha256_fingerprint(identity).split(":", 1)[1][:24]`. -/
def derivedId (a : FlowProcessAttributionAssessment) : String :=
  "flowproc-" ++ digestPrefix (sha256Fingerprint a.identityPayload) 24

/-- One of the fields that hold references: sorted, and each once. -/
def sortedUnique (refs : List String) (fieldName : String) : Except Raised Unit :=
  require (sorted (dedup refs) = refs) (contractError (fieldName ++ " must be sorted and unique"))

/-- What an assessment of each status must hold. -/
def checkStatus (a : FlowProcessAttributionAssessment) : Except Raised Unit :=
  if a.status = "unmatched" then do
    require (a.candidateIdentityCount = 0) (contractError "unmatched attribution must have zero candidate identities")
    require (a.assetRefs = [] ∧ a.processRefs = [] ∧ a.userRefs = [] ∧ a.socketEvidenceRefs = [] ∧ a.matchDirections = [])
      (contractError "unmatched attribution cannot contain socket identities")
    require (a.closestDeltaMicroseconds = none) (contractError "unmatched attribution cannot contain a time delta")
  else if a.status = "attributed" then do
    require (a.candidateIdentityCount = 1) (contractError "attributed flow requires exactly one candidate identity")
    require (a.assetRefs.length = 1 ∧ a.processRefs.length = 1)
      (contractError "attributed flow requires exactly one asset and process")
    require (a.socketEvidenceRefs ≠ [] ∧ a.matchDirections ≠ [])
      (contractError "attributed flow requires socket evidence and direction")
    require (a.closestDeltaMicroseconds ≠ none) (contractError "attributed flow requires a time delta")
  else do
    require (2 ≤ a.candidateIdentityCount) (contractError "ambiguous attribution requires multiple candidate identities")
    require (a.assetRefs ≠ [] ∧ a.processRefs ≠ []) (contractError "ambiguous flow requires asset/process identities")
    require (a.socketEvidenceRefs ≠ [] ∧ a.matchDirections ≠ [])
      (contractError "ambiguous flow requires socket evidence and direction")
    require (a.closestDeltaMicroseconds ≠ none) (contractError "ambiguous flow requires a time delta")

def validate (a : FlowProcessAttributionAssessment) : Except Raised Unit := do
  require (a.status ∈ flowProcessStatuses) (contractError "unsupported flow process attribution status")
  require (a.flowEventId ≠ "" ∧ a.flowEventId.toList.length ≤ 128) (contractError "flow_event_id is invalid")
  require (startsWith a.flowFingerprint "sha256:" = true ∧ a.flowFingerprint.toList.length = 71)
    (contractError "flow_fingerprint must be a sha256 digest")
  require (a.flowEvidenceRef ≠ "" ∧ a.flowEvidenceRef.toList.length ≤ 256) (contractError "flow_evidence_ref is invalid")
  require (0 ≤ a.candidateIdentityCount ∧ a.candidateIdentityCount ≤ 64)
    (contractError "candidate_identity_count must be within 0..64")
  require (a.assetRefs.length ≤ 64 ∧ a.processRefs.length ≤ 64 ∧ a.userRefs.length ≤ 64)
    (contractError "flow process identity reference bound exceeded")
  require (a.socketEvidenceRefs.length ≤ 256) (contractError "flow process socket evidence bound exceeded")
  sortedUnique a.assetRefs "asset_refs"
  sortedUnique a.processRefs "process_refs"
  sortedUnique a.userRefs "user_refs"
  sortedUnique a.socketEvidenceRefs "socket_evidence_refs"
  sortedUnique a.matchDirections "match_directions"
  require (∀ direction ∈ a.matchDirections, direction = "direct" ∨ direction = "reverse")
    (contractError "unsupported flow process match direction")
  require (∀ delta ∈ a.closestDeltaMicroseconds, 0 ≤ delta) (contractError "closest_delta_microseconds is invalid")
  require (startsWith a.configFingerprint "sha256:" = true ∧ a.configFingerprint.toList.length = 71)
    (contractError "config_fingerprint must be a sha256 digest")
  require (a.authority = "advisory") (contractError "flow process attribution must remain advisory")
  require (a.schemaVersion = flowProcessAssessmentSchema) (contractError "unsupported flow process attribution schema")
  a.checkStatus
  require (a.attributionId = a.derivedId) (contractError "attribution_id must derive from assessment content")

end FlowProcessAttributionAssessment

/-- `_MatchedSocket`. -/
structure MatchedSocket where
  observation : SocketProcessObservation
  direction : String
  deltaMicroseconds : Int

/-- `DeterministicFlowProcessAttributor`: its configuration has passed its check. -/
structure DeterministicFlowProcessAttributor where
  config : FlowProcessAttributionConfig
  valid : config.validate = .ok ()

/-- How the endpoints of a socket match those of a flow. -/
def matchDirection (flow : FlowTupleEvidence) (item : SocketProcessObservation) : Option String :=
  if item.localEndpointRef = flow.sourceEndpointRef ∧ item.remoteEndpointRef = flow.destinationEndpointRef then
    some "direct"
  else if item.localEndpointRef = flow.destinationEndpointRef ∧ item.remoteEndpointRef = flow.sourceEndpointRef then
    some "reverse"
  else none

namespace DeterministicFlowProcessAttributor

variable [PyTime] (self : DeterministicFlowProcessAttributor)

/-- One round of `_dedupe_flows`. -/
def keepFlow (unique : Dict FlowTupleEvidence) (raw : FlowTupleEvidence) : Except Raised (Dict FlowTupleEvidence) := do
  let item ← raw.validate
  match get? unique item.eventId with
  | some previous =>
    require (previous = item) (contractError "duplicate flow event_id has conflicting tuple evidence")
    return unique
  | none =>
    require (((PyDict.set unique item.eventId item).length : Int) ≤ self.config.maxFlows)
      (contractError "flow process flow bound exceeded")
    return PyDict.set unique item.eventId item

/-- `_dedupe_flows`. -/
def dedupeFlows (flows : List FlowTupleEvidence) : Except Raised (List FlowTupleEvidence) := do
  let unique ← flows.foldlM self.keepFlow []
  return sortedBy (fun item => toLex (dt item.observedAt, item.eventId)) (values unique)

/-- What `_dedupe_sockets` holds between two rounds. -/
structure Sockets where
  byEvidence : Dict SocketProcessObservation := []
  byFingerprint : Dict SocketProcessObservation := []
  count : Int := 0

/-- One round of `_dedupe_sockets`. -/
def keepSocket (kept : Sockets) (raw : SocketProcessObservation) : Except Raised Sockets := do
  let item ← raw.validate
  require (kept.count + 1 ≤ self.config.maxSocketObservations)
    (contractError "flow process socket observation bound exceeded")
  require (∀ existing ∈ get? kept.byEvidence item.evidenceRef, existing = item)
    (contractError "socket evidence_ref has conflicting observation content")
  return {
    byEvidence := PyDict.set kept.byEvidence item.evidenceRef item
    byFingerprint := PyDict.set kept.byFingerprint item.fingerprint item
    count := kept.count + 1 }

/-- The order in which the sockets are looked at. -/
def socketKey (item : SocketProcessObservation) : Int ×ₗ String ×ₗ String ×ₗ String :=
  toLex (dt item.observedAt, toLex (item.assetRef, toLex (item.processRef, item.evidenceRef)))

/-- `_dedupe_sockets`. -/
def dedupeSockets (observations : List SocketProcessObservation) : Except Raised (List SocketProcessObservation) := do
  let kept ← observations.foldlM self.keepSocket {}
  return sortedBy socketKey (values kept.byFingerprint)

/-- One round of `_matches`. -/
def matched (flow : FlowTupleEvidence) (item : SocketProcessObservation) : Option MatchedSocket :=
  if item.protocol ≠ flow.protocol then none
  else do
    let direction ← matchDirection flow item
    let delta := deltaMicroseconds (dt item.observedAt) (dt flow.observedAt)
    if delta ≤ self.config.maxTimeSkewSeconds * 1000000 then some ⟨item, direction, delta⟩ else none

/-- `_matches`. -/
def matchesOf (flow : FlowTupleEvidence) (sockets : List SocketProcessObservation) : List MatchedSocket :=
  sockets.filterMap (self.matched flow)

/-- The assessment of a flow, before its id and its check. -/
def payload (flow : FlowTupleEvidence) (found : List MatchedSocket) : FlowProcessAttributionAssessment :=
  if found = [] then
    { attributionId := ""
      flowEventId := flow.eventId
      status := "unmatched"
      flowFingerprint := flow.fingerprint
      flowEvidenceRef := flow.evidenceRef
      candidateIdentityCount := 0
      assetRefs := []
      processRefs := []
      userRefs := []
      socketEvidenceRefs := []
      matchDirections := []
      closestDeltaMicroseconds := none
      configFingerprint := self.config.fingerprint }
  else
    let identities := dedup (found.map (·.observation.identity))
    { attributionId := ""
      flowEventId := flow.eventId
      status := if identities.length = 1 then "attributed" else "ambiguous"
      flowFingerprint := flow.fingerprint
      flowEvidenceRef := flow.evidenceRef
      candidateIdentityCount := identities.length
      assetRefs := sorted (dedup (identities.map (·.1)))
      processRefs := sorted (dedup (identities.map (·.2.1)))
      userRefs := sorted (dedup (identities.filterMap (·.2.2)))
      socketEvidenceRefs := sorted (dedup (found.map (·.observation.evidenceRef)))
      matchDirections := sorted (dedup (found.map (·.direction)))
      closestDeltaMicroseconds := (found.map (·.deltaMicroseconds)).min?
      configFingerprint := self.config.fingerprint }

/-- `_assessment`. -/
def assessment (flow : FlowTupleEvidence) (found : List MatchedSocket) : Except Raised FlowProcessAttributionAssessment := do
  let assessed := { self.payload flow found with attributionId := (self.payload flow found).derivedId }
  assessed.validate
  return assessed

/-- `attribute`. -/
def attributeFlows (flows : List FlowTupleEvidence) (socketObservations : List SocketProcessObservation) :
    Except Raised (List FlowProcessAttributionAssessment) := do
  let flowItems ← self.dedupeFlows flows
  let socketItems ← self.dedupeSockets socketObservations
  require ((flowItems.length : Int) ≤ self.config.maxAssessments)
    (contractError "flow process assessment bound exceeded")
  flowItems.mapM fun flow => self.assessment flow (self.matchesOf flow socketItems)

end DeterministicFlowProcessAttributor

end ThreeAgent.SecurityMonitoring
