/-
The offline queue of an edge agent (`edge_agent.py`): evidence items, the
envelope that carries them, its authentication tag, and the bounded queue
with its two operations. Every property of an envelope validates it first,
so each of them is a computation that may raise.
-/
import ThreeAgent.MonitoringContracts
import ThreeAgent.Lib.Action
import ThreeAgent.Lib.Hmac

namespace ThreeAgent.SecurityMonitoring

open PyText Outcome PyJson Action

def edgeAgentDescriptorSchema : String := "workspace-security-monitoring/edge-agent-descriptor-v1"
def edgeEvidenceItemSchema : String := "workspace-security-monitoring/edge-evidence-item-v1"
def edgeEvidenceEnvelopeSchema : String := "workspace-security-monitoring/edge-evidence-envelope-v1"
def authenticatedEdgeEnvelopeSchema : String := "workspace-security-monitoring/authenticated-edge-envelope-v1"
def edgeReadOnlyCapabilities : List String := ["local_net_read", "fixed_readonly_adapter"]

/-- `EdgeBackpressure("EDGE_QUEUE_BACKPRESSURE")`. -/
def edgeBackpressure : Raised := ⟨.edgeBackpressure, "EDGE_QUEUE_BACKPRESSURE"⟩

/-- `_fingerprint`. -/
def edgeFingerprint (value fieldName : String) : Except Raised String := do
  require (sha256Re (lower (strip value)) = true) (contractError (fieldName ++ " must be a SHA-256 fingerprint"))
  return lower (strip value)

/-- `_HMAC_RE.fullmatch`. -/
def hmacRe (s : String) : Bool :=
  startsWith s "hmac-sha256:" && decide ((s.toList.drop 12).length = 64) && (s.toList.drop 12).all Sha256.isHexDigit

/-- `_ASSET_REF_RE.fullmatch`. -/
def assetRefRe (s : String) : Bool :=
  startsWith s "asset:" && refRe (s.toList.drop 6) && decide ((s.toList.drop 6).length ≤ 128)

/-- `_asset_ref`. -/
def assetRef (value : String) : Except Raised String := do
  require (assetRefRe (strip value) = true)
    (contractError "edge agent asset_ref must be an approved asset reference")
  return strip value

/-- `_bounded_int`. -/
def boundedInt (value : Int) (fieldName : String) (minimum maximum : Int) : Except Raised Unit :=
  require (minimum ≤ value ∧ value ≤ maximum)
    (contractError (fieldName ++ " must be within " ++ String.ofList (intText minimum) ++ ".." ++
      String.ofList (intText maximum)))

/-- `_auth_key`. -/
def authKey (key : List UInt8) : Except Raised Unit :=
  require (32 ≤ key.length ∧ key.length ≤ 128) (contractError "edge authentication key must contain 32..128 bytes")

/-! ## The descriptor of an agent -/

structure EdgeAgentDescriptor where
  agentId : String
  assetRef : String
  allowedCapabilities : List String
  policyFingerprint : String
  configFingerprint : String
  authKeyId : String
  schemaVersion : String := edgeAgentDescriptorSchema
  deriving DecidableEq, Repr

def EdgeAgentDescriptor.validate (d : EdgeAgentDescriptor) : Except Raised EdgeAgentDescriptor := do
  let agentId ← compact d.agentId "agent_id" 128
  let assetRef ← SecurityMonitoring.assetRef d.assetRef
  let capabilities := sorted (dedup (d.allowedCapabilities.map strip))
  require (capabilities ≠ [] ∧ ∀ value ∈ capabilities, value ∈ edgeReadOnlyCapabilities)
    (contractError "edge agent capabilities must remain local read-only")
  let policyFingerprint ← edgeFingerprint d.policyFingerprint "policy_fingerprint"
  let configFingerprint ← edgeFingerprint d.configFingerprint "config_fingerprint"
  let authKeyId ← compact d.authKeyId "auth_key_id" 128
  require (d.schemaVersion = edgeAgentDescriptorSchema) (contractError "unsupported edge agent descriptor schema")
  return { d with agentId := agentId, assetRef := assetRef, allowedCapabilities := capabilities,
                  policyFingerprint := policyFingerprint, configFingerprint := configFingerprint,
                  authKeyId := authKeyId }

/-! ## Evidence -/

structure EdgeEvidenceItem where
  sequence : Int
  evidenceRef : String
  observedAt : String
  payloadSha256 : String
  payloadBytes : Int
  schemaVersion : String := edgeEvidenceItemSchema
  deriving DecidableEq, Repr

structure EdgeEvidenceEnvelope where
  agentId : String
  assetRef : String
  requestId : String
  policyFingerprint : String
  configFingerprint : String
  createdAt : String
  items : List EdgeEvidenceItem
  previousEnvelopeFingerprint : Option String := none
  authority : String := "evidence_only"
  schemaVersion : String := edgeEvidenceEnvelopeSchema
  deriving DecidableEq, Repr

structure AuthenticatedEdgeEnvelope where
  envelope : EdgeEvidenceEnvelope
  authKeyId : String
  authTag : String
  schemaVersion : String := authenticatedEdgeEnvelopeSchema
  deriving DecidableEq, Repr

/-- A fingerprint that may be absent. -/
def optionalFingerprint (value : Option String) (fieldName : String) : Except Raised (Option String) :=
  match value with
  | none => return none
  | some value => some <$> edgeFingerprint value fieldName

/-- `sorted(items, key=lambda item: item.sequence)`. -/
def bySequence (items : List EdgeEvidenceItem) : List EdgeEvidenceItem :=
  items.insertionSort fun a b => a.sequence ≤ b.sequence

section Validation

variable [PyTime]

def EdgeEvidenceItem.validate (i : EdgeEvidenceItem) : Except Raised EdgeEvidenceItem := do
  boundedInt i.sequence "sequence" 0 (2 ^ 63 - 1)
  let evidenceRef ← compact i.evidenceRef "evidence_ref" 256
  let observedAt ← normalizedTimestamp i.observedAt "observed_at"
  let payloadSha256 ← edgeFingerprint i.payloadSha256 "payload_sha256"
  boundedInt i.payloadBytes "payload_bytes" 1 (1024 * 1024)
  require (i.schemaVersion = edgeEvidenceItemSchema) (contractError "unsupported edge evidence item schema")
  return { i with evidenceRef := evidenceRef, observedAt := observedAt, payloadSha256 := payloadSha256 }

def EdgeEvidenceEnvelope.validate (e : EdgeEvidenceEnvelope) : Except Raised EdgeEvidenceEnvelope := do
  let agentId ← compact e.agentId "agent_id" 128
  let assetRef ← SecurityMonitoring.assetRef e.assetRef
  let requestId ← compact e.requestId "request_id" 128
  let policyFingerprint ← edgeFingerprint e.policyFingerprint "policy_fingerprint"
  let configFingerprint ← edgeFingerprint e.configFingerprint "config_fingerprint"
  let createdAt ← normalizedTimestamp e.createdAt "created_at"
  let validated ← e.items.mapM EdgeEvidenceItem.validate
  require (validated ≠ [] ∧ validated.length ≤ 10000)
    (contractError "edge evidence envelope must contain 1..10000 items")
  require (bySequence validated = validated) (contractError "edge evidence items must be ordered by sequence")
  let sequences := validated.map EdgeEvidenceItem.sequence
  require ((dedup sequences).length = sequences.length) (contractError "edge evidence sequences must be unique")
  require (∀ p ∈ sequences.zip sequences.tail, p.2 = p.1 + 1)
    (contractError "edge evidence sequences must be contiguous")
  let previous ← optionalFingerprint e.previousEnvelopeFingerprint "previous_envelope_fingerprint"
  require (e.authority = "evidence_only") (contractError "edge evidence authority must remain evidence_only")
  require (e.schemaVersion = edgeEvidenceEnvelopeSchema) (contractError "unsupported edge evidence envelope schema")
  return { e with agentId := agentId, assetRef := assetRef, requestId := requestId,
                  policyFingerprint := policyFingerprint, configFingerprint := configFingerprint,
                  createdAt := createdAt, items := validated, previousEnvelopeFingerprint := previous }

end Validation

/-- `to_dict` of a validated item. -/
def EdgeEvidenceItem.payload (i : EdgeEvidenceItem) : Json Unit := .dict
  [("evidence_ref", .str i.evidenceRef), ("observed_at", .str i.observedAt), ("payload_bytes", .int i.payloadBytes),
   ("payload_sha256", .str i.payloadSha256), ("schema_version", .str i.schemaVersion), ("sequence", .int i.sequence)]

namespace EdgeEvidenceEnvelope

/-- `to_dict` of a validated envelope. -/
def payload (e : EdgeEvidenceEnvelope) : Json Unit := .dict
  [("agent_id", .str e.agentId), ("asset_ref", .str e.assetRef), ("authority", .str e.authority),
   ("config_fingerprint", .str e.configFingerprint), ("created_at", .str e.createdAt),
   ("items", .arr (e.items.map EdgeEvidenceItem.payload)), ("policy_fingerprint", .str e.policyFingerprint),
   ("previous_envelope_fingerprint", .ofOption .str e.previousEnvelopeFingerprint),
   ("request_id", .str e.requestId), ("schema_version", .str e.schemaVersion)]

variable [PyTime]

/-- `payload_bytes`. -/
def payloadBytes (e : EdgeEvidenceEnvelope) : Except Raised Int := do
  let e ← e.validate
  return (e.items.map EdgeEvidenceItem.payloadBytes).sum

/-- `first_sequence`: `validate` admits no envelope without items. -/
def firstSequence (e : EdgeEvidenceEnvelope) : Except Raised Int := do
  let e ← e.validate
  return ((e.items.map EdgeEvidenceItem.sequence).head?).getD 0

/-- `last_sequence`. -/
def lastSequence (e : EdgeEvidenceEnvelope) : Except Raised Int := do
  let e ← e.validate
  return ((e.items.map EdgeEvidenceItem.sequence).getLast?).getD 0

/-- `to_json`. -/
def toJson (e : EdgeEvidenceEnvelope) : Except Raised String := do
  let e ← e.validate
  return canonicalJson e.payload

def fingerprint (e : EdgeEvidenceEnvelope) : Except Raised String := do
  let e ← e.validate
  return sha256Fingerprint e.payload

end EdgeEvidenceEnvelope

section Authentication

variable [PyTime]

def AuthenticatedEdgeEnvelope.validate (a : AuthenticatedEdgeEnvelope) : Except Raised AuthenticatedEdgeEnvelope := do
  let envelope ← a.envelope.validate
  let authKeyId ← compact a.authKeyId "auth_key_id" 128
  let tag := lower (strip a.authTag)
  require (hmacRe tag = true) (contractError "edge auth_tag must be an HMAC-SHA256 digest")
  require (a.schemaVersion = authenticatedEdgeEnvelopeSchema)
    (contractError "unsupported authenticated edge envelope schema")
  return { a with envelope := envelope, authKeyId := authKeyId, authTag := tag }

/-- `seal_edge_envelope`. -/
def sealEdgeEnvelope (envelope : EdgeEvidenceEnvelope) (authKeyId : String) (key : List UInt8) :
    Except Raised AuthenticatedEdgeEnvelope := do
  let envelope ← envelope.validate
  let keyId ← compact authKeyId "auth_key_id" 128
  authKey key
  let text ← envelope.toJson
  AuthenticatedEdgeEnvelope.validate
    { envelope := envelope, authKeyId := keyId, authTag := "hmac-sha256:" ++ Hmac.hexdigest key text }

/-- `verify_edge_envelope`. -/
def verifyEdgeEnvelope (a : AuthenticatedEdgeEnvelope) (descriptor : EdgeAgentDescriptor) (key : List UInt8) :
    Except Raised Bool := do
  let a ← a.validate
  let d ← descriptor.validate
  authKey key
  if a.authKeyId ≠ d.authKeyId then return false
  if a.envelope.agentId ≠ d.agentId ∨ a.envelope.assetRef ≠ d.assetRef then return false
  if a.envelope.policyFingerprint ≠ d.policyFingerprint then return false
  if a.envelope.configFingerprint ≠ d.configFingerprint then return false
  let text ← a.envelope.toJson
  return decide (a.authTag = "hmac-sha256:" ++ Hmac.hexdigest key text)

end Authentication

/-! ## The queue -/

structure EdgeQueuePolicy where
  maxEnvelopes : Int := 128
  maxTotalPayloadBytes : Int := 16 * 1024 * 1024
  deriving DecidableEq, Repr

def EdgeQueuePolicy.validate (p : EdgeQueuePolicy) : Except Raised Unit := do
  boundedInt p.maxEnvelopes "max_envelopes" 1 1024
  boundedInt p.maxTotalPayloadBytes "max_total_payload_bytes" 1 (128 * 1024 * 1024)

/-- The attributes of a `BoundedEdgeEnvelopeQueue`. -/
structure EdgeQueue where
  descriptor : EdgeAgentDescriptor
  policy : EdgeQueuePolicy
  expectedPreviousFingerprint : Option String
  items : List AuthenticatedEdgeEnvelope := []
  payloadBytes : Int := 0
  deriving DecidableEq, Repr

namespace EdgeQueue

/-- `__init__`. -/
def init (descriptor : EdgeAgentDescriptor) (policy : EdgeQueuePolicy) (expectedPreviousFingerprint : Option String) :
    Except Raised EdgeQueue := do
  let descriptor ← descriptor.validate
  policy.validate
  let expected ← optionalFingerprint expectedPreviousFingerprint "expected_previous_fingerprint"
  return { descriptor := descriptor, policy := policy, expectedPreviousFingerprint := expected }

variable [PyTime]

/-- The fingerprint that the next envelope has to name. -/
def expectedPrevious (q : EdgeQueue) : Except Raised (Option String) :=
  match q.items.getLast? with
  | some last => some <$> last.envelope.fingerprint
  | none => return q.expectedPreviousFingerprint

/-- The sequence check, made only against an envelope that is still pending. -/
def checkSequence (q : EdgeQueue) (a : AuthenticatedEdgeEnvelope) : Except Raised Unit :=
  match q.items.getLast? with
  | some last => do
    let first ← a.envelope.firstSequence
    let before ← last.envelope.lastSequence
    require (first = before + 1) (contractError "edge envelope sequence discontinuity")
  | none => return ()

/-- The checks of `append` on an envelope that is validated: nothing is changed yet. -/
def admission (q : EdgeQueue) (a : AuthenticatedEdgeEnvelope) (key : List UInt8) : Except Raised Unit := do
  let verified ← verifyEdgeEnvelope a q.descriptor key
  require (verified = true) (contractError "edge envelope authentication failed")
  let expected ← q.expectedPrevious
  require (a.envelope.previousEnvelopeFingerprint = expected)
    (contractError "edge envelope hash chain discontinuity")
  q.checkSequence a
  require ((q.items.length : Int) + 1 ≤ q.policy.maxEnvelopes) edgeBackpressure
  let bytes ← a.envelope.payloadBytes
  require (q.payloadBytes + bytes ≤ q.policy.maxTotalPayloadBytes) edgeBackpressure

def append (a : AuthenticatedEdgeEnvelope) (key : List UInt8) : Act EdgeQueue Raised Unit := do
  let a ← Act.lift a.validate
  let q ← Act.get
  Act.lift (q.admission a key)
  Act.modify fun q => { q with items := q.items ++ [a] }
  let bytes ← Act.lift a.envelope.payloadBytes
  Act.modify fun q => { q with payloadBytes := q.payloadBytes + bytes }

/-- What `ack` does with the fingerprint of the last envelope it removed. -/
def advance (removed : List AuthenticatedEdgeEnvelope) : Act EdgeQueue Raised Unit :=
  match removed.getLast? with
  | some last => do
    let head ← Act.lift last.envelope.fingerprint
    Act.modify fun q => { q with expectedPreviousFingerprint := some head }
  | none => pure ()

def ack (count : Int) : Act EdgeQueue Raised (List String) := do
  Act.lift (boundedInt count "count" 1 256)
  let q ← Act.get
  Act.lift (require (count ≤ q.items.length)
    (contractError "cannot acknowledge more edge envelopes than pending"))
  let removed := q.items.take count.toNat
  Act.modify fun q => { q with items := q.items.drop count.toNat }
  let bytes ← Act.lift (removed.mapM fun a => a.envelope.payloadBytes)
  Act.modify fun q => { q with payloadBytes := q.payloadBytes - bytes.sum }
  advance removed
  Act.lift (removed.mapM fun a => a.envelope.fingerprint)

end EdgeQueue

end ThreeAgent.SecurityMonitoring
