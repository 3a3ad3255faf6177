/-
Discovery candidates and their enrollment (`discovery_candidates.py`,
`discovery_candidate_store.py`, `discovery_enrollment.py`, `AssetInventoryRecord`
of `contracts.py`): the checks of a candidate and of an approved asset, the merge
of candidates of one identity, and `put` and `enroll` over one database, each as
a program of its atomic steps: a SELECT before the first write is one step, and
everything from the first write to the commit is one step.

A JSON column of texts is the list of the texts. `returned` and `commits` are
histories that no code reads.
-/
import ThreeAgent.MonitoringContracts
import ThreeAgent.Lib.Interleaving
import ThreeAgent.Lib.IpAddress

namespace ThreeAgent.SecurityMonitoring

open PyText PyJson Outcome Interleaving

attribute [local instance (1100)] List.decidableBAll

/-! ## Candidates -/

/-- `DISCOVERY_CANDIDATE_SCHEMA`. -/
def discoveryCandidateSchema : String := "workspace-security-monitoring/discovery-candidate-v1"

/-- `MAX_CANDIDATE_EVIDENCE_REFS`, `MAX_CANDIDATE_PROVENANCE_REFS` and the bound of `observation_count`. -/
def maxCandidateEvidenceRefs : Nat := 64
def maxCandidateProvenanceRefs : Nat := 32
def maxObservationCount : Int := 1000000000

/-- `DISCOVERY_IDENTITY_KINDS`. -/
def discoveryIdentityKinds : List String := ["ip", "mac", "dns", "device"]

/-- `_MAC_RE.fullmatch` of a text in lower case. -/
def macRe (s : String) : Bool :=
  let parts := split ':' s
  decide (parts.length = 6) && parts.all fun p => decide (p.toList.length = 2) && p.toList.all Sha256.isHexDigit

/-- `_normalize_identity`. -/
def normalizeIdentity (kind value : String) : Except Raised String := do
  let identityKind := lower (strip kind)
  require (identityKind ∈ discoveryIdentityKinds) (contractError "unsupported discovery identity kind")
  let text := strip value
  require (text ≠ "" ∧ text.toList.length ≤ 512 ∧ ∀ c ∈ text.toList, 32 ≤ c.toNat)
    (contractError "discovery identity value is invalid")
  if identityKind = "ip" then
    orRaise (IpAddress.addressText text) (contractError "discovery IP identity must be a literal address")
  else if identityKind = "mac" then do
    let normalized := lower (replaceChar '-' ':' text)
    require (macRe normalized = true) (contractError "discovery MAC identity is invalid")
    return normalized
  else if identityKind = "dns" then do
    let normalized := lower (String.ofList (text.toList.rdropWhile (· = '.')))
    require (normalized ≠ "" ∧ normalized.toList.length ≤ 253 ∧ ∀ c ∈ normalized.toList, isSpace c = false)
      (contractError "discovery DNS identity is invalid")
    return normalized
  else return text

/-- `discovery_identity_ref`. -/
def discoveryIdentityRef (kind value : String) : Except Raised String := do
  let identityKind := lower (strip kind)
  let normalized ← normalizeIdentity identityKind value
  return "candidate:" ++ identityKind ++ ":" ++
    hashText ("workspace-discovery-candidate-v1:" ++ identityKind ++ ":" ++ normalized)

structure DiscoveryCandidate where
  candidateId : String
  identityRef : String
  firstSeen : String
  lastSeen : String
  observationCount : Int
  confidenceBasisPoints : Int
  provenanceRefs : List String
  evidenceRefs : List String
  trustState : String := "untrusted"
  inventoryStatus : String := "not_enrolled"
  authority : String := "none"
  schemaVersion : String := discoveryCandidateSchema
  deriving DecidableEq

/-- `_CANDIDATE_REF_RE.fullmatch`: the kind and the digest. -/
def candidateRef? (ref : String) : Option (String × String) :=
  match split ':' ref with
  | ["candidate", kind, "sha256", digest] =>
    if kind ∈ discoveryIdentityKinds ∧ digest.toList.length = 64 ∧ digest.toList.all Sha256.isHexDigit = true then
      some (kind, digest)
    else none
  | _ => none

/-- The candidate id of a digest. -/
def candidateIdOf (digest : String) : String := "candidate-" ++ String.ofList (digest.toList.take 24)

/-- `a < b` of two times with offsets. -/
def precedes [PyTime] (a b : String) : Bool :=
  match PyTime.instant? a, PyTime.instant? b with
  | some x, some y => decide (x < y)
  | _, _ => false

/-- `tuple(sorted(set(_compact(...) for value in refs)))`. -/
def compactRefs (refs : List String) (fieldName : String) : Except Raised (List String) := do
  let values ← refs.mapM fun v => compact v fieldName 256
  return sorted (dedup values)

namespace DiscoveryCandidate

/-- `validate`. -/
def validate [PyTime] (c : DiscoveryCandidate) : Except Raised DiscoveryCandidate := do
  let candidateId ← compact c.candidateId "candidate_id" 128
  let ref := lower (strip c.identityRef)
  let (_, digest) ← orRaise (candidateRef? ref) (contractError "identity_ref must be a typed discovery candidate hash")
  require (candidateId = candidateIdOf digest) (contractError "candidate_id must derive from identity_ref")
  let first ← normalizedTimestamp c.firstSeen "first_seen"
  let last ← normalizedTimestamp c.lastSeen "last_seen"
  require (precedes last first = false) (contractError "candidate last_seen precedes first_seen")
  require (1 ≤ c.observationCount ∧ c.observationCount ≤ maxObservationCount)
    (contractError "candidate observation_count is outside bounds")
  require (0 ≤ c.confidenceBasisPoints ∧ c.confidenceBasisPoints ≤ 10000)
    (contractError "candidate confidence_basis_points must be within 0..10000")
  let provenance ← compactRefs c.provenanceRefs "provenance_ref"
  let evidence ← compactRefs c.evidenceRefs "evidence_ref"
  require (provenance ≠ [] ∧ provenance.length ≤ maxCandidateProvenanceRefs)
    (contractError "candidate provenance_refs are outside bounds")
  require (evidence ≠ [] ∧ evidence.length ≤ maxCandidateEvidenceRefs)
    (contractError "candidate evidence_refs are outside bounds")
  require (c.trustState = "untrusted") (contractError "discovery candidate trust_state must remain untrusted")
  require (c.inventoryStatus = "not_enrolled") (contractError "discovery candidate cannot self-enroll into inventory")
  require (c.authority = "none") (contractError "discovery candidate cannot grant authority")
  require (c.schemaVersion = discoveryCandidateSchema) (contractError "unsupported discovery candidate schema")
  return { c with candidateId, identityRef := ref, firstSeen := first, lastSeen := last
                  provenanceRefs := provenance, evidenceRefs := evidence }

variable (c : DiscoveryCandidate)

/-- `identity_kind` of a validated candidate. -/
def identityKind : String := (split ':' c.identityRef).getD 1 ""

/-- `to_dict` of a validated candidate. -/
def toDict : Json Unit :=
  .obj [("authority", .str c.authority), ("candidate_id", .str c.candidateId),
    ("confidence_basis_points", .int c.confidenceBasisPoints), ("evidence_refs", .arr (c.evidenceRefs.map .str)),
    ("first_seen", .str c.firstSeen), ("identity_ref", .str c.identityRef),
    ("inventory_status", .str c.inventoryStatus), ("last_seen", .str c.lastSeen),
    ("observation_count", .int c.observationCount), ("provenance_refs", .arr (c.provenanceRefs.map .str)),
    ("schema_version", .str c.schemaVersion), ("trust_state", .str c.trustState)]

def fingerprint : String := sha256Fingerprint c.toDict

end DiscoveryCandidate

/-! ## Merging -/

/-- `min` and `max` of some texts, the first of them given. -/
def minText (t : String) (ts : List String) : String := ts.foldl min t
def maxText (t : String) (ts : List String) : String := ts.foldl max t

/-- The merge of the candidates of one identity. -/
def mergeMembers [PyTime] (identityRef : String) (member : DiscoveryCandidate) (members : List DiscoveryCandidate) :
    Except Raised DiscoveryCandidate := do
  let all := member :: members
  let totalCount := (all.map (·.observationCount)).sum
  require (totalCount ≤ maxObservationCount) (contractError "merged discovery observation_count exceeds bound")
  let provenance := sorted (dedup (all.flatMap (·.provenanceRefs)))
  let evidence := sorted (dedup (all.flatMap (·.evidenceRefs)))
  require (provenance.length ≤ maxCandidateProvenanceRefs ∧ evidence.length ≤ maxCandidateEvidenceRefs)
    (contractError "merged discovery reference bound exceeded")
  DiscoveryCandidate.validate
    { candidateId := candidateIdOf ((split ':' identityRef).getLastD "")
      identityRef := identityRef
      firstSeen := minText member.firstSeen (members.map (·.firstSeen))
      lastSeen := maxText member.lastSeen (members.map (·.lastSeen))
      observationCount := totalCount
      confidenceBasisPoints := (members.map (·.confidenceBasisPoints)).foldl max member.confidenceBasisPoints
      provenanceRefs := provenance
      evidenceRefs := evidence }

/-- `deduplicate_discovery_candidates`. -/
def deduplicateDiscoveryCandidates [PyTime] (candidates : List DiscoveryCandidate) (maxInput maxOutput : Nat) :
    Except Raised (List DiscoveryCandidate) := do
  require (1 ≤ maxInput ∧ maxInput ≤ 100000) (contractError "max_input_candidates must be an integer within 1..100000")
  require (1 ≤ maxOutput ∧ maxOutput ≤ 100000) (contractError "max_output_candidates must be an integer within 1..100000")
  let valid ← candidates.foldlM
    (fun done raw => do
      let candidate ← raw.validate
      require (done.length < maxInput) (contractError "discovery candidate input bound exceeded")
      return done ++ [candidate]) []
  let identities := dedup (valid.map (·.identityRef))
  require (identities.length ≤ maxOutput) (contractError "discovery candidate output bound exceeded")
  (sorted identities).mapM fun identityRef =>
    match valid.filter (·.identityRef = identityRef) with
    | member :: members => mergeMembers identityRef member members
    | [] => throw (contractError "discovery candidate output bound exceeded")

/-! ## Approved assets -/

/-- `COLLECTOR_CAPABILITIES`. -/
def collectorCapabilityNames : List String :=
  ["icmp_echo", "tcp_connect", "snmpv3_read", "local_net_read", "fixed_readonly_adapter"]

/-- A label of `_HOST_RE`. -/
def isHostLabel (label : String) : Bool :=
  let cs := label.toList
  decide (cs.length ≤ 63) && cs.head?.any isAsciiAlnum && cs.getLast?.any isAsciiAlnum &&
    cs.all fun c => isAsciiAlnum c || c == '-'

/-- `_HOST_RE.fullmatch`. -/
def hostRe (s : String) : Bool := decide (s.toList.length ≤ 253) && (split '.' s).all isHostLabel

/-- `validate_management_host`. -/
def validateManagementHost (value : String) : Except Raised String := do
  let host := strip value
  require (host ≠ "" ∧ host.toList.length ≤ 253) (contractError "management_host is required")
  require (∀ c ∈ host.toList, isSpace c = false ∧ c ∉ "/\\;|&`$<>\"'".toList)
    (contractError "management_host contains unsafe characters")
  require (contains host "://" = false) (contractError "management_host must be a host, not a URL")
  match IpAddress.addressText host with
  | some text => return text
  | none => do
    require (hostRe host = true) (contractError "management_host is not a valid IP/hostname")
    return lower host

structure AssetInventoryRecord where
  assetId : String
  role : String
  managementHost : String
  collectorCapabilities : List String
  allowedTcpPorts : List Int := []
  dataClass : String := "confidential"
  enabled : Bool := true
  credentialRef : Option String := none
  schemaVersion : String := "workspace-security-monitoring/asset-v1"
  deriving DecidableEq

/-- `SecretReference.validate`. -/
def validateSecretHandle (handle : String) : Except Raised String := do
  let text := strip handle
  require (startsWith text "secret-ref:" = true) (contractError "secret handle must start with secret-ref:")
  let _ ← compact (String.ofList (text.toList.drop 11)) "secret_handle" 160
  return text

namespace AssetInventoryRecord

/-- `validate`. -/
def validate (a : AssetInventoryRecord) : Except Raised AssetInventoryRecord := do
  let assetId ← compact a.assetId "asset_id" 128
  let role ← compact a.role "role" 64
  let managementHost ← validateManagementHost a.managementHost
  let caps := dedup ((a.collectorCapabilities.map strip).filter (· ≠ ""))
  let unknown := sorted (caps.filter (· ∉ collectorCapabilityNames))
  require (unknown = [])
    (contractError ("unknown collector capabilities: [" ++ ", ".intercalate (unknown.map fun v => "'" ++ v ++ "'") ++ "]"))
  let ports := dedup a.allowedTcpPorts
  require (∀ port ∈ ports, 1 ≤ port ∧ port ≤ 65535) (contractError "allowed_tcp_ports must be within 1..65535")
  require (a.dataClass ∈ approvedDataClasses) (contractError ("unsupported data_class: " ++ a.dataClass))
  let credentialRef ← a.credentialRef.mapM validateSecretHandle
  require (¬ ("tcp_connect" ∈ caps ∧ ports = []))
    (contractError "tcp_connect assets require explicit allowed_tcp_ports")
  require (¬ ("snmpv3_read" ∈ caps ∧ credentialRef = none))
    (contractError "snmpv3_read requires an opaque credential_ref")
  return { a with assetId, role, managementHost, collectorCapabilities := caps, allowedTcpPorts := ports, credentialRef }

variable (a : AssetInventoryRecord)

/-- `to_dict`, its keys sorted. -/
def toDict : Json Unit :=
  .obj [("allowed_tcp_ports", .arr (a.allowedTcpPorts.map .int)), ("asset_id", .str a.assetId),
    ("collector_capabilities", .arr (a.collectorCapabilities.map .str)),
    ("credential_ref", match a.credentialRef with
      | some handle => .obj [("handle", .str handle)]
      | none => .null),
    ("data_class", .str a.dataClass), ("enabled", .bool a.enabled), ("management_host", .str a.managementHost),
    ("role", .str a.role), ("schema_version", .str a.schemaVersion)]

def fingerprint : String := sha256Fingerprint a.toDict

end AssetInventoryRecord

/-! ## The tables -/

/-- A row of `discovery_candidates`. -/
structure CandidateRow where
  candidateId : String
  identityRef : String
  firstSeen : String
  lastSeen : String
  observationCount : Int
  confidenceBasisPoints : Int
  provenanceRefs : List String
  evidenceRefs : List String
  candidateFingerprint : String
  schemaVersion : String
  deriving DecidableEq

/-- The columns that are written of a candidate. -/
def CandidateRow.of (c : DiscoveryCandidate) : CandidateRow where
  candidateId := c.candidateId
  identityRef := c.identityRef
  firstSeen := c.firstSeen
  lastSeen := c.lastSeen
  observationCount := c.observationCount
  confidenceBasisPoints := c.confidenceBasisPoints
  provenanceRefs := c.provenanceRefs
  evidenceRefs := c.evidenceRefs
  candidateFingerprint := c.fingerprint
  schemaVersion := c.schemaVersion

/-- `_from_row`. -/
def CandidateRow.read [PyTime] (row : CandidateRow) : Except Raised DiscoveryCandidate := do
  require (row.schemaVersion = discoveryCandidateSchema) (contractError "stored discovery candidate schema is invalid")
  let candidate ← DiscoveryCandidate.validate
    { candidateId := row.candidateId
      identityRef := row.identityRef
      firstSeen := row.firstSeen
      lastSeen := row.lastSeen
      observationCount := row.observationCount
      confidenceBasisPoints := row.confidenceBasisPoints
      provenanceRefs := row.provenanceRefs
      evidenceRefs := row.evidenceRefs }
  require (row.candidateFingerprint = candidate.fingerprint)
    (contractError "stored discovery candidate fingerprint mismatch")
  return candidate

/-- A row of `approved_assets`. -/
structure AssetRow where
  asset : AssetInventoryRecord
  assetFingerprint : String
  deriving DecidableEq

/-- `DISCOVERY_ENROLLMENT_SCHEMA`. -/
def discoveryEnrollmentSchema : String := "workspace-security-monitoring/discovery-enrollment-v1"

structure DiscoveryEnrollmentReceipt where
  enrollmentId : String
  candidateId : String
  candidateFingerprint : String
  assetId : String
  assetFingerprint : String
  operatorApprovalRef : String
  enrolledAt : String
  authority : String := "operator_approved"
  schemaVersion : String := discoveryEnrollmentSchema
  deriving DecidableEq

/-- `_approval_ref`. -/
def approvalRef (value : String) : Except Raised String := do
  let text := strip value
  require (startsWith text "approval-ref:" = true) (contractError "operator approval must use an approval-ref handle")
  let suffix ← compact (String.ofList (text.toList.drop 13)) "operator_approval_ref" 160
  return "approval-ref:" ++ suffix

/-- The check of a fingerprint by its length. -/
def digestText (value fieldName : String) : Except Raised String := do
  let fingerprint := lower (strip value)
  require (startsWith fingerprint "sha256:" = true ∧ fingerprint.toList.length = 71)
    (contractError (fieldName ++ " must be a sha256 digest"))
  return fingerprint

/-- The id of an enrollment. -/
def enrollmentIdOf (candidateFingerprint assetFingerprint operatorApprovalRef : String) : String :=
  "enroll-" ++ digestPrefix (sha256Fingerprint (.obj [("asset_fingerprint", .str assetFingerprint),
    ("candidate_fingerprint", .str candidateFingerprint), ("operator_approval_ref", .str operatorApprovalRef)])) 24

/-- `DiscoveryEnrollmentReceipt.validate`. -/
def DiscoveryEnrollmentReceipt.validate [PyTime] (r : DiscoveryEnrollmentReceipt) :
    Except Raised DiscoveryEnrollmentReceipt := do
  let enrollmentId ← compact r.enrollmentId "enrollment_id" 128
  let candidateId ← compact r.candidateId "candidate_id" 128
  let assetId ← compact r.assetId "asset_id" 128
  let candidateFingerprint ← digestText r.candidateFingerprint "candidate_fingerprint"
  let assetFingerprint ← digestText r.assetFingerprint "asset_fingerprint"
  let operatorApprovalRef ← approvalRef r.operatorApprovalRef
  let enrolledAt ← normalizedTimestamp r.enrolledAt "enrolled_at"
  require (r.authority = "operator_approved") (contractError "discovery enrollment authority must be operator_approved")
  require (r.schemaVersion = discoveryEnrollmentSchema) (contractError "unsupported discovery enrollment schema")
  require (enrollmentId = enrollmentIdOf candidateFingerprint assetFingerprint operatorApprovalRef)
    (contractError "enrollment_id must derive from approved enrollment inputs")
  return { r with enrollmentId, candidateId, candidateFingerprint, assetId, assetFingerprint, operatorApprovalRef, enrolledAt }

structure DiscoveryEnrollmentRequest where
  candidateId : String
  candidateFingerprint : String
  asset : AssetInventoryRecord
  operatorApprovalRef : String

/-- `DiscoveryEnrollmentRequest.validate`. -/
def DiscoveryEnrollmentRequest.validate (r : DiscoveryEnrollmentRequest) : Except Raised DiscoveryEnrollmentRequest := do
  let candidateId ← compact r.candidateId "candidate_id" 128
  let candidateFingerprint ← digestText r.candidateFingerprint "candidate_fingerprint"
  let asset ← r.asset.validate
  let operatorApprovalRef ← approvalRef r.operatorApprovalRef
  return { candidateId, candidateFingerprint, asset, operatorApprovalRef }

/-- The tables that `put` and `enroll` read and write, and the histories: the candidates of the puts that returned, and
each receipt with the fingerprint that was stored of its candidate when it was committed. -/
structure DiscoveryStore where
  candidates : List CandidateRow := []
  assets : List AssetRow := []
  receipts : List DiscoveryEnrollmentReceipt := []
  returned : List DiscoveryCandidate := []
  commits : List (DiscoveryEnrollmentReceipt × Option String) := []

namespace DiscoveryStore

variable (s : DiscoveryStore)

/-- `SELECT * FROM discovery_candidates WHERE candidate_id=?`. -/
def candidate? (candidateId : String) : Option CandidateRow := s.candidates.find? (·.candidateId = candidateId)

/-- `SELECT asset_fingerprint FROM approved_assets WHERE asset_id=?`. -/
def assetFingerprint? (assetId : String) : Option String :=
  (s.assets.find? (·.asset.assetId = assetId)).map (·.assetFingerprint)

/-- `SELECT asset_id FROM approved_assets WHERE management_host=?`. -/
def hostOwner? (host : String) : Option String := (s.assets.find? (·.asset.managementHost = host)).map (·.asset.assetId)

/-- `DiscoveryCandidateStore.get`. -/
def get [PyTime] (candidateId : String) : Except Raised (Option DiscoveryCandidate) :=
  match s.candidate? candidateId with
  | none => .ok none
  | some row => row.read.map some

/-- `_insert`. -/
def insert (c : DiscoveryCandidate) : Except Raised DiscoveryStore := do
  require (∀ row ∈ s.candidates, row.candidateId ≠ c.candidateId) (uniqueFailed "discovery_candidates.candidate_id")
  require (∀ row ∈ s.candidates, row.identityRef ≠ c.identityRef) (uniqueFailed "discovery_candidates.identity_ref")
  return { s with candidates := s.candidates ++ [CandidateRow.of c] }

/-- `_replace`: the row of the candidate, if it is of its identity. -/
def replace (c : DiscoveryCandidate) : Except Raised DiscoveryStore := do
  require (∃ row ∈ s.candidates, row.candidateId = c.candidateId ∧ row.identityRef = c.identityRef)
    (contractError "discovery candidate storage identity mutation is forbidden")
  return { s with candidates := s.candidates.map fun row =>
             if row.candidateId = c.candidateId ∧ row.identityRef = c.identityRef then CandidateRow.of c else row }

/-- `_write_asset_row`. -/
def writeAssetRow (asset : AssetInventoryRecord) : DiscoveryStore :=
  if ∃ row ∈ s.assets, row.asset.assetId = asset.assetId then
    { s with assets := s.assets.map fun row =>
               if row.asset.assetId = asset.assetId then ⟨asset, asset.fingerprint⟩ else row }
  else { s with assets := s.assets ++ [⟨asset, asset.fingerprint⟩] }

/-- The INSERT of a receipt. -/
def insertReceipt (r : DiscoveryEnrollmentReceipt) : Except Raised DiscoveryStore := do
  require (∀ row ∈ s.receipts, row.enrollmentId ≠ r.enrollmentId)
    (uniqueFailed "discovery_enrollment_receipts.enrollment_id")
  require (∀ row ∈ s.receipts, ¬ (row.candidateId = r.candidateId ∧ row.assetId = r.assetId ∧
      row.operatorApprovalRef = r.operatorApprovalRef))
    (uniqueFailed ("discovery_enrollment_receipts.candidate_id, discovery_enrollment_receipts.asset_id, " ++
      "discovery_enrollment_receipts.operator_approval_ref"))
  return { s with receipts := s.receipts ++ [r]
                  commits := s.commits ++ [(r, (s.candidate? r.candidateId).map (·.candidateFingerprint))] }

end DiscoveryStore

/-! ## The calls -/

inductive DiscoveryRequest where
  | put (candidate : DiscoveryCandidate)
  | enroll (request : DiscoveryEnrollmentRequest) (enrolledAt : String)

inductive DiscoveryResult where
  | candidate (candidate : DiscoveryCandidate)
  | receipt (receipt : DiscoveryEnrollmentReceipt)

/-- What an enrollment has read and computed before its transaction. -/
structure Enrollment where
  candidate : DiscoveryCandidate
  approved : DiscoveryEnrollmentRequest
  timestamp : String
  enrollmentId : String

inductive DiscoveryPhase where
  | ready
  | inserting (incoming : DiscoveryCandidate)
  /-- The fingerprint is stored already: the return is next. -/
  | replayed (existing incoming : DiscoveryCandidate)
  | replacing (existing incoming merged : DiscoveryCandidate)
  /-- The fingerprint of the candidate is next, then the receipt of this id. -/
  | rereading (e : Enrollment)
  | seekingReceipt (e : Enrollment)
  /-- The receipt is there: its asset is next. -/
  | confirming (e : Enrollment) (prior : DiscoveryEnrollmentReceipt)
  /-- The asset of this id is next, then the owner of the host, then the write. -/
  | seekingAsset (e : Enrollment)
  | seekingOwner (e : Enrollment)
  | writing (e : Enrollment) (receipt : DiscoveryEnrollmentReceipt)
  | done (result : Except Raised DiscoveryResult)

structure DiscoveryCall where
  request : DiscoveryRequest
  phase : DiscoveryPhase := .ready

section Calls

variable [PyTime]

/-- The next phase of a computation that writes nothing, or the raise. -/
def DiscoveryPhase.orRaise {α : Type} (x : Except Raised α) (next : α → DiscoveryPhase) : DiscoveryPhase :=
  match x with
  | .ok a => next a
  | .error e => .done (.error e)

/-- `put`, up to its write. -/
def beginPut (candidate : DiscoveryCandidate) (s : DiscoveryStore) : Except Raised DiscoveryPhase := do
  let incoming ← candidate.validate
  let existing ← s.get incoming.candidateId
  match existing with
  | none => return .inserting incoming
  | some existing => do
    require (existing.identityRef = incoming.identityRef)
      (contractError "discovery candidate identity mutation is forbidden")
    if existing.fingerprint = incoming.fingerprint then return .replayed existing incoming
    else do
      require (∀ ref ∈ existing.evidenceRefs, ref ∉ incoming.evidenceRefs)
        (contractError "discovery candidate replay conflicts with persisted evidence")
      let merged ← deduplicateDiscoveryCandidates [existing, incoming] 2 1
      let first ← orRaise merged.head? ⟨.indexError, "tuple index out of range"⟩
      return .replacing existing incoming first

/-- `_verify_candidate_binding`. -/
def verifyCandidateBinding (candidate : DiscoveryCandidate) (asset : AssetInventoryRecord) : Except Raised Unit := do
  require (candidate.identityKind ∈ ["ip", "dns"])
    (contractError "MAC/device discovery enrollment requires explicit cross-identity binding")
  let ref ← discoveryIdentityRef candidate.identityKind asset.managementHost
  require (ref = candidate.identityRef) (contractError "approved asset management_host does not match discovery candidate")

/-- `enroll`, up to its connection. -/
def beginEnroll (request : DiscoveryEnrollmentRequest) (enrolledAt : String) (s : DiscoveryStore) :
    Except Raised Enrollment := do
  let approved ← request.validate
  let timestamp ← normalizedTimestamp enrolledAt "enrolled_at"
  let existing ← s.get approved.candidateId
  let candidate ← orRaise existing (contractError "discovery enrollment requires an existing candidate")
  require (candidate.fingerprint = approved.candidateFingerprint)
    (contractError "discovery candidate fingerprint changed before enrollment")
  verifyCandidateBinding candidate approved.asset
  return ⟨candidate, approved, timestamp,
    enrollmentIdOf candidate.fingerprint approved.asset.fingerprint approved.operatorApprovalRef⟩

/-- The receipt of an enrollment. -/
def Enrollment.receipt (e : Enrollment) : Except Raised DiscoveryEnrollmentReceipt :=
  DiscoveryEnrollmentReceipt.validate
    { enrollmentId := e.enrollmentId
      candidateId := e.candidate.candidateId
      candidateFingerprint := e.candidate.fingerprint
      assetId := e.approved.asset.assetId
      assetFingerprint := e.approved.asset.fingerprint
      operatorApprovalRef := e.approved.operatorApprovalRef
      enrolledAt := e.timestamp }

/-- The SELECT of the candidate's fingerprint. -/
def Enrollment.reread (e : Enrollment) (s : DiscoveryStore) : Except Raised Unit := do
  let row ← orRaise (s.candidate? e.candidate.candidateId)
    (contractError "discovery candidate disappeared before enrollment")
  require (row.candidateFingerprint = e.approved.candidateFingerprint)
    (contractError "discovery candidate changed during enrollment")

/-- The next atomic step of a call. -/
def discoveryAct (_ : Unit) (s : DiscoveryStore) (c : DiscoveryCall) : DiscoveryStore × DiscoveryCall :=
  let go (phase : DiscoveryPhase) : DiscoveryStore × DiscoveryCall := (s, { c with phase })
  match c.phase with
  | .ready =>
    match c.request with
    | .put candidate => go (.orRaise (beginPut candidate s) id)
    | .enroll request enrolledAt => go (.orRaise (beginEnroll request enrolledAt s) .rereading)
  | .inserting incoming =>
    match s.insert incoming with
    | .error e => go (.done (.error e))
    | .ok s' => ({ s' with returned := s'.returned ++ [incoming] }, { c with phase := .done (.ok (.candidate incoming)) })
  | .replayed existing incoming =>
    ({ s with returned := s.returned ++ [incoming] }, { c with phase := .done (.ok (.candidate existing)) })
  | .replacing _ incoming merged =>
    match s.replace merged with
    | .error e => go (.done (.error e))
    | .ok s' => ({ s' with returned := s'.returned ++ [incoming] }, { c with phase := .done (.ok (.candidate merged)) })
  | .rereading e => go (.orRaise (e.reread s) fun _ => .seekingReceipt e)
  | .seekingReceipt e =>
    match s.receipts.find? (·.enrollmentId = e.enrollmentId) with
    | some row => go (.orRaise row.validate (.confirming e))
    | none => go (.seekingAsset e)
  | .confirming e prior =>
    if s.assetFingerprint? e.approved.asset.assetId = some e.approved.asset.fingerprint then
      go (.done (.ok (.receipt prior)))
    else go (.done (.error (contractError "enrollment receipt exists but approved inventory state diverged")))
  | .seekingAsset e =>
    if ∀ fingerprint ∈ s.assetFingerprint? e.approved.asset.assetId, fingerprint = e.approved.asset.fingerprint then
      go (.seekingOwner e)
    else go (.done (.error (contractError "discovery enrollment cannot mutate an existing asset definition")))
  | .seekingOwner e =>
    if ∀ owner ∈ s.hostOwner? e.approved.asset.managementHost, owner = e.approved.asset.assetId then
      go (.orRaise e.receipt (.writing e))
    else go (.done (.error (contractError "management_host is already owned by another approved asset")))
  | .writing e receipt =>
    match (s.writeAssetRow e.approved.asset).insertReceipt receipt with
    | .error _ => go (.done (.error (contractError "discovery enrollment transaction failed")))
    | .ok s' => (s', { c with phase := .done (.ok (.receipt receipt)) })
  | .done result => go (.done result)

/-- The calls of several connections. -/
def discoveryProgram : Program DiscoveryStore DiscoveryCall DiscoveryRequest Unit where
  init request := { request }
  act := discoveryAct

end Calls

end ThreeAgent.SecurityMonitoring
