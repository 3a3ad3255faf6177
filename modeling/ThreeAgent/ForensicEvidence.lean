/-
Forensic evidence (`forensic_evidence.py`): the metadata of an evidence
object with its provenance and its time, the references to it, the custody
events of a case, each holding the hash of the one before it, and the case
itself. `validate` gives the record back with its fields normalised; a
validated record validates to itself.
-/
import ThreeAgent.MonitoringContracts

namespace ThreeAgent.SecurityMonitoring

open PyText Outcome PyJson

def forensicEvidenceSchema : String := "workspace-security-forensics/evidence-v1"
def forensicEvidenceReferenceSchema : String := "workspace-security-forensics/evidence-reference-v1"
def forensicProvenanceSchema : String := "workspace-security-forensics/provenance-v1"
def forensicEventTimeSchema : String := "workspace-security-forensics/event-time-v1"
def forensicCustodyEventSchema : String := "workspace-security-forensics/custody-event-v1"
def forensicCaseSchema : String := "workspace-security-forensics/case-v1"

def forensicEvidenceTypes : List String :=
  ["network_event", "pcap", "dns", "flow", "authentication", "process", "ids", "host_log", "filesystem_artifact",
   "memory_artifact", "indicator", "timeline", "report", "other_metadata"]

def forensicReferenceRelations : List String :=
  ["source", "supports", "contradicts", "derived_from", "timeline", "scope"]

def forensicCustodyActions : List String :=
  ["registered", "verified", "derived", "linked_to_case", "reviewed", "exported_metadata"]

def maxForensicEvidenceBytes : Int := 1024 * 1024 * 1024 * 1024
def maxCaseEvidenceRefs : Nat := 10000
def maxDerivationInputs : Nat := 256
def maxProvenanceUpstreamRefs : Nat := 256

/-- `FORENSIC_CASE_STATUSES`. -/
inductive CaseStatus where
  | open
  | investigating
  | closed
  deriving DecidableEq, Repr

namespace CaseStatus

def text : CaseStatus → String
  | .open => "open"
  | .investigating => "investigating"
  | .closed => "closed"

def all : List CaseStatus := [.open, .investigating, .closed]

/-- The status that a text names. -/
def ofText? (text : String) : Option CaseStatus := all.find? fun s => s.text = text

/-- The position along open, investigating, closed. -/
def rank : CaseStatus → Nat
  | .open => 0
  | .investigating => 1
  | .closed => 2

/-- The statuses that may follow one another. -/
def allows : CaseStatus → CaseStatus → Bool
  | .open, _ => true
  | .investigating, s => s ≠ .open
  | .closed, s => s = .closed

end CaseStatus

/-! ## Field checks -/

/-- `_ID_RE.fullmatch`. -/
def forensicIdRe (cs : List Char) : Bool :=
  match cs with
  | [] => false
  | c :: rest =>
    isAsciiAlnum c && (rest.all fun c => isAsciiAlnum c || c ∈ ['.', '_', ':', '@', '+', '-']) &&
      decide (rest.length ≤ 255)

/-- `_ACTOR_RE.fullmatch`. -/
def actorRe (s : String) : Bool :=
  startsWith s "actor:sha256:" && decide ((s.toList.drop 13).length = 64) && (s.toList.drop 13).all Sha256.isHexDigit

/-- `_identifier`. -/
def identifier (value fieldName : String) (maxLen : Nat) : Except Raised String := do
  require (strip value ≠ "" ∧ (strip value).toList.length ≤ maxLen ∧ forensicIdRe (strip value).toList = true)
    (contractError (fieldName ++ " must be a compact identifier"))
  require (contains (strip value) "://" = false ∧ '\\' ∉ (strip value).toList)
    (contractError (fieldName ++ " must not contain a URL or filesystem path"))
  return strip value

/-- `_sha`. -/
def sha (value fieldName : String) : Except Raised String :=
  fingerprintText value (fieldName ++ " must be a SHA-256 fingerprint")

/-- `_sha` of a value that may be absent. -/
def optionalSha (value : Option String) (fieldName : String) : Except Raised (Option String) :=
  match value with
  | none => return none
  | some value => some <$> sha value fieldName

/-- An identifier that must start with its kind, and not be the kind alone. -/
def kindIdentifier (value fieldName kind : String) : Except Raised String := do
  let text ← identifier value fieldName 128
  require (startsWith text kind = true ∧ kind.toList.length < text.toList.length)
    (contractError (fieldName ++ " must start with " ++ kind))
  return text

/-- `_evidence_id`. -/
def evidenceId (value : String) : Except Raised String := kindIdentifier value "evidence_id" "evidence:"

/-- The ids of `upstream_evidence_refs` and `parent_evidence_refs`: each checked, bounded and unique. -/
def evidenceIds (values : List String) (fieldName : String) (limit : Nat) : Except Raised (List String) := do
  let ids ← values.mapM evidenceId
  require (ids.length ≤ limit) (contractError (fieldName ++ " bound exceeded"))
  require ids.Nodup (contractError (fieldName ++ " must be unique"))
  return ids

section Times

variable [PyTime]

/-- `_parse_timestamp`: the instant that the text denotes. -/
def parseTimestamp (value fieldName : String) : Except Raised Int := do
  let parsed ← orRaise (PyTime.read (strip value)) (contractError (fieldName ++ " must be ISO-8601"))
  orRaise parsed.instant? (contractError (fieldName ++ " must include timezone"))

/-- `_timestamp(..., normalize_utc=False)`. -/
def originalTimestamp (value fieldName : String) : Except Raised String := do
  let _ ← parseTimestamp value fieldName
  return strip value

end Times

/-! ## Evidence -/

structure ForensicEventTime where
  originalTimestamp : String
  normalizedUtc : String
  sourceClockRef : String
  uncertaintyMs : Int := 0
  schemaVersion : String := forensicEventTimeSchema
  deriving DecidableEq, Repr

structure EvidenceProvenance where
  sourceId : String
  sourceType : String
  collectedAt : String
  producerId : String
  producerVersion : String
  sourceContentSha256 : String
  upstreamEvidenceRefs : List String := []
  schemaVersion : String := forensicProvenanceSchema
  deriving DecidableEq, Repr

structure EvidenceReference where
  evidenceId : String
  contentSha256 : String
  relation : String := "source"
  schemaVersion : String := forensicEvidenceReferenceSchema
  deriving DecidableEq, Repr

structure EvidenceObject where
  evidenceId : String
  evidenceType : String
  contentSha256 : String
  byteSize : Int
  dataClass : String
  provenance : EvidenceProvenance
  eventTime : Option ForensicEventTime := none
  parentEvidenceRefs : List String := []
  derived : Bool := false
  immutable : Bool := true
  payloadEmbedded : Bool := false
  schemaVersion : String := forensicEvidenceSchema
  deriving DecidableEq, Repr

section Evidence

variable [PyTime]

def ForensicEventTime.validate (t : ForensicEventTime) : Except Raised ForensicEventTime := do
  let original ← SecurityMonitoring.originalTimestamp t.originalTimestamp "original_timestamp"
  let normalized ← normalizedTimestamp t.normalizedUtc "normalized_utc"
  let instant ← parseTimestamp original "original_timestamp"
  -- `astimezone` raises for an instant whose date in UTC is out of range
  let _ ← orRaise (PyTime.write instant) dateOverflow
  let instant' ← parseTimestamp normalized "normalized_utc"
  require (instant = instant')
    (contractError "normalized_utc must represent the same instant as original_timestamp")
  require (0 ≤ t.uncertaintyMs ∧ t.uncertaintyMs ≤ 86400000)
    (contractError "uncertainty_ms must be within 0..86400000")
  let clock ← identifier t.sourceClockRef "source_clock_ref" 128
  require (t.schemaVersion = forensicEventTimeSchema) (contractError "unsupported forensic event-time schema")
  return { t with originalTimestamp := original, normalizedUtc := normalized, sourceClockRef := clock }

/-- `public_dict`, of a validated time. -/
def ForensicEventTime.payload (t : ForensicEventTime) : Json Unit := .dict
  [("normalized_utc", .str t.normalizedUtc), ("original_timestamp", .str t.originalTimestamp),
   ("schema_version", .str t.schemaVersion), ("source_clock_ref", .str t.sourceClockRef),
   ("uncertainty_ms", .int t.uncertaintyMs)]

def EvidenceProvenance.validate (p : EvidenceProvenance) : Except Raised EvidenceProvenance := do
  let sourceId ← identifier p.sourceId "source_id" 128
  let sourceType ← identifier p.sourceType "source_type" 64
  let collectedAt ← normalizedTimestamp p.collectedAt "collected_at"
  let producerId ← identifier p.producerId "producer_id" 128
  let producerVersion ← identifier p.producerVersion "producer_version" 96
  let content ← sha p.sourceContentSha256 "source_content_sha256"
  let upstream ← evidenceIds p.upstreamEvidenceRefs "upstream_evidence_refs" maxProvenanceUpstreamRefs
  require (p.schemaVersion = forensicProvenanceSchema) (contractError "unsupported forensic provenance schema")
  return { p with sourceId := sourceId, sourceType := sourceType, collectedAt := collectedAt, producerId := producerId,
                  producerVersion := producerVersion, sourceContentSha256 := content,
                  upstreamEvidenceRefs := sorted upstream }

/-- `public_dict`, of a validated provenance. -/
def EvidenceProvenance.payload (p : EvidenceProvenance) : Json Unit := .dict
  [("collected_at", .str p.collectedAt), ("producer_id", .str p.producerId),
   ("producer_version", .str p.producerVersion), ("schema_version", .str p.schemaVersion),
   ("source_content_sha256", .str p.sourceContentSha256), ("source_id", .str p.sourceId),
   ("source_type", .str p.sourceType), ("upstream_evidence_refs", .strs p.upstreamEvidenceRefs)]

def EvidenceReference.validate (r : EvidenceReference) : Except Raised EvidenceReference := do
  let id ← SecurityMonitoring.evidenceId r.evidenceId
  let content ← sha r.contentSha256 "content_sha256"
  require (r.relation ∈ forensicReferenceRelations) (contractError "unsupported forensic evidence relation")
  require (r.schemaVersion = forensicEvidenceReferenceSchema)
    (contractError "unsupported forensic evidence-reference schema")
  return { r with evidenceId := id, contentSha256 := content }

/-- `public_dict`, of a validated reference. -/
def EvidenceReference.payload (r : EvidenceReference) : Json Unit := .dict
  [("content_sha256", .str r.contentSha256), ("evidence_id", .str r.evidenceId), ("relation", .str r.relation),
   ("schema_version", .str r.schemaVersion)]

/-- The time of an evidence object, when it has one. -/
def optionalEventTime : Option ForensicEventTime → Except Raised (Option ForensicEventTime)
  | none => return none
  | some t => some <$> t.validate

def EvidenceObject.validate (e : EvidenceObject) : Except Raised EvidenceObject := do
  let id ← SecurityMonitoring.evidenceId e.evidenceId
  require (e.evidenceType ∈ forensicEvidenceTypes) (contractError "unsupported forensic evidence_type")
  let content ← sha e.contentSha256 "content_sha256"
  require (0 ≤ e.byteSize ∧ e.byteSize ≤ maxForensicEvidenceBytes)
    (contractError "byte_size exceeds forensic evidence bound")
  require (e.dataClass ∈ approvedDataClasses) (contractError "unsupported forensic evidence data_class")
  let provenance ← e.provenance.validate
  let eventTime ← optionalEventTime e.eventTime
  let parents ← evidenceIds e.parentEvidenceRefs "parent_evidence_refs" maxDerivationInputs
  require (id ∉ parents) (contractError "evidence cannot derive from itself")
  require (e.derived = true → parents ≠ []) (contractError "derived evidence requires parent_evidence_refs")
  require (e.derived = false → parents = []) (contractError "source evidence cannot declare derivation parents")
  require (e.immutable = true) (contractError "forensic evidence metadata must remain immutable")
  require (e.payloadEmbedded = false)
    (contractError "raw evidence payload must not be embedded in the canonical contract")
  require (e.schemaVersion = forensicEvidenceSchema) (contractError "unsupported forensic evidence schema")
  return { e with evidenceId := id, contentSha256 := content, provenance := provenance, eventTime := eventTime,
                  parentEvidenceRefs := sorted parents }

/-- `public_dict`, of a validated object. -/
def EvidenceObject.payload (e : EvidenceObject) : Json Unit := .dict
  [("schema_version", .str e.schemaVersion), ("evidence_id", .str e.evidenceId), ("evidence_type", .str e.evidenceType),
   ("content_sha256", .str e.contentSha256), ("byte_size", .int e.byteSize), ("data_class", .str e.dataClass),
   ("provenance", e.provenance.payload), ("event_time", .ofOption ForensicEventTime.payload e.eventTime),
   ("parent_evidence_refs", .strs e.parentEvidenceRefs), ("derived", .bool e.derived), ("immutable", .bool e.immutable),
   ("payload_embedded", .bool e.payloadEmbedded)]

/-- `fingerprint`: `public_dict` validates first. -/
def EvidenceObject.fingerprint (e : EvidenceObject) : Except Raised String := do
  let e ← e.validate
  return sha256Fingerprint e.payload

end Evidence

/-! ## Custody -/

structure CustodyEvent where
  eventIndex : Int
  evidenceId : String
  action : String
  actorRef : String
  occurredAt : String
  previousEventSha256 : Option String
  noteSha256 : Option String := none
  recordSha256 : String := ""
  schemaVersion : String := forensicCustodyEventSchema
  deriving DecidableEq, Repr

/-- The `ValueError` of an integer that is too long to write. -/
def integerTooLong : Raised := ⟨.valueError, "Exceeds the limit (4300 digits) for integer string conversion"⟩

namespace CustodyEvent

/-- The entries of `_identity_payload`. -/
def identityEntries (e : CustodyEvent) : List (String × Json Unit) :=
  [("schema_version", .str e.schemaVersion), ("event_index", .int e.eventIndex), ("evidence_id", .str e.evidenceId),
   ("action", .str e.action), ("actor_ref", .str e.actorRef), ("occurred_at", .str e.occurredAt),
   ("previous_event_sha256", .ofOption .str e.previousEventSha256), ("note_sha256", .ofOption .str e.noteSha256)]

/-- `sha256_fingerprint(self._identity_payload())`. -/
def identity (e : CustodyEvent) : Except Raised String := digestOf integerTooLong (.dict e.identityEntries)

/-- `public_dict`, of a validated event. -/
def payload (e : CustodyEvent) : Json Unit := .dict (e.identityEntries ++ [("record_sha256", .str e.recordSha256)])

variable [PyTime]

def validate (e : CustodyEvent) : Except Raised CustodyEvent := do
  require (1 ≤ e.eventIndex) (contractError "custody event_index must be a positive integer")
  let id ← SecurityMonitoring.evidenceId e.evidenceId
  require (e.action ∈ forensicCustodyActions) (contractError "unsupported custody action")
  require (actorRe (strip e.actorRef) = true) (contractError "actor_ref must be a typed SHA-256 reference")
  let occurredAt ← normalizedTimestamp e.occurredAt "occurred_at"
  let previous ← optionalSha e.previousEventSha256 "previous_event_sha256"
  let note ← optionalSha e.noteSha256 "note_sha256"
  require (e.schemaVersion = forensicCustodyEventSchema) (contractError "unsupported custody event schema")
  let e := { e with evidenceId := id, actorRef := strip e.actorRef, occurredAt := occurredAt,
                    previousEventSha256 := previous, noteSha256 := note }
  let record ← e.identity
  require (e.recordSha256 = record) (contractError "custody record_sha256 does not match event content")
  return e

end CustodyEvent

/-- The loop of `verify_custody_chain`, from the position and the hash before it. -/
def verifyCustodyFrom [PyTime] : Int → Option String → List CustodyEvent → Except Raised (Option String)
  | _, previous, [] => return previous
  | index, previous, event :: events => do
    let event ← event.validate
    require (event.eventIndex = index) (contractError "custody event_index must be contiguous")
    require (event.previousEventSha256 = previous) (contractError "custody hash chain is broken")
    verifyCustodyFrom (index + 1) (some event.recordSha256) events

/-- `verify_custody_chain`. -/
def verifyCustodyChain [PyTime] (events : List CustodyEvent) : Except Raised String := do
  require (events ≠ []) (contractError "custody chain requires at least one event")
  let head ← verifyCustodyFrom 1 none events
  return head.getD "None"

/-! ## Cases -/

structure CaseRecord where
  caseId : String
  status : String
  createdAt : String
  updatedAt : String
  authorizationFingerprint : String
  evidenceRefs : List EvidenceReference
  custodyHeadSha256 : Option String := none
  timelineFingerprint : Option String := none
  humanReviewRequired : Bool := true
  authority : String := "advisory"
  schemaVersion : String := forensicCaseSchema
  deriving DecidableEq, Repr

namespace CaseRecord

variable [PyTime]

def validate (c : CaseRecord) : Except Raised CaseRecord := do
  let caseId ← kindIdentifier c.caseId "case_id" "case:"
  require ((CaseStatus.ofText? c.status).isSome = true) (contractError "unsupported forensic case status")
  let created ← normalizedTimestamp c.createdAt "created_at"
  let updated ← normalizedTimestamp c.updatedAt "updated_at"
  let updatedInstant ← parseTimestamp updated "updated_at"
  let createdInstant ← parseTimestamp created "created_at"
  require (createdInstant ≤ updatedInstant) (contractError "case updated_at cannot precede created_at")
  let authorization ← sha c.authorizationFingerprint "authorization_fingerprint"
  let refs ← c.evidenceRefs.mapM EvidenceReference.validate
  require (refs.length ≤ maxCaseEvidenceRefs) (contractError "case evidence reference bound exceeded")
  require (refs.map EvidenceReference.evidenceId).Nodup
    (contractError "case evidence_refs must have unique evidence_id values")
  let head ← optionalSha c.custodyHeadSha256 "custody_head_sha256"
  let timeline ← optionalSha c.timelineFingerprint "timeline_fingerprint"
  require (c.humanReviewRequired = true) (contractError "forensic cases require human review")
  require (c.authority = "advisory") (contractError "forensic case authority must remain advisory")
  require (c.schemaVersion = forensicCaseSchema) (contractError "unsupported forensic case schema")
  return { c with caseId := caseId, createdAt := created, updatedAt := updated,
                  authorizationFingerprint := authorization,
                  evidenceRefs := refs.insertionSort fun a b => a.evidenceId ≤ b.evidenceId,
                  custodyHeadSha256 := head, timelineFingerprint := timeline }

/-- `public_dict`, of a validated case. -/
def payload (c : CaseRecord) : Json Unit := .dict
  [("schema_version", .str c.schemaVersion), ("case_id", .str c.caseId), ("status", .str c.status),
   ("created_at", .str c.createdAt), ("updated_at", .str c.updatedAt),
   ("authorization_fingerprint", .str c.authorizationFingerprint),
   ("evidence_refs", .arr (c.evidenceRefs.map EvidenceReference.payload)),
   ("custody_head_sha256", .ofOption .str c.custodyHeadSha256),
   ("timeline_fingerprint", .ofOption .str c.timelineFingerprint),
   ("human_review_required", .bool c.humanReviewRequired), ("authority", .str c.authority)]

/-- `fingerprint`: `public_dict` validates first. -/
def fingerprint (c : CaseRecord) : Except Raised String := do
  let c ← c.validate
  return sha256Fingerprint c.payload

end CaseRecord

/-! ## Facts -/

theorem CaseStatus.allows_iff (a b : CaseStatus) : a.allows b = true ↔ a.rank ≤ b.rank := by
  cases a <;> cases b <;> decide

variable {value fieldName t : String} {maxLen : Nat}

theorem identifier_ok :
    identifier value fieldName maxLen = .ok t ↔ (strip value ≠ "" ∧ (strip value).toList.length ≤ maxLen ∧
      forensicIdRe (strip value).toList = true) ∧ (contains (strip value) "://" = false ∧ '\\' ∉ (strip value).toList) ∧
      strip value = t := by
  simp only [identifier, bind_ok, require_ok, pure_ok, exists_const]

theorem identifier_identifier
    (h : identifier value fieldName maxLen = .ok t) : identifier t fieldName maxLen = .ok t := by
  obtain ⟨hshape, hpath, rfl⟩ := identifier_ok.mp h
  rw [identifier_ok, strip_strip]
  exact ⟨hshape, hpath, rfl⟩

theorem kindIdentifier_kindIdentifier {kind : String}
    (h : kindIdentifier value fieldName kind = .ok t) : kindIdentifier t fieldName kind = .ok t := by
  simp only [kindIdentifier, bind_ok, require_ok, pure_ok, exists_const] at h ⊢
  obtain ⟨_, hid, hkind, rfl⟩ := h
  exact ⟨_, identifier_identifier hid, hkind, rfl⟩

theorem sha_sha (h : sha value fieldName = .ok t) : sha t fieldName = .ok t :=
  fingerprintText_fingerprintText h

theorem optionalSha_optionalSha {value t : Option String}
    (h : optionalSha value fieldName = .ok t) : optionalSha t fieldName = .ok t := by
  cases value with
  | none =>
    obtain rfl : none = t := by simpa [optionalSha] using h
    rfl
  | some value =>
    simp only [optionalSha] at h
    cases hv : sha value fieldName with
    | error e =>
      rw [hv] at h
      cases h
    | ok s =>
      rw [hv] at h
      cases h
      simp only [optionalSha]
      rw [sha_sha hv]
      rfl

theorem evidenceIds_sorted {values ids : List String} {limit : Nat}
    (h : evidenceIds values fieldName limit = .ok ids) : evidenceIds (sorted ids) fieldName limit = .ok (sorted ids) := by
  simp only [evidenceIds, bind_ok, require_ok, pure_ok, exists_const] at h ⊢
  obtain ⟨_, hids, hlen, hnodup, rfl⟩ := h
  refine ⟨_, mapM_self ?_, ?_, ?_, rfl⟩
  · intro id hid
    obtain ⟨value, -, hvalue⟩ := forall₂_mem_right (mapM_ok.mp hids) (mem_sorted.mp hid)
    exact kindIdentifier_kindIdentifier hvalue
  · rw [sorted, List.length_insertionSort]
    exact hlen
  · exact (List.perm_insertionSort _ _).nodup_iff.mpr hnodup

section Times

variable [PyTime]

theorem parseTimestamp_ok {t : Int} :
    parseTimestamp value fieldName = .ok t ↔ PyTime.instant? (strip value) = some t := by
  simp only [parseTimestamp, bind_ok, orRaise_ok, PyTime.instant?, Option.bind_eq_some_iff]

theorem originalTimestamp_ok :
    originalTimestamp value fieldName = .ok t ↔ (∃ i, PyTime.instant? (strip value) = some i) ∧ strip value = t := by
  simp only [originalTimestamp, bind_ok, parseTimestamp_ok, pure_ok, exists_and_right]

theorem originalTimestamp_originalTimestamp
    (h : originalTimestamp value fieldName = .ok t) : originalTimestamp t fieldName = .ok t := by
  rw [originalTimestamp_ok] at h ⊢
  obtain ⟨hread, rfl⟩ := h
  rw [strip_strip]
  exact ⟨hread, rfl⟩

end Times

theorem EvidenceReference.validate_validate {r r' : EvidenceReference} (h : r.validate = .ok r') :
    r'.validate = .ok r' := by
  simp only [validate, bind_ok, require_ok, pure_ok, exists_const] at h ⊢
  obtain ⟨_, hid, _, hsha, hrel, hs, rfl⟩ := h
  exact ⟨_, kindIdentifier_kindIdentifier hid, _, sha_sha hsha, hrel, hs, rfl⟩

theorem insertionSort_refs (refs : List EvidenceReference) :
    (refs.insertionSort fun a b => a.evidenceId ≤ b.evidenceId).insertionSort (fun a b => a.evidenceId ≤ b.evidenceId) =
      refs.insertionSort fun a b => a.evidenceId ≤ b.evidenceId := by
  have htotal : Std.Total fun a b : EvidenceReference => a.evidenceId ≤ b.evidenceId :=
    ⟨fun a b => le_total a.evidenceId b.evidenceId⟩
  have htrans : IsTrans EvidenceReference fun a b => a.evidenceId ≤ b.evidenceId := ⟨fun _ _ _ => le_trans⟩
  exact (List.pairwise_insertionSort _ _).insertionSort_eq

variable {e e' : EvidenceObject} {c c' : CaseRecord}

section Idempotent

variable [PyTime]

theorem ForensicEventTime.validate_validate {t t' : ForensicEventTime} (h : t.validate = .ok t') :
    t'.validate = .ok t' := by
  simp only [validate, bind_ok, require_ok, pure_ok, orRaise_ok, exists_const] at h ⊢
  obtain ⟨original, ho, normalized, hn, i, hi, _, hw, j, hj, hij, hu, clock, hc, hs, rfl⟩ := h
  exact ⟨original, originalTimestamp_originalTimestamp ho, normalized, normalizedTimestamp_normalizedTimestamp hn _,
    i, hi, _, hw, j, hj, hij, hu, clock, identifier_identifier hc, hs, rfl⟩

theorem EvidenceProvenance.validate_validate {p p' : EvidenceProvenance} (h : p.validate = .ok p') :
    p'.validate = .ok p' := by
  simp only [validate, bind_ok, require_ok, pure_ok, exists_const] at h ⊢
  obtain ⟨_, hid, _, hty, _, hat, _, hpr, _, hv, _, hsha, upstream, hup, hs, rfl⟩ := h
  refine ⟨_, identifier_identifier hid, _, identifier_identifier hty, _, normalizedTimestamp_normalizedTimestamp hat _,
    _, identifier_identifier hpr, _, identifier_identifier hv, _, sha_sha hsha, _, evidenceIds_sorted hup, hs, ?_⟩
  rw [sorted_sorted]

theorem optionalEventTime_optionalEventTime {t t' : Option ForensicEventTime} (h : optionalEventTime t = .ok t') :
    optionalEventTime t' = .ok t' := by
  cases t with
  | none =>
    obtain rfl : none = t' := by simpa [optionalEventTime] using h
    rfl
  | some t =>
    simp only [optionalEventTime] at h
    cases hv : t.validate with
    | error e =>
      rw [hv] at h
      cases h
    | ok s =>
      rw [hv] at h
      cases h
      simp only [optionalEventTime]
      rw [ForensicEventTime.validate_validate hv]
      rfl

theorem EvidenceObject.validate_validate (h : e.validate = .ok e') : e'.validate = .ok e' := by
  simp only [validate, bind_ok, require_ok, pure_ok, exists_const] at h ⊢
  obtain ⟨_, hid, hty, _, hsha, hsize, hclass, _, hprov, _, htime, parents, hpar, hself, hder, hsrc, himm, hemb, hs,
    rfl⟩ := h
  have hnil : sorted parents = [] ↔ parents = [] := by
    rw [← List.length_eq_zero_iff, ← List.length_eq_zero_iff, sorted, List.length_insertionSort]
  refine ⟨_, kindIdentifier_kindIdentifier hid, hty, _, sha_sha hsha, hsize, hclass, _,
    EvidenceProvenance.validate_validate hprov, _, optionalEventTime_optionalEventTime htime, _, evidenceIds_sorted hpar,
    ?_, ?_, ?_, himm, hemb, hs, ?_⟩
  · exact fun hmem => hself (mem_sorted.mp hmem)
  · exact fun hd heq => hder hd (hnil.mp heq)
  · exact fun hd => hnil.mpr (hsrc hd)
  · rw [sorted_sorted]

theorem EvidenceObject.fingerprint_of_validate (h : e.validate = .ok e') :
    e'.fingerprint = .ok (sha256Fingerprint e'.payload) := by
  unfold fingerprint
  rw [validate_validate h]
  rfl

theorem CustodyEvent.validate_validate {e e' : CustodyEvent} (h : e.validate = .ok e') : e'.validate = .ok e' := by
  simp only [validate, bind_ok, require_ok, pure_ok, exists_const] at h ⊢
  obtain ⟨hindex, _, hid, haction, hactor, _, hat, _, hprev, _, hnote, hs, record, hrec, heq, rfl⟩ := h
  refine ⟨hindex, _, kindIdentifier_kindIdentifier hid, haction, ?_, _, normalizedTimestamp_normalizedTimestamp hat _,
    _, optionalSha_optionalSha hprev, _, optionalSha_optionalSha hnote, hs, record, ?_, heq, ?_⟩
  · rw [strip_strip]
    exact hactor
  · rw [strip_strip]
    exact hrec
  · rw [strip_strip]

theorem CaseRecord.validate_validate (h : c.validate = .ok c') : c'.validate = .ok c' := by
  simp only [validate, bind_ok, require_ok, pure_ok, exists_const] at h ⊢
  obtain ⟨_, hid, hstatus, _, hcr, _, hup, i, hi, j, hj, hle, _, hauth, refs, hrefs, hlen, hnodup, _, hhead, _, htime,
    hreview, hauthority, hs, rfl⟩ := h
  have hperm := List.perm_insertionSort (fun a b : EvidenceReference => a.evidenceId ≤ b.evidenceId) refs
  refine ⟨_, kindIdentifier_kindIdentifier hid, hstatus, _, normalizedTimestamp_normalizedTimestamp hcr _, _,
    normalizedTimestamp_normalizedTimestamp hup _, i, hi, j, hj, hle, _, sha_sha hauth, _, mapM_self ?_, ?_, ?_, _,
    optionalSha_optionalSha hhead, _, optionalSha_optionalSha htime, hreview, hauthority, hs, ?_⟩
  · intro r hr
    obtain ⟨r₀, -, hr₀⟩ := forall₂_mem_right (mapM_ok.mp hrefs) (hperm.mem_iff.mp hr)
    exact EvidenceReference.validate_validate hr₀
  · rw [hperm.length_eq]
    exact hlen
  · exact (hperm.map _).nodup_iff.mpr hnodup
  · rw [insertionSort_refs]

theorem CaseRecord.fingerprint_of_validate (h : c.validate = .ok c') :
    c'.fingerprint = .ok (sha256Fingerprint c'.payload) := by
  unfold fingerprint
  rw [validate_validate h]
  rfl

end Idempotent

end ThreeAgent.SecurityMonitoring
