/-
The audit journal of the security analyst workflow (`workflow_audit.py`): an
append-only hash chain of records, written and read under a lock, so that an
append and a read are each one step.

A line of the journal is the canonical JSON of a record, and a read checks
every line as a record again; the journal here is the list of its records.
The reading and writing of a time in UTC is the parameter `utc`, and nothing
depends on it. An append may also be refused (the lock is held too long, the
line is too long); the runs of the workflow allow that at every append.
-/
import ThreeAgent.Checks

namespace ThreeAgent.SecurityWorkflow

open PyText Outcome PyJson

/-- `sha256_fingerprint` of a payload without floats. -/
def sha256Fingerprint (payload : Json Unit) : String := hashText (String.ofList (text payload))

/-- `re.fullmatch(r"<lead>[0-9a-f]{24}", s)`. -/
def hexIdRe (lead s : String) : Bool :=
  startsWith s lead && decide ((s.toList.drop lead.toList.length).length = 24) &&
    (s.toList.drop lead.toList.length).all Sha256.isHexDigit

/-- `_SESSION_RE`. -/
def sessionRe (s : String) : Bool := hexIdRe "security-session:" s

/-- `_STEP_RE`. -/
def stepRe (s : String) : Bool := hexIdRe "step:" s

/-- `_INVOCATION_RE`. -/
def invocationRe (s : String) : Bool := hexIdRe "invoke-" s

/-- `_REASON_RE`. -/
def reasonRe (s : String) : Bool :=
  match s.toList with
  | [] => false
  | c :: rest =>
    c.isUpper && (rest.all fun c => c.isUpper || c.isDigit || c = '_') && decide (2 ≤ rest.length ∧ rest.length ≤ 127)

/-- `_sha`. -/
def checkSha (cls : ErrorClass) (value field : String) : Except Raised Unit :=
  require (sha256Re (strip value) = true) ⟨cls, field ++ " must be SHA-256"⟩

/-- `_sha` of a value that may be absent. -/
def checkOptionalSha (cls : ErrorClass) (value : Option String) (field : String) : Except Raised Unit :=
  match value with
  | none => return ⟨⟩
  | some v => checkSha cls v field

/-- `SECURITY_WORKFLOW_AUDIT_SCHEMA`. -/
def securityWorkflowAuditSchema : String := "workspace-security-workflow-audit-record/v1"

/-- `MAX_AUDIT_REASON_CODES`. -/
def maxAuditReasonCodes : Nat := 16

/-- `SecurityWorkflowAuditError(message)`. -/
def auditError (message : String) : Raised := ⟨.securityWorkflowAuditError, message⟩

/-- `AUDIT_EVENT_TYPES`. -/
inductive EventType where
  | sessionPrepared
  | stepRequested
  | stepCompleted
  | stepFailed
  deriving DecidableEq, Repr

def EventType.text : EventType → String
  | .sessionPrepared => "SESSION_PREPARED"
  | .stepRequested => "STEP_REQUESTED"
  | .stepCompleted => "STEP_COMPLETED"
  | .stepFailed => "STEP_FAILED"

/-- `_reasons`. -/
def reasons (values : List String) : Except Raised (List String) := do
  let output := values.map strip
  require (output.length ≤ maxAuditReasonCodes) (auditError "audit reason code bound exceeded")
  require output.Nodup (auditError "audit reason codes must be unique")
  require (∀ v ∈ output, reasonRe v = true) (auditError "audit reason code is invalid")
  return output

/-- `SecurityWorkflowAuditRecord`. -/
structure AuditRecord where
  recordIndex : Nat
  eventType : EventType
  sessionId : String
  occurredAt : String
  requestSha256 : String
  planFingerprint : String
  bindingFingerprint : String
  workflowFingerprint : String
  previousRecordSha256 : Option String
  reasonCodes : List String := []
  stepId : Option String := none
  inputFingerprint : Option String := none
  invocationId : Option String := none
  recordSha256 : String := ""
  schemaVersion : String := securityWorkflowAuditSchema
  deriving DecidableEq

namespace AuditRecord

/-- `_identity_payload`. -/
def identityPayload (r : AuditRecord) : Json Unit :=
  Json.dict
    [("schema_version", .str r.schemaVersion), ("record_index", .int r.recordIndex),
     ("event_type", .str r.eventType.text), ("session_id", .str r.sessionId), ("occurred_at", .str r.occurredAt),
     ("request_sha256", .str r.requestSha256), ("plan_fingerprint", .str r.planFingerprint),
     ("binding_fingerprint", .str r.bindingFingerprint), ("workflow_fingerprint", .str r.workflowFingerprint),
     ("previous_record_sha256", Json.ofOption .str r.previousRecordSha256),
     ("reason_codes", Json.strs r.reasonCodes), ("step_id", Json.ofOption .str r.stepId),
     ("input_fingerprint", Json.ofOption .str r.inputFingerprint),
     ("invocation_id", Json.ofOption .str r.invocationId)]

/-- The fields that an event of each type has. -/
def checkFields (r : AuditRecord) : Except Raised Unit :=
  match r.eventType with
  | .sessionPrepared =>
    require (r.stepId = none ∧ r.inputFingerprint = none ∧ r.invocationId = none)
      (auditError "SESSION_PREPARED cannot contain step invocation fields")
  | .stepRequested =>
    require (r.stepId ≠ none ∧ r.inputFingerprint ≠ none ∧ r.invocationId = none)
      (auditError "STEP_REQUESTED requires step_id and input_fingerprint only")
  | .stepCompleted =>
    require (r.stepId ≠ none ∧ r.inputFingerprint ≠ none ∧ r.invocationId ≠ none)
      (auditError "STEP_COMPLETED requires invocation lineage")
  | .stepFailed => do
    require (r.stepId ≠ none ∧ r.inputFingerprint ≠ none ∧ r.invocationId = none)
      (auditError "STEP_FAILED requires failed step/input lineage")
    require (r.reasonCodes ≠ []) (auditError "STEP_FAILED requires reason_codes")

section

variable (utc : String → Except Raised String)

/-- `validate`, which also puts the time and the reasons in their normal form. -/
def validate (r : AuditRecord) : Except Raised AuditRecord := do
  require (1 ≤ r.recordIndex) (auditError "record_index must be a positive integer")
  require (sessionRe r.sessionId = true) (auditError "session_id is invalid")
  let occurredAt ← utc r.occurredAt
  checkSha .securityWorkflowAuditError r.requestSha256 "request_sha256"
  checkSha .securityWorkflowAuditError r.planFingerprint "plan_fingerprint"
  checkSha .securityWorkflowAuditError r.bindingFingerprint "binding_fingerprint"
  checkSha .securityWorkflowAuditError r.workflowFingerprint "workflow_fingerprint"
  checkOptionalSha .securityWorkflowAuditError r.previousRecordSha256 "previous_record_sha256"
  let reasonCodes ← reasons r.reasonCodes
  require (∀ s ∈ r.stepId, stepRe s = true) (auditError "step_id is invalid")
  checkOptionalSha .securityWorkflowAuditError r.inputFingerprint "input_fingerprint"
  require (∀ i ∈ r.invocationId, invocationRe i = true) (auditError "invocation_id is invalid")
  require (r.schemaVersion = securityWorkflowAuditSchema) (auditError "unsupported workflow audit schema")
  let r := { r with occurredAt, reasonCodes }
  r.checkFields
  require (r.recordSha256 = sha256Fingerprint r.identityPayload)
    (auditError "record_sha256 does not match audit record content")
  return r

/-- `build`: the record with its digest. -/
def build (base : AuditRecord) : Except Raised AuditRecord := do
  let occurredAt ← utc base.occurredAt
  let reasonCodes ← reasons base.reasonCodes
  let base := { base with occurredAt, reasonCodes }
  validate utc { base with recordSha256 := sha256Fingerprint base.identityPayload }

end

end AuditRecord

/-- The journal: its records in the order of their lines. -/
abbrev Journal := List AuditRecord

namespace Journal

variable (utc : String → Except Raised String)

/-- The loop of `_records_unlocked`. -/
def readFrom : Nat → Option String → Journal → Except Raised (List AuditRecord)
  | _, _, [] => return []
  | line, previous, r :: rest => do
    let r ← r.validate utc
    require (r.recordIndex = line) (auditError "audit record_index is not contiguous")
    require (r.previousRecordSha256 = previous) (auditError "audit hash chain is broken")
    let rest ← readFrom (line + 1) (some r.recordSha256) rest
    return r :: rest

/-- `records`. -/
def records (j : Journal) : Except Raised (List AuditRecord) := readFrom utc 1 none j

/-- What a caller of `append` says of an event. -/
structure Entry where
  eventType : EventType
  sessionId : String
  requestSha256 : String
  planFingerprint : String
  bindingFingerprint : String
  workflowFingerprint : String
  reasonCodes : List String
  stepId : Option String := none
  inputFingerprint : Option String := none
  invocationId : Option String := none

/-- `append`, at the time `now`. -/
def append (now : String) (e : Entry) (j : Journal) : Except Raised (Journal × AuditRecord) := do
  let records ← j.records utc
  let record ← AuditRecord.build utc
    { recordIndex := records.length + 1, eventType := e.eventType, sessionId := e.sessionId, occurredAt := now,
      requestSha256 := e.requestSha256, planFingerprint := e.planFingerprint,
      bindingFingerprint := e.bindingFingerprint, workflowFingerprint := e.workflowFingerprint,
      previousRecordSha256 := records.getLast?.map (·.recordSha256), reasonCodes := e.reasonCodes,
      stepId := e.stepId, inputFingerprint := e.inputFingerprint, invocationId := e.invocationId }
  return (j ++ [record], record)

end Journal

end ThreeAgent.SecurityWorkflow
