/-
The contracts of adaptive learning (`adaptive_learning_contract.py`): the
knowledge a learner proposes, the contradictions raised against it, the
receipt of its validation, and the policy that decides each promotion.

A record keeps the texts it was given; the checks strip a text before they
look at it, so the text that is stored is not always the one that was checked.
-/
import ThreeAgent.TaskContext

namespace ThreeAgent.AdaptiveLearning

open PyText Outcome PyJson

attribute [local instance (1100)] List.decidableBAll

/-- `LearningContractError(message)`. -/
def contractError (message : String) : Raised := ⟨.learningContractError, message⟩

/-- `SCHEMAS["candidate"]`. -/
def candidateSchema : String := "workspace-learning-candidate/v1"

/-- `SCHEMAS["contradiction"]`. -/
def contradictionSchema : String := "workspace-learning-contradiction/v1"

/-- `SCHEMAS["receipt"]`. -/
def receiptSchema : String := "workspace-learning-validation-receipt/v1"

/-- `DOMAINS`. -/
def domains : List String := ["network", "security", "analyst", "general"]

/-- `KINDS`. -/
def kinds : List String := ["memory", "skill", "analytical_pattern", "reference"]

/-- `OUTCOMES`. -/
def outcomes : List String := ["verified_success", "verified_failure", "partial", "unresolved"]

/-- `OWNERS`. -/
def owners : List String := ["system", "user_team", "learner_managed"]

/-- `ACTIONS`. -/
def actions : List String := ["create", "patch", "supersede"]

/-- `EXECUTION_MODES`. -/
def executionModes : List String := ["analysis_only", "passive", "read_only", "offline", "synthetic"]

/-- `SENSITIVITIES`, in the order of `SENSITIVITY_ORDER`. -/
def sensitivities : List String := ["public", "internal", "confidential", "restricted", "secret"]

/-- `RISK_LEVELS`. -/
def riskLevels : List String := ["low", "medium", "high", "critical"]

/-- `LEVELS`. -/
inductive Level where
  | candidate
  | validated
  | approved
  | enterprise
  deriving DecidableEq, Repr

namespace Level

def text : Level → String
  | .candidate => "candidate"
  | .validated => "validated"
  | .approved => "approved"
  | .enterprise => "enterprise"

/-- `LEVELS.index`. -/
def index : Level → Nat
  | .candidate => 0
  | .validated => 1
  | .approved => 2
  | .enterprise => 3

/-- The level with this text. -/
def ofText? (s : String) : Option Level :=
  [Level.candidate, .validated, .approved, .enterprise].find? (·.text = s)

end Level

/-! ## Fields -/

/-- `_ID.fullmatch` of the stripped text. -/
def id (value name : String) : Except Raised String := do
  require (idRe (strip value) = true) (contractError ("invalid " ++ name))
  return strip value

/-- `_sha`. -/
def sha (value name : String) : Except Raised String := do
  require (sha256Re (lower (strip value)) = true) (contractError ("invalid " ++ name))
  return lower (strip value)

/-- `\d{n}` and then the rest of the pattern. -/
def digitsThen : Nat → (List Char → Bool) → List Char → Bool
  | 0, rest, cs => rest cs
  | _ + 1, _, [] => false
  | n + 1, rest, c :: cs => (decimalValue c).isSome && digitsThen n rest cs

/-- One character and then the rest of the pattern. -/
def charThen (d : Char) (rest : List Char → Bool) : List Char → Bool
  | [] => false
  | c :: cs => decide (c = d) && rest cs

/-- `(?:\.\d{1,6})?Z$`. -/
def fractionZulu (cs : List Char) : Bool :=
  decide (cs = ['Z']) ||
    [1, 2, 3, 4, 5, 6].any fun n => charThen '.' (digitsThen n fun rest => decide (rest = ['Z'])) cs

/-- `_UTC.fullmatch`. -/
def utcRe (s : String) : Bool :=
  digitsThen 4 (charThen '-' (digitsThen 2 (charThen '-' (digitsThen 2 (charThen 'T'
    (digitsThen 2 (charThen ':' (digitsThen 2 (charThen ':' (digitsThen 2 fractionZulu)))))))))) s.toList

/-- `_utc`. -/
def utc (value name : String) : Except Raised Unit :=
  require (utcRe (strip value) = true) (contractError ("invalid " ++ name))

/-- `_schema`. -/
def schema (value expected : String) : Except Raised Unit :=
  require (strip value = expected) (contractError ("schema_version must be " ++ expected))

/-- `_enum`. -/
def enum (value : String) (allowed : List String) (name : String) : Except Raised Unit :=
  require (strip value ∈ allowed) (contractError ("unsupported " ++ name ++ ": " ++ strip value))

/-- `_text`. -/
def boundedText (value name : String) (limit : Nat) : Except Raised String := do
  require (strip value ≠ "" ∧ (strip value).toList.length ≤ limit ∧
      ∀ c ∈ (strip value).toList, c.toNat < 32 → c ∈ ['\n', '\t', '\r'])
    (contractError ("invalid " ++ name))
  return strip value

/-- `_seq`. -/
def seq (values : List String) (validator : String → String → Except Raised String) (name : String) :
    Except Raised (List String) := do
  let output ← values.mapM (validator · name)
  require (output ≠ [] ∧ output.length ≤ 32 ∧ output.Nodup) (contractError ("invalid " ++ name))
  return output

/-! ## The security scan -/

/-- A pattern, as the rests that its matches leave of a text. -/
abbrev Matcher := List Char → List (List Char)

namespace Matcher

def one (p : Char → Bool) : Matcher
  | [] => []
  | c :: cs => if p c then [cs] else []

def andThen (m n : Matcher) : Matcher := fun cs => (m cs).flatMap n

def alt (ms : List Matcher) : Matcher := fun cs => ms.flatMap (· cs)

/-- `(?:m)?`. -/
def opt (m : Matcher) : Matcher := alt [m, fun cs => [cs]]

/-- `p{0,n}`. -/
def upTo (p : Char → Bool) : Nat → Matcher
  | 0 => fun cs => [cs]
  | n + 1 => opt (andThen (one p) (upTo p n))

/-- `\s+`. -/
def spaces : Matcher := fun cs => andThen (one isSpace) (upTo isSpace cs.length) cs

/-- A letter of a pattern against a character, ignoring case. -/
def sameLetter (p c : Char) : Bool :=
  c = p || (c.toNat + 32 = p.toNat && c.isUpper) || (p = 'i' && (c.toNat = 0x130 || c.toNat = 0x131)) ||
    (p = 's' && c.toNat = 0x17F) || (p = 'k' && c.toNat = 0x212A)

/-- A word of a pattern, ignoring case. -/
def word (s : String) : Matcher := s.toList.foldr (fun p m => andThen (one (sameLetter p)) m) fun cs => [cs]

/-- `pattern.search(text)`. -/
def search (m : Matcher) (s : String) : Bool := s.toList.tails.any fun cs => !(m cs).isEmpty

end Matcher

open Matcher in
/-- `_INJECTION`. -/
def injection : List Matcher :=
  [ andThen (word "ignore") (andThen spaces (andThen (opt (andThen (word "all") spaces))
      (andThen (alt [word "previous", word "system", word "developer"]) (andThen spaces (word "instructions"))))),
    andThen (word "disable") (andThen spaces (andThen (opt (andThen (word "the") spaces))
      (andThen (word "security") (andThen spaces (alt [word "policy", word "gate", word "control"]))))),
    andThen (word "bypass") (andThen spaces (andThen (opt (andThen (word "the") spaces))
      (alt [word "approval", word "policy", word "security", word "audit"]))),
    andThen (word "exfiltrat") (andThen (alt [word "e", word "ion"]) (andThen (upTo (· ≠ '\n') 48)
      (alt [word "credential", word "secret", word "token", word "password", word "key"]))) ]

/-- `_scan`. -/
def scan (text : String) : Except Raised Unit :=
  require ((∀ c ∈ text.toList, c.toNat ∉ [0x200B, 0x200C, 0x200D, 0xFEFF]) ∧ ∀ m ∈ injection, m.search text = false)
    (contractError "persistent learning content failed security scan")

/-! ## Knowledge candidates -/

structure KnowledgeCandidate where
  candidateId : String
  domain : String
  kind : String
  title : String
  content : String
  scope : String
  sensitivity : String
  riskLevel : String
  ownership : String
  action : String
  executionMode : String
  sourceExperienceIds : List String
  sourceExperienceHashes : List String
  sourceDomains : List String
  sourceSensitivities : List String
  sourceTaskIds : List String
  sourceOutcomes : List String
  evidenceRefIds : List String
  evidenceHashes : List String
  targetItemId : Option String
  baseItemSha256 : Option String
  createdAt : String
  schemaVersion : String := candidateSchema
  deriving DecidableEq, Inhabited

namespace KnowledgeCandidate

/-- `SENSITIVITY_ORDER[text]`: the text is looked up as it is. -/
def sensitivityOrder (text : String) : Except Raised Nat :=
  orRaise (sensitivities.idxOf? text) ⟨.keyError, text⟩

/-- One round of the loop over `source_domains`. -/
def checkSourceDomain (c : KnowledgeCandidate) (sourceDomain : String) : Except Raised Unit := do
  enum sourceDomain domains "source_domain"
  require (sourceDomain = c.domain) (contractError "candidate/source domain mismatch")

/-- One round of the loop over `source_sensitivities`. -/
def checkSourceSensitivity (c : KnowledgeCandidate) (sourceSensitivity : String) : Except Raised Unit := do
  enum sourceSensitivity sensitivities "source_sensitivity"
  let own ← sensitivityOrder c.sensitivity
  let source ← sensitivityOrder sourceSensitivity
  require (source ≤ own) (contractError "candidate sensitivity cannot downgrade source experience")

/-- The lineage of the candidate: one domain, sensitivity and outcome for each source experience. -/
def checkLineage (c : KnowledgeCandidate) : Except Raised Unit := do
  let experienceIds ← seq c.sourceExperienceIds id "source_experience_ids"
  let experienceHashes ← seq c.sourceExperienceHashes sha "source_experience_hashes"
  require (experienceIds.length = experienceHashes.length) (contractError "source experience id/hash mismatch")
  require (c.sourceDomains.length = experienceIds.length) (contractError "source domain lineage mismatch")
  require (c.sourceSensitivities.length = experienceIds.length) (contractError "source sensitivity lineage mismatch")
  require (c.sourceOutcomes.length = experienceIds.length) (contractError "source outcome mismatch")
  let _ ← c.sourceDomains.mapM c.checkSourceDomain
  let _ ← c.sourceSensitivities.mapM c.checkSourceSensitivity
  let _ ← c.sourceOutcomes.mapM fun outcome => enum outcome outcomes "source_outcome"
  require (c.kind ∈ ["memory", "skill"] → ∀ outcome ∈ c.sourceOutcomes, outcome = "verified_success")
    (contractError "memory/skill requires verified-success experience")

/-- A revision names the item it revises and the knowledge it was written against; a creation names neither. -/
def checkBase (c : KnowledgeCandidate) : Except Raised Unit :=
  if c.action = "create" then
    require (c.targetItemId = none ∧ c.baseItemSha256 = none) (contractError "create cannot specify base item")
  else do
    let _ ← id (c.targetItemId.getD "") "target_item_id"
    let _ ← sha (c.baseItemSha256.getD "") "base_item_sha256"

def validate (c : KnowledgeCandidate) : Except Raised Unit := do
  schema c.schemaVersion candidateSchema
  let _ ← id c.candidateId "candidate_id"
  enum c.domain domains "domain"
  enum c.kind kinds "kind"
  let title ← boundedText c.title "title" 160
  let content ← boundedText c.content "content" 12000
  scan (title ++ "\n" ++ content)
  let _ ← boundedText c.scope "scope" 240
  enum c.sensitivity sensitivities "sensitivity"
  enum c.riskLevel riskLevels "risk_level"
  enum c.ownership owners "ownership"
  enum c.action actions "action"
  enum c.executionMode executionModes "execution_mode"
  c.checkLineage
  let _ ← seq c.sourceTaskIds id "source_task_ids"
  let refs ← seq c.evidenceRefIds id "evidence_ref_ids"
  let hashes ← seq c.evidenceHashes sha "evidence_hashes"
  require (refs.length = hashes.length) (contractError "evidence reference/hash mismatch")
  c.checkBase
  utc c.createdAt "created_at"

/-- `to_payload` of a validated candidate, with its keys as `sort_keys` writes them. -/
def payload (c : KnowledgeCandidate) : Json Unit :=
  .obj
    [("action", .str c.action), ("base_item_sha256", Json.ofOption .str c.baseItemSha256),
     ("candidate_id", .str c.candidateId), ("content", .str c.content), ("created_at", .str c.createdAt),
     ("domain", .str c.domain), ("evidence_hashes", Json.strs c.evidenceHashes),
     ("evidence_ref_ids", Json.strs c.evidenceRefIds), ("execution_mode", .str c.executionMode),
     ("kind", .str c.kind), ("ownership", .str c.ownership), ("risk_level", .str c.riskLevel),
     ("schema_version", .str c.schemaVersion), ("scope", .str c.scope), ("sensitivity", .str c.sensitivity),
     ("source_domains", Json.strs c.sourceDomains),
     ("source_experience_hashes", Json.strs c.sourceExperienceHashes),
     ("source_experience_ids", Json.strs c.sourceExperienceIds),
     ("source_outcomes", Json.strs c.sourceOutcomes), ("source_sensitivities", Json.strs c.sourceSensitivities),
     ("source_task_ids", Json.strs c.sourceTaskIds), ("target_item_id", Json.ofOption .str c.targetItemId),
     ("title", .str c.title)]

end KnowledgeCandidate

/-- `_canonical`. -/
def canonical (payload : Json Unit) : String := String.ofList (text payload)

/-- `_digest`. -/
def digest (payload : Json Unit) : String := hashText (canonical payload)

/-- `sha256` of a validated candidate. -/
def KnowledgeCandidate.sha256 (c : KnowledgeCandidate) : String := digest c.payload

/-! ### Reading a candidate back -/

/-- A text of a stored candidate. The store writes no other value in its place. -/
def textField (v : Json Unit) (key : String) : Except Raised String :=
  match v.item key with
  | .str s => return s
  | _ => throw ⟨.typeError, key⟩

/-- A text that may be absent. -/
def optionalField (v : Json Unit) (key : String) : Except Raised (Option String) :=
  match v.item key with
  | .null => return none
  | .str s => return some s
  | _ => throw ⟨.typeError, key⟩

/-- An element of a stored list of texts. -/
def textElem (key : String) : Json Unit → Except Raised String
  | .str s => return s
  | _ => throw ⟨.typeError, key⟩

/-- A list of texts. -/
def listField (v : Json Unit) (key : String) : Except Raised (List String) :=
  match v.item key with
  | .arr items => items.mapM (textElem key)
  | _ => throw (contractError (key ++ " must be a list"))

namespace KnowledgeCandidate

/-- `FIELDS`. -/
def fields : List String :=
  ["action", "base_item_sha256", "candidate_id", "content", "created_at", "domain", "evidence_hashes",
   "evidence_ref_ids", "execution_mode", "kind", "ownership", "risk_level", "schema_version", "scope", "sensitivity",
   "source_domains", "source_experience_hashes", "source_experience_ids", "source_outcomes", "source_sensitivities",
   "source_task_ids", "target_item_id", "title"]

/-- `from_payload`: the schema is compared as it is written. -/
def fromPayload (v : Json Unit) : Except Raised KnowledgeCandidate := do
  require (v.isDict = true ∧ v.hasKeys fields = true ∧ (v.item "schema_version").isText candidateSchema = true)
    (contractError ("invalid or non-strict payload for " ++ candidateSchema))
  let sourceExperienceIds ← listField v "source_experience_ids"
  let sourceExperienceHashes ← listField v "source_experience_hashes"
  let sourceDomains ← listField v "source_domains"
  let sourceSensitivities ← listField v "source_sensitivities"
  let sourceTaskIds ← listField v "source_task_ids"
  let sourceOutcomes ← listField v "source_outcomes"
  let evidenceRefIds ← listField v "evidence_ref_ids"
  let evidenceHashes ← listField v "evidence_hashes"
  let candidateId ← textField v "candidate_id"
  let domain ← textField v "domain"
  let kind ← textField v "kind"
  let title ← textField v "title"
  let content ← textField v "content"
  let scope ← textField v "scope"
  let sensitivity ← textField v "sensitivity"
  let riskLevel ← textField v "risk_level"
  let ownership ← textField v "ownership"
  let action ← textField v "action"
  let executionMode ← textField v "execution_mode"
  let targetItemId ← optionalField v "target_item_id"
  let baseItemSha256 ← optionalField v "base_item_sha256"
  let createdAt ← textField v "created_at"
  let schemaVersion ← textField v "schema_version"
  let c : KnowledgeCandidate :=
    { candidateId, domain, kind, title, content, scope, sensitivity, riskLevel, ownership, action, executionMode,
      sourceExperienceIds, sourceExperienceHashes, sourceDomains, sourceSensitivities, sourceTaskIds, sourceOutcomes,
      evidenceRefIds, evidenceHashes, targetItemId, baseItemSha256, createdAt, schemaVersion }
  c.validate
  return c

end KnowledgeCandidate

/-! ## Contradictions and receipts -/

structure ContradictionRecord where
  contradictionId : String
  candidateId : String
  evidenceRefIds : List String
  evidenceHashes : List String
  summary : String
  status : String
  createdAt : String
  resolvedAt : Option String := none
  schemaVersion : String := contradictionSchema

namespace ContradictionRecord

def validate (r : ContradictionRecord) : Except Raised Unit := do
  schema r.schemaVersion contradictionSchema
  let _ ← id r.contradictionId "contradiction_id"
  let _ ← id r.candidateId "candidate_id"
  let refs ← seq r.evidenceRefIds id "evidence_ref_ids"
  let hashes ← seq r.evidenceHashes sha "evidence_hashes"
  require (refs.length = hashes.length) (contractError "contradiction evidence mismatch")
  let _ ← boundedText r.summary "summary" 2000
  enum r.status ["open", "resolved", "dismissed"] "status"
  utc r.createdAt "created_at"
  require (¬ (r.status = "open" ∧ r.resolvedAt ≠ none)) (contractError "open contradiction cannot be resolved")
  if r.status ≠ "open" then utc (r.resolvedAt.getD "") "resolved_at"

end ContradictionRecord

/-- `_CHECK.fullmatch`. -/
def checkRe (s : String) : Bool :=
  match s.toList with
  | [] => false
  | c :: rest =>
    (c.isUpper || c.isDigit) && (rest.all fun c => c.isUpper || c.isDigit || c = '_') && decide (rest.length ≤ 95)

structure LearningValidationReceipt where
  receiptId : String
  candidateId : String
  candidateSha256 : String
  /-- The entries of the dictionary, in order. -/
  checks : List (String × Bool)
  validatorIds : List String
  evidenceRefIds : List String
  evidenceHashes : List String
  domainReviewerId : Option String
  humanReviewerId : Option String
  createdAt : String
  schemaVersion : String := receiptSchema

namespace LearningValidationReceipt

/-- A reviewer that may be absent. -/
def checkReviewer (value : Option String) (name : String) : Except Raised Unit :=
  match value with
  | none => return ⟨⟩
  | some v => do
    let _ ← id v name

/-- The normalised names of the checks are well formed and distinct. -/
def checkChecks (r : LearningValidationReceipt) : Except Raised Unit := do
  require (r.checks ≠ []) (contractError "validation checks required")
  let names := r.checks.map fun e => upper (strip e.1)
  require ((∀ name ∈ names, checkRe name = true) ∧ names.Nodup) (contractError "invalid validation check")

def validate (r : LearningValidationReceipt) : Except Raised Unit := do
  schema r.schemaVersion receiptSchema
  let _ ← id r.receiptId "receipt_id"
  let _ ← id r.candidateId "candidate_id"
  let _ ← sha r.candidateSha256 "candidate_sha256"
  r.checkChecks
  let _ ← seq r.validatorIds id "validator_ids"
  let refs ← seq r.evidenceRefIds id "evidence_ref_ids"
  let hashes ← seq r.evidenceHashes sha "evidence_hashes"
  require (refs.length = hashes.length) (contractError "validation evidence mismatch")
  checkReviewer r.domainReviewerId "domain_reviewer_id"
  checkReviewer r.humanReviewerId "human_reviewer_id"
  utc r.createdAt "created_at"

def passed (r : LearningValidationReceipt) : Bool := !r.checks.isEmpty && r.checks.all (·.2)

/-- `to_payload` of a validated receipt. -/
def payload (r : LearningValidationReceipt) : Json Unit :=
  .obj
    [("candidate_id", .str r.candidateId), ("candidate_sha256", .str r.candidateSha256),
     ("checks", Json.dict (r.checks.map fun e => (e.1, .bool e.2))), ("created_at", .str r.createdAt),
     ("domain_reviewer_id", Json.ofOption .str r.domainReviewerId),
     ("evidence_hashes", Json.strs r.evidenceHashes), ("evidence_ref_ids", Json.strs r.evidenceRefIds),
     ("human_reviewer_id", Json.ofOption .str r.humanReviewerId), ("receipt_id", .str r.receiptId),
     ("schema_version", .str r.schemaVersion), ("validator_ids", Json.strs r.validatorIds)]

end LearningValidationReceipt

/-! ## The promotion policy -/

structure PromotionDecision where
  allowed : Bool
  currentLevel : Level
  targetLevel : Level
  reasonCodes : List String

namespace AdaptiveLearningPolicy

/-- One round of the loop over the contradictions: the reasons it adds. -/
def contradictionReasons (c : KnowledgeCandidate) (r : ContradictionRecord) : Except Raised (List String) := do
  r.validate
  require (r.candidateId = c.candidateId) (contractError "contradiction candidate mismatch")
  return if r.status = "open" then ["OPEN_CONTRADICTION"] else []

/-- What is wrong with a receipt. -/
def receiptReasons (c : KnowledgeCandidate) (receipt : LearningValidationReceipt) : List String :=
  (if receipt.candidateId ≠ c.candidateId then ["RECEIPT_CANDIDATE_MISMATCH"] else []) ++
    (if receipt.candidateSha256 ≠ c.sha256 then ["RECEIPT_HASH_MISMATCH"] else []) ++
    (if receipt.passed = false then ["VALIDATION_CHECK_FAILED"] else []) ++
    (if receipt.evidenceRefIds ≠ c.evidenceRefIds then ["VALIDATION_EVIDENCE_REF_MISMATCH"] else []) ++
    (if receipt.evidenceHashes ≠ c.evidenceHashes then ["VALIDATION_EVIDENCE_HASH_MISMATCH"] else [])

/-- Who must have reviewed a promotion to this level. -/
def reviewReasons (c : KnowledgeCandidate) (target : Level) (receipt : Option LearningValidationReceipt) :
    List String :=
  (if target ∈ [.approved, .enterprise] ∧
      (target = .enterprise ∨ c.domain ∈ ["network", "security"] ∨ c.riskLevel ∈ ["high", "critical"]) ∧
      receipt.bind (·.humanReviewerId) = none then ["HUMAN_REVIEW_REQUIRED"] else []) ++
    (if target ∈ [.approved, .enterprise] ∧ c.domain ∈ ["network", "security"] ∧
      receipt.bind (·.domainReviewerId) = none then ["DOMAIN_REVIEW_REQUIRED"] else []) ++
    (if target = .enterprise ∧ c.ownership = "learner_managed" ∧ receipt.bind (·.humanReviewerId) = none
      then ["LEARNER_MANAGED_ENTERPRISE_REQUIRES_HUMAN_ADOPTION"] else [])

/-- The reasons that the receipt gives. -/
def receiptCodes (c : KnowledgeCandidate) (receipt : Option LearningValidationReceipt) : Except Raised (List String) :=
  match receipt with
  | none => return ["MISSING_VALIDATION_RECEIPT"]
  | some r => do
    r.validate
    return receiptReasons c r

/-- The reasons against a promotion by one level. -/
def reasons (c : KnowledgeCandidate) (target : Level) (receipt : Option LearningValidationReceipt)
    (contradictions : List ContradictionRecord) : Except Raised (List String) := do
  let raised ← contradictions.mapM (contradictionReasons c)
  let codes ← receiptCodes c receipt
  return raised.flatten ++ codes ++ reviewReasons c target receipt

/-- `evaluate`. -/
def evaluate (c : KnowledgeCandidate) (currentLevel targetLevel : String)
    (receipt : Option LearningValidationReceipt) (contradictions : List ContradictionRecord) :
    Except Raised PromotionDecision := do
  c.validate
  let current ← orRaise (Level.ofText? currentLevel) (contractError "invalid promotion level")
  let target ← orRaise (Level.ofText? targetLevel) (contractError "invalid promotion level")
  if target.index ≠ current.index + 1 then
    return ⟨false, current, target, ["NON_MONOTONIC_OR_SKIPPED_LEVEL"]⟩
  else do
    let found ← reasons c target receipt contradictions
    return ⟨found.isEmpty, current, target, dedup found⟩

end AdaptiveLearningPolicy

end ThreeAgent.AdaptiveLearning
