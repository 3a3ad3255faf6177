/-
The promotion gate (`promotion_gate.py`): the policy with one spec for each
mandatory corpus class, the evidence read from a raw payload, and the verdict
of `PromotionPipeline.evaluate` over a list of evidence.

A payload is a JSON value in which, here, a dictionary keeps its keys in
insertion order: `from_payload` rebuilds the checks under their stripped and
upper-cased names, so the order decides which of two spellings of one name
stays. The fingerprint of the default metric registry and the loading of a
repository corpus are parameters. Of the receipt, the parts that no decision
fills (the schema, the constant security block, the two hashes) are left out.
-/
import ThreeAgent.Capability
import ThreeAgent.Checks
import ThreeAgent.Lib.Dict

namespace ThreeAgent.PromotionGate

open PyText Outcome PyJson

variable {F : Type} [PyRuntime F]

/-- `PromotionGateError(message)`. -/
def gateError (message : String) : Raised := ⟨.promotionGateError, message⟩

def promotionEvidenceSchema : String := "workspace-promotion-evidence/v1"

def metricRegistryId : String := "workspace-d3-core-metrics-v1"

/-- `PROMOTION_CLASSES`. -/
def promotionClasses : List String :=
  ["golden", "replay", "regression", "adversarial_security", "edge_large_context", "efficiency_cache_concurrency"]

/-- `_REPOSITORY_CLASSES`. -/
def repositoryClasses : List String := ["golden", "regression", "adversarial_security"]

/-- The kinds that `PromotionClassSpec.validate` accepts. -/
def sourceKinds : List String :=
  ["repository_corpus", "external_replay", "external_holdout", "external_benchmark"]

/-- `_EVIDENCE_KEYS`. -/
def evidenceKeys : List String :=
  ["schema_version", "evidence_id", "corpus_class", "corpus_id", "corpus_sha256", "metric_registry_id",
    "metric_registry_sha256", "baseline_ref", "candidate_ref", "checks", "security_passed", "evidence_refs",
    "label_commitment_sha256", "evaluator_attested"]

/-! ## Field checks -/

/-- `_ID_RE.fullmatch`. -/
def idRe (s : String) : Bool :=
  match s.toList with
  | [] => false
  | c :: rest =>
    isAsciiAlnum c && (rest.all fun c => isAsciiAlnum c || c ∈ ['.', '_', '-']) && decide (rest.length ≤ 95)

/-- `_GIT_SHA_RE.fullmatch`. -/
def gitShaRe (s : String) : Bool := decide (s.toList.length = 40) && s.toList.all Sha256.isHexDigit

/-- `[A-Z0-9]`. -/
def isCheckChar (c : Char) : Bool := ('A' ≤ c && c ≤ 'Z') || ('0' ≤ c && c ≤ '9')

/-- `_CHECK_RE.fullmatch`. -/
def checkRe (s : String) : Bool :=
  match s.toList with
  | [] => false
  | c :: rest => isCheckChar c && (rest.all fun c => isCheckChar c || c = '_') && decide (rest.length ≤ 95)

/-- `_EVIDENCE_REF_RE.fullmatch`. -/
def evidenceRefRe (s : String) : Bool :=
  sha256Re s ||
    match s.toList with
    | [] => false
    | c :: rest =>
      isAsciiAlnum c && (rest.all fun c => isAsciiAlnum c || c ∈ ['.', '_', ':', '/', '#', '@', '+', '-', '=']) &&
        decide (rest.length ≤ 255)

/-- `_compact_id`. -/
def compactId (value field : String) : Except Raised String := do
  require (idRe (strip value) = true) (gateError (field ++ " must be a compact stable identifier"))
  return strip value

/-- `str(value or "").strip().lower()` of a text. -/
def lowered (value : String) : String := lower (strip value)

/-- `_git_sha`. -/
def gitSha (value field : String) : Except Raised String := do
  require (gitShaRe (lowered value) = true) (gateError (field ++ " must be an exact 40-hex Git SHA"))
  return lowered value

/-- `_sha256`. -/
def sha256 (value field : String) : Except Raised String := do
  require (sha256Re (lowered value) = true) (gateError (field ++ " must be a sha256:<64-hex> value"))
  return lowered value

/-- `_safe_relative_path`. -/
def safeRelativePath (value field : String) : Except Raised String := do
  let text := replaceChar '\\' '/' (strip value)
  let path := PurePosixPath.parse text
  require (text ≠ "" ∧ path.isAbsolute = false ∧ ".." ∉ path.parts ∧ text.toList.length ≤ 240)
    (gateError (field ++ " must be a safe repository-relative path"))
  return text

/-- One turn of the loop of `_safe_refs`. -/
def addRef (refs : List String) (raw : Json F) : Except Raised (List String) := do
  let ref := strip (Json.textOr (some raw))
  require (evidenceRefRe ref = true)
    (gateError "evidence_refs accept compact identifiers/hashes only; raw content is forbidden")
  let refs := if ref ∈ refs then refs else refs ++ [ref]
  require (refs.length ≤ 32) (gateError "at most 32 evidence_refs are allowed")
  return refs

/-- `_safe_refs`. -/
def safeRefs (values : List (Json F)) : Except Raised (List String) := do
  require (values.isEmpty = false) (gateError "evidence_refs must be a non-empty sequence")
  values.foldlM addRef []

/-- `name.strip().upper()`. -/
def normalName (name : String) : String := upper (strip name)

/-- `str(raw or "").strip().upper()`. -/
def checkName (raw : Json F) : String := normalName (Json.textOr (some raw))

/-- One turn of the loop of `_validated_checks`. -/
def addCheck (field : String) (checks : List String) (raw : Json F) : Except Raised (List String) := do
  require (checkRe (checkName raw) = true)
    (gateError ("invalid check identifier in " ++ field ++ ": " ++ checkName raw))
  return if checkName raw ∈ checks then checks else checks ++ [checkName raw]

/-- `_validated_checks`. -/
def validatedChecks (values : List (Json F)) (field : String) : Except Raised (List String) := do
  require (values.isEmpty = false) (gateError (field ++ " must be a non-empty sequence"))
  values.foldlM (addCheck field) []

/-- `isinstance(value, bool)`. -/
def isBool : Json F → Bool
  | .bool _ => true
  | _ => false

/-! ## The policy -/

structure PromotionClassSpec (F : Type) where
  classId : String
  sourceKind : String
  sourceRef : Option String
  requiredChecks : List (Json F)
  holdoutCommitmentRequired : Json F
  evaluatorAttestationRequired : Json F

namespace PromotionClassSpec

/-- The part of `validate` about the source. -/
def validateSource (spec : PromotionClassSpec F) : Except Raised Unit :=
  if spec.sourceKind = "repository_corpus" then do
    let _ ← safeRelativePath (spec.sourceRef.getD "") (spec.classId ++ ".source_ref")
    require (spec.classId ∈ repositoryClasses)
      (gateError ("repository_corpus is not authorized for promotion class " ++ spec.classId))
  else
    require (spec.sourceRef = none)
      (gateError ("external promotion class " ++ spec.classId ++ " must not embed repository source_ref"))

/-- `PromotionClassSpec.validate`. -/
def validate (spec : PromotionClassSpec F) : Except Raised Unit := do
  require (spec.classId ∈ promotionClasses) (gateError ("unsupported promotion class: " ++ spec.classId))
  require (spec.sourceKind ∈ sourceKinds) (gateError ("unsupported source_kind for " ++ spec.classId))
  spec.validateSource
  let _ ← validatedChecks spec.requiredChecks (spec.classId ++ ".required_checks")
  require (isBool spec.holdoutCommitmentRequired = true ∧ isBool spec.evaluatorAttestationRequired = true)
    (gateError (spec.classId ++ " holdout/attestation flags must be boolean"))
  require (spec.holdoutCommitmentRequired.truthy = false ∨ spec.evaluatorAttestationRequired.truthy = true)
    (gateError (spec.classId ++ " holdout commitments require evaluator attestation"))

end PromotionClassSpec

structure PromotionPolicy (F : Type) where
  policyId : String
  metricRegistryId : String
  classes : List (PromotionClassSpec F)

namespace PromotionPolicy

/-- `PromotionPolicy.validate`. -/
def validate (policy : PromotionPolicy F) : Except Raised Unit := do
  let _ ← compactId policy.policyId "policy_id"
  require (policy.metricRegistryId = PromotionGate.metricRegistryId)
    (gateError "promotion policy metric registry is not current")
  require (policy.classes.map (·.classId) = promotionClasses)
    (gateError "promotion classes must match mandatory v1 order")
  policy.classes.forM PromotionClassSpec.validate

/-- `PromotionPolicy.by_id`. -/
def byId (policy : PromotionPolicy F) : Except Raised (PyDict.Dict (PromotionClassSpec F)) := do
  policy.validate
  return policy.classes.foldl (fun specs spec => PyDict.set specs spec.classId spec) []

end PromotionPolicy

/-! ## The evidence -/

structure PromotionEvidence (F : Type) where
  evidenceId : String
  corpusClass : String
  corpusId : String
  corpusSha256 : String
  metricRegistryId : String
  metricRegistrySha256 : String
  baselineRef : String
  candidateRef : String
  checks : PyDict.Dict (Json F)
  securityPassed : Json F
  evidenceRefs : List (Json F)
  labelCommitmentSha256 : Option String
  evaluatorAttested : Json F

/-- `str(payload.get(key) or "").strip()`. -/
def textField (payload : Json F) (key : String) : String := strip (Json.textOr (payload.get? key))

/-- `str(payload.get(key) or "").strip().lower()`. -/
def loweredField (payload : Json F) (key : String) : String := lower (textField payload key)

/-- `payload.get("checks")` of a payload in which it is a dictionary, its entries in insertion order. -/
def rawChecks (payload : Json F) : PyDict.Dict (Json F) :=
  match payload.item "checks" with
  | .obj entries => entries
  | _ => []

/-- `{str(name).strip().upper(): value for name, value in raw_checks.items()}`. -/
def normalChecks (raw : PyDict.Dict (Json F)) : PyDict.Dict (Json F) :=
  raw.foldl (fun checks entry => PyDict.set checks (normalName entry.1) entry.2) []

/-- `None if label_raw is None else str(label_raw).strip().lower()`. -/
def labelHash : Json F → Option String
  | .null => none
  | raw => some (lowered raw.toStr)

/-- `tuple(value or ())`. -/
def tupleOr (value : Json F) : Except Raised (List (Json F)) :=
  if value.truthy then
    match value with
    | .arr xs => return xs
    | .str s => return s.toList.map fun c => .str (String.singleton c)
    | .obj entries => return entries.map fun e => .str e.1
    | _ => throw ⟨.typeError, "'" ++ value.typeName ++ "' object is not iterable"⟩
  else return []

namespace PromotionEvidence

/-- The test of one entry of `checks`. -/
def checkEntry (entry : String × Json F) : Except Raised Unit :=
  require (checkRe (normalName entry.1) = true ∧ isBool entry.2 = true)
    (gateError "promotion evidence checks must be boolean compact IDs")

/-- The label commitment, when there is one. -/
def checkLabel : Option String → Except Raised Unit
  | none => return ⟨⟩
  | some label => do
    let _ ← PromotionGate.sha256 label "label_commitment_sha256"

/-- `PromotionEvidence.validate`, against the fingerprint of the default registry. -/
def validate (registrySha256 : String) (row : PromotionEvidence F) : Except Raised Unit := do
  let _ ← compactId row.evidenceId "evidence_id"
  require (row.corpusClass ∈ promotionClasses) (gateError "promotion evidence corpus_class is invalid")
  let _ ← compactId row.corpusId "corpus_id"
  let _ ← PromotionGate.sha256 row.corpusSha256 "corpus_sha256"
  require (row.metricRegistryId = PromotionGate.metricRegistryId)
    (gateError "promotion evidence metric registry id mismatch")
  let registry ← PromotionGate.sha256 row.metricRegistrySha256 "metric_registry_sha256"
  require (registry = registrySha256) (gateError "promotion evidence metric registry fingerprint mismatch")
  let baseline ← gitSha row.baselineRef "baseline_ref"
  let candidate ← gitSha row.candidateRef "candidate_ref"
  require (baseline ≠ candidate) (gateError "candidate_ref must differ from baseline_ref")
  require (row.checks.isEmpty = false) (gateError "promotion evidence checks must be a non-empty object")
  row.checks.forM checkEntry
  require (isBool row.securityPassed = true ∧ isBool row.evaluatorAttested = true)
    (gateError "security/evaluator flags must be boolean")
  checkLabel row.labelCommitmentSha256
  let _ ← safeRefs row.evidenceRefs

/-- The evidence that `from_payload` builds before it validates it. -/
def ofFields (payload : Json F) (refs : List (Json F)) : PromotionEvidence F where
  evidenceId := textField payload "evidence_id"
  corpusClass := textField payload "corpus_class"
  corpusId := textField payload "corpus_id"
  corpusSha256 := loweredField payload "corpus_sha256"
  metricRegistryId := textField payload "metric_registry_id"
  metricRegistrySha256 := loweredField payload "metric_registry_sha256"
  baselineRef := loweredField payload "baseline_ref"
  candidateRef := loweredField payload "candidate_ref"
  checks := normalChecks (rawChecks payload)
  securityPassed := payload.item "security_passed"
  evidenceRefs := refs
  labelCommitmentSha256 := labelHash (payload.item "label_commitment_sha256")
  evaluatorAttested := payload.item "evaluator_attested"

/-- `PromotionEvidence.from_payload`. -/
def fromPayload (registrySha256 : String) (payload : Json F) : Except Raised (PromotionEvidence F) := do
  require (payload.hasKeys evidenceKeys = true)
    (gateError "promotion evidence must contain exactly the metadata-only v1 fields")
  require ((payload.item "schema_version").isText promotionEvidenceSchema = true)
    (gateError ("promotion evidence schema must be " ++ promotionEvidenceSchema))
  -- what is no dictionary has no entries here, and the source refuses both alike
  require ((rawChecks payload).isEmpty = false) (gateError "promotion evidence checks must be a non-empty object")
  let refs ← tupleOr (payload.item "evidence_refs")
  let row := ofFields payload refs
  row.validate registrySha256
  return row

end PromotionEvidence

/-! ## The pipeline -/

/-- A repository corpus, as far as the gate reads it. -/
structure EvaluationCorpus where
  corpusClass : String
  corpusId : String
  sha256 : String

/-- `PromotionPipeline._repository_expectation`; `load` resolves a reference under the repository root, refuses one
that leaves it, and loads the corpus. -/
def repositoryExpectation (load : String → Except Raised EvaluationCorpus) (spec : PromotionClassSpec F) :
    Except Raised (Option (String × String)) := do
  spec.validate
  if spec.sourceKind ≠ "repository_corpus" then
    return none
  let ref ← orRaise spec.sourceRef (gateError "repository corpus source_ref is missing")
  let corpus ← load ref
  require (corpus.corpusClass = spec.classId)
    (gateError ("repository corpus class mismatch for " ++ spec.classId))
  return some (corpus.corpusId, corpus.sha256)

/-- `row.checks.get(check) is True`: the keys are texts, so a check that is no text is not among them. -/
def checkPassed (checks : PyDict.Dict (Json F)) : Json F → Bool
  | .str check =>
    match PyDict.get? checks check with
    | some (.bool passed) => passed
    | _ => false
  | _ => false

/-- `[text] if failed else []`. -/
def failure (failed : Bool) (text : String) : List String := if failed then [text] else []

/-- The failure of a corpus that is not the expected one. -/
def corpusFailures (corpusId corpusSha256 : String) : Option (String × String) → List String
  | none => []
  | some (id, hash) => failure (corpusId ≠ id || corpusSha256 ≠ hash) "REPOSITORY_CORPUS_LINEAGE_MISMATCH"

/-- The failures of a class that has evidence. -/
def rowFailures (registrySha256 baseline candidate : String) (expected : Option (String × String))
    (spec : PromotionClassSpec F) (row : PromotionEvidence F) : List String :=
  failure (row.baselineRef ≠ baseline || row.candidateRef ≠ candidate) "SOURCE_LINEAGE_MISMATCH" ++
  failure (row.metricRegistryId ≠ metricRegistryId) "METRIC_REGISTRY_ID_MISMATCH" ++
  failure (row.metricRegistrySha256 ≠ registrySha256) "METRIC_REGISTRY_SHA_MISMATCH" ++
  failure (!row.securityPassed.truthy) "SECURITY_GATE_FAILED" ++
  spec.requiredChecks.flatMap (fun check =>
    failure (!checkPassed row.checks check) ("REQUIRED_CHECK_FAILED:" ++ check.toStr)) ++
  corpusFailures row.corpusId row.corpusSha256 expected ++
  failure (spec.holdoutCommitmentRequired.truthy && row.labelCommitmentSha256.isNone)
    "HOLDOUT_LABEL_COMMITMENT_MISSING" ++
  failure (spec.evaluatorAttestationRequired.truthy && !row.evaluatorAttested.truthy)
    "EVALUATOR_ATTESTATION_MISSING"

/-- The failures of a class. -/
def classFailures (registrySha256 baseline candidate : String) (expected : Option (String × String))
    (spec : PromotionClassSpec F) : Option (PromotionEvidence F) → List String
  | none => ["EVIDENCE_MISSING"]
  | some row => rowFailures registrySha256 baseline candidate expected spec row

/-- An entry of `receipt["classes"]`. -/
structure ClassResult (F : Type) where
  classId : String
  passed : Bool
  failures : List String
  evidenceId : Option String
  corpusSha256 : Option String
  evidenceRefs : List (Json F)
  labelCommitmentSha256 : Option String

/-- What decides the receipt, and what it shows of the evidence. -/
structure Receipt (F : Type) where
  accepted : Bool
  policyId : String
  baselineRef : String
  candidateRef : String
  rollbackRef : String
  classes : List (ClassResult F)
  failures : List String

/-- The loop over the evidence: the failures, and the first row of each class. -/
abbrev Collected (F : Type) := List String × PyDict.Dict (PromotionEvidence F)

/-- One turn of it, after the row is validated. -/
def collectRow (acc : Collected F) (row : PromotionEvidence F) : Collected F :=
  if PyDict.has acc.2 row.corpusClass then (acc.1 ++ ["DUPLICATE_EVIDENCE:" ++ row.corpusClass], acc.2)
  else (acc.1, PyDict.set acc.2 row.corpusClass row)

/-- One turn of it. -/
def admitRow (registrySha256 : String) (acc : Collected F) (row : PromotionEvidence F) :
    Except Raised (Collected F) := do
  row.validate registrySha256
  return collectRow acc row

/-- The entry of a class, from its spec, the expected corpus and its evidence. -/
def classResult (registrySha256 baseline candidate : String) (expected : Option (String × String))
    (spec : PromotionClassSpec F) (classId : String) (row : Option (PromotionEvidence F)) : ClassResult F :=
  let failures := classFailures registrySha256 baseline candidate expected spec row
  { classId := classId
    passed := failures.isEmpty
    failures := failures
    evidenceId := row.map (·.evidenceId)
    corpusSha256 := row.map (·.corpusSha256)
    evidenceRefs := (row.map (·.evidenceRefs)).getD []
    labelCommitmentSha256 := row.bind (·.labelCommitmentSha256) }

/-- One turn of the loop over the classes. -/
def evaluateClass (load : String → Except Raised EvaluationCorpus) (registrySha256 baseline candidate : String)
    (specs : PyDict.Dict (PromotionClassSpec F)) (byClass : PyDict.Dict (PromotionEvidence F)) (classId : String) :
    Except Raised (ClassResult F) := do
  let spec ← orRaise (PyDict.get? specs classId) ⟨.keyError, classId⟩
  let expected ← repositoryExpectation load spec
  return classResult registrySha256 baseline candidate expected spec classId (PyDict.get? byClass classId)

/-- The refs that `evaluate` was asked for, normalised. -/
structure Request where
  baseline : String
  candidate : String
  rollback : String

/-- The checks of `evaluate` on the three refs. -/
def admitRequest (baselineRef candidateRef rollbackRef : String) : Except Raised Request := do
  let baseline ← gitSha baselineRef "baseline_ref"
  let candidate ← gitSha candidateRef "candidate_ref"
  let rollback ← gitSha rollbackRef "rollback_ref"
  require (baseline ≠ candidate) (gateError "candidate_ref must differ from baseline_ref")
  require (rollback = baseline) (gateError "v1 rollback_ref must exactly equal the evaluated baseline_ref")
  return ⟨baseline, candidate, rollback⟩

/-- `PromotionPipeline.evaluate`. -/
def evaluate (load : String → Except Raised EvaluationCorpus) (registrySha256 : String) (policy : PromotionPolicy F)
    (evidence : List (PromotionEvidence F)) (baselineRef candidateRef rollbackRef : String) :
    Except Raised (Receipt F) := do
  policy.validate
  let request ← admitRequest baselineRef candidateRef rollbackRef
  let collected ← evidence.foldlM (admitRow registrySha256) ([], [])
  let specs ← policy.byId
  let results ← promotionClasses.mapM
    (evaluateClass load registrySha256 request.baseline request.candidate specs collected.2)
  let failures := collected.1 ++ results.flatMap fun r => r.failures.map fun f => r.classId ++ ":" ++ f
  return {
    accepted := failures.isEmpty && decide (collected.2.length = promotionClasses.length)
    policyId := policy.policyId
    baselineRef := request.baseline
    candidateRef := request.candidate
    rollbackRef := request.rollback
    classes := results
    failures := failures }

/-- The verdict over raw payloads: each is read by `from_payload`, then all are evaluated. -/
def verdict (load : String → Except Raised EvaluationCorpus) (registrySha256 : String) (policy : PromotionPolicy F)
    (payloads : List (Json F)) (baselineRef candidateRef rollbackRef : String) : Except Raised Bool := do
  let evidence ← payloads.mapM (PromotionEvidence.fromPayload registrySha256)
  let receipt ← evaluate load registrySha256 policy evidence baselineRef candidateRef rollbackRef
  return receipt.accepted

end ThreeAgent.PromotionGate
