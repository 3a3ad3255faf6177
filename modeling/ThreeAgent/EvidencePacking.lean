/-
The packing of vetted evidence for a synthesis (`evidence_packing.py`): the
policy, the ranking of the sources by what was assessed of them, and the
hard pack into a budget of characters.

A source is given by the texts of the four attributes that are read; one that
is missing or empty is the empty text. An assessment is a JSON value. The
digest of a body is a parameter, for which the code takes SHA-256.
-/
import ThreeAgent.Errors
import ThreeAgent.Lib.Dict
import ThreeAgent.Lib.Ranking
import ThreeAgent.Lib.Runtime

namespace ThreeAgent.EvidencePacking

open Outcome PyDict PyJson PyText

/-! ## The policy -/

/-- `_ALLOWED_MODES`. -/
inductive Mode where
  | legacy
  | qualityRanked
  deriving DecidableEq, Repr

def Mode.text : Mode → String
  | .legacy => "legacy_v1"
  | .qualityRanked => "quality_ranked_v1"

def defaultSynthesisContextBudgetChars : Int := 48000
def minSynthesisContextBudgetChars : Int := 4096
def maxSynthesisContextBudgetChars : Int := 64000

structure EvidencePackingPolicy where
  mode : Mode := .legacy
  budgetChars : Int := defaultSynthesisContextBudgetChars
  exactBodyDedupe : Bool := false
  deriving DecidableEq, Repr

def valueError (message : String) : Raised := ⟨.valueError, message⟩

/-- `_budget_from_env`. -/
def budgetFromEnv (value : String) : Except Raised Int := do
  let budget ← orRaise (int? (strip value)) (valueError "WORKSPACE_SYNTHESIS_CONTEXT_BUDGET_CHARS must be an integer")
  require (minSynthesisContextBudgetChars ≤ budget ∧ budget ≤ maxSynthesisContextBudgetChars)
    (valueError "WORKSPACE_SYNTHESIS_CONTEXT_BUDGET_CHARS must be between 4096 and 64000")
  return budget

/-- `_bool_from_env`. -/
def boolFromEnv (value field : String) : Except Raised Bool :=
  let raw := lower (strip value)
  if raw ∈ ["1", "true", "yes", "on"] then .ok true
  else if raw ∈ ["0", "false", "no", "off"] then .ok false
  else .error (valueError (field ++ " must be a boolean"))

/-- The mode of a name. -/
def Mode.ofText (name : String) : Except Raised Mode :=
  if name = Mode.legacy.text then .ok .legacy
  else if name = Mode.qualityRanked.text then .ok .qualityRanked
  else .error (valueError "WORKSPACE_EVIDENCE_PACKING_MODE must be one of: legacy_v1, quality_ranked_v1")

/-- `resolve_evidence_packing_policy` of an environment. -/
def resolveEvidencePackingPolicy (env : Dict String) : Except Raised EvidencePackingPolicy := do
  let mode ← Mode.ofText (lower (strip ((get? env "WORKSPACE_EVIDENCE_PACKING_MODE").getD Mode.legacy.text)))
  let budget ← budgetFromEnv ((get? env "WORKSPACE_SYNTHESIS_CONTEXT_BUDGET_CHARS").getD "48000")
  let exactBodyDedupe ← boolFromEnv ((get? env "WORKSPACE_EVIDENCE_EXACT_BODY_DEDUPE").getD "false")
    "WORKSPACE_EVIDENCE_EXACT_BODY_DEDUPE"
  return ⟨mode, budget, exactBodyDedupe⟩

structure Source where
  sourceId : String := ""
  title : String := ""
  url : String := ""
  extractedText : String := ""
  deriving DecidableEq, Repr

/-! ## The ranking -/

section Ranking

variable {F : Type} [PyRuntime F]

/-- `str(item.get(key) or "").strip().lower()`. -/
def word (item : Json F) (key : String) : String := lower (strip (Json.textOr (item.get? key)))

/-- `item.get(key) is b`. -/
def isBool (item : Json F) (key : String) (b : Bool) : Bool :=
  match item.get? key with
  | some (.bool b') => b == b'
  | _ => false

def relevanceScore (relevance : String) : Int :=
  if relevance = "high" then 100 else if relevance = "medium" then 60 else 0

def authorityScore (authority : String) : Int :=
  if authority = "primary" then 20 else if authority = "secondary" then 10 else 0

/-- `_assessment_score`. -/
def assessmentScore (item : Option (Json F)) : Int :=
  match item with
  | some (.obj kvs) =>
    let item : Json F := .obj kvs
    relevanceScore (word item "relevance") + (if isBool item "scope_match" true then 40 else 0) +
      authorityScore (word item "authority") +
      (if isBool item "time_match" true then 30 else if isBool item "time_match" false then -30 else 0)
  | _ => -1000

/-- `str(item.get("source_id") or "")`. -/
def assessedId (item : Json F) : String := Json.textOr (item.get? "source_id")

/-- `assessment_map`: the last assessment of an id is kept. -/
def assessmentMap (assessments : List (Json F)) : Dict (Json F) :=
  (assessments.filter fun item => item.isDict && assessedId item ≠ "").foldl
    (fun byId item => set byId (assessedId item) item) []

structure RankReceipt (F : Type) where
  sourceId : String
  rank : Nat
  score : Int
  relevance : Option (Json F)
  authority : Option (Json F)
  timeMatch : Option (Json F)

/-- A row of the receipt. -/
def rankReceipt (byId : Dict (Json F)) (source : Source) (rank : Nat) : RankReceipt F :=
  let assessment := (get? byId source.sourceId).getD (.obj [])
  { sourceId := source.sourceId
    rank := rank
    score := assessmentScore (some assessment)
    relevance := assessment.get? "relevance"
    authority := assessment.get? "authority"
    timeMatch := assessment.get? "time_match" }

/-- The score that a source is ranked by. -/
def sourceScore (byId : Dict (Json F)) (source : Source) : Int := assessmentScore (get? byId source.sourceId)

/-- `rank_vetted_sources`, the policy resolved. -/
def rankVettedSources (policy : EvidencePackingPolicy) (sources : List Source) (assessments : List (Json F)) :
    List Source × List (RankReceipt F) :=
  let byId := assessmentMap assessments
  let ranked :=
    match policy.mode with
    | .legacy => sources
    | .qualityRanked => Ranking.rank (fun source => -sourceScore byId source) sources
  (ranked, (ranked.zipIdx 1).map fun e => rankReceipt byId e.1 e.2)

end Ranking

/-! ## The hard pack -/

/-- `_SEPARATOR`. -/
def separator : String := "\n---\n"

/-- `_source_header`. -/
def Source.header (source : Source) : String :=
  "[" ++ source.sourceId ++ "]\n" ++ "TITLE: " ++ source.title ++ "\n" ++ "URL: " ++ source.url ++ "\n" ++ "TEXT:\n"

inductive SkipReason where
  | emptyEvidenceText
  | exactBodyDuplicate
  | headerDoesNotFit
  | noBodyBudget
  deriving DecidableEq, Repr

def SkipReason.text : SkipReason → String
  | .emptyEvidenceText => "empty_evidence_text"
  | .exactBodyDuplicate => "exact_body_duplicate_of_fully_supplied_source"
  | .headerDoesNotFit => "provenance_header_or_first_text_char_does_not_fit"
  | .noBodyBudget => "no_body_budget"

/-- The skips that `sources_skipped_for_header_budget` counts. -/
def SkipReason.isBudget : SkipReason → Bool
  | .headerDoesNotFit | .noBodyBudget => true
  | _ => false

/-- What becomes of a source: its chunk (empty where it is skipped), and how much of the body it has. -/
structure Fitted where
  chunk : String := ""
  includedTextChars : Nat := 0
  bodyFullySupplied : Bool := false
  skipReason : Option SkipReason := none
  deriving DecidableEq, Repr

/-- `text[:n]`. -/
def prefixOf (n : Nat) (text : String) : String := String.ofList (text.toList.take n)

/-- The branches of the loop's body. -/
def fit (remaining : Int) (separatorCost : Nat) (source : Source) (duplicateOf : Option String) : Fitted :=
  let text := source.extractedText
  if text = "" then { skipReason := some .emptyEvidenceText }
  else if duplicateOf.isSome then { skipReason := some .exactBodyDuplicate }
  else if remaining < separatorCost + source.header.length + 1 then { skipReason := some .headerDoesNotFit }
  else
    let available := remaining - separatorCost - source.header.length
    let whole := decide ((text.length : Int) + 1 ≤ available)
    let body := if whole then text else prefixOf available.toNat text
    let suffix := if whole then "\n" else ""
    let fully := decide (body.length = text.length)
    if body.length = 0 then { bodyFullySupplied := fully, skipReason := some .noBodyBudget }
    else { chunk := source.header ++ body ++ suffix, includedTextChars := body.length, bodyFullySupplied := fully }

structure SourceReceipt where
  sourceId : String
  rank : Nat
  vettedTextChars : Nat
  suppliedTextChars : Nat
  supplied : Bool
  bodyFullySupplied : Bool
  provenanceHeaderPreserved : Bool
  exactBodyDuplicateSuppressed : Bool
  duplicateOfSourceId : Option String
  skipReason : Option SkipReason
  deriving DecidableEq, Repr

/-- The variables of the loop. -/
structure Packing where
  blocks : List String := []
  sourceReceipts : List SourceReceipt := []
  vettedTextChars : Nat := 0
  suppliedTextChars : Nat := 0
  suppliedSources : Nat := 0
  headerBudgetSkips : Nat := 0
  packedChunkChars : Nat := 0
  duplicateBodiesSuppressed : Nat := 0
  duplicateTextCharsSaved : Nat := 0
  fullySuppliedBodySources : Dict String := []
  deriving DecidableEq, Repr

section Pack

variable (bodySha256 : String → String) (policy : EvidencePackingPolicy)

/-- The digest by which bodies are compared, where they are. -/
def digestOf (source : Source) : Option String :=
  if source.extractedText ≠ "" ∧ policy.exactBodyDedupe then some (bodySha256 source.extractedText) else none

/-- `remaining`. -/
def remaining (st : Packing) : Int :=
  policy.budgetChars - (st.packedChunkChars + (st.blocks.length - 1) * separator.length : Nat)

def separatorCost (st : Packing) : Nat := if st.blocks = [] then 0 else separator.length

/-- `duplicate_of_source_id`. -/
def duplicateOf (st : Packing) (source : Source) : Option String :=
  (digestOf bodySha256 policy source).bind (get? st.fullySuppliedBodySources)

def fitted (st : Packing) (source : Source) : Fitted :=
  fit (remaining policy st) (separatorCost st) source (duplicateOf bodySha256 policy st source)

/-- The entry of a source in the receipt. -/
def sourceReceipt (st : Packing) (source : Source) (rank : Nat) : SourceReceipt :=
  let fitted := fitted bodySha256 policy st source
  { sourceId := source.sourceId
    rank := rank
    vettedTextChars := source.extractedText.length
    suppliedTextChars := fitted.includedTextChars
    supplied := decide (0 < fitted.includedTextChars)
    bodyFullySupplied := fitted.bodyFullySupplied
    provenanceHeaderPreserved := decide (0 < fitted.includedTextChars)
    exactBodyDuplicateSuppressed := decide (fitted.skipReason = some .exactBodyDuplicate)
    duplicateOfSourceId := duplicateOf bodySha256 policy st source
    skipReason := fitted.skipReason }

/-- `fully_supplied_body_sources` after a source: the first one that supplied a body is kept. -/
def suppliedBodies (st : Packing) (source : Source) : Dict String :=
  let fitted := fitted bodySha256 policy st source
  match digestOf bodySha256 policy source with
  | some digest =>
    if fitted.chunk ≠ "" ∧ fitted.bodyFullySupplied ∧ ¬ has st.fullySuppliedBodySources digest then
      set st.fullySuppliedBodySources digest source.sourceId
    else st.fullySuppliedBodySources
  | none => st.fullySuppliedBodySources

/-- One round of the loop. -/
def packSource (st : Packing) (source : Source) (rank : Nat) : Packing :=
  let fitted := fitted bodySha256 policy st source
  let vettedChars := source.extractedText.length
  let rendered := fitted.chunk ≠ ""
  let suppressed := fitted.skipReason = some .exactBodyDuplicate
  { blocks := if rendered then st.blocks ++ [fitted.chunk] else st.blocks
    sourceReceipts := st.sourceReceipts ++ [sourceReceipt bodySha256 policy st source rank]
    vettedTextChars := st.vettedTextChars + vettedChars
    suppliedTextChars := if rendered then st.suppliedTextChars + fitted.includedTextChars else st.suppliedTextChars
    suppliedSources := if rendered then st.suppliedSources + 1 else st.suppliedSources
    headerBudgetSkips := if fitted.skipReason.any (·.isBudget) then st.headerBudgetSkips + 1 else st.headerBudgetSkips
    packedChunkChars := if rendered then st.packedChunkChars + fitted.chunk.length else st.packedChunkChars
    duplicateBodiesSuppressed :=
      if suppressed then st.duplicateBodiesSuppressed + 1 else st.duplicateBodiesSuppressed
    duplicateTextCharsSaved :=
      if suppressed then st.duplicateTextCharsSaved + vettedChars else st.duplicateTextCharsSaved
    fullySuppliedBodySources := suppliedBodies bodySha256 policy st source }

/-- The loop. -/
def packLoop (sources : List Source) : Packing :=
  (sources.zipIdx 1).foldl (fun st e => packSource bodySha256 policy st e.1 e.2) {}

structure PackingReceipt where
  schemaVersion : String := "workspace-evidence-packing-receipt/v1"
  packingAlgorithmVersion : String := "workspace-evidence-hard-pack/v3"
  mode : Mode
  budgetChars : Int
  exactBodyDedupeEnabled : Bool
  exactDuplicateBodiesSuppressed : Nat
  exactDuplicateTextCharsSaved : Nat
  sourceCount : Nat
  suppliedSourceCount : Nat
  vettedSourceTextChars : Nat
  suppliedSourceTextChars : Nat
  packedChunkChars : Nat
  separatorChars : Nat
  packedOutputChars : Nat
  hardBudgetRespected : Bool
  criticalProvenanceHeaderTruncated : Bool := false
  sourcesSkippedForHeaderBudget : Nat
  sources : List SourceReceipt
  bodyHashesLogged : Bool := false
  rawContentLogged : Bool := false
  deriving DecidableEq, Repr

/-- The receipt of a packing. -/
def packingReceipt (st : Packing) (rendered : String) : PackingReceipt :=
  { mode := policy.mode
    budgetChars := policy.budgetChars
    exactBodyDedupeEnabled := policy.exactBodyDedupe
    exactDuplicateBodiesSuppressed := st.duplicateBodiesSuppressed
    exactDuplicateTextCharsSaved := st.duplicateTextCharsSaved
    sourceCount := st.sourceReceipts.length
    suppliedSourceCount := st.suppliedSources
    vettedSourceTextChars := st.vettedTextChars
    suppliedSourceTextChars := st.suppliedTextChars
    packedChunkChars := st.packedChunkChars
    separatorChars := (st.blocks.length - 1) * separator.length
    packedOutputChars := rendered.length
    hardBudgetRespected := decide ((rendered.length : Int) ≤ policy.budgetChars)
    sourcesSkippedForHeaderBudget := st.headerBudgetSkips
    sources := st.sourceReceipts }

/-- `pack_evidence_sources`, the policy resolved. -/
def packEvidenceSources (sources : List Source) : Except Raised (String × PackingReceipt) := do
  let st := packLoop bodySha256 policy sources
  let rendered := separator.intercalate st.blocks
  require ((rendered.length : Int) ≤ policy.budgetChars) (valueError "EVIDENCE_HARD_PACK_BUDGET_EXCEEDED")
  return (rendered, packingReceipt policy st rendered)

end Pack

end ThreeAgent.EvidencePacking
