/-
The synthesis of a research over packed evidence (`agents/research_ranked.py`
and the agent of `agents/research.py` under it), and the accounting of its
context (`research_quality.py`).

The context variable that makes the assessments active while the evidence is
rendered is an argument; the environment gives one policy throughout. Of the
base synthesis the model has what decides the prompt's evidence and which
source ids the gates of its answer let through.
-/
import ThreeAgent.EvidencePacking

namespace ThreeAgent.ResearchSynthesis

open EvidencePacking Outcome PyDict

/-- `PACKING_RECEIPT_SCHEMA`. -/
def packingReceiptSchema : String := "workspace-evidence-packing-receipt/v1"

structure ResearchSource extends Source where
  fetchStatus : String
  deriving DecidableEq, Repr

/-- `source.fetch_status == "ok" and source.extracted_text`. -/
def ResearchSource.usable (source : ResearchSource) : Bool :=
  decide (source.fetchStatus = "ok") && decide (source.extractedText ≠ "")

/-- What `_evidence_text` writes into an assessment, each key with its prefix `synthesis_`. -/
structure Supply where
  packingReceiptVersion : String := packingReceiptSchema
  packingMode : String
  contextBudgetChars : Int
  exactBodyDedupeEnabled : Bool
  vettedTextChars : Nat
  suppliedTextChars : Nat
  supplied : Bool
  bodyFullySupplied : Bool
  exactBodyDuplicateSuppressed : Bool
  duplicateOfSourceId : Option String
  packedRank : Nat
  deriving DecidableEq, Repr

structure Assessment where
  sourceId : String
  relevance : String
  scopeMatch : Bool
  supply : Option Supply := none
  deriving DecidableEq, Repr

/-- `relevance in {"high", "medium"} and scope_match is True`. -/
def Assessment.accepted (a : Assessment) : Bool := decide (a.relevance ∈ ["high", "medium"]) && a.scopeMatch

/-- The vetted sources of the base `_assess_sources`, given the cleaned assessments. -/
def vettedSources (sources : List ResearchSource) (assessments : List Assessment) : List ResearchSource :=
  (sources.filter (·.usable)).filter fun s => s.sourceId ∈ (assessments.filter (·.accepted)).map (·.sourceId)

/-- Items by their ids, those without one left out: the last item of an id is kept. -/
def byId {α : Type} (id : α → String) (items : List α) : Dict α :=
  (items.filter fun item => id item ≠ "").foldl (fun d item => set d (id item) item) []

/-- The projection of a receipt that an assessment gets. -/
def supplyOf (receipt : PackingReceipt) (item : SourceReceipt) : Supply where
  packingMode := receipt.mode.text
  contextBudgetChars := receipt.budgetChars
  exactBodyDedupeEnabled := receipt.exactBodyDedupeEnabled
  vettedTextChars := item.vettedTextChars
  suppliedTextChars := item.suppliedTextChars
  supplied := item.supplied
  bodyFullySupplied := item.bodyFullySupplied
  exactBodyDuplicateSuppressed := item.exactBodyDuplicateSuppressed
  duplicateOfSourceId := item.duplicateOfSourceId
  packedRank := item.rank

/-- What the loop over the assessments writes. -/
def annotate (receipt : PackingReceipt) (a : Assessment) : Assessment :=
  match get? (byId SourceReceipt.sourceId receipt.sources) a.sourceId with
  | none => a
  | some item => { a with supply := some (supplyOf receipt item) }

section Agent

variable (bodySha256 : String → String) (policy : EvidencePackingPolicy)

/-- `_evidence_text` and what it leaves of the active assessments. -/
def evidenceText (sources : List ResearchSource) (active : Option (List Assessment)) (maxTotal : Int := 48000) :
    Except Raised (String × Option (List Assessment)) := do
  let policy := if maxTotal ≠ 48000 then { policy with budgetChars := maxTotal } else policy
  let (rendered, receipt) ← packEvidenceSources bodySha256 policy (sources.map (·.toSource))
  return (rendered, active.map fun assessments => assessments.map (annotate receipt))

/-- Whether the receipt says that a source was supplied. -/
def isSupplied (assessed : Dict Assessment) (source : ResearchSource) : Except Raised Bool :=
  match get? assessed source.sourceId with
  | none => throw (valueError "SYNTHESIS_PACKING_RECEIPT_CITATION_SCOPE_INCOMPLETE")
  | some item =>
    match item.supply with
    | none => throw (valueError "SYNTHESIS_PACKING_RECEIPT_CITATION_SCOPE_INVALID")
    | some supply => do
      require (supply.packingReceiptVersion = packingReceiptSchema)
        (valueError "SYNTHESIS_PACKING_RECEIPT_CITATION_SCOPE_INVALID")
      return supply.supplied

/-- The loop of `_supplied_sources_after_pack`. -/
def suppliedSourcesAfterPack (assessed : Dict Assessment) : List ResearchSource → Except Raised (List ResearchSource)
  | [] => return []
  | source :: sources => do
    let supplied ← isSupplied assessed source
    let rest ← suppliedSourcesAfterPack assessed sources
    return if supplied then source :: rest else rest

/-- The base `_synthesize` up to its gates: the evidence in the prompt, where the model is asked at all, and `valid_ids`. -/
def baseSynthesize (sources : List ResearchSource) : Except Raised (Option String × List String) := do
  let usable := sources.filter (·.usable)
  if usable = [] then return (none, [])
  else do
    let (evidence, _) ← evidenceText bodySha256 policy usable none
    return (some evidence, usable.map (·.sourceId))

/-- `list(dict.fromkeys(sid for sid in raw_ids if sid in valid_source_ids))`: what `clean_claims` and `clean_conflicts`
leave of the ids that an item cites. -/
def cited (validIds rawIds : List String) : List String := PyText.dedup (rawIds.filter (· ∈ validIds))

structure Synthesis where
  evidence : Option String
  validIds : List String
  sourceAssessments : List Assessment
  deriving DecidableEq, Repr

/-- `_synthesize`. -/
def synthesize (sources : List ResearchSource) (sourceAssessments : List Assessment) : Except Raised Synthesis := do
  let (_, active) ← evidenceText bodySha256 policy sources (some sourceAssessments)
  let sourceAssessments := active.getD sourceAssessments
  let supplied ← suppliedSourcesAfterPack (byId Assessment.sourceId sourceAssessments) sources
  let (evidence, validIds) ← baseSynthesize bodySha256 policy supplied
  return { evidence, validIds, sourceAssessments }

end Agent

/-! ## The accounting -/

/-- What the accounting reads of a research: of its facts, inferences and conflicts the ids they cite. -/
structure Research where
  sources : List ResearchSource
  sourceAssessments : List Assessment
  verifiedFacts : List (List String)
  inferences : List (List String)
  conflicts : List (List String)

/-- `_cited_source_ids`. -/
def Research.citedSourceIds (research : Research) : List String :=
  (research.verifiedFacts ++ research.inferences ++ research.conflicts).flatten

/-- `source_text_chars`. -/
def Research.sourceTextChars (research : Research) : Dict Nat :=
  (research.sources.filter (·.usable)).foldl (fun d source => set d source.sourceId source.extractedText.length) []

/-- The variables of the loop. -/
structure Account where
  budget : Option Int := none
  mode : Option String := none
  seen : List String := []
  vettedTextChars : Nat := 0
  suppliedTextChars : Nat := 0
  suppliedSourceIds : List String := []
  citedSourceIds : List String := []
  citedTextChars : Nat := 0
  deriving DecidableEq, Repr

/-- One round of the loop. The sets of ids are lists, since no id comes twice. -/
def accountItem (research : Research) (st : Account) (item : Assessment × Supply) : Except Raised Account := do
  let sourceId := item.1.sourceId
  let supply := item.2
  require (sourceId ≠ "" ∧ sourceId ∉ st.seen) (valueError "PACKING_RECEIPT_SOURCE_ID_INVALID")
  require (supply.packingReceiptVersion = packingReceiptSchema) (valueError "PACKING_RECEIPT_SCHEMA_UNSUPPORTED")
  require (0 ≤ supply.contextBudgetChars) (valueError "PACKING_RECEIPT_INVALID_CONTEXT_BUDGET_CHARS")
  require (supply.packingMode ≠ "") (valueError "PACKING_RECEIPT_MODE_INVALID")
  require (st.budget.getD supply.contextBudgetChars = supply.contextBudgetChars)
    (valueError "PACKING_RECEIPT_BUDGET_MISMATCH")
  require (st.mode.getD supply.packingMode = supply.packingMode) (valueError "PACKING_RECEIPT_MODE_MISMATCH")
  require (supply.suppliedTextChars ≤ supply.vettedTextChars) (valueError "PACKING_RECEIPT_SUPPLIED_EXCEEDS_VETTED")
  require (get? research.sourceTextChars sourceId = some supply.vettedTextChars)
    (valueError "PACKING_RECEIPT_SOURCE_LENGTH_MISMATCH")
  require (supply.supplied = decide (0 < supply.suppliedTextChars)) (valueError "PACKING_RECEIPT_SUPPLIED_FLAG_MISMATCH")
  let counted := decide (0 < supply.suppliedTextChars)
  let isCited := counted && decide (sourceId ∈ research.citedSourceIds)
  return {
    budget := some supply.contextBudgetChars
    mode := some supply.packingMode
    seen := st.seen ++ [sourceId]
    vettedTextChars := st.vettedTextChars + supply.vettedTextChars
    suppliedTextChars := st.suppliedTextChars + supply.suppliedTextChars
    suppliedSourceIds := if counted then st.suppliedSourceIds ++ [sourceId] else st.suppliedSourceIds
    citedSourceIds := if isCited then st.citedSourceIds ++ [sourceId] else st.citedSourceIds
    citedTextChars := if isCited then st.citedTextChars + supply.suppliedTextChars else st.citedTextChars }

structure ContextAccounting (F : Type) where
  contextPrecisionProxyKind : String := "source_level_citation_char_proxy"
  contextPrecisionProxyScope : String := "research_synthesis_only"
  contextRecallProxyKind : String := "vetted_source_char_retention_proxy"
  contextRecallProxyScope : String := "research_synthesis_context_budget"
  contextBudgetChars : Int
  vettedSourceCount : Nat
  suppliedSourceCount : Nat
  citedSourceCount : Nat
  vettedSourceTextChars : Nat
  suppliedSourceTextChars : Nat
  citedSourceTextChars : Nat
  contextPrecisionProxy : Option F
  contextRecallProxy : Option F
  packingReceiptVersion : String := packingReceiptSchema
  packingMode : Option String

/-- The accepted assessments that have a receipt. -/
def receiptItems (accepted : List Assessment) : List (Assessment × Supply) :=
  accepted.filterMap fun item => item.supply.map (item, ·)

/-- `_receipt_context_accounting`; `ratio` is `round(a / b, 6)`. -/
def receiptContextAccounting {F : Type} (ratio : Nat → Nat → F) (research : Research) :
    Except Raised (Option (ContextAccounting F)) := do
  let accepted := research.sourceAssessments.filter (·.accepted)
  let items := receiptItems accepted
  if items = [] then return none
  else do
    require (items.length = accepted.length) (valueError "PACKING_RECEIPT_INCOMPLETE")
    let st ← items.foldlM (accountItem research) {}
    return some {
      contextBudgetChars := st.budget.getD 0
      vettedSourceCount := items.length
      suppliedSourceCount := st.suppliedSourceIds.length
      citedSourceCount := st.citedSourceIds.length
      vettedSourceTextChars := st.vettedTextChars
      suppliedSourceTextChars := st.suppliedTextChars
      citedSourceTextChars := st.citedTextChars
      contextPrecisionProxy := if st.suppliedTextChars = 0 then none else some (ratio st.citedTextChars st.suppliedTextChars)
      contextRecallProxy := if st.vettedTextChars = 0 then none else some (ratio st.suppliedTextChars st.vettedTextChars)
      packingMode := st.mode }

end ThreeAgent.ResearchSynthesis
