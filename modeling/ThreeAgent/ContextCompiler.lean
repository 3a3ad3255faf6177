/-
The compiler of model contexts (`harness_context_compiler.py`): candidates
with their token counts are compacted to a capacity in three stages: keyed
items give way to the best of their key, items give way to their extracts, and
what still does not fit is dropped by rank. Thresholds and the ratio are exact
rationals.
-/
import Mathlib.Data.Rat.Floor
import ThreeAgent.ContextManifest
import ThreeAgent.Lib.Dict

namespace ThreeAgent.ContextCompiler

open Outcome PyDict PyJson PyText
open Manifest (CompactionState ContextSectionInput)

def fail (code : String) : Raised := ⟨.contextCompilerError, code⟩

/-- `_single_line`. -/
def singleLine (value field : String) (maxLen : Nat) : Except Raised Unit :=
  checkSingleLine .contextCompilerError value field maxLen

/-- `_nonnegative_int`. -/
def nonnegativeInt (value : Int) (field : String) : Except Raised Unit :=
  require (0 ≤ value) (invalidField .contextCompilerError field)

/-! ## Policies and candidates -/

structure ContextCompilePolicy where
  maxInput : Int
  reservedOutput : Int
  softThreshold : ℚ := 60 / 100
  hardThreshold : ℚ := 80 / 100
  emergencyThreshold : ℚ := 92 / 100
  deriving DecidableEq, Repr

namespace ContextCompilePolicy

/-- The check of one threshold. -/
def checkThreshold (value : ℚ) (name : String) : Except Raised Unit :=
  require (0 < value ∧ value < 1) (invalidField .contextCompilerError name)

def validate (p : ContextCompilePolicy) : Except Raised Unit := do
  nonnegativeInt p.maxInput "max_input"
  nonnegativeInt p.reservedOutput "reserved_output"
  require (0 < p.maxInput) (fail "MAX_INPUT_MUST_BE_POSITIVE")
  require (p.reservedOutput < p.maxInput) (fail "OUTPUT_RESERVE_EXHAUSTS_CONTEXT")
  checkThreshold p.softThreshold "soft_threshold"
  checkThreshold p.hardThreshold "hard_threshold"
  checkThreshold p.emergencyThreshold "emergency_threshold"
  require (p.softThreshold < p.hardThreshold ∧ p.hardThreshold < p.emergencyThreshold)
    (fail "INVALID_COMPACTION_THRESHOLD_ORDER")

/-- `input_capacity` of a valid policy. -/
def inputCapacity (p : ContextCompilePolicy) : Int := p.maxInput - p.reservedOutput

end ContextCompilePolicy

structure ContextCandidate where
  itemId : String
  sectionType : String
  content : String
  tokenCount : Int
  sourceRefs : List String
  priority : Int := 50
  critical : Bool := false
  derived : Bool := false
  obsolete : Bool := false
  exactRequired : Bool := false
  structuralKey : Option String := none
  extractiveContent : Option String := none
  extractiveTokenCount : Option Int := none
  deriving DecidableEq, Repr

namespace ContextCandidate

/-- The check of the extract: its two parts come together, and it is shorter. -/
def checkExtract (c : ContextCandidate) : Except Raised Unit := do
  require (c.extractiveContent.isSome = c.extractiveTokenCount.isSome) (fail "EXTRACTIVE_PROJECTION_INCOMPLETE")
  match c.extractiveContent, c.extractiveTokenCount with
  | some content, some tokens => do
    require (strip content ≠ "") (fail "EXTRACTIVE_CONTENT_REQUIRED")
    nonnegativeInt tokens "extractive_token_count"
    require (0 < tokens ∧ tokens < c.tokenCount) (fail "EXTRACTIVE_TOKEN_COUNT_NOT_REDUCED")
  | _, _ => return ⟨⟩

/-- The check of the structural key, when there is one. -/
def checkKey (c : ContextCandidate) : Except Raised Unit :=
  match c.structuralKey with
  | some key => singleLine key "structural_key" 256
  | none => .ok ⟨⟩

def validate (c : ContextCandidate) : Except Raised Unit := do
  singleLine c.itemId "item_id" 128
  singleLine c.sectionType "section_type" 128
  require (strip c.content ≠ "") (fail "CONTEXT_CONTENT_REQUIRED")
  nonnegativeInt c.tokenCount "token_count"
  require (0 < c.tokenCount) (fail "TOKEN_COUNT_MUST_BE_POSITIVE")
  nonnegativeInt c.priority "priority"
  require (c.priority ≤ 100) (fail "CONTEXT_PRIORITY_OUT_OF_RANGE")
  require (c.sourceRefs ≠ []) (fail "CONTEXT_SOURCE_REFS_REQUIRED")
  require (c.sourceRefs.length ≤ 512) (fail "CONTEXT_SOURCE_REFS_TOO_MANY")
  c.sourceRefs.forM (singleLine · "source_ref" 2048)
  require c.sourceRefs.Nodup (fail "DUPLICATE_CONTEXT_SOURCE_REF")
  require (¬ (c.critical = true ∧ c.obsolete = true)) (fail "CRITICAL_CONTEXT_CANNOT_BE_OBSOLETE")
  c.checkKey
  c.checkExtract

/-- `content_hash`. -/
def contentHash (c : ContextCandidate) : Except Raised String := do
  c.validate
  return hashText c.content

/-- `extractive_projection`, none where it returns the item itself. -/
def extract? (c : ContextCandidate) : Option ContextCandidate :=
  match c.extractiveContent, c.extractiveTokenCount with
  | some content, some tokens =>
    if c.critical ∨ c.exactRequired then none
    else some { c with
      content := content, tokenCount := tokens, extractiveContent := none, extractiveTokenCount := none
      derived := true }
  | _, _ => none

/-- `extractive_projection`. -/
def extractiveProjection (c : ContextCandidate) : ContextCandidate := c.extract?.getD c

/-- The key of the two sorts by rank: higher priority, then fewer tokens, then the id. -/
def rankLE (a b : ContextCandidate) : Bool :=
  decide (b.priority < a.priority ∨ a.priority = b.priority ∧
    (a.tokenCount < b.tokenCount ∨ a.tokenCount = b.tokenCount ∧ a.itemId ≤ b.itemId))

end ContextCandidate

/-- The tokens of items. -/
def tokens (items : List ContextCandidate) : Int := (items.map (·.tokenCount)).sum

/-! ## The first stage -/

/-- The variables of the loop of `_structural_compact`. -/
structure Compacting where
  dropped : List String := []
  surviving : List ContextCandidate := []
  keyed : Dict ContextCandidate := []
  keyedIndex : Dict Nat := []
  deriving DecidableEq, Repr

/-- One round of the loop. -/
def compactStep (st : Compacting) (index : Nat) (item : ContextCandidate) : Compacting :=
  if item.derived ∧ item.obsolete ∧ ¬ item.critical then { st with dropped := st.dropped ++ [item.itemId] }
  else
    match item.structuralKey with
    | none => { st with surviving := st.surviving ++ [item] }
    | some key =>
      if item.critical then { st with surviving := st.surviving ++ [item] }
      else
        match get? st.keyed key with
        | none => { st with keyed := set st.keyed key item, keyedIndex := set st.keyedIndex key index }
        | some previous =>
          if previous.rankLE item then
            { st with dropped := st.dropped ++ [item.itemId], keyed := set st.keyed key previous }
          else
            { st with
              dropped := st.dropped ++ [previous.itemId]
              keyed := set st.keyed key item
              keyedIndex := set st.keyedIndex key index }

/-- The order of the pairs of an index and an item. -/
def indexLE (a b : Nat × ContextCandidate) : Bool := decide (a.1 ≤ b.1)

/-- `_structural_compact`: the survivors in their order, and the ids that are dropped. -/
def structuralCompact (candidates : List ContextCandidate) : List ContextCandidate × List String :=
  let st := candidates.zipIdx.foldl (fun st e => compactStep st e.2 e.1) {}
  let keyedItems := (st.keyed.map fun e => ((get? st.keyedIndex e.1).getD 0, e.2)).insertionSort (indexLE · ·)
  let survivingIds := st.surviving.map (·.itemId)
  let survivorsWithIndex := (candidates.zipIdx.filter fun e => e.1.itemId ∈ survivingIds).map fun e => (e.2, e.1)
  (((survivorsWithIndex ++ keyedItems).insertionSort (indexLE · ·)).map (·.2), st.dropped)

/-! ## The compilation -/

inductive CompactionMode where
  | structural
  | extractive
  deriving DecidableEq, Repr

def CompactionMode.text : CompactionMode → String
  | .structural => "structural"
  | .extractive => "extractive"

structure CompiledContext where
  items : List ContextCandidate
  droppedItemIds : List String
  criticalItemIds : List String
  rawTokens : Int
  compiledTokens : Int
  inputCapacity : Int
  compactionModes : List CompactionMode
  checkpointRequired : Bool
  rehydrationRequired : Bool
  sourceIndex : List (String × List String)
  deriving DecidableEq, Repr

namespace CompiledContext

def selectedIds (result : CompiledContext) : List String := result.items.map (·.itemId)

def validate (result : CompiledContext) : Except Raised Unit := do
  require result.selectedIds.Nodup (fail "DUPLICATE_COMPILED_CONTEXT_ITEM_ID")
  require result.droppedItemIds.Nodup (fail "DUPLICATE_DROPPED_CONTEXT_ITEM_ID")
  require result.criticalItemIds.Nodup (fail "DUPLICATE_CRITICAL_CONTEXT_ITEM_ID")
  require (∀ id ∈ result.selectedIds, id ∉ result.droppedItemIds) (fail "SELECTED_CONTEXT_MARKED_DROPPED")
  require (∀ id ∈ result.criticalItemIds, id ∈ result.sourceIndex.map (·.1)) (fail "CRITICAL_CONTEXT_SOURCE_MISSING")
  require (∀ id ∈ result.criticalItemIds, id ∉ result.droppedItemIds) (fail "CRITICAL_CONTEXT_DROPPED")
  require (∀ id ∈ result.criticalItemIds, id ∈ result.selectedIds) (fail "CRITICAL_CONTEXT_MISSING")
  require (result.compiledTokens = tokens result.items) (fail "COMPILED_CONTEXT_TOKEN_MISMATCH")
  require (result.compiledTokens ≤ result.inputCapacity) (fail "COMPILED_CONTEXT_EXCEEDS_CAPACITY")
  require result.compactionModes.Nodup (fail "DUPLICATE_COMPACTION_MODE")

/-- `compaction_state`. -/
def compactionState (result : CompiledContext) : Except Raised CompactionState := do
  let state : CompactionState :=
    { applied := !result.compactionModes.isEmpty, modes := result.compactionModes.map (·.text) }
  state.validate
  return state

/-- The variables of the first loop of `manifest_sections`. -/
structure Sections where
  grouped : Dict (List ContextCandidate) := []
  sectionOrder : List String := []
  deriving DecidableEq, Repr

/-- One round of the loop. -/
def groupStep (st : Sections) (item : ContextCandidate) : Sections :=
  let st := if has st.grouped item.sectionType then st else
    { grouped := PyDict.set st.grouped item.sectionType [], sectionOrder := st.sectionOrder ++ [item.sectionType] }
  { st with grouped := PyDict.set st.grouped item.sectionType ((get? st.grouped item.sectionType).getD [] ++ [item]) }

/-- The references of the members of a section, each when it first occurs. -/
def mergeRefs (members : List ContextCandidate) : List String :=
  members.foldl (fun refs member =>
    member.sourceRefs.foldl (fun refs ref => if ref ∈ refs then refs else refs ++ [ref]) refs) []

/-- What the hash of a section is taken of. -/
def memberJson (member : ContextCandidate) : Except Raised (Json Unit) := do
  let contentHash ← member.contentHash
  return .dict [("item_id", .str member.itemId), ("content_hash", .str contentHash), ("tokens", .int member.tokenCount)]

/-- One round of the second loop. -/
def sectionInput (sectionType : String) (members : List ContextCandidate) : Except Raised ContextSectionInput := do
  let payload ← members.mapM memberJson
  let sourceHash ← digestOf (fail "CONTEXT_COMPILER_NOT_CANONICAL_JSON") (.arr payload)
  return {
    sectionType
    itemCount := members.length
    tokenCount := tokens members
    sourceHash
    sourceRefs := mergeRefs members
    critical := members.any (·.critical) }

/-- `manifest_sections`. -/
def manifestSections (result : CompiledContext) : Except Raised (List ContextSectionInput) := do
  result.validate
  let st := result.items.foldl groupStep {}
  st.sectionOrder.mapM fun sectionType => sectionInput sectionType ((get? st.grouped sectionType).getD [])

end CompiledContext

/-- The variables of `compile` from stage to stage. -/
structure Stage where
  working : List ContextCandidate
  dropped : List String := []
  modes : List CompactionMode := []
  deriving DecidableEq, Repr

section Compile

variable (policy : ContextCompilePolicy)

def ratio (candidates : List ContextCandidate) : ℚ := tokens candidates / policy.inputCapacity

/-- The structural stage. -/
def structuralStage (candidates : List ContextCandidate) : Stage :=
  if policy.softThreshold ≤ ratio policy candidates then
    { working := (structuralCompact candidates).1, dropped := (structuralCompact candidates).2, modes := [.structural] }
  else { working := candidates }

/-- The extractive stage. -/
def extractiveStage (ratio : ℚ) (stage : Stage) : Stage :=
  if policy.hardThreshold ≤ ratio ∨ policy.inputCapacity < tokens stage.working then
    { stage with
      working := stage.working.map (·.extractiveProjection)
      modes := if stage.working.any (·.extract?.isSome) then stage.modes ++ [.extractive] else stage.modes }
  else stage

/-- The loop that fills what the critical items left: the ids it selects and those it drops. -/
def fill (capacity : Int) (used : Int) : List ContextCandidate → List String × List String
  | [] => ([], [])
  | item :: items =>
    if used + item.tokenCount ≤ capacity then
      let rest := fill capacity (used + item.tokenCount) items
      (item.itemId :: rest.1, rest.2)
    else
      let rest := fill capacity used items
      (rest.1, item.itemId :: rest.2)

/-- The critical items. -/
def criticals (items : List ContextCandidate) : List ContextCandidate := items.filter (·.critical)

def criticalIds (items : List ContextCandidate) : List String := (criticals items).map (·.itemId)

/-- The other items, by rank. -/
def ranked (items : List ContextCandidate) : List ContextCandidate :=
  (items.filter fun item => !item.critical).insertionSort (·.rankLE ·)

/-- The budget stage. -/
def budgetStage (stage : Stage) : Stage :=
  if policy.inputCapacity < tokens stage.working then
    let filled := fill policy.inputCapacity (tokens (criticals stage.working)) (ranked stage.working)
    let selectedIds := criticalIds stage.working ++ filled.1
    { working := stage.working.filter fun item => item.itemId ∈ selectedIds
      dropped := stage.dropped ++ filled.2
      modes := if CompactionMode.structural ∈ stage.modes then stage.modes else stage.modes ++ [.structural] }
  else stage

/-- What `compile` returns at the end of its stages. -/
def compiledContext (candidates : List ContextCandidate) (stage : Stage) : CompiledContext where
  items := stage.working
  droppedItemIds := sorted (dedup stage.dropped)
  criticalItemIds := criticalIds candidates
  rawTokens := tokens candidates
  compiledTokens := tokens stage.working
  inputCapacity := policy.inputCapacity
  compactionModes := stage.modes
  checkpointRequired := decide (policy.hardThreshold ≤ ratio policy candidates)
  rehydrationRequired := decide (policy.emergencyThreshold ≤ ratio policy candidates)
  sourceIndex := candidates.map fun c => (c.itemId, c.sourceRefs)

/-- `ContextCompiler.compile`. -/
def compile (candidates : List ContextCandidate) : Except Raised CompiledContext := do
  policy.validate
  require (candidates ≠ []) (fail "CONTEXT_CANDIDATES_REQUIRED")
  candidates.forM (·.validate)
  require (candidates.map (·.itemId)).Nodup (fail "DUPLICATE_CONTEXT_ITEM_ID")
  let stage := extractiveStage policy (ratio policy candidates) (structuralStage policy candidates)
  require (tokens (criticals stage.working) ≤ policy.inputCapacity) (fail "CRITICAL_CONTEXT_EXCEEDS_BUDGET")
  let stage := budgetStage policy stage
  require (∀ id ∈ criticalIds candidates, id ∉ stage.dropped) (fail "CRITICAL_CONTEXT_DROPPED")
  let result := compiledContext policy candidates stage
  result.validate
  return result

end Compile

end ThreeAgent.ContextCompiler
