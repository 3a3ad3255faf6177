/-
The context manifest (`harness_context_manifest.py`): audit metadata of a
context that was given to a model. A section keeps the hashes of its source
references and not the references; the builder checks each section as it is
given and the manifest as it is built.
-/
import ThreeAgent.TaskContext

namespace ThreeAgent.Manifest

open Outcome PyJson PyText

def fail (code : String) : Raised := ⟨.contextManifestError, code⟩

def contextManifestSchema : String := "workspace-context-manifest/v1"

/-- `_COMPACTION_MODES`. -/
def compactionModes : List String := ["structural", "extractive", "abstractive"]

/-! ## Fields -/

/-- `_compact_id`. -/
def compactId (value field : String) : Except Raised Unit := do
  require (value ≠ "" ∧ value = strip value) (invalidField .contextManifestError field)
  require (idRe value = true) (invalidField .contextManifestError field)

/-- `_single_line`. -/
def singleLine (value field : String) (maxLen : Nat) : Except Raised Unit :=
  checkSingleLine .contextManifestError value field maxLen

/-- `_timestamp`: the text of an aware time. -/
def timestamp (F : Type) [PyRuntime F] (value field : String) : Except Raised Unit := do
  singleLine value field 64
  let parsed ← orRaise (PyRuntime.fromIso F (zuluOffset value)) (invalidField .contextManifestError field)
  require (parsed.offset ≠ none) (fail (upper field ++ "_MUST_BE_TIMEZONE_AWARE"))

/-- `_sha256`. -/
def sha256 (value field : String) : Except Raised Unit := checkSha256 .contextManifestError value field

/-- `_nonnegative_int`. -/
def nonnegativeInt (value : Int) (field : String) : Except Raised Unit :=
  require (0 ≤ value) (invalidField .contextManifestError field)

/-! ## The parts of a manifest -/

structure TokenBudget where
  maxInput : Int
  reservedOutput : Int
  compiledInput : Int
  deriving DecidableEq, Repr

def TokenBudget.validate (budget : TokenBudget) : Except Raised Unit := do
  nonnegativeInt budget.maxInput "max_input"
  nonnegativeInt budget.reservedOutput "reserved_output"
  nonnegativeInt budget.compiledInput "compiled_input"
  require (0 < budget.maxInput) (fail "MAX_INPUT_MUST_BE_POSITIVE")
  require (budget.reservedOutput < budget.maxInput) (fail "OUTPUT_RESERVE_EXHAUSTS_CONTEXT")
  require (budget.compiledInput ≤ budget.maxInput - budget.reservedOutput) (fail "CONTEXT_TOKEN_BUDGET_EXCEEDED")

structure ContextSectionInput where
  sectionType : String
  itemCount : Int
  tokenCount : Int
  sourceHash : String
  sourceRefs : List String := []
  critical : Bool := false
  deriving DecidableEq, Repr

def ContextSectionInput.validate (input : ContextSectionInput) : Except Raised Unit := do
  compactId input.sectionType "section_type"
  nonnegativeInt input.itemCount "item_count"
  require (0 < input.itemCount) (fail "SECTION_ITEM_COUNT_MUST_BE_POSITIVE")
  nonnegativeInt input.tokenCount "token_count"
  sha256 input.sourceHash "source_hash"
  require (input.sourceRefs.length ≤ 512) (fail "SOURCE_REFS_TOO_MANY")
  input.sourceRefs.forM (singleLine · "source_ref" 2048)
  require input.sourceRefs.Nodup (fail "DUPLICATE_SOURCE_REF")

structure ContextManifestSection where
  sectionType : String
  itemCount : Int
  tokenCount : Int
  sourceHash : String
  sourceRefHashes : List String
  critical : Bool
  deriving DecidableEq, Repr

def ContextManifestSection.validate (part : ContextManifestSection) : Except Raised Unit := do
  compactId part.sectionType "section_type"
  nonnegativeInt part.itemCount "item_count"
  require (0 < part.itemCount) (fail "SECTION_ITEM_COUNT_MUST_BE_POSITIVE")
  nonnegativeInt part.tokenCount "token_count"
  sha256 part.sourceHash "source_hash"
  part.sourceRefHashes.forM (sha256 · "source_ref_hash")
  require part.sourceRefHashes.Nodup (fail "DUPLICATE_SOURCE_REF_HASH")

structure CompactionState where
  applied : Bool := false
  modes : List String := []
  deriving DecidableEq, Repr

def CompactionState.validate (state : CompactionState) : Except Raised Unit := do
  require state.modes.Nodup (fail "DUPLICATE_COMPACTION_MODE")
  state.modes.forM fun mode => require (mode ∈ compactionModes) (fail "INVALID_COMPACTION_MODE")
  require (¬ (state.applied = true ∧ state.modes = [])) (fail "COMPACTION_MODE_REQUIRED")
  require (¬ (state.applied = false ∧ state.modes ≠ [])) (fail "COMPACTION_MODE_WITHOUT_APPLICATION")

structure ContextManifest where
  contextManifestId : String
  projectId : String
  conversationId : String
  taskId : String
  modelId : String
  tokenBudget : TokenBudget
  sections : List ContextManifestSection
  compaction : CompactionState
  authorityFingerprint : String
  createdAt : String
  schemaVersion : String := contextManifestSchema
  deriving DecidableEq, Repr

/-- The tokens of sections. -/
def sectionTokens (sections : List ContextManifestSection) : Int := (sections.map (·.tokenCount)).sum

def ContextManifest.validate (F : Type) [PyRuntime F] (manifest : ContextManifest) : Except Raised Unit := do
  compactId manifest.contextManifestId "context_manifest_id"
  compactId manifest.projectId "project_id"
  compactId manifest.conversationId "conversation_id"
  compactId manifest.taskId "task_id"
  singleLine manifest.modelId "model_id" 256
  manifest.tokenBudget.validate
  require (manifest.sections ≠ []) (fail "CONTEXT_SECTIONS_REQUIRED")
  manifest.sections.forM (·.validate)
  require (sectionTokens manifest.sections = manifest.tokenBudget.compiledInput) (fail "COMPILED_INPUT_TOKEN_MISMATCH")
  manifest.compaction.validate
  sha256 manifest.authorityFingerprint "authority_fingerprint"
  timestamp F manifest.createdAt "created_at"
  require (manifest.schemaVersion = contextManifestSchema) (fail "CONTEXT_MANIFEST_SCHEMA_VERSION_MISMATCH")

/-! ## The builder -/

/-- The arguments of `build` beside the sections and the compaction. -/
structure BuildArguments where
  contextManifestId : String
  projectId : String
  conversationId : String
  taskId : String
  modelId : String
  maxInput : Int
  reservedOutput : Int
  authorityFingerprint : String
  createdAt : Option String := none
  deriving DecidableEq, Repr

/-- `created_at or _now()`. -/
def BuildArguments.created (args : BuildArguments) (now : String) : String :=
  match args.createdAt with
  | some text => if text ≠ "" then text else now
  | none => now

/-- The section of the manifest that stands for a section as it is given. -/
def manifestSection (input : ContextSectionInput) : ContextManifestSection where
  sectionType := input.sectionType
  itemCount := input.itemCount
  tokenCount := input.tokenCount
  sourceHash := input.sourceHash
  sourceRefHashes := input.sourceRefs.map hashText
  critical := input.critical

/-- `ContextManifestBuilder.build`; `now` is what `_now` reads. -/
def build (F : Type) [PyRuntime F] (now : String) (args : BuildArguments) (sectionInputs : List ContextSectionInput)
    (compaction : Option CompactionState) : Except Raised ContextManifest := do
  require (sectionInputs ≠ []) (fail "CONTEXT_SECTION_INPUTS_REQUIRED")
  let sections ← sectionInputs.mapM fun input => do
    input.validate
    return manifestSection input
  let manifest : ContextManifest := {
    contextManifestId := args.contextManifestId
    projectId := args.projectId
    conversationId := args.conversationId
    taskId := args.taskId
    modelId := args.modelId
    tokenBudget := ⟨args.maxInput, args.reservedOutput, sectionTokens sections⟩
    sections
    compaction := compaction.getD {}
    authorityFingerprint := args.authorityFingerprint
    createdAt := args.created now }
  manifest.validate F
  return manifest

end ThreeAgent.Manifest
