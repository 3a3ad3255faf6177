/-
The decision of the resource budget (`resource_budget.py`): which GPUs are
healthy and which are busy, what the model and the reservations would use of
the RAM, and whether their bytes fit onto the healthy GPUs. It makes the
machine that the blocks of `admit` run on.

Ollama is a parameter: the models and sizes that `/api/tags` lists. The
percentages are exact, where the program rounds them to binary64: a figure
that is exactly at its limit may be over it there and be refused, while one
that is over a limit of whole percents is over it there too, for totals up to
2 ^ 44 bytes.
-/
import Mathlib.Algebra.BigOperators.Group.List.Basic
import ThreeAgent.ResourceProjection

namespace ThreeAgent.ResourceBudget

open PyDict

/-! ## The size of a model -/

/-- An item of `/api/tags`; a size that is not an integer is 0. -/
structure ModelTag where
  name : String
  size : Int
  deriving DecidableEq, Repr

/-- Where the sizes of models come from: `model_size_probe`, else Ollama. -/
structure ModelSizes where
  modelSizeProbe : Option (String → Except Raised Int) := none
  tags : Except Raised (List ModelTag) := .ok []

/-- `name.split(":", 1)[0]`. -/
def stem (name : String) : List Char := name.toList.takeWhile (· ≠ ':')

/-- `estimate_model_bytes`. -/
def estimateModelBytes (config : BudgetLimits) (sizes : ModelSizes) (model : String) : Except Raised Int :=
  match sizes.modelSizeProbe with
  | some probe => (probe model).map (max 1)
  | none =>
    match sizes.tags with
    | .error e => .error e
    | .ok models =>
      match models.find? fun t => (t.name = model ∨ stem t.name = stem model) ∧ 0 < t.size with
      | some t => .ok ⌊(t.size : ℚ) * max 1 config.modelSizeSafetyFactor⌋
      | none => .error ⟨.resourceAdmissionError,
          "Cannot estimate memory for model " ++ model ++ "; model metadata is unavailable"⟩

/-! ## The decision -/

/-- `f"{x:.1f}"`. -/
def fixed1 (x : ℚ) : String :=
  let tenths := Clock.roundHalfEven (x.num.natAbs * 10) x.den
  (if x < 0 then "-" else "") ++ toString (tenths / 10) ++ "." ++ toString (tenths % 10)

/-- An `AdmissionDecision` with the figures it reports. -/
structure BudgetDecision extends AdmissionDecision where
  model : String
  projectedVramPercent : ℚ := 0
  projectedRamPercent : ℚ := 0
  selectedGpuIndices : List Int := []
  projectedGpuVramPercent : List ℚ := []
  projectedBalanceSkewPercent : ℚ := 0
  deriving DecidableEq, Repr

section Decision

variable (config : BudgetLimits)

/-- Why a GPU is not healthy. -/
def rejection (g : GPUResourceState) : Option String :=
  if min 90 config.maxVramPercent ≤ g.vramPercent then
    some ("GPU" ++ toString g.index ++ " VRAM is " ++ fixed1 g.vramPercent ++ "%")
  else if clampPercent config.maxGpuPowerPercent 1 100 ≤ g.powerPercent then
    some ("GPU" ++ toString g.index ++ " power is " ++ fixed1 g.powerPercent ++ "% of limit")
  else if config.maxGpuTempC ≤ g.tempC then
    some ("GPU" ++ toString g.index ++ " temperature is " ++ fixed1 g.tempC ++ "C")
  else none

def healthy (snapshot : ResourceSnapshot) : List GPUResourceState :=
  snapshot.gpus.filter fun g => (rejection config g).isNone

def busy (snapshot : ResourceSnapshot) : List GPUResourceState :=
  (healthy config snapshot).filter fun g => clampPercent config.maxGpuUtilPercent 1 100 ≤ g.utilPercent

/-- The bytes of the reservations whose model is not loaded. -/
def reservedBytes (snapshot : ResourceSnapshot) (reservations : Dict Reservation) : Int :=
  ((reservations.filter fun e => e.1 ∉ snapshot.loadedModels).map fun e => e.2.bytes).sum

def ramLimit : ℚ := clampPercent config.maxRamPercent 1 95

def ramPercent (snapshot : ResourceSnapshot) (projectedRam : Int) : ℚ :=
  projectedRam / max 1 snapshot.ramTotalBytes * 100

/-- `model=percent` of each GPU. -/
def gpuDetail (percent : GPUResourceState → ℚ) (gpus : List GPUResourceState) : String :=
  String.intercalate ", " (gpus.map fun g => "GPU" ++ toString g.index ++ "=" ++ fixed1 (percent g) ++ "%")

/-- The bytes that the model would add. -/
def candidateBytes (sizes : ModelSizes) (model : String) (snapshot : ResourceSnapshot) (reservations : Dict Reservation) :
    Except Raised Int :=
  if model ∈ snapshot.loadedModels ∨ has reservations model then .ok 0 else estimateModelBytes config sizes model

/-- The part of `_decision` after the sizes are known. -/
def decisionFor (model : String) (snapshot : ResourceSnapshot) (candidate reserved : Int) : BudgetDecision :=
  let projectedRam := snapshot.ramUsedBytes + ramOverheadBytes config reserved + ramOverheadBytes config candidate
  let ram := ramPercent snapshot projectedRam
  if ramLimit config < ram then
    { model := model, allowed := false, estimatedModelBytes := candidate, projectedRamPercent := ram
      reason := "projected RAM " ++ fixed1 ram ++ "% exceeds " ++ fixed1 (ramLimit config) ++ "% budget" }
  else
    match balancedProjection config (healthy config snapshot) candidate reserved with
    | none =>
      { model := model, allowed := false, estimatedModelBytes := candidate, projectedRamPercent := ram
        reason := "per-GPU projected VRAM would exceed 90.0% (" ++ gpuDetail (·.vramPercent) snapshot.gpus ++ ")" }
    | some projection =>
      let skewLimit := clampPercent config.maxBalanceSkewPercent 0 100
      let allBusy := (busy config snapshot).length = (healthy config snapshot).length
      { model := model
        allowed := !allBusy
        estimatedModelBytes := candidate
        projectedVramPercent := projection.percents.max?.getD 0
        projectedRamPercent := ram
        reason :=
          if allBusy then
            "all healthy GPUs are busy (" ++ gpuDetail (·.utilPercent) (healthy config snapshot) ++ ")"
          else if 1 < projection.percents.length ∧ skewLimit < projection.skew then
            "projected GPU balance skew " ++ fixed1 projection.skew ++ "% exceeds target " ++ fixed1 skewLimit ++
              "%; allowed because per-GPU safety limits remain satisfied"
          else ""
        selectedGpuIndices := projection.selected
        projectedGpuVramPercent := projection.percents
        projectedBalanceSkewPercent := projection.skew
        busy := allBusy }

/-- `_decision`. -/
def decision (sizes : ModelSizes) (model : String) (snapshot : ResourceSnapshot) (reservations : Dict Reservation) :
    Except Raised BudgetDecision :=
  if healthy config snapshot = [] then
    let rejected := String.intercalate "; " (snapshot.gpus.filterMap (rejection config))
    .ok { model := model, allowed := false, estimatedModelBytes := 0
          reason := if rejected = "" then "no healthy GPU is available" else rejected }
  else
    (candidateBytes config sizes model snapshot reservations).map fun candidate =>
      decisionFor config model snapshot candidate (reservedBytes snapshot reservations)

/-- The machine of a manager whose `snapshot` returns what a moment holds. -/
def budgetMachine (sizes : ModelSizes) : Machine ResourceSnapshot where
  loadedModels snapshot := snapshot.loadedModels
  decision model snapshot reservations :=
    (decision config sizes model snapshot reservations).map (·.toAdmissionDecision)

end Decision

end ThreeAgent.ResourceBudget
