/-
The projection of the resource budget (`resource_budget.py`): the state of the
GPUs, and `_balanced_projection`, which spreads the bytes of a model and of
the reservations over them. Floats are exact rationals.

The loop of the projection runs on fuel; `ResourceProjectionFacts` shows that
it never runs out. The aggregate fields of a snapshot are left out, since the
decision reads only its GPUs, its RAM and the models that are loaded.
-/
import Mathlib.Data.List.MinMax
import Mathlib.Data.Rat.Floor
import ThreeAgent.Lib.Clock
import ThreeAgent.ResourceBudget

namespace ThreeAgent.ResourceBudget

open PyDict

structure GPUResourceState where
  index : Int
  totalBytes : ℚ
  usedBytes : ℚ
  utilPercent : ℚ
  powerPercent : ℚ
  tempC : ℚ
  deriving DecidableEq, Repr

/-- `vram_percent`. -/
def GPUResourceState.vramPercent (g : GPUResourceState) : ℚ := g.usedBytes / max 1 g.totalBytes * 100

structure ResourceSnapshot where
  ramTotalBytes : Int
  ramUsedBytes : Int
  /-- The keys of `loaded_models`. -/
  loadedModels : List String
  gpus : List GPUResourceState := []
  deriving DecidableEq, Repr

/-- The part of `ResourceBudgetConfig` that the decision reads. -/
structure BudgetLimits where
  maxVramPercent : ℚ := 90
  maxRamPercent : ℚ := 90
  maxGpuUtilPercent : ℚ := 95
  maxGpuPowerPercent : ℚ := 95
  maxGpuTempC : ℚ := 85
  maxBalanceSkewPercent : ℚ := 10
  modelSizeSafetyFactor : ℚ := 115 / 100
  modelRamOverheadFactor : ℚ := 15 / 100
  deriving DecidableEq, Repr

/-- `_clamp_percent`. -/
def clampPercent (value low high : ℚ) : ℚ := max low (min high value)

/-- `_ram_overhead_bytes`. -/
def ramOverheadBytes (config : BudgetLimits) (modelBytes : Int) : Int :=
  ⌊(max 0 modelBytes : Int) * max 0 (min 1 config.modelRamOverheadFactor)⌋

/-! ## The projection -/

/-- The loop's `projected` and `remaining`. -/
structure Projecting where
  projected : List ℚ
  remaining : Int
  deriving DecidableEq, Repr

section Loop

variable (gpus : List GPUResourceState) (limit : ℚ)

/-- `totals[i]`. -/
def total (i : Nat) : ℚ := (gpus.map (·.totalBytes)).getD i 0

/-- The indices of the GPUs below their limit. -/
def eligible (projected : List ℚ) : List Nat :=
  (List.range gpus.length).filter fun i => projected.getD i 0 < total gpus i * limit

/-- One round of the loop, none where it returns `None`. -/
def projectRound (chunk : Int) (st : Projecting) : Option Projecting :=
  match (eligible gpus limit st.projected).argmin fun i => st.projected.getD i 0 / max 1 (total gpus i) with
  | none => none
  | some idx =>
    let capacity := max 0 (total gpus idx * limit - st.projected.getD idx 0)
    let take := min (min (st.remaining : ℚ) (if chunk = 0 then (st.remaining : ℚ) else chunk)) capacity
    if take ≤ 0 then none
    else some ⟨st.projected.set idx (st.projected.getD idx 0 + take), st.remaining - ⌊take⌋⟩

/-- The loop: `none` out of fuel, else what it ends with. -/
def project (chunk : Int) : Nat → Projecting → Option (Option (List ℚ))
  | 0, _ => none
  | fuel + 1, st =>
    if 0 < st.remaining then
      match projectRound gpus limit chunk st with
      | none => some none
      | some st => project chunk fuel st
    else some (some st.projected)

end Loop

structure Projection where
  percents : List ℚ
  selected : List Int
  skew : ℚ
  deriving DecidableEq, Repr

/-- The projection that the bytes on each GPU make. -/
def projectionOf (gpus : List GPUResourceState) (projected : List ℚ) : Projection :=
  let percents := List.zipWith (fun g p => p / max 1 g.totalBytes * 100) gpus projected
  { percents := percents
    selected := ((gpus.zip projected).filter fun e => e.1.usedBytes < e.2).map (·.1.index)
    skew := if 1 < percents.length then percents.max?.getD 0 - percents.min?.getD 0 else 0 }

/-- The limit of the VRAM of each GPU, as a fraction. -/
def vramLimit (config : BudgetLimits) : ℚ := clampPercent config.maxVramPercent 1 90 / 100

/-- `max(0, candidate_bytes + reserved_bytes)`. -/
def demandOf (candidateBytes reservedBytes : Int) : Int := max 0 (candidateBytes + reservedBytes)

def chunkOf (remaining : Int) : Int := max (64 * 1024 * 1024) (if remaining = 0 then 0 else remaining / 128)

/-- As many rounds as the loop can make, and one more to see that it is over. -/
def roundsOf (gpus : List GPUResourceState) (demand : Int) : Nat := demand.toNat + gpus.length + 1

/-- `_balanced_projection`. -/
def balancedProjection (config : BudgetLimits) (gpus : List GPUResourceState) (candidateBytes reservedBytes : Int) :
    Option Projection :=
  if gpus = [] then none
  else
    let remaining := demandOf candidateBytes reservedBytes
    (project gpus (vramLimit config) (chunkOf remaining) (roundsOf gpus remaining)
      ⟨gpus.map (·.usedBytes), remaining⟩).join.map (projectionOf gpus)

end ThreeAgent.ResourceBudget
