/-
Declared dependencies between approved assets (`asset_dependency.py`): the
graph of the enabled assets, and the assets that an outage of some of them may
reach within a depth, found by a search along the declarations.

The search takes the head of its queue in each round; the part of the queue
before the cursor is not read again and is left out. The rounds allowed are an
argument, since the loop has no bound of its own.
-/
import ThreeAgent.Discovery
import ThreeAgent.Lib.Distance
import ThreeAgent.Lib.Keyed

namespace ThreeAgent.SecurityMonitoring

open PyText Outcome PyJson PyDict Keyed

def assetDependencySchema : String := "workspace-security-monitoring/asset-dependency-v1"
def assetImpactSchema : String := "workspace-security-monitoring/asset-impact-v1"

def maxAssets : Nat := 256
def maxDependencies : Nat := 2048
def maxImpactSeeds : Nat := 64
def maxImpactDepth : Int := 32

/-- `ALLOWED_DEPENDENCY_RELATIONS`. -/
def allowedDependencyRelations : List String :=
  ["network_path", "dns_service", "authentication_service", "application_service", "storage_service", "monitoring_service",
    "power_dependency"]

/-- `_asset_id`. -/
def assetIdText (value fieldName : String) : Except Raised String := do
  let text := strip value
  require (refRe text.toList = true ∧ text.toList.length ≤ 128 ∧ contains text "://" = false)
    (contractError (fieldName ++ " must be a compact asset identifier"))
  return text

/-- `sha256_fingerprint(identity).split(":", 1)[1][:24]`. -/
def shortDigest (payload : Json Unit) : String := String.ofList (((sha256Fingerprint payload).toList.drop 7).take 24)

/-! ## Declarations -/

structure AssetDependency where
  upstreamAssetId : String
  downstreamAssetId : String
  relation : String
  declarationSha256 : String
  schemaVersion : String := assetDependencySchema
  deriving DecidableEq, Repr

namespace AssetDependency

/-- `validate`. -/
def validate (d : AssetDependency) : Except Raised AssetDependency := do
  let upstreamAssetId ← assetIdText d.upstreamAssetId "upstream_asset_id"
  let downstreamAssetId ← assetIdText d.downstreamAssetId "downstream_asset_id"
  require (upstreamAssetId ≠ downstreamAssetId) (contractError "asset dependency self-loops are forbidden")
  let relation := strip d.relation
  require (relation ∈ allowedDependencyRelations) (contractError ("unsupported asset dependency relation: " ++ relation))
  let declarationSha256 ← fingerprintText d.declarationSha256 "declaration_sha256 must be a SHA-256 fingerprint"
  require (d.schemaVersion = assetDependencySchema) (contractError "unsupported asset dependency schema")
  return { d with upstreamAssetId, downstreamAssetId, relation, declarationSha256 }

/-- `dependency_id` of a validated dependency. -/
def dependencyId (d : AssetDependency) : String :=
  "dependency-" ++ shortDigest (.obj [("declaration_sha256", .str d.declarationSha256),
    ("downstream_asset_id", .str d.downstreamAssetId), ("relation", .str d.relation),
    ("upstream_asset_id", .str d.upstreamAssetId)])

/-- `public_dict` of a validated dependency, its keys sorted. -/
def publicDict (d : AssetDependency) : Json Unit :=
  .obj [("declaration_sha256", .str d.declarationSha256), ("dependency_id", .str d.dependencyId),
    ("downstream_asset_id", .str d.downstreamAssetId), ("relation", .str d.relation),
    ("schema_version", .str d.schemaVersion), ("upstream_asset_id", .str d.upstreamAssetId)]

end AssetDependency

structure AssetImpactAssessment where
  assessmentId : String
  seedAssetIds : List String
  potentiallyAffectedAssetIds : List String
  dependencyIds : List String
  depthByAsset : List (String × Nat)
  maxDepth : Int
  truncated : Bool
  authority : String := "advisory"
  basis : String := "declared_dependencies_only"
  impactType : String := "potential_dependency_impact"
  downstreamStateConfirmed : Bool := false
  discoveryPerformed : Bool := false
  inferredTopology : Bool := false
  networkExecuted : Bool := false
  remediationExecuted : Bool := false
  schemaVersion : String := assetImpactSchema
  deriving DecidableEq, Repr

/-! ## The graph -/

/-- `DeclaredAssetDependencyGraph`: its assets and dependencies in order, and the dependencies of each upstream asset. -/
structure DependencyGraph where
  assets : Dict AssetInventoryRecord
  enabledIds : List String
  dependencies : List AssetDependency
  adjacency : Dict (List AssetDependency)
  deriving DecidableEq

namespace DependencyGraph

/-- One asset of the loop of `__init__`, with its index. -/
def addAsset (byId : Dict AssetInventoryRecord) (entry : AssetInventoryRecord × Nat) :
    Except Raised (Dict AssetInventoryRecord) := do
  require (entry.2 < maxAssets) (contractError "asset dependency inventory bound exceeded")
  let item ← entry.1.validate
  match get? byId item.assetId with
  | some previous => do
    require (previous.fingerprint = item.fingerprint) (contractError "duplicate asset_id has conflicting inventory content")
    return byId
  | none => return PyDict.set byId item.assetId item

/-- One dependency of the loop of `__init__`, with its index. -/
def addDependency (enabledIds : List String) (byId : Dict AssetDependency) (entry : AssetDependency × Nat) :
    Except Raised (Dict AssetDependency) := do
  require (entry.2 < maxDependencies) (contractError "asset dependency bound exceeded")
  let item ← entry.1.validate
  require (item.upstreamAssetId ∈ enabledIds ∧ item.downstreamAssetId ∈ enabledIds)
    (contractError "asset dependency endpoints must reference enabled approved inventory")
  require ((get? byId item.dependencyId).all fun previous => previous = item)
    (contractError "duplicate dependency_id has conflicting content")
  return PyDict.set byId item.dependencyId item

/-- `adjacency.setdefault(dependency.upstream_asset_id, []).append(dependency)`. -/
def addEdge (adjacency : Dict (List AssetDependency)) (d : AssetDependency) : Dict (List AssetDependency) :=
  PyDict.set adjacency d.upstreamAssetId ((get? adjacency d.upstreamAssetId).getD [] ++ [d])

/-- `__init__`. -/
def init (assets : List AssetInventoryRecord) (dependencies : List AssetDependency) : Except Raised DependencyGraph := do
  let assetById ← assets.zipIdx.foldlM addAsset []
  let assets := sortedBy Prod.fst assetById
  let enabledIds := (assets.filter fun e => e.2.enabled).map Prod.fst
  let dependencyById ← dependencies.zipIdx.foldlM (addDependency enabledIds) []
  let dependencies := sortedBy AssetDependency.dependencyId (values dependencyById)
  let adjacency := dependencies.foldl addEdge []
  return { assets, enabledIds, dependencies
           adjacency := adjacency.map fun row => (row.1, sortedBy AssetDependency.dependencyId row.2) }

/-- The dependencies of which an asset is the upstream one. -/
def outgoing (g : DependencyGraph) (assetId : String) : List AssetDependency := (get? g.adjacency assetId).getD []

def inventoryFingerprint (g : DependencyGraph) : String :=
  sha256Fingerprint (.arr (g.assets.map fun e => .obj [("asset_fingerprint", .str e.2.fingerprint), ("asset_id", .str e.1),
    ("enabled", .bool e.2.enabled)]))

def dependencyFingerprint (g : DependencyGraph) : String :=
  sha256Fingerprint (.arr (g.dependencies.map AssetDependency.publicDict))

/-! ## The search -/

/-- The variables of the search: the depths, the queue from the cursor on, the dependency ids added, and whether it was cut. -/
structure Search where
  depths : Dict Nat
  pending : List String
  used : List String := []
  truncated : Bool := false
  deriving DecidableEq, Repr

/-- One dependency of an asset whose depth is below the limit. -/
def relax (seeds : List String) (currentDepth : Nat) (s : Search) (d : AssetDependency) : Search :=
  let downstream := d.downstreamAssetId
  let candidateDepth := currentDepth + 1
  match get? s.depths downstream with
  | none => { s with
      depths := PyDict.set s.depths downstream candidateDepth
      pending := s.pending ++ [downstream]
      used := s.used ++ [d.dependencyId] }
  | some previousDepth =>
    if candidateDepth < previousDepth then { s with
      depths := PyDict.set s.depths downstream candidateDepth
      pending := s.pending ++ [downstream]
      used := s.used ++ [d.dependencyId] }
    else if downstream ∉ seeds ∧ candidateDepth = previousDepth then { s with used := s.used ++ [d.dependencyId] }
    else s

/-- One round of the search, `none` when the queue is done. -/
def visit (g : DependencyGraph) (seeds : List String) (depthLimit : Nat) (s : Search) : Option Search :=
  match s.pending with
  | [] => none
  | upstream :: pending =>
    let s := { s with pending }
    let currentDepth := (get? s.depths upstream).getD 0
    if depthLimit ≤ currentDepth then
      if (g.outgoing upstream).any fun d => !has s.depths d.downstreamAssetId then some { s with truncated := true }
      else some s
    else some ((g.outgoing upstream).foldl (relax seeds currentDepth) s)

/-- The rounds of the search, `none` when it is not done after those allowed. -/
def traverse (g : DependencyGraph) (seeds : List String) (depthLimit : Nat) : Nat → Search → Option Search
  | 0, _ => none
  | rounds + 1, s =>
    match g.visit seeds depthLimit s with
    | none => some s
    | some s' => g.traverse seeds depthLimit rounds s'

/-- The search at its start. -/
def start (seeds : List String) : Search where
  depths := seeds.map fun assetId => (assetId, 0)
  pending := seeds

/-- One seed of the loop of `impact`, with its index. -/
def seedRow (entry : String × Nat) : Except Raised String := do
  require (entry.2 < maxImpactSeeds) (contractError "asset impact seed bound exceeded")
  assetIdText entry.1 "seed_asset_id"

/-- The checked arguments of `impact`: the seeds and the limit of the depth. -/
def checkArguments (g : DependencyGraph) (seedAssetIds : List String) (maxDepth : Int) : Except Raised (List String × Nat) := do
  require (1 ≤ maxDepth ∧ maxDepth ≤ maxImpactDepth) (contractError ("max_depth must be within 1.." ++ toString maxImpactDepth))
  let seedRows ← seedAssetIds.zipIdx.mapM seedRow
  let seeds := sorted (dedup seedRows)
  require (seeds ≠ []) (contractError "asset impact requires at least one seed asset")
  let unknown := seeds.filter (· ∉ g.enabledIds)
  require (unknown = []) (contractError ("asset impact seeds must reference enabled approved inventory: [" ++
    ", ".intercalate (unknown.map fun v => "'" ++ v ++ "'") ++ "]"))
  return (seeds, maxDepth.toNat)

/-- What is assessed of a search that is done. -/
def assess (g : DependencyGraph) (seeds : List String) (depthLimit : Nat) (s : Search) : AssetImpactAssessment :=
  let affected := sorted ((s.depths.filter fun e => 0 < e.2).map Prod.fst)
  let depthByAsset := affected.map fun assetId => (assetId, (get? s.depths assetId).getD 0)
  let dependencyIds := sorted (dedup s.used)
  let identity : Json Unit := .obj [("authority", .str "advisory"), ("basis", .str "declared_dependencies_only"),
    ("dependency_fingerprint", .str g.dependencyFingerprint), ("dependency_ids", .arr (dependencyIds.map .str)),
    ("depth_by_asset", .arr (depthByAsset.map fun e => .arr [.str e.1, .int e.2])),
    ("impact_type", .str "potential_dependency_impact"), ("inventory_fingerprint", .str g.inventoryFingerprint),
    ("max_depth", .int depthLimit), ("potentially_affected_asset_ids", .arr (affected.map .str)),
    ("seed_asset_ids", .arr (seeds.map .str)), ("truncated", .bool s.truncated)]
  { assessmentId := "impact-" ++ shortDigest identity
    seedAssetIds := seeds
    potentiallyAffectedAssetIds := affected
    dependencyIds := dependencyIds
    depthByAsset := depthByAsset
    maxDepth := depthLimit
    truncated := s.truncated }

/-- `impact`, with the rounds that the search is allowed. -/
def impact (g : DependencyGraph) (rounds : Nat) (seedAssetIds : List String) (maxDepth : Int) :
    Except Raised (Option AssetImpactAssessment) := do
  let (seeds, depthLimit) ← g.checkArguments seedAssetIds maxDepth
  return (g.traverse seeds depthLimit rounds (start seeds)).map (g.assess seeds depthLimit)

end DependencyGraph

end ThreeAgent.SecurityMonitoring
