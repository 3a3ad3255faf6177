/-
The tree of the processes below one of them (`process_tree_reconstruction.py`):
the observations of processes with their parents, which of them lie on a cycle,
and the bounded walk through the others, breadth first.
-/
import ThreeAgent.Lib.Keyed
import ThreeAgent.Lib.ParentChain
import ThreeAgent.MonitoringContracts

namespace ThreeAgent.SecurityMonitoring

open PyText Outcome PyDict Keyed

def processTreeSchema : String := "workspace-security-forensics/process-tree-v1"
def processObservationSchema : String := "workspace-security-forensics/process-observation-v1"
def maxProcessTreeInputs : Nat := 4096
def maxProcessTreeNodes : Int := 512
def maxProcessTreeDepth : Int := 32

/-- `_ID_RE.fullmatch`. -/
def processIdRe : List Char → Bool
  | [] => false
  | c :: rest =>
    isAsciiAlnum c && (rest.all fun c => isAsciiAlnum c || c ∈ ['.', '_', ':', '@', '+', '-']) && decide (rest.length ≤ 255)

/-- `_identifier`. -/
def processIdentifier (value fieldName : String) (maxLen : Nat) : Except Raised String := do
  let text := strip value
  require (text ≠ "" ∧ text.toList.length ≤ maxLen ∧ processIdRe text.toList = true)
    (contractError (fieldName ++ " must be a compact identifier"))
  require (contains text "://" = false ∧ '\\' ∉ text.toList)
    (contractError (fieldName ++ " must not contain a URL or filesystem path"))
  return text

/-- `_positive_int`. -/
def positiveInt (value : Int) (fieldName : String) (maximum : Int) : Except Raised Int := do
  require (1 ≤ value ∧ value ≤ maximum) (contractError (fieldName ++ " must be within 1.." ++ toString maximum))
  return value

structure ProcessObservation where
  eventId : String
  assetRef : String
  processRef : String
  observedAt : String
  evidenceRef : String
  parentProcessRef : Option String := none
  userRef : Option String := none
  schemaVersion : String := processObservationSchema
  deriving DecidableEq, Repr

namespace ProcessObservation

/-- The parent of an observation, where it names one. -/
def checkedParent (processRef : String) : Option String → Except Raised (Option String)
  | none => return none
  | some value => do
    let parent ← processIdentifier value "parent_process_ref" 128
    require (parent ≠ processRef) (contractError "process cannot declare itself as parent")
    return some parent

/-- An identifier that may be absent. -/
def checkedOptional (fieldName : String) : Option String → Except Raised (Option String)
  | none => return none
  | some value => do
    let text ← processIdentifier value fieldName 128
    return some text

def validate [PyTime] (o : ProcessObservation) : Except Raised ProcessObservation := do
  let eventId ← processIdentifier o.eventId "event_id" 128
  let assetRef ← processIdentifier o.assetRef "asset_ref" 128
  let processRef ← processIdentifier o.processRef "process_ref" 128
  let observedAt ← isoTimestamp o.observedAt "observed_at"
  let evidenceRef ← processIdentifier o.evidenceRef "evidence_ref" 128
  let parentProcessRef ← checkedParent processRef o.parentProcessRef
  let userRef ← checkedOptional "user_ref" o.userRef
  require (o.schemaVersion = processObservationSchema) (contractError "unsupported process observation schema")
  return { o with eventId, assetRef, processRef, observedAt, evidenceRef, parentProcessRef, userRef }

end ProcessObservation

structure ProcessTreeNode where
  processRef : String
  parentProcessRef : Option String
  depth : Int
  observedAt : String
  evidenceRef : String
  userRef : Option String
  deriving DecidableEq, Repr

structure ProcessTreeAssessment where
  assetRef : String
  rootProcessRef : String
  nodes : List ProcessTreeNode
  orphanProcessRefs : List String
  cycleProcessRefs : List String
  truncated : Bool
  authority : String := "advisory"
  schemaVersion : String := processTreeSchema
  deriving DecidableEq, Repr

namespace ProcessTreeNode

/-- The checks of one node. -/
def check [PyTime] (node : ProcessTreeNode) : Except Raised Unit := do
  let _ ← processIdentifier node.processRef "process_ref" 128
  let _ ← ProcessObservation.checkedOptional "parent_process_ref" node.parentProcessRef
  require (0 ≤ node.depth ∧ node.depth ≤ maxProcessTreeDepth) (contractError "process tree depth is invalid")
  let _ ← isoTimestamp node.observedAt "observed_at"
  let _ ← processIdentifier node.evidenceRef "evidence_ref" 128
  let _ ← ProcessObservation.checkedOptional "user_ref" node.userRef

end ProcessTreeNode

def ProcessTreeAssessment.validate [PyTime] (tree : ProcessTreeAssessment) : Except Raised ProcessTreeAssessment := do
  let assetRef ← processIdentifier tree.assetRef "asset_ref" 128
  let rootProcessRef ← processIdentifier tree.rootProcessRef "root_process_ref" 128
  require (tree.nodes ≠ []) (contractError "process tree requires at least one node")
  require ((tree.nodes.length : Int) ≤ maxProcessTreeNodes) (contractError "process tree node bound exceeded")
  let refs := tree.nodes.map (·.processRef)
  require (refs.length = (dedup refs).length) (contractError "process tree nodes must be unique")
  require (rootProcessRef ∈ refs) (contractError "root process is missing from process tree")
  tree.nodes.forM ProcessTreeNode.check
  let orphans ← tree.orphanProcessRefs.mapM fun v => processIdentifier v "orphan_process_ref" 128
  let cycles ← tree.cycleProcessRefs.mapM fun v => processIdentifier v "cycle_process_ref" 128
  require (tree.authority = "advisory") (contractError "process tree assessment must remain advisory")
  require (tree.schemaVersion = processTreeSchema) (contractError "unsupported process tree schema")
  return { tree with
    assetRef := assetRef
    rootProcessRef := rootProcessRef
    orphanProcessRefs := sorted (dedup orphans)
    cycleProcessRefs := sorted (dedup cycles) }

/-! ## Cycles -/

/-- The walk of `_cycle_members` from one process: the path that it takes, and the members of a cycle that it closes. -/
def cycleWalk (parentByProcess : Dict (Option String)) (done : List String) :
    Nat → Option String → List String → List String × List String
  | 0, _, path => (path, [])
  | fuel + 1, current, path =>
    match current with
    | none => (path, [])
    | some process =>
      match get? parentByProcess process with
      | none => (path, [])
      | some parent =>
        if process ∈ done then (path, [])
        else if process ∈ path then (path, path.drop (path.idxOf process))
        else cycleWalk parentByProcess done fuel parent (path ++ [process])

/-- One round of `_cycle_members`, of the processes that are done and the members so far. A path has no process twice,
so a walk takes at most one step more than there are processes. -/
def cycleRound (parentByProcess : Dict (Option String)) (found : List String × List String) (start : String) :
    List String × List String :=
  if start ∈ found.1 then found
  else
    let walked := cycleWalk parentByProcess found.1 (parentByProcess.length + 1) (some start) []
    (found.1 ++ walked.1, found.2 ++ walked.2)

/-- `_cycle_members`. -/
def cycleMembers (parentByProcess : Dict (Option String)) : List String :=
  ((sorted (keys parentByProcess)).foldl (cycleRound parentByProcess) ([], [])).2

/-! ## The tree -/

/-- One round of the loop that keeps an observation under its process. -/
def keepProcess (byProcess : Dict ProcessObservation) (row : ProcessObservation) :
    Except Raised (Dict ProcessObservation) := do
  require (∀ previous ∈ get? byProcess row.processRef, previous = row)
    (contractError "conflicting observations for one process_ref")
  return PyDict.set byProcess row.processRef row

/-- One round of the loop that collects the children. -/
def addChild (cycles : List String) (children : Dict (List String)) (entry : String × Option String) : Dict (List String) :=
  match entry.2 with
  | none => children
  | some parent =>
    if entry.1 ∉ cycles ∧ parent ∉ cycles then
      PyDict.set children parent ((get? children parent).getD [] ++ [entry.1])
    else children

/-- `children.get(process_ref, [])`, the values sorted. -/
def childrenOf (parentByProcess : Dict (Option String)) (processRef : String) : List String :=
  sorted ((get? (parentByProcess.foldl (addChild (cycleMembers parentByProcess)) []) processRef).getD [])

def nodeOf (row : ProcessObservation) (depth : Nat) : ProcessTreeNode where
  processRef := row.processRef
  parentProcessRef := row.parentProcessRef
  depth := depth
  observedAt := row.observedAt
  evidenceRef := row.evidenceRef
  userRef := row.userRef

/-- What the walk holds between two rounds. -/
structure TreeWalk where
  queue : List (String × Nat)
  visited : List String := []
  nodes : List ProcessTreeNode := []
  truncated : Bool := false

/-- One round of the walk. -/
def treeStep (byProcess : Dict ProcessObservation) (children : String → List String) (maxNodes maxDepth : Int)
    (walk : TreeWalk) : Except Raised TreeWalk :=
  match walk.queue with
  | [] => return walk
  | (processRef, depth) :: queue =>
    if processRef ∈ walk.visited then return { walk with queue := queue }
    else if maxDepth < (depth : Int) ∨ maxNodes ≤ walk.nodes.length then
      return { walk with queue := queue, truncated := true }
    else do
      let row ← orRaise (get? byProcess processRef) ⟨.keyError, processRef⟩
      return { walk with
        queue := queue ++ (children processRef).map fun child => (child, depth + 1)
        visited := walk.visited ++ [processRef]
        nodes := walk.nodes ++ [{ nodeOf row depth with processRef := processRef }] }

/-- The walk. A process is put into the queue once at most, so it has no more rounds than there are processes. -/
def treeWalk (byProcess : Dict ProcessObservation) (children : String → List String) (maxNodes maxDepth : Int) :
    Nat → TreeWalk → Except Raised TreeWalk
  | 0, walk => return walk
  | fuel + 1, walk => do
    let walk ← treeStep byProcess children maxNodes maxDepth walk
    treeWalk byProcess children maxNodes maxDepth fuel walk

/-- `reconstruct_process_tree`. -/
def reconstructProcessTree [PyTime] (observations : List ProcessObservation) (assetRef rootProcessRef : String)
    (maxNodes : Int := maxProcessTreeNodes) (maxDepth : Int := maxProcessTreeDepth) : Except Raised ProcessTreeAssessment := do
  let assetRef ← processIdentifier assetRef "asset_ref" 128
  let rootProcessRef ← processIdentifier rootProcessRef "root_process_ref" 128
  let maxNodes ← positiveInt maxNodes "max_nodes" maxProcessTreeNodes
  let maxDepth ← positiveInt maxDepth "max_depth" maxProcessTreeDepth
  let rows ← observations.mapM ProcessObservation.validate
  require (rows ≠ [] ∧ rows.length ≤ maxProcessTreeInputs)
    (contractError "process observation input bound exceeded or empty")
  let ofAsset := rows.filter fun row => row.assetRef = assetRef
  require (ofAsset ≠ []) (contractError "no process observations exist for requested asset")
  let byProcess ← ofAsset.foldlM keepProcess []
  require (has byProcess rootProcessRef = true) (contractError "root process is not present in supplied evidence")
  let parentByProcess := byProcess.map fun entry => (entry.1, entry.2.parentProcessRef)
  let cycles := cycleMembers parentByProcess
  let orphans := parentByProcess.filter fun entry => entry.2.any fun parent => !has byProcess parent
  let children := childrenOf parentByProcess
  let walk ← treeWalk byProcess children maxNodes maxDepth (byProcess.length + 1) { queue := [(rootProcessRef, 0)] }
  let truncated := walk.truncated || (children rootProcessRef).any fun ref => decide (ref ∉ walk.visited)
  let tree : ProcessTreeAssessment := {
    assetRef := assetRef
    rootProcessRef := rootProcessRef
    nodes := sortedBy (fun node : ProcessTreeNode => toLex (node.depth, toLex (node.observedAt, node.processRef))) walk.nodes
    orphanProcessRefs := sorted (orphans.map Prod.fst)
    cycleProcessRefs := sorted cycles
    truncated := truncated }
  tree.validate

end ThreeAgent.SecurityMonitoring
