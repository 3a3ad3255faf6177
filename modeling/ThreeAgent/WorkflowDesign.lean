/-
Workflow contracts (`workflow_design.py`): the normal form of a contract, the
topological order of its graph, and the validation that produces the normal
form from untrusted JSON. The diagrams and the compiler's prompts are left out.
-/
import ThreeAgent.Checks
import ThreeAgent.Lib.Dict

namespace ThreeAgent

open PyText Outcome PyJson

/-! ## Vocabulary -/

inductive NodeKind where
  | input
  | agent
  | decision
  | validation
  | approval
  | manual
  | output
  | parallel
  deriving DecidableEq, Repr

inductive NodeAction where
  | input
  | research
  | presentation
  | dailyReport
  | validate
  | humanApproval
  | manualStep
  | output
  | parallelFork
  | parallelJoin
  deriving DecidableEq, Repr

inductive RiskLevel where
  | low
  | medium
  | high
  | critical
  deriving DecidableEq, Repr

inductive DataClass where
  | «public»
  | internal
  | confidential
  | restricted
  deriving DecidableEq, Repr

inductive Trigger where
  | manual
  | schedule
  | event
  deriving DecidableEq, Repr

/-- The member of a vocabulary that a text names. -/
def named {α : Type} (text : α → String) (members : List α) (s : String) : Option α :=
  members.find? fun a => text a = s

namespace NodeKind

def text : NodeKind → String
  | .input => "input"
  | .agent => "agent"
  | .decision => "decision"
  | .validation => "validation"
  | .approval => "approval"
  | .manual => "manual"
  | .output => "output"
  | .parallel => "parallel"

/-- `NODE_KINDS`. -/
def base : List NodeKind := [.input, .agent, .decision, .validation, .approval, .manual, .output]

end NodeKind

namespace NodeAction

def text : NodeAction → String
  | .input => "input"
  | .research => "research"
  | .presentation => "presentation"
  | .dailyReport => "daily_report"
  | .validate => "validate"
  | .humanApproval => "human_approval"
  | .manualStep => "manual_step"
  | .output => "output"
  | .parallelFork => "parallel_fork"
  | .parallelJoin => "parallel_join"

/-- `ACTIONS`. -/
def base : List NodeAction :=
  [.input, .research, .presentation, .dailyReport, .validate, .humanApproval, .manualStep, .output]

end NodeAction

def RiskLevel.text : RiskLevel → String
  | .low => "low"
  | .medium => "medium"
  | .high => "high"
  | .critical => "critical"

/-- `RISK_LEVELS`. -/
def RiskLevel.all : List RiskLevel := [.low, .medium, .high, .critical]

def DataClass.text : DataClass → String
  | .public => "public"
  | .internal => "internal"
  | .confidential => "confidential"
  | .restricted => "restricted"

/-- `DATA_CLASSES`. -/
def DataClass.all : List DataClass := [.public, .internal, .confidential, .restricted]

def Trigger.text : Trigger → String
  | .manual => "manual"
  | .schedule => "schedule"
  | .event => "event"

/-- `TRIGGERS`. -/
def Trigger.all : List Trigger := [.manual, .schedule, .event]

/-! ## The normal form -/

structure WorkflowNode where
  id : String
  label : String
  kind : NodeKind
  action : NodeAction
  dependsOn : List String
  condition : Option String
  approvalRequired : Bool
  deriving DecidableEq, Repr

structure WorkflowContract where
  title : String
  objective : String
  trigger : Trigger
  riskLevel : RiskLevel
  dataClass : DataClass
  nodes : List WorkflowNode
  outputs : List String
  warnings : List String
  deriving DecidableEq, Repr

def WorkflowNode.toJson {F : Type} (n : WorkflowNode) : Json F :=
  Json.dict
    [("id", .str n.id), ("label", .str n.label), ("kind", .str n.kind.text), ("action", .str n.action.text),
     ("depends_on", Json.strs n.dependsOn), ("condition", Json.ofOption .str n.condition),
     ("approval_required", .bool n.approvalRequired)]

def WorkflowContract.toJson {F : Type} (c : WorkflowContract) : Json F :=
  Json.dict
    [("title", .str c.title), ("objective", .str c.objective), ("trigger", .str c.trigger.text),
     ("risk_level", .str c.riskLevel.text), ("data_class", .str c.dataClass.text),
     ("nodes", .arr (c.nodes.map WorkflowNode.toJson)), ("outputs", Json.strs c.outputs),
     ("warnings", Json.strs c.warnings)]

theorem WorkflowNode.canonical_toJson {F : Type} (n : WorkflowNode) : Canonical (n.toJson : Json F) := by
  refine canonical_dict ?_
  intro e he
  simp only [List.mem_cons, List.not_mem_nil, or_false] at he
  rcases he with rfl | rfl | rfl | rfl | rfl | rfl | rfl
  all_goals try trivial
  · exact canonical_strs _
  · cases n.condition <;> trivial

theorem WorkflowNode.dumpable_toJson {F : Type} [PyFloat F] (n : WorkflowNode) :
    dumpable (n.toJson : Json F) = true := by
  refine dumpable_dict ?_
  intro e he
  simp only [List.mem_cons, List.not_mem_nil, or_false] at he
  rcases he with rfl | rfl | rfl | rfl | rfl | rfl | rfl
  all_goals try rfl
  · exact dumpable_strs _
  · cases n.condition <;> rfl

theorem WorkflowContract.canonical_toJson {F : Type} (c : WorkflowContract) :
    Canonical (c.toJson : Json F) := by
  refine canonical_dict ?_
  intro e he
  simp only [List.mem_cons, List.not_mem_nil, or_false] at he
  rcases he with rfl | rfl | rfl | rfl | rfl | rfl | rfl | rfl
  all_goals try trivial
  · refine elemsCanonical_iff.mpr ?_
    intro v hv
    obtain ⟨n, -, rfl⟩ := List.mem_map.mp hv
    exact n.canonical_toJson
  · exact canonical_strs _
  · exact canonical_strs _

theorem WorkflowContract.dumpable_toJson {F : Type} [PyFloat F] (c : WorkflowContract) :
    dumpable (c.toJson : Json F) = true := by
  refine dumpable_dict ?_
  intro e he
  simp only [List.mem_cons, List.not_mem_nil, or_false] at he
  rcases he with rfl | rfl | rfl | rfl | rfl | rfl | rfl | rfl
  all_goals try rfl
  · refine elemsDumpable_iff.mpr ?_
    intro v hv
    obtain ⟨n, -, rfl⟩ := List.mem_map.mp hv
    exact n.dumpable_toJson
  · exact dumpable_strs _
  · exact dumpable_strs _

/-- `WorkflowDesignError(message)`. -/
def designError (message : String) : Raised := ⟨.workflowDesignError, message⟩

/-! ## The graph -/

/-- `MAX_NODES`. -/
def maxNodes : Nat := 24

/-- `MAX_EDGES`. -/
def maxEdges : Nat := 64

/-- The loop variables of `_graph`. -/
structure GraphState where
  queue : List String
  order : List String
  level : PyDict.Dict Nat
  indegree : PyDict.Dict Int

namespace GraphState

/-- One child of the node just taken from the queue. -/
def relax (current : String) (g : GraphState) (child : String) : GraphState :=
  let degree := (PyDict.get? g.indegree child).getD 0 - 1
  { g with
    level := PyDict.set g.level child
      (max ((PyDict.get? g.level child).getD 0) ((PyDict.get? g.level current).getD 0 + 1))
    indegree := PyDict.set g.indegree child degree
    queue := if degree = 0 then g.queue ++ [child] else g.queue }

end GraphState

/-- `children[parent]`. -/
def graphChildren (nodes : List WorkflowNode) (parent : String) : List String :=
  nodes.flatMap fun n => (n.dependsOn.filter (· = parent)).map fun _ => n.id

/-- The `while queue` loop. A node enters the queue once, when its last parent leaves it, so the number
of nodes bounds the iterations. -/
def graphLoop (nodes : List WorkflowNode) : Nat → GraphState → GraphState
  | 0, g => g
  | fuel + 1, g =>
    match g.queue with
    | [] => g
    | current :: queue =>
      let g := { g with queue := queue, order := g.order ++ [current] }
      graphLoop nodes fuel ((sorted (graphChildren nodes current)).foldl (GraphState.relax current) g)

/-- The state before the loop: the nodes with no parent, in order. -/
def graphStart (nodes : List WorkflowNode) : GraphState :=
  let roots := sorted ((nodes.filter fun n => n.dependsOn.isEmpty).map WorkflowNode.id)
  { queue := roots
    order := []
    level := roots.map (·, 0)
    indegree := nodes.map fun n => (n.id, (n.dependsOn.length : Int)) }

/-- The edge checks of one node. -/
def checkParents (ids : List String) (n : WorkflowNode) : Except Raised Unit := do
  let id := n.id
  let _ ← n.dependsOn.mapM fun parent => do
    require (parent ∈ ids) (designError s!"node {id} depends on unknown node {parent}")
    require (parent ≠ id) (designError s!"node {id} cannot depend on itself")
  return ⟨⟩

/-- `_graph`, for nodes of distinct ids: the topological order and the level of each node. -/
def graph (nodes : List WorkflowNode) : Except Raised (List String × PyDict.Dict Nat) := do
  let _ ← nodes.mapM (checkParents (nodes.map WorkflowNode.id))
  require ((nodes.map fun n => n.dependsOn.length).sum ≤ maxEdges)
    (designError s!"workflow exceeds {maxEdges} edges")
  let g := graphLoop nodes nodes.length (graphStart nodes)
  require (g.order.length = nodes.length) (designError "workflow graph contains a cycle")
  return (g.order, g.level)

/-! ## Validation -/

section Validate

variable {F : Type} [PyRuntime F]

/-- `str(value or "").strip().lower()`. -/
def loweredText (v : Option (Json F)) : String := lower (strip (Json.textOr v))

/-- `" ".join(text.split())`. -/
def collapsed (text : String) : String := strip (join ' ' (splitWs text))

/-- `_text` of a text already converted by `str(value or "")`. -/
def boundedText (text field : String) (limit : Nat) (allowEmpty : Bool) : Except Raised String := do
  let text := collapsed text
  require (text ≠ "" ∨ allowEmpty = true) (designError s!"{field} is required")
  require (text.toList.length ≤ limit) (designError s!"{field} exceeds {limit} characters")
  return text

/-- `_NODE_ID_RE.fullmatch`. -/
def nodeIdRe (s : String) : Bool :=
  match s.toList with
  | [] => false
  | c :: rest =>
    ('a' ≤ c && c ≤ 'z') && (rest.all fun c => ('a' ≤ c && c ≤ 'z') || ('0' ≤ c && c ≤ '9') || c == '_') &&
      decide (rest.length ≤ 31)

/-- The dependencies of a node, each once. -/
def validateDepends (nodeId : String) (raw : Option (Json F)) : Except Raised (List String) :=
  match raw with
  | none => return []
  | some (.arr items) => do
    require (items.length ≤ maxNodes) (designError s!"invalid dependencies for node {nodeId}")
    let parents ← items.mapM fun item => do
      let parent := loweredText (some item)
      require (nodeIdRe parent = true) (designError s!"invalid dependency id: {parent}")
      return parent
    return dedup parents
  | some _ => throw (designError s!"invalid dependencies for node {nodeId}")

/-- The condition of a node: a text, or none when absent, null or blank. -/
def validateCondition (nodeId : String) (raw : Option (Json F)) : Except Raised (Option String) :=
  match raw with
  | none | some .null => return none
  | some (.str s) => do
    let text ← boundedText s (nodeId ++ ".condition") 240 true
    return if text = "" then none else some text
  | some _ => throw (designError s!"{nodeId}.condition must be a string or null")

/-- The approval flag of a node. -/
def validateApproval (nodeId : String) (raw : Option (Json F)) : Except Raised Bool :=
  match raw with
  | none => return false
  | some (.bool b) => return b
  | some _ => throw (designError s!"{nodeId}.approval_required must be a boolean")

/-- One node of the contract, the ids before it given. -/
def validateNode (index : Nat) (seen : List String) (item : Json F) : Except Raised WorkflowNode := do
  require (item.isDict = true) (designError s!"node {index} must be an object")
  let id := loweredText (item.get? "id")
  require (nodeIdRe id = true) (designError ("invalid node id: " ++ if id = "" then "<empty>" else id))
  require (id ∉ seen) (designError s!"duplicate node id: {id}")
  let kindText := loweredText (item.get? "kind")
  let actionText := loweredText (item.get? "action")
  let kind ← orRaise (named NodeKind.text NodeKind.base kindText)
    (designError s!"unsupported node kind: {kindText}")
  let action ← orRaise (named NodeAction.text NodeAction.base actionText)
    (designError s!"unsupported workflow action: {actionText}")
  let dependsOn ← validateDepends id (item.get? "depends_on")
  let condition ← validateCondition id (item.get? "condition")
  let approvalRequired ← validateApproval id (item.get? "approval_required")
  let label ← boundedText (Json.textOr (item.get? "label")) (id ++ ".label") 120 false
  return { id, label, kind, action, dependsOn, condition, approvalRequired }

/-- The loop over the nodes. -/
def validateNodes : Nat → List String → List (Json F) → Except Raised (List WorkflowNode)
  | _, _, [] => return []
  | index, seen, item :: items => do
    let node ← validateNode index seen item
    let nodes ← validateNodes (index + 1) (seen ++ [node.id]) items
    return node :: nodes

/-- A list of at most twelve entries. -/
def boundedList (raw : Option (Json F)) (message : String) : Except Raised (List (Json F)) :=
  match raw with
  | none => return []
  | some (.arr items) => do
    require (items.length ≤ 12) (designError message)
    return items
  | some _ => throw (designError message)

/-- The nodes of a contract, in number between two and `MAX_NODES`. -/
def rawNodes (raw : Option (Json F)) : Except Raised (List (Json F)) :=
  match raw with
  | some (.arr items) => do
    require (2 ≤ items.length ∧ items.length ≤ maxNodes)
      (designError s!"workflow must contain between 2 and {maxNodes} nodes")
    return items
  | _ => throw (designError s!"workflow must contain between 2 and {maxNodes} nodes")

/-- The warnings that the validation itself adds. -/
def addedWarnings (nodes : List WorkflowNode) (trigger : Trigger) (risk : RiskLevel) : List String :=
  (if nodes.any fun n => n.kind = .output then [] else ["No explicit output node was supplied."]) ++
  (if trigger = .manual then [] else
    ["Trigger is represented for design only; V1 does not authorize scheduling or event execution."]) ++
  (if nodes.any fun n => n.action = .manualStep then
    ["Manual steps are visualized but cannot be converted into executable authority."] else []) ++
  (if (risk = .high ∨ risk = .critical) ∧ ¬ nodes.any fun n => n.kind = .approval || n.approvalRequired then
    ["High-risk workflow has no approval checkpoint; review before any future execution."] else [])

/-- The elements of a list as bounded texts. -/
def boundedTexts (items : List (Json F)) (field : String) (limit : Nat) : Except Raised (List String) :=
  items.mapM fun v => boundedText (Json.textOr (some v)) field limit false

/-- `validate_contract`. -/
def validateContract (raw : Json F) : Except Raised WorkflowContract := do
  require (raw.isDict = true) (designError "workflow contract must be an object")
  let trigger ← orRaise (named Trigger.text Trigger.all (loweredText (raw.get? "trigger")))
    (designError "unsupported trigger")
  let riskLevel ← orRaise (named RiskLevel.text RiskLevel.all (loweredText (raw.get? "risk_level")))
    (designError "unsupported risk_level")
  let dataClass ← orRaise (named DataClass.text DataClass.all (loweredText (raw.get? "data_class")))
    (designError "unsupported data_class")
  let items ← rawNodes (raw.get? "nodes")
  let nodes ← validateNodes 0 [] items
  let _ ← graph nodes
  let rawOutputs ← boundedList (raw.get? "outputs") "outputs must be a bounded list"
  let rawWarnings ← boundedList (raw.get? "warnings") "warnings must be a bounded list"
  let given ← boundedTexts rawWarnings "warning" 240
  let title ← boundedText (Json.textOr (raw.get? "title")) "title" 120 false
  let objective ← boundedText (Json.textOr (raw.get? "objective")) "objective" 800 false
  let outputs ← boundedTexts rawOutputs "output" 160
  return { title, objective, trigger, riskLevel, dataClass, nodes, outputs
           warnings := dedup (given ++ addedWarnings nodes trigger riskLevel) }

/-! ## The parallel vocabulary -/

/-- The kind and the action of a parallel control node, by their texts. -/
def parallelPair (kindText actionText : String) : Option (NodeKind × NodeAction) :=
  if kindText ≠ NodeKind.parallel.text then none
  else (named NodeAction.text [.parallelFork, .parallelJoin] actionText).map fun a => (.parallel, a)

/-- The node that stands for `node` in the surrogate, and, of a parallel node, the entry of `original_pairs`. -/
def surrogateNode (index : Nat) (node : Json F) :
    Except Raised (Json F × Option (String × NodeKind × NodeAction)) := do
  require (node.isDict = true) (designError s!"node {index} must be an object")
  let id := loweredText (node.get? "id")
  let kindText := loweredText (node.get? "kind")
  let actionText := loweredText (node.get? "action")
  if kindText = "parallel" ∨ actionText = "parallel_fork" ∨ actionText = "parallel_join" then
    let pair ← orRaise (parallelPair kindText actionText)
      (designError "parallel nodes must use kind=parallel with action=parallel_fork or parallel_join")
    require (((node.get? "approval_required").map Json.truthy).getD false = false)
      (designError "parallel control nodes cannot require approval")
    return ((node.setKey "kind" (.str "validation")).setKey "action" (.str "validate"), some (id, pair))
  else return (node, none)

/-- The loop over the nodes of the surrogate. -/
def surrogateNodes : Nat → List (Json F) → Except Raised (List (Json F × Option (String × NodeKind × NodeAction)))
  | _, [] => return []
  | index, node :: nodes => do
    let entry ← surrogateNode index node
    let entries ← surrogateNodes (index + 1) nodes
    return entry :: entries

/-- The kind and the action that a node had before; a later node of the same id wins. -/
def restoreNode (pairs : List (String × NodeKind × NodeAction)) (n : WorkflowNode) : WorkflowNode :=
  match pairs.reverse.lookup n.id with
  | none => n
  | some (kind, action) => { n with kind := kind, action := action }

/-- `validate_contract_v4`. -/
def validateContractV4 (raw : Json F) : Except Raised WorkflowContract := do
  require (raw.isDict = true) (designError "workflow contract must be an object")
  match raw.get? "nodes" with
  | some (.arr nodes) =>
    let entries ← surrogateNodes 0 nodes
    let validated ← validateContract (raw.setKey "nodes" (.arr (entries.map Prod.fst)))
    return { validated with nodes := validated.nodes.map (restoreNode (entries.filterMap Prod.snd)) }
  | _ => throw (designError "workflow nodes must be a list")

end Validate

end ThreeAgent
