/-
What the validation of a plan establishes: the nodes of the plan are those of its
workflow, in the topological order of the workflow's graph, each with the fields
of its source. So the node ids are distinct, and every dependency of a node is a
node listed before it.
-/
import ThreeAgent.ExecutionPlan
import ThreeAgent.WorkflowDesignFacts
import ThreeAgent.WorkflowGraphFacts

namespace ThreeAgent

open PyText Outcome PyJson

namespace ExecutionPlan

section Facts

variable {F : Type} [PyRuntime F] {p : ExecutionPlan F}

/-- The node of the plan and the node of the workflow that it stands for. -/
structure SourceOf (levels : PyDict.Dict Nat) (n : ExecutionNode F) (source : WorkflowNode) : Prop where
  id : n.nodeId = source.id
  kind : n.kind = source.kind.text
  action : n.action = source.action.text
  dependsOn : n.dependsOn = source.dependsOn
  level : (PyDict.get? levels n.nodeId).map Int.ofNat = some n.executionLevel
  flag : source.approvalRequired = true → n.approvalRequired = true
  approval : source.kind = .approval → n.approvalRequired = true
  payload : ∃ v, n.canonicalDict = .ok v

theorem validateNode_source {workflow : WorkflowContract} {levels : PyDict.Dict Nat} {n : ExecutionNode F}
    (h : validateNode workflow levels n = .ok ()) :
    ∃ source ∈ workflow.nodes, SourceOf levels n source := by
  simp only [validateNode, bind_ok, orRaise_ok, require_ok, pure_ok, exists_const] at h
  obtain ⟨source, hfind, d, -, -, ⟨-, hkind, haction, hdeps, -, hlevel⟩, hflag, happroval, v, hv, -⟩ := h
  have hid : source.id = n.nodeId := by simpa using List.find?_some hfind
  exact ⟨source, List.mem_of_find?_eq_some hfind, hid.symm, hkind, haction, hdeps, hlevel, hflag, happroval, v, hv⟩

theorem validateNodes_sources {workflow : WorkflowContract} {levels : PyDict.Dict Nat} {seen : List String}
    {ns : List (ExecutionNode F)} (h : validateNodes workflow levels seen ns = .ok ()) :
    ∀ n ∈ ns, ∃ source ∈ workflow.nodes, SourceOf levels n source := by
  induction ns generalizing seen with
  | nil => simp
  | cons m ns ih =>
    simp only [validateNodes, bind_ok, require_ok, exists_const] at h
    obtain ⟨-, _, hm, hns⟩ := h
    intro n hn
    rcases List.mem_cons.mp hn with rfl | hn
    · exact validateNode_source hm
    · exact ih hns n hn

/-- The workflow of a valid plan. -/
structure WorkflowOf (p : ExecutionPlan F) (workflow : WorkflowContract) : Prop where
  read : p.validatedWorkflow = .ok workflow
  ids : (workflow.nodes.map WorkflowNode.id).Nodup
  graph : ∃ levels, graph workflow.nodes = .ok (p.nodes.map ExecutionNode.nodeId, levels) ∧
    ∀ n ∈ p.nodes, ∃ source ∈ workflow.nodes, SourceOf levels n source

theorem workflowOf_validateSelf (h : p.validateSelf = .ok ()) : ∃ workflow, WorkflowOf p workflow := by
  simp only [validateSelf, bind_ok, orRaise_ok, require_ok, exists_const] at h
  obtain ⟨-, _, -, _, -, _, -, _, -, rank, -, _, -, -, workflow, hread, -, ⟨order, levels⟩, hgraph, horder, _, hnodes, -⟩ := h
  have hvalid : ∃ raw : Json F, validateContract raw = .ok workflow := by
    simp only [validatedWorkflow, bind_ok, orRaise_ok, rethrow_ok, require_ok, pure_ok, exists_const] at hread
    obtain ⟨raw, -, c, hc, -, -, -, -, rfl⟩ := hread
    exact ⟨raw, hc⟩
  obtain ⟨raw, hraw⟩ := hvalid
  refine ⟨workflow, hread, (validateContract_normal hraw).1.ids, levels, ?_, validateNodes_sources hnodes⟩
  rw [← horder]
  exact hgraph

theorem validateSelf_of_validate {parent : TaskCapabilityAuthority} (h : p.validate parent = .ok ()) :
    p.validateSelf = .ok () := by
  simp only [validate, bind_ok] at h
  obtain ⟨_, hself, -⟩ := h
  exact hself

namespace WorkflowOf

variable {workflow : WorkflowContract} (h : WorkflowOf p workflow)

include h

theorem nodup : (p.nodes.map ExecutionNode.nodeId).Nodup := by
  obtain ⟨levels, hgraph, -⟩ := h.graph
  exact (graph_order h.ids hgraph).1.nodup_iff.mpr h.ids

theorem dependsOn {n : ExecutionNode F} (hn : n ∈ p.nodes) : ∀ d ∈ n.dependsOn, d ∈ p.nodes.map ExecutionNode.nodeId ∧
    (p.nodes.map ExecutionNode.nodeId).idxOf d < (p.nodes.map ExecutionNode.nodeId).idxOf n.nodeId := by
  obtain ⟨levels, hgraph, hsources⟩ := h.graph
  obtain ⟨source, hsource, hof⟩ := hsources n hn
  obtain ⟨hperm, hbefore⟩ := graph_order h.ids hgraph
  obtain ⟨⟨hknown, -⟩, -⟩ := graph_ok.mp hgraph
  intro d hd
  rw [hof.dependsOn] at hd
  refine ⟨hperm.mem_iff.mpr (hknown source hsource d hd).1, ?_⟩
  rw [hof.id]
  exact hbefore source hsource d hd

end WorkflowOf

end Facts

end ExecutionPlan

end ThreeAgent
