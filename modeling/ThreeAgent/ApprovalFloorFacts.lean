/-
Which nodes a plan makes require an approval. The builder makes a node of the
action `human_approval` require one; the validation looks at the flag and the
kind of the source, and not at its action.
-/
import ThreeAgent.ExecutionPlanBuilder
import ThreeAgent.ExecutionPlanFacts
import ThreeAgent.ExecutionSchedulerFacts
import ThreeAgent.WorkflowRevalidationFacts

namespace ThreeAgent

open PyText Outcome PyJson

namespace ExecutionPlan

section Floor

variable {F : Type} [PyRuntime F] {p : ExecutionPlan F}

/-- Every node requires an approval where the builder would make it require one by its source alone. -/
def FloorHeld (p : ExecutionPlan F) : Prop :=
  ∀ workflow, p.validatedWorkflow = .ok workflow → ∀ n ∈ p.nodes, ∀ source ∈ workflow.nodes, source.id = n.nodeId →
    approvalFloor source = true → n.approvalRequired = true

/-- Every node whose action is `human_approval` requires one. -/
def HumanApprovalsRequired (p : ExecutionPlan F) : Prop :=
  ∀ n ∈ p.nodes, n.action = NodeAction.humanApproval.text → n.approvalRequired = true

instance (p : ExecutionPlan F) : Decidable p.HumanApprovalsRequired :=
  inferInstanceAs (Decidable (∀ n ∈ p.nodes, _ → _))

theorem floorHeld_iff (h : p.validateSelf = .ok ()) : FloorHeld p ↔ p.HumanApprovalsRequired := by
  obtain ⟨workflow, hof⟩ := workflowOf_validateSelf h
  obtain ⟨levels, hgraph, hsources⟩ := hof.graph
  constructor
  · intro hfloor n hn haction
    obtain ⟨source, hsource, hs⟩ := hsources n hn
    refine hfloor workflow hof.read n hn source hsource hs.id.symm ?_
    have hhuman : source.action = .humanApproval := action_text_inj (hs.action.symm.trans haction)
    simp [approvalFloor, hhuman]
  · intro hhuman workflow' hread n hn source hsource hid hfloor
    obtain rfl := Except.ok.inj (hread.symm.trans hof.read)
    obtain ⟨source', hsource', hs⟩ := hsources n hn
    obtain rfl := List.inj_on_of_nodup_map hof.ids hsource hsource' (hid.trans hs.id)
    simp only [approvalFloor, Bool.or_eq_true, decide_eq_true_eq] at hfloor
    rcases hfloor with (hflag | hkind) | haction
    · exact hs.flag hflag
    · exact hs.approval hkind
    · exact hhuman n hn (by rw [hs.action, haction])

end Floor

end ExecutionPlan

/-! ## What the builder builds -/

namespace ExecutionPlanBuilder

variable {F : Type} [PyRuntime F] {taskContext : TaskContext F} {parent : TaskCapabilityAuthority}

theorem buildNode_approval {source : WorkflowNode} {level : Nat} {binding : ExecutionNodeBinding F} {n : ExecutionNode F}
    (h : buildNode taskContext parent source level binding = .ok n) :
    n.action = source.action.text ∧ (approvalFloor source = true → n.approvalRequired = true) := by
  simp only [buildNode, bind_ok, rethrow_ok, pure_ok] at h
  obtain ⟨normal, -, _, -, child, -, d, -, rfl⟩ := h
  exact ⟨rfl, fun hfloor => by simp [hfloor]⟩

theorem build_floor {raw : Json F} {bindings : PyDict.Dict (ExecutionNodeBinding F)} {p : ExecutionPlan F}
    (h : build taskContext parent raw bindings = .ok p) : p.validate parent = .ok () ∧ ExecutionPlan.FloorHeld p := by
  simp only [build, bind_ok, pure_ok] at h
  obtain ⟨workflow, -, ⟨order, levels⟩, -, nodes, hnodes, _, -, _, -, text, -, _, hvalid, rfl⟩ := h
  refine ⟨hvalid, (ExecutionPlan.floorHeld_iff (ExecutionPlan.validateSelf_of_validate hvalid)).mpr ?_⟩
  intro n hn haction
  obtain ⟨id, -, hof⟩ := forall₂_mem_right (mapM_ok.mp hnodes) hn
  simp only [nodeOf, bind_ok, orRaise_ok] at hof
  obtain ⟨source, -, level, -, hnode⟩ := hof
  obtain ⟨htext, hfloor⟩ := buildNode_approval hnode
  have hhuman : source.action = .humanApproval := action_text_inj (htext.symm.trans haction)
  exact hfloor (by simp [approvalFloor, hhuman])

end ExecutionPlanBuilder

/-- A plan that the validation accepts meets the floor exactly when its nodes of the action `human_approval`
require an approval; a plan that the builder returns always does. -/
theorem approval_floor {F : Type} [PyRuntime F] :
    (∀ p : ExecutionPlan F, p.validateSelf = .ok () → (p.FloorHeld ↔ p.HumanApprovalsRequired)) ∧
      ∀ (taskContext : TaskContext F) parent raw bindings p,
        ExecutionPlanBuilder.build taskContext parent raw bindings = .ok p →
          p.validate parent = .ok () ∧ p.FloorHeld :=
  ⟨fun _ h => ExecutionPlan.floorHeld_iff h, fun _ _ _ _ _ h => ExecutionPlanBuilder.build_floor h⟩

/-! ## A plan with a human approval -/

namespace Sample

theorem plan_floor : ExecutionPlan.FloorHeld plan :=
  (approval_floor.1 plan plan_validSelf).mpr (by decide)

def humanStep : WorkflowNode := source "b" .output .humanApproval ["a"]

def humanContract : WorkflowContract := { contract with nodes := [first, humanStep] }

def humanNode : ExecutionNode WholeFloat := node humanStep "t1:b" 1 0

def humanPlan : ExecutionPlan WholeFloat :=
  { plan with
    workflowContractJson := String.ofList (PyJson.text (humanContract.toJson : Json WholeFloat))
    workflowContractFingerprint := hashText (String.ofList (PyJson.text (humanContract.toJson : Json WholeFloat)))
    nodes := [nodeA, humanNode] }

theorem human_second : Second humanStep 1 := ⟨rfl, by decide, rfl, by decide, rfl, by rfl, by rfl⟩

theorem humanPlan_workflow : humanPlan.validatedWorkflow = .ok humanContract := planWith_workflow human_second

/-- The validation accepts a plan that runs the human step without an approval. -/
theorem humanPlan_accepted : ¬ ∀ p : ExecutionPlan WholeFloat, p.validate parent = .ok ⟨⟩ → ExecutionPlan.FloorHeld p := by
  have hvalid : humanPlan.validate parent = .ok ⟨⟩ := planWith_valid human_second
  intro hall
  have hfloor := hall humanPlan hvalid humanContract humanPlan_workflow humanNode (by simp [humanPlan]) humanStep
    (by simp [humanContract]) rfl (by decide)
  cases hfloor

end Sample

end ThreeAgent
