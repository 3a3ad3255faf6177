/-
Plans without bindings: when the deny-by-default binding of every node is
admitted (`ExecutionPlanBuilder.build` with no `node_bindings`).

The binding spends nothing and bounds the three counted dimensions, and a
dimension of a node has to be bounded exactly when the task's is
(`requireBudgetSubset_zero`). Everything else that the builder and the
validation ask of such a node holds of every accepted contract.
-/
import ThreeAgent.CapabilityFacts
import ThreeAgent.ExecutionPlanBuilder
import ThreeAgent.ExecutionPlanFacts
import ThreeAgent.ExecutionSchedulerFacts
import ThreeAgent.Lib.Table
import ThreeAgent.WorkflowRevalidationFacts

namespace ThreeAgent

open PyText Outcome PyJson ExecutionPlanBuilder TaskCapabilityAuthority

variable {source : WorkflowNode} {workflow : WorkflowContract} {levels : PyDict.Dict Nat} {order : List String}

/-! ## Child ids -/

/-- The characters of an id: letters and digits, and the four marks. -/
def isIdChar (c : Char) : Bool := isAsciiAlnum c || c ∈ ['.', '_', ':', '-']

variable {c : Char}

theorem isCompactChar_id (h : isIdChar c = true) : isCompactChar c = true ∧ c ≠ '/' := by
  simp only [isIdChar, Bool.or_eq_true, decide_eq_true_eq, List.mem_cons, List.not_mem_nil, or_false] at h
  rcases h with h | rfl | rfl | rfl | rfl
  · exact ⟨by simp [isCompactChar, h], (isAsciiAlnum_range h).2.2.1⟩
  all_goals decide

variable {field : String}

theorem compact_id {text : String} {rest : List Char} (htext : text.toList = c :: rest)
    (hc : isAsciiAlnum c = true) (hrest : ∀ d ∈ rest, isIdChar d = true) (hlen : rest.length ≤ 127) :
    compact text field 128 = .ok text := by
  have hre : compactRe text.toList = true := by
    rw [htext]
    simp only [compactRe, Bool.and_eq_true, List.all_eq_true, decide_eq_true_eq]
    exact ⟨⟨hc, fun d hd => (isCompactChar_id (hrest d hd)).1⟩, by omega⟩
  have hslash : '/' ∉ text.toList := by
    rw [htext, List.mem_cons, not_or]
    exact ⟨fun h => (isAsciiAlnum_range hc).2.2.1 h.symm, fun h => (isCompactChar_id (hrest _ h)).2 rfl⟩
  refine compact_self (by rw [htext, List.length_cons]; omega) hre ?_
  rw [← Bool.not_eq_true, contains_iff]
  exact fun hin => hslash (hin.subset (by decide))

theorem isAlnum_of_range (h : (97 ≤ c.toNat ∧ c.toNat ≤ 122) ∨ (48 ≤ c.toNat ∧ c.toNat ≤ 57)) :
    isAsciiAlnum c = true := by
  simp only [isAsciiAlnum, Bool.or_eq_true, Bool.and_eq_true, decide_eq_true_eq]
  rcases h with h | h
  · exact .inl (.inr h)
  · exact .inr h

variable {s : String}

theorem isIdChar_node (h : nodeIdRe s = true) (hc : c ∈ s.toList) : isIdChar c = true := by
  rcases nodeIdRe_range h hc with hl | hd | hunderscore
  · rw [isIdChar, isAlnum_of_range (.inl hl), Bool.true_or]
  · rw [isIdChar, isAlnum_of_range (.inr hd), Bool.true_or]
  · have hcode : c = '_' := Char.toNat_inj.mp hunderscore
    rw [hcode]
    decide

theorem nodeIdRe_length (h : nodeIdRe s = true) : s.toList.length ≤ 32 := by
  unfold nodeIdRe at h
  split at h
  · cases h
  · rename_i c cs heq
    simp only [Bool.and_eq_true, decide_eq_true_eq] at h
    rw [heq, List.length_cons]
    omega

theorem idRe_chars (h : idRe s = true) :
    ∃ c rest, s.toList = c :: rest ∧ isAsciiAlnum c = true ∧ (∀ d ∈ rest, isIdChar d = true) := by
  unfold idRe at h
  split at h
  · cases h
  · rename_i c rest heq
    simp only [Bool.and_eq_true, List.all_eq_true] at h
    exact ⟨c, rest, heq, h.1.1, h.1.2⟩

variable {taskId : String}

theorem compact_childTaskId {nodeId : String} (htask : idRe taskId = true) (hnode : nodeIdRe nodeId = true)
    (field : String) : compact (childTaskId taskId nodeId) field 128 = .ok (childTaskId taskId nodeId) := by
  unfold childTaskId
  simp only
  split
  · rename_i hshort
    obtain ⟨c, rest, heq, hc, hrest⟩ := idRe_chars htask
    have hlist : (taskId ++ ":" ++ nodeId).toList = c :: (rest ++ ':' :: nodeId.toList) := by
      simp [heq]
    rw [hlist, List.length_cons] at hshort
    refine compact_id hlist hc ?_ (by omega)
    intro d hd
    rcases List.mem_append.mp hd with hd | hd
    · exact hrest d hd
    · rcases List.mem_cons.mp hd with rfl | hd
      · decide
      · exact isIdChar_node hnode hd
  · obtain ⟨hlen, hhex⟩ := digestPrefix_hashText (taskId ++ ":" ++ nodeId) (show 32 ≤ 64 by decide)
    have hlist : ("node:" ++ digestPrefix (hashText (taskId ++ ":" ++ nodeId)) 32 ++ ":" ++ nodeId).toList =
        'n' :: ("ode:".toList ++ (digestPrefix (hashText (taskId ++ ":" ++ nodeId)) 32).toList ++ ':' :: nodeId.toList) := by
      simp
    refine compact_id hlist (by decide) ?_ ?_
    · intro d hd
      rw [List.mem_append, List.mem_append, List.mem_cons] at hd
      rcases hd with (hd | hd) | rfl | hd
      · exact (forall_mem_of_all (by decide) : ∀ d ∈ "ode:".toList, isIdChar d = true) d hd
      · rw [isIdChar, isAsciiAlnum_of_hexDigit (hhex d hd), Bool.true_or]
      · decide
      · exact isIdChar_node hnode hd
    · have := nodeIdRe_length hnode
      have hode : "ode:".toList.length = 4 := by decide
      rw [List.length_append, List.length_append, List.length_cons, hlen, hode]
      omega

/-! ## The binding of a node -/

variable {limit : Option Int} {level : Nat} {fingerprint : String}

section Denied

variable {F : Type} [PyRuntime F] {context : TaskContext F} {parent : TaskCapabilityAuthority}

/-- A node that may spend nothing fits the budget: its counted dimensions are bounded, its cost is not. -/
def TaskResourceBudget.ZeroFits (b : TaskResourceBudget F) : Prop :=
  b.wallTimeS.isSome = true ∧ b.modelTokens.isSome = true ∧ b.toolCalls.isSome = true ∧ b.costUsd = none

structure ExecutionNode.Denied (n : ExecutionNode F) : Prop where
  budget : n.resourceBudget = zeroBudget
  sources : n.allowedSources = []
  tools : n.allowedTools = []
  write : n.writeScope = .none
  network : n.networkScope = "deny"
  requirements : n.evidenceRequirements = []

theorem zeroBudget_valid : (zeroBudget : TaskResourceBudget F).validate = .ok ⟨⟩ := by
  simp [TaskResourceBudget.validate, zeroBudget, TaskResourceBudget.checkDimension, TaskResourceBudget.costFloat, bind_ok]

theorem denied_normalized : ({} : ExecutionNodeBinding F).normalized = .ok {} := by
  simp only [ExecutionNodeBinding.normalized, bind_ok, pure_ok]
  exact ⟨⟨⟩, zeroBudget_valid, ⟨⟩, by decide, [], by decide, rfl⟩

theorem checkDimension_ok {value : Option Int} :
    TaskResourceBudget.checkDimension field value = .ok ⟨⟩ ↔ ∀ n ∈ value, 0 ≤ n := by
  simp [TaskResourceBudget.checkDimension]

variable {b : TaskResourceBudget F}

theorem validate_counted (h : b.validate = .ok ⟨⟩) :
    (∀ n ∈ b.wallTimeS, 0 ≤ n) ∧ (∀ n ∈ b.modelTokens, 0 ≤ n) ∧ ∀ n ∈ b.toolCalls, 0 ≤ n := by
  simp only [TaskResourceBudget.validate, bind_ok] at h
  obtain ⟨_, hwall, _, htokens, _, hcalls, -⟩ := h
  exact ⟨checkDimension_ok.mp hwall, checkDimension_ok.mp htokens, checkDimension_ok.mp hcalls⟩

omit [PyRuntime F] in
theorem zero_isSubset [PyFloat F] (h : ∀ n ∈ limit, 0 ≤ n) :
    budgetDimensionIsSubset (some (.int 0) : Option (Num F)) (limit.map Num.int) = true ↔ limit.isSome = true := by
  cases limit with
  | none => simp [budgetDimensionIsSubset]
  | some n =>
    have hn : 0 ≤ n := h n rfl
    simp [budgetDimensionIsSubset, Num.lt, hn]

theorem requireBudgetSubset_zero (h : b.validate = .ok ⟨⟩) :
    requireBudgetSubset zeroBudget b = .ok ⟨⟩ ↔ b.ZeroFits := by
  obtain ⟨hwall, htokens, hcalls⟩ := validate_counted h
  have hcost : budgetDimensionIsSubset (none : Option (Num F)) b.costUsd = true ↔ b.costUsd = none := by
    cases b.costUsd <;> simp [budgetDimensionIsSubset]
  simp only [requireBudgetSubset, requireDimensionSubset, bind_ok, require_ok, zeroBudget_valid, h]
  simp only [zeroBudget, Option.map_some, zero_isSubset hwall, zero_isSubset htokens, zero_isSubset hcalls, hcost,
    TaskResourceBudget.ZeroFits, exists_const, true_and]

/-- The authority of a node with the deny-by-default binding. -/
def deniedChild (parent : TaskCapabilityAuthority) (taskId : String) : TaskCapabilityAuthority :=
  .build taskId parent.sensitivity [] [] .none "deny"

/-- The parent's write scope can be normalised. -/
def WriteScopeRead (parent : TaskCapabilityAuthority) : Prop :=
  ∃ scope, normalizeWriteScope parent.writeScope "parent_write_scope" = .ok scope

theorem deriveChild_denied (h : compact taskId "child_task_id" 128 = .ok taskId)
    {child : TaskCapabilityAuthority} :
    parent.deriveChild ⟨taskId, some [], some [], some .none, some "deny"⟩ = .ok child ↔
      WriteScopeRead parent ∧ child = deniedChild parent taskId := by
  have hnone : normalizeWriteScope (Option.getD (some WriteScope.none) parent.writeScope) "child_write_scope" =
      .ok .none := by rfl
  have hdeny : compact "deny" "child_network_scope" 64 = .ok "deny" := by decide
  simp only [deriveChild, deriveNames,
    deriveNetworkScope, h, hnone, hdeny, List.mapM_nil, bind_ok, require_ok, pure_ok, WriteScopeRead,
    deniedChild, Except.ok.injEq, exists_eq_left']
  constructor
  · rintro ⟨_, ⟨_, -, rfl⟩, _, ⟨_, -, rfl⟩, scope, hscope, -, -, -, -, -, -, rfl⟩
    exact ⟨⟨scope, hscope⟩, rfl⟩
  · rintro ⟨⟨scope, hscope⟩, rfl⟩
    exact ⟨[], ⟨⟨⟩, by simp [dedup], rfl⟩, [], ⟨⟨⟩, by simp [dedup], rfl⟩, scope, hscope, ⟨⟩, by simp [writeScopeIsSubset], ⟨⟩,
      by decide, ⟨⟩, .inr trivial, rfl⟩

/-- The node that the builder makes of a source without a binding. -/
def deniedNode (context : TaskContext F) (parent : TaskCapabilityAuthority) (source : WorkflowNode) (level : Nat)
    (fingerprint : String) : ExecutionNode F where
  nodeId := source.id
  label := source.label
  kind := source.kind.text
  action := source.action.text
  dependsOn := source.dependsOn
  condition := source.condition
  approvalRequired := approvalFloor source
  executionLevel := level
  authorityTaskId := childTaskId context.taskId source.id
  authorityFingerprint := (deniedChild parent (childTaskId context.taskId source.id)).fingerprint
  allowedSources := []
  allowedTools := []
  writeScope := .none
  networkScope := "deny"
  resourceBudget := zeroBudget
  evidenceRequirements := []
  workflowNodeFingerprint := fingerprint

variable {n : ExecutionNode F}

theorem buildNode_denied (hbudget : context.resourceBudget.validate = .ok ⟨⟩) (htask : idRe context.taskId = true)
    (hid : nodeIdRe source.id = true) :
    buildNode context parent source level {} = .ok n ↔
      context.resourceBudget.ZeroFits ∧ WriteScopeRead parent ∧
        ∃ fingerprint, planDigest (source.toJson : Json F) = .ok fingerprint ∧
          n = deniedNode context parent source level fingerprint := by
  simp only [buildNode, denied_normalized, bind_ok, rethrow_ok, pure_ok, Except.ok.injEq,
    exists_eq_left', ExecutionNodeBinding.childRequest, deriveChild_denied (compact_childTaskId htask hid _)]
  constructor
  · rintro ⟨_, hsubset, child, ⟨hscope, rfl⟩, fingerprint, hfp, rfl⟩
    refine ⟨(requireBudgetSubset_zero hbudget).mp hsubset, hscope, fingerprint, hfp, ?_⟩
    simp [deniedNode, deniedChild, TaskCapabilityAuthority.build]
  · rintro ⟨hfits, hscope, fingerprint, hfp, rfl⟩
    refine ⟨⟨⟩, (requireBudgetSubset_zero hbudget).mpr hfits, _, ⟨hscope, rfl⟩, fingerprint, hfp, ?_⟩
    simp [deniedNode, deniedChild, TaskCapabilityAuthority.build]

omit [PyRuntime F] in
theorem rebind_denied (htask : idRe context.taskId = true) (hid : nodeIdRe source.id = true) (hscope : WriteScopeRead parent) :
    (deniedNode context parent source level fingerprint).rebindAuthority parent =
      .ok (deniedChild parent (childTaskId context.taskId source.id)) := by
  simp only [ExecutionNode.rebindAuthority, bind_ok, rethrow_ok, require_ok, pure_ok]
  exact ⟨_, (deriveChild_denied (compact_childTaskId htask hid _)).mpr ⟨hscope, rfl⟩, ⟨⟩, rfl, rfl⟩

theorem canonicalDict_denied
    (h : sha256Re fingerprint = true) : ∃ v, (deniedNode context parent source level fingerprint).canonicalDict = .ok v := by
  simp only [ExecutionNode.canonicalDict, bind_ok, require_ok, checkSha256, TaskResourceBudget.canonicalDict, pure_ok]
  exact ⟨_, ⟨⟩, sha256Re_build _ _ _ _ _ _, ⟨⟩, h, ⟨⟩, zeroBudget_valid, ⟨⟩, rfl, ⟨⟩, Int.natCast_nonneg _, [],
    show normalizeRequirements [] = .ok [] by decide, ⟨⟩, rfl, _, ⟨⟨⟩, zeroBudget_valid, none, rfl, rfl⟩, rfl⟩

/-! ## The fingerprints of the context -/

/-- The interpreter writes a number that has not too many digits. -/
def Printed (n : Int) : Prop := n.natAbs < 10 ^ maxStrDigits

/-- The interpreter writes the numbers of the context. -/
def NumbersPrinted (c : TaskContext F) : Prop :=
  (∀ n ∈ c.resourceBudget.wallTimeS, Printed n) ∧ (∀ n ∈ c.resourceBudget.modelTokens, Printed n) ∧
    (∀ n ∈ c.resourceBudget.toolCalls, Printed n) ∧ Printed c.contextVersion

/-- The budget in JSON, where there is no cost. -/
def budgetJson (b : TaskResourceBudget F) : Json F :=
  Json.dict
    [("wall_time_s", Json.ofOption .int b.wallTimeS), ("model_tokens", Json.ofOption .int b.modelTokens),
     ("tool_calls", Json.ofOption .int b.toolCalls), ("cost_usd", .null)]

theorem dumpable_printed {n : Int} : dumpable (.int n : Json F) = true ↔ Printed n := by
  simp only [dumpable, decide_eq_true_eq, Printed]

theorem dumpable_amount {amount : Option Int} :
    dumpable (Json.ofOption .int amount : Json F) = true ↔ ∀ n ∈ amount, Printed n := by
  cases amount with
  | none => simp [Json.ofOption, dumpable]
  | some n =>
    rw [Json.ofOption, dumpable_printed]
    simp

theorem dumpable_budgetJson : dumpable (budgetJson b) = true ↔
    (∀ n ∈ b.wallTimeS, Printed n) ∧ (∀ n ∈ b.modelTokens, Printed n) ∧ ∀ n ∈ b.toolCalls, Printed n := by
  rw [← dumpable_amount (F := F), ← dumpable_amount (F := F), ← dumpable_amount (F := F)]
  constructor
  · intro h
    have hget : ∀ {k : String} {v : Json F}, (budgetJson b).get? k = some v → dumpable v = true :=
      fun hk => dumpable_get? h hk
    refine ⟨hget (k := "wall_time_s") ?_, hget (k := "model_tokens") ?_, hget (k := "tool_calls") ?_⟩ <;>
      (rw [budgetJson, get?_dict]; rfl)
  · rintro ⟨hwall, htokens, hcalls⟩
    refine dumpable_dict ?_
    intro e he
    simp only [List.mem_cons, List.not_mem_nil, or_false] at he
    rcases he with rfl | rfl | rfl | rfl
    · exact hwall
    · exact htokens
    · exact hcalls
    · rfl

theorem budget_canonicalDict (h : b.validate = .ok ⟨⟩) (hcost : b.costUsd = none) :
    b.canonicalDict = .ok (budgetJson b) := by
  simp only [TaskResourceBudget.canonicalDict, TaskResourceBudget.costFloat, h, hcost, bind_ok, pure_ok]
  exact ⟨⟨⟩, trivial, none, rfl, rfl⟩

section
variable (h : context.validate = .ok ⟨⟩)
include h

theorem validate_budget : context.resourceBudget.validate = .ok ⟨⟩ := by
  simp only [TaskContext.validate, bind_ok] at h
  obtain ⟨_, -, _, -, _, -, _, -, _, -, _, -, _, -, _, -, _, -, _, -, _, -, _, hbudget, -⟩ := h
  exact hbudget

theorem validate_taskId : idRe context.taskId = true := by
  simp only [TaskContext.validate, bind_ok, checkCompactId, require_ok] at h
  obtain ⟨_, ⟨-, hid⟩, -⟩ := h
  exact hid

theorem validate_authorityFingerprint : sha256Re context.authorityFingerprint = true := by
  simp only [TaskContext.validate, bind_ok, checkSha256, require_ok] at h
  obtain ⟨_, -, _, -, _, -, _, -, _, -, _, -, _, -, _, -, _, -, _, -, _, -, _, -, _, -, _, -, _, -, _, -, _, hsha, -⟩ := h
  exact hsha

theorem validate_riskClass : ∃ rank, riskRank.lookup context.riskClass = some rank := by
  simp only [TaskContext.validate, bind_ok, require_ok] at h
  obtain ⟨_, -, _, -, _, -, _, -, _, -, _, -, _, -, _, -, _, hrisk, -⟩ := h
  simp only [List.mem_cons, List.not_mem_nil, or_false] at hrisk
  rcases hrisk with hr | hr | hr | hr | hr <;> (rw [hr]; exact ⟨_, rfl⟩)

end

section

variable (hcontext : context.validate = .ok ⟨⟩)
include hcontext

theorem identityEntries_dumpable (hcost : context.resourceBudget.costUsd = none)
    (hprinted : NumbersPrinted context) :
    ∃ entries, context.identityEntries = .ok entries ∧ ∀ e ∈ entries, dumpable e.2 = true := by
  simp only [TaskContext.identityEntries, budget_canonicalDict (validate_budget hcontext) hcost, bind_ok, pure_ok]
  refine ⟨_, ⟨_, rfl, rfl⟩, ?_⟩
  intro e he
  simp only [List.mem_cons, List.not_mem_nil, or_false] at he
  have hoption : ∀ o : Option String, dumpable (Json.ofOption .str o : Json F) = true := by
    intro o
    cases o <;> rfl
  rcases he with rfl | rfl | rfl | rfl | rfl | rfl | rfl | rfl | rfl | rfl | rfl | rfl | rfl | rfl | rfl
  all_goals try rfl
  · exact hoption _
  · exact hoption _
  · exact dumpable_budgetJson.mpr ⟨hprinted.1, hprinted.2.1, hprinted.2.2.1⟩
  · exact dumpable_strs _

theorem identityFingerprint_returns
    (hcost : context.resourceBudget.costUsd = none) (hprinted : NumbersPrinted context) :
    ∃ f, context.identityFingerprint = .ok f ∧ sha256Re f = true := by
  obtain ⟨entries, hentries, hdump⟩ := identityEntries_dumpable hcontext hcost hprinted
  obtain ⟨f, hf⟩ := digestOf_dumpable (e := contextError "TASK_CONTEXT_NOT_CANONICAL_JSON") (dumpable_dict hdump)
  refine ⟨f, ?_, sha256Re_digestOf hf⟩
  simp only [TaskContext.identityFingerprint, bind_ok]
  exact ⟨⟨⟩, hcontext, entries, hentries, hf⟩

theorem fingerprint_returns (hcost : context.resourceBudget.costUsd = none) :
    (∃ f, context.fingerprint = .ok f) ↔ NumbersPrinted context := by
  constructor
  · rintro ⟨f, hf⟩
    simp only [TaskContext.fingerprint, TaskContext.canonicalDict, TaskContext.identityEntries,
      budget_canonicalDict (validate_budget hcontext) hcost, bind_ok, pure_ok, Except.ok.injEq, exists_eq_left'] at hf
    obtain ⟨_, ⟨_, -, rfl⟩, hdigest⟩ := hf
    obtain ⟨t, ht, -⟩ := digestOf_ok.mp hdigest
    have hdump := dumpable_of_dumps ht
    have hbudget : dumpable (budgetJson context.resourceBudget) = true := by
      refine dumpable_get? (k := "resource_budget") hdump ?_
      rw [get?_dict]
      rfl
    have hversion : dumpable (.int context.contextVersion : Json F) = true := by
      refine dumpable_get? (k := "context_version") hdump ?_
      rw [get?_dict]
      rfl
    obtain ⟨hwall, htokens, hcalls⟩ := dumpable_budgetJson.mp hbudget
    exact ⟨hwall, htokens, hcalls, dumpable_printed.mp hversion⟩
  · intro hprinted
    obtain ⟨entries, hentries, hdump⟩ := identityEntries_dumpable hcontext hcost hprinted
    have hall : ∀ e ∈ ("schema_version", .str context.schemaVersion) :: entries ++
        [("context_refs", Json.strs context.contextRefs), ("evidence_refs", Json.strs context.evidenceRefs),
         ("context_version", .int context.contextVersion),
         ("parent_context_fingerprint", Json.ofOption .str context.parentContextFingerprint)], dumpable e.2 = true := by
      intro e he
      rcases List.mem_append.mp he with he | he
      · rcases List.mem_cons.mp he with rfl | he
        · rfl
        · exact hdump e he
      · simp only [List.mem_cons, List.not_mem_nil, or_false] at he
        rcases he with rfl | rfl | rfl | rfl
        · exact dumpable_strs _
        · exact dumpable_strs _
        · exact dumpable_printed.mpr hprinted.2.2.2
        · cases context.parentContextFingerprint <;> rfl
    obtain ⟨f, hf⟩ := digestOf_dumpable (e := contextError "TASK_CONTEXT_NOT_CANONICAL_JSON") (dumpable_dict hall)
    refine ⟨f, ?_⟩
    simp only [TaskContext.fingerprint, TaskContext.canonicalDict, bind_ok, pure_ok]
    exact ⟨_, ⟨⟨⟩, hcontext, entries, hentries, rfl⟩, hf⟩

end

/-! ## The plan -/

theorem nodeOf_denied {id : String}
    (hbudget : context.resourceBudget.validate = .ok ⟨⟩) (htask : idRe context.taskId = true)
    (hids : ∀ source ∈ workflow.nodes, nodeIdRe source.id = true) :
    nodeOf context parent workflow levels [] id = .ok n ↔
      ∃ source, workflow.nodes.find? (·.id = id) = some source ∧ ∃ level, PyDict.get? levels id = some level ∧
        context.resourceBudget.ZeroFits ∧ WriteScopeRead parent ∧ ∃ fingerprint,
          planDigest (source.toJson : Json F) = .ok fingerprint ∧ n = deniedNode context parent source level fingerprint := by
  simp only [nodeOf, bind_ok, orRaise_ok]
  constructor
  · rintro ⟨source, hsource, level, hlevel, hnode⟩
    exact ⟨source, hsource, level, hlevel,
      (buildNode_denied hbudget htask (hids source (List.mem_of_find?_eq_some hsource))).mp hnode⟩
  · rintro ⟨source, hsource, level, hlevel, hnode⟩
    exact ⟨source, hsource, level, hlevel,
      (buildNode_denied hbudget htask (hids source (List.mem_of_find?_eq_some hsource))).mpr hnode⟩

theorem validateNodes_ok {seen : List String}
    {ns : List (ExecutionNode F)} (hns : ∀ n ∈ ns, ExecutionPlan.validateNode workflow levels n = .ok ⟨⟩)
    (hnodup : (seen ++ ns.map ExecutionNode.nodeId).Nodup) :
    ExecutionPlan.validateNodes workflow levels seen ns = .ok ⟨⟩ := by
  induction ns generalizing seen with
  | nil => rfl
  | cons n ns ih =>
    have hfresh : n.nodeId ∉ seen := by
      intro hmem
      exact (List.nodup_append.mp hnodup).2.2 _ hmem _ (by simp) rfl
    simp only [ExecutionPlan.validateNodes, bind_ok, require_ok]
    refine ⟨⟨⟩, hfresh, ⟨⟩, hns n (by simp), ih (fun m hm => hns m (by simp [hm])) ?_⟩
    rw [List.append_assoc]
    exact hnodup

theorem sum_zeros {xs : List (Num F)} (h : ∀ x ∈ xs, x = .int 0) : Num.sum xs = some (.int 0) := by
  rw [List.eq_replicate_of_mem h]
  simp [Num.sum]

theorem aggregate_zero {children : List (Option (Num F))}
    (hlimit : limit.isSome = true) (hpos : ∀ n ∈ limit, 0 ≤ n) (hall : ∀ c ∈ children, c = some (.int 0)) :
    checkAggregateDimension (F := F) field (limit.map Num.int) children = .ok ⟨⟩ := by
  obtain ⟨n, rfl⟩ := Option.isSome_iff_exists.mp hlimit
  have hn : 0 ≤ n := hpos n rfl
  have hsome : children.all Option.isSome = true := by
    rw [List.all_eq_true]
    intro c hc
    rw [hall c hc]
    rfl
  have hzeros : ∀ x ∈ children.filterMap id, x = Num.int 0 := by
    intro x hx
    obtain ⟨c, hc, hcx⟩ := List.mem_filterMap.mp hx
    rw [hall c hc] at hcx
    exact (Option.some.inj hcx).symm
  simp only [checkAggregateDimension, Option.map_some, bind_ok, require_ok, orRaise_ok]
  refine ⟨⟨⟩, hsome, _, sum_zeros hzeros, ?_⟩
  simp [Num.lt, hn]

theorem aggregateBudget_zero (h : b.validate = .ok ⟨⟩) (hfits : b.ZeroFits)
    {budgets : List (TaskResourceBudget F)} (hall : ∀ c ∈ budgets, c = zeroBudget) :
    requireAggregateBudget budgets b = .ok ⟨⟩ := by
  obtain ⟨hwall, htokens, hcalls⟩ := validate_counted h
  have hmap : ∀ (g : TaskResourceBudget F → Option (Num F)) c, c ∈ budgets.map g → c = g zeroBudget := by
    intro g c hc
    obtain ⟨b', hb', rfl⟩ := List.mem_map.mp hc
    rw [hall b' hb']
  have hcost : checkAggregateDimension "cost_usd" b.costUsd (budgets.map (·.costUsd)) = .ok ⟨⟩ := by
    rw [hfits.2.2.2, checkAggregateDimension, require_ok, List.all_eq_true]
    intro c hc
    rw [hmap _ c hc]
    rfl
  simp only [requireAggregateBudget, bind_ok]
  exact ⟨⟨⟩, aggregate_zero hfits.1 hwall (hmap _), ⟨⟩, aggregate_zero hfits.2.1 htokens (hmap _), ⟨⟩,
    aggregate_zero hfits.2.2.1 hcalls (hmap _), hcost⟩

/-- The workflow of an accepted contract that is accepted again. -/
structure Revalidated (workflow : WorkflowContract) : Prop where
  normal : NormalContract workflow
  base : ∀ source ∈ workflow.nodes, source.Base
  again : validateContract (workflow.toJson : Json F) = .ok workflow

theorem revalidated {raw : Json F} (hraw : validateContract raw = .ok workflow)
    (hagain : ∃ c, validateContract (workflow.toJson : Json F) = .ok c) : Revalidated (F := F) workflow := by
  obtain ⟨hnormal, hbase, -⟩ := validateContract_normal hraw
  refine ⟨hnormal, hbase, validateContract_again hnormal hbase ?_ (contractOf_toJson workflow)⟩
  by_contra hmany
  obtain ⟨c, hc⟩ := hagain
  exact validateContract_refused (by omega) c hc

theorem Revalidated.node_ids (h : Revalidated (F := F) workflow) :
    ∀ source ∈ workflow.nodes, nodeIdRe source.id = true := fun source hsource => (h.normal.nodes source hsource).1.id

/-- The nodes that the builder makes, one for each id of the order. -/
def DeniedNodes (context : TaskContext F) (parent : TaskCapabilityAuthority) (workflow : WorkflowContract)
    (levels : PyDict.Dict Nat) (order : List String) (nodes : List (ExecutionNode F)) : Prop :=
  List.Forall₂ (fun id n => ∃ source, workflow.nodes.find? (·.id = id) = some source ∧
    ∃ level, PyDict.get? levels id = some level ∧ ∃ fingerprint, planDigest (source.toJson : Json F) = .ok fingerprint ∧
      n = deniedNode context parent source level fingerprint) order nodes

theorem deniedNodes_returns (h : Revalidated (F := F) workflow)
    (hcontext : context.validate = .ok ⟨⟩) (hfits : context.resourceBudget.ZeroFits) (hscope : WriteScopeRead parent)
    (hgraph : graph workflow.nodes = .ok (order, levels)) :
    ∃ nodes, order.mapM (nodeOf context parent workflow levels []) = .ok nodes ∧
      DeniedNodes context parent workflow levels order nodes := by
  have hids := h.normal.ids
  obtain ⟨hperm, -⟩ := graph_order hids hgraph
  have hbudget := validate_budget hcontext
  have htask := validate_taskId hcontext
  have hnode : ∀ id ∈ order, ∃ n, nodeOf context parent workflow levels [] id = .ok n := by
    intro id hid
    obtain ⟨source, hsource, rfl⟩ := List.mem_map.mp (hperm.mem_iff.mp hid)
    obtain ⟨level, hlevel, -⟩ := graph_level hids hgraph source hsource
    obtain ⟨fingerprint, hfp⟩ := digestOf_dumpable (e := planError "EXECUTION_PLAN_NOT_CANONICAL_JSON")
      (source.dumpable_toJson (F := F))
    have hfind : workflow.nodes.find? (·.id = source.id) = some source := Table.find?_key WorkflowNode.id hids hsource
    exact ⟨_, (nodeOf_denied hbudget htask h.node_ids).mpr
      ⟨source, hfind, level, hlevel, hfits, hscope, fingerprint, hfp, rfl⟩⟩
  obtain ⟨nodes, hnodes⟩ := mapM_returns hnode
  refine ⟨nodes, hnodes, (mapM_ok.mp hnodes).imp fun id n hn => ?_⟩
  obtain ⟨source, hsource, level, hlevel, -, -, fingerprint, hfp, hn⟩ := (nodeOf_denied hbudget htask h.node_ids).mp hn
  exact ⟨source, hsource, level, hlevel, fingerprint, hfp, hn⟩

variable {nodes : List (ExecutionNode F)}

theorem DeniedNodes.ids (h : DeniedNodes context parent workflow levels order nodes) :
    order = nodes.map ExecutionNode.nodeId := by
  induction h with
  | nil => rfl
  | @cons id n _ _ hn _ ih =>
    obtain ⟨source, hsource, level, -, fingerprint, -, rfl⟩ := hn
    have hid : source.id = id := by simpa using List.find?_some hsource
    rw [List.map_cons, ← ih, ← hid]
    rfl

theorem DeniedNodes.valid (hworkflow : Revalidated (F := F) workflow)
    (h : DeniedNodes context parent workflow levels order nodes) (htask : idRe context.taskId = true)
    (hscope : WriteScopeRead parent) : ∀ n ∈ nodes, n.Denied ∧ ExecutionPlan.validateNode workflow levels n = .ok ⟨⟩ ∧
      ∃ child, n.rebindAuthority parent = .ok child := by
  intro n hn
  obtain ⟨id, -, source, hsource, level, hlevel, fingerprint, hfp, rfl⟩ := forall₂_mem_right h hn
  have hid : source.id = id := by simpa using List.find?_some hsource
  subst hid
  have hmem := List.mem_of_find?_eq_some hsource
  have hdict : ∃ v, (deniedNode context parent source level fingerprint).canonicalDict = .ok v :=
    canonicalDict_denied (sha256Re_digestOf hfp)
  obtain ⟨v, hv⟩ := hdict
  refine ⟨⟨rfl, rfl, rfl, rfl, rfl, rfl⟩, ?_, _, rebind_denied htask (hworkflow.node_ids source hmem) hscope⟩
  simp only [ExecutionPlan.validateNode, bind_ok, orRaise_ok, require_ok, pure_ok]
  refine ⟨source, hsource, fingerprint, hfp, ⟨⟩, rfl, ⟨⟩, ⟨rfl, rfl, rfl, rfl, rfl, ?_⟩, ⟨⟩, fun hflag => ?_, ⟨⟩,
    fun hkind => ?_, v, hv, trivial⟩
  · show (PyDict.get? levels source.id).map Int.ofNat = some (level : Int)
    rw [hlevel]
    rfl
  · show approvalFloor source = true
    simp [approvalFloor, hflag]
  · show approvalFloor source = true
    simp [approvalFloor, hkind]

/-- **When a plan without bindings is built**: where the task bounds the three counted dimensions and not the cost,
the parent's write scope can be normalised and the numbers of the context can be written. -/
theorem build_denied_iff {raw : Json F} {workflow : WorkflowContract} (hcontext : context.validate = .ok ⟨⟩)
    (htaskId : parent.taskId = context.taskId) (hfingerprint : parent.fingerprint = context.authorityFingerprint)
    (hraw : validateContract raw = .ok workflow)
    (hrisk : ∀ rank ∈ riskRank.lookup context.riskClass, rank ≤ workflow.riskLevel.rank)
    (hagain : ∃ c, validateContract (workflow.toJson : Json F) = .ok c) :
    (∃ plan, ExecutionPlanBuilder.build context parent raw [] = .ok plan ∧ (∀ n ∈ plan.nodes, n.Denied) ∧
      plan.validate parent = .ok ⟨⟩) ↔
    context.resourceBudget.ZeroFits ∧ WriteScopeRead parent ∧ NumbersPrinted context := by
  have hworkflow := revalidated hraw hagain
  have hbudget := validate_budget hcontext
  have htask := validate_taskId hcontext
  obtain ⟨⟨order, levels⟩, hgraph⟩ := hworkflow.normal.graph
  rw [map_surrogate_of_base hworkflow.base] at hgraph
  obtain ⟨hperm, -⟩ := graph_order hworkflow.normal.ids hgraph
  have hlength : order.length = workflow.nodes.length := by
    rw [hperm.length_eq, List.length_map]
  have hdict : raw.isDict = true := by
    simp only [validateContract, bind_ok, require_ok] at hraw
    obtain ⟨_, hdict, -⟩ := hraw
    exact hdict
  have hadmitted : ExecutionPlanBuilder.admitted context parent raw [] = .ok workflow := by
    simp only [ExecutionPlanBuilder.admitted, bind_ok, require_ok, rethrow_ok, pure_ok]
    exact ⟨⟨⟩, hcontext, ⟨⟩, htaskId, ⟨⟩, hfingerprint, ⟨⟩, hdict, workflow, hraw, ⟨⟩, hrisk, ⟨⟩, rfl, rfl⟩
  constructor
  · rintro ⟨plan, hbuild, -, -⟩
    simp only [ExecutionPlanBuilder.build, hadmitted, hgraph, bind_ok, pure_ok, Except.ok.injEq, exists_eq_left'] at hbuild
    obtain ⟨nodes, hnodes, fingerprint, hprint, -⟩ := hbuild
    have hcount := hworkflow.normal.count
    obtain ⟨id, hid⟩ := List.exists_mem_of_length_pos (show 0 < order.length by omega)
    obtain ⟨n, -, hn⟩ := forall₂_mem_left (mapM_ok.mp hnodes) hid
    obtain ⟨source, -, level, -, hfits, hscope, -⟩ := (nodeOf_denied hbudget htask hworkflow.node_ids).mp hn
    exact ⟨hfits, hscope, (fingerprint_returns hcontext hfits.2.2.2).mp ⟨fingerprint, hprint⟩⟩
  · rintro ⟨hfits, hscope, hprinted⟩
    obtain ⟨nodes, hnodes, hdenied⟩ := deniedNodes_returns hworkflow hcontext hfits hscope hgraph
    obtain ⟨fingerprint, hprint⟩ := (fingerprint_returns hcontext hfits.2.2.2).mpr hprinted
    obtain ⟨identity, hidentity, hsha⟩ := identityFingerprint_returns hcontext hfits.2.2.2 hprinted
    have hvalid := hdenied.valid hworkflow htask hscope
    have hids := hdenied.ids
    have hcontextSha : sha256Re fingerprint = true := by
      have hdigest := hprint
      simp only [TaskContext.fingerprint, bind_ok] at hdigest
      obtain ⟨_, -, hdigest⟩ := hdigest
      exact sha256Re_digestOf hdigest
    have htext : dumps (workflow.toJson : Json F) = some (String.ofList (PyJson.text (workflow.toJson : Json F))) :=
      dumps_of_dumpable workflow.dumpable_toJson
    let plan : ExecutionPlan F :=
      { taskId := context.taskId
        taskContextFingerprint := fingerprint
        taskContextIdentityFingerprint := identity
        taskRiskClass := context.riskClass
        parentAuthorityFingerprint := parent.fingerprint
        taskResourceBudget := context.resourceBudget
        workflowContractJson := String.ofList (PyJson.text (workflow.toJson : Json F))
        workflowContractFingerprint := hashText (String.ofList (PyJson.text (workflow.toJson : Json F)))
        nodes }
    have hread : plan.validatedWorkflow = .ok workflow := by
      simp only [ExecutionPlan.validatedWorkflow, bind_ok, orRaise_ok, rethrow_ok, require_ok, pure_ok]
      exact ⟨_, loads_dumps workflow.canonical_toJson htext, _, hworkflow.again, _, canonicalText_ok.mpr htext, ⟨⟩, rfl,
        ⟨⟩, rfl, rfl⟩
    have hself : plan.validateSelf = .ok ⟨⟩ := by
      obtain ⟨rank, hrank⟩ := validate_riskClass hcontext
      simp only [ExecutionPlan.validateSelf, bind_ok, orRaise_ok, require_ok, checkSha256]
      refine ⟨⟨⟩, rfl, ⟨⟩, hcontextSha, ⟨⟩, hsha, ⟨⟩, ?_, ⟨⟩, sha256Re_hashText _, rank, hrank, ⟨⟩, hbudget, ⟨⟩, ?_, workflow,
        hread, ⟨⟩, hrisk rank hrank, (order, levels), hgraph, ⟨⟩, hids, ⟨⟩,
        validateNodes_ok (fun n hn => (hvalid n hn).2.1) ?_, aggregateBudget_zero hbudget hfits ?_⟩
      · show sha256Re parent.fingerprint = true
        rw [hfingerprint]
        exact validate_authorityFingerprint hcontext
      · show 2 ≤ nodes.length ∧ nodes.length ≤ maxNodes
        rw [← hdenied.length_eq, hlength]
        exact hworkflow.normal.count
      · show ([] ++ nodes.map ExecutionNode.nodeId).Nodup
        rw [List.nil_append, ← hids, hperm.nodup_iff]
        exact hworkflow.normal.ids
      · intro b hb
        obtain ⟨n, hn, rfl⟩ := List.mem_map.mp hb
        exact (hvalid n hn).1.budget
    have hauthority : plan.validate parent = .ok ⟨⟩ := by
      obtain ⟨children, hchildren⟩ := mapM_returns fun n hn => (hvalid n hn).2.2
      simp only [ExecutionPlan.validate, ExecutionPlan.validateAuthority, bind_ok, require_ok, pure_ok]
      exact ⟨⟨⟩, hself, ⟨⟩, htaskId, ⟨⟩, rfl, children, hchildren, trivial⟩
    refine ⟨plan, ?_, fun n hn => (hvalid n hn).1, hauthority⟩
    simp only [ExecutionPlanBuilder.build, bind_ok, pure_ok]
    exact ⟨workflow, hadmitted, (order, levels), hgraph, nodes, hnodes, fingerprint, hprint, identity, hidentity, _,
      canonicalText_ok.mpr htext, ⟨⟩, hauthority, rfl⟩

end Denied

namespace Sample

def priced : TaskContext WholeFloat := { context with resourceBudget := { budget wall with costUsd := some (.float ⟨5⟩) } }

theorem contract_accepted : validateContract (contract.toJson : Json WholeFloat) = .ok contract := second_second.valid

theorem numbersPrinted : NumbersPrinted context := by
  have hsmall : ∀ n : Int, n.natAbs < 2 ^ 64 → Printed n := fun n hn =>
    dumpable_printed.mp (dumpable_int (F := WholeFloat) hn)
  refine ⟨?_, ?_, ?_, hsmall 1 (by decide)⟩
  · rintro n ⟨⟩
    exact hsmall wall (by decide)
  · rintro n ⟨⟩
    exact hsmall 0 (by decide)
  · rintro n ⟨⟩
    exact hsmall 0 (by decide)

theorem build_denied_iff_context : ∃ plan, ExecutionPlanBuilder.build context parent contract.toJson [] = .ok plan ∧
    (∀ n ∈ plan.nodes, n.Denied) ∧ plan.validate parent = .ok ⟨⟩ :=
  (build_denied_iff context_valid rfl rfl contract_accepted (by decide) ⟨_, contract_accepted⟩).mpr
    ⟨⟨rfl, rfl, rfl, rfl⟩, ⟨.none, by rfl⟩, numbersPrinted⟩

theorem priced_valid : priced.validate = .ok ⟨⟩ := by
  have h := context_valid
  have hbudget : priced.resourceBudget.validate = .ok ⟨⟩ := by
    rfl
  simp only [TaskContext.validate, bind_ok] at h ⊢
  obtain ⟨u1, h1, u2, h2, u3, h3, u4, h4, u5, h5, u6, h6, u7, h7, u8, h8, u9, h9, t, h10, u11, h11, _, -, rest⟩ := h
  exact ⟨u1, h1, u2, h2, u3, h3, u4, h4, u5, h5, u6, h6, u7, h7, u8, h8, u9, h9, t, h10, u11, h11, ⟨⟩, hbudget, rest⟩

/-- The zero budget of the default binding leaves the cost unbounded, and so does not fit a cost of five. -/
theorem priced_not_built : priced.validate = .ok ⟨⟩ ∧ parent.taskId = priced.taskId ∧
    parent.fingerprint = priced.authorityFingerprint ∧
    validateContract (contract.toJson : Json WholeFloat) = .ok contract ∧
    (∀ rank ∈ riskRank.lookup priced.riskClass, rank ≤ contract.riskLevel.rank) ∧
    ExecutionPlanBuilder.build priced parent contract.toJson [] =
      .error (planError "EXECUTION_NODE_BUDGET_EXCEEDS_TASK_COST_USD") := by
  have hadmitted : ExecutionPlanBuilder.admitted priced parent contract.toJson [] = .ok contract := by
    simp only [ExecutionPlanBuilder.admitted, bind_ok, require_ok, rethrow_ok, pure_ok]
    exact ⟨⟨⟩, priced_valid, ⟨⟩, rfl, ⟨⟩, rfl, ⟨⟩, rfl, _, contract_accepted, ⟨⟩, by decide, ⟨⟩, rfl, rfl⟩
  have hgraph : graph contract.nodes = .ok (["a", "b"], [("a", 0), ("b", 1)]) := second_second.graph
  have hfirst : ExecutionPlanBuilder.nodeOf priced parent contract [("a", 0), ("b", 1)] [] "a" =
      .error (planError "EXECUTION_NODE_BUDGET_EXCEEDS_TASK_COST_USD") := by rfl
  refine ⟨priced_valid, rfl, rfl, contract_accepted, by decide, ?_⟩
  simp only [ExecutionPlanBuilder.build, hadmitted, hgraph, List.mapM_cons, hfirst, bind, Except.bind]

end Sample

end ThreeAgent
