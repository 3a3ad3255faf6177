/-
Validating what validation returned. The normal form of a contract has the
texts the contract came with and up to four that the validation adds, each once;
the validation accepts twelve. So the second validation is the identity exactly
when the texts fit, and otherwise refuses what the first one returned. The count
is read off the raw contract, before any validation.
-/
import ThreeAgent.WorkflowDesignFacts
import ThreeAgent.Lib.WholeFloat

namespace ThreeAgent

open PyText Outcome PyJson

variable {c : WorkflowContract}

variable {n : WorkflowNode} {index : Nat}

section Raw

variable {F : Type} [PyRuntime F]

/-- The texts under `warnings`, as the normal form has them. -/
def givenWarnings (raw : Json F) : List String :=
  match raw.get? "warnings" with
  | some (.arr items) => items.map fun v => collapsed (Json.textOr (some v))
  | _ => []

/-- Whether a node of the raw contract has the property. -/
def anyRawNode (raw : Json F) (p : Json F → Bool) : Bool :=
  match raw.get? "nodes" with
  | some (.arr items) => items.any p
  | _ => false

def hasKind (kind : NodeKind) (item : Json F) : Bool := loweredText (item.get? "kind") = kind.text

def hasAction (action : NodeAction) (item : Json F) : Bool := loweredText (item.get? "action") = action.text

def hasApproval (item : Json F) : Bool :=
  match item.get? "approval_required" with
  | some (.bool b) => b
  | _ => false

/-- The texts that a validation of the raw contract adds. -/
def warningsToAdd (raw : Json F) : List String :=
  let trigger := loweredText (raw.get? "trigger")
  let risk := loweredText (raw.get? "risk_level")
  (if anyRawNode raw (hasKind .output) then [] else ["No explicit output node was supplied."]) ++
  (if trigger = Trigger.manual.text then [] else
    ["Trigger is represented for design only; V1 does not authorize scheduling or event execution."]) ++
  (if anyRawNode raw (hasAction .manualStep) then
    ["Manual steps are visualized but cannot be converted into executable authority."] else []) ++
  (if (risk = RiskLevel.high.text ∨ risk = RiskLevel.critical.text) ∧
      ¬ anyRawNode raw fun item => hasKind .approval item || hasApproval item then
    ["High-risk workflow has no approval checkpoint; review before any future execution."] else [])

/-- The texts of the normal form fit the bound on the texts of a contract. -/
def WarningsFit (raw : Json F) : Prop := (dedup (givenWarnings raw ++ warningsToAdd raw)).length ≤ 12

instance (raw : Json F) : Decidable (WarningsFit raw) := inferInstanceAs (Decidable (_ ≤ _))

/-! ## The count, from the normal form -/

omit [PyRuntime F] in
theorem kind_text_inj {k k' : NodeKind} (h : k.text = k'.text) : k = k' := by
  revert h
  cases k <;> cases k' <;> simp [NodeKind.text]

omit [PyRuntime F] in
theorem action_text_inj {a a' : NodeAction} (h : a.text = a'.text) : a = a' := by
  revert h
  cases a <;> cases a' <;> simp [NodeAction.text]

omit [PyRuntime F] in
theorem trigger_text_inj {t t' : Trigger} (h : t.text = t'.text) : t = t' := by
  revert h
  cases t <;> cases t' <;> simp [Trigger.text]

omit [PyRuntime F] in
theorem risk_text_inj {r r' : RiskLevel} (h : r.text = r'.text) : r = r' := by
  revert h
  cases r <;> cases r' <;> simp [RiskLevel.text]

variable {item : Json F}

theorem NodeOf.hasKind (h : NodeOf item n) (k : NodeKind) :
    hasKind k item = decide (n.kind = k) := by
  have htext := (mem_of_named h.kind).2
  rw [ThreeAgent.hasKind, ← htext]
  exact decide_eq_decide.mpr ⟨kind_text_inj, congrArg _⟩

theorem NodeOf.hasAction (h : NodeOf item n) (a : NodeAction) :
    hasAction a item = decide (n.action = a) := by
  have htext := (mem_of_named h.action).2
  rw [ThreeAgent.hasAction, ← htext]
  exact decide_eq_decide.mpr ⟨action_text_inj, congrArg _⟩

theorem NodeOf.hasApproval (h : NodeOf item n) :
    hasApproval item = n.approvalRequired := by
  have happroval := h.approval
  unfold validateApproval at happroval
  unfold ThreeAgent.hasApproval
  split at happroval
  · rename_i hget
    rw [hget]
    exact Except.ok.inj happroval
  · rename_i b hget
    rw [hget]
    exact Except.ok.inj happroval
  · simp only [throw_ok] at happroval

variable {items : List (Json F)}

omit [PyRuntime F] in
theorem any_nodeOf {R : Json F → WorkflowNode → Prop} {nodes : List WorkflowNode}
    (h : List.Forall₂ R items nodes) {p : Json F → Bool} {q : WorkflowNode → Bool}
    (hpq : ∀ {item n}, R item n → p item = q n) : items.any p = nodes.any q := by
  induction h with
  | nil => rfl
  | cons hn _ ih => rw [List.any_cons, List.any_cons, hpq hn, ih]

theorem boundedTexts_eq {field : String} {limit : Nat} {ts : List String}
    (h : boundedTexts items field limit = .ok ts) : ts = items.map fun v => collapsed (Json.textOr (some v)) := by
  have hall := mapM_ok.mp h
  clear h
  induction hall with
  | nil => rfl
  | cons hv _ ih =>
    simp only [boundedText, bind_ok, require_ok, pure_ok, exists_const] at hv
    rw [List.map_cons, hv.2.2, ih]

variable {raw : Json F}

theorem validateContract_warnings (h : validateContract raw = .ok c) :
    c.warnings = dedup (givenWarnings raw ++ warningsToAdd raw) := by
  obtain ⟨-, -, items', hitems', hall⟩ := validateContract_normal h
  simp only [validateContract, bind_ok, require_ok, pure_ok, orRaise_ok, exists_const] at h
  obtain ⟨-, trigger, htrigger, risk, hrisk, dataClass, -, items, -, nodes, -, g, -, outs, -, warns, hwarns, given,
    hgiven, title, -, objective, -, outputs, -, rfl⟩ := h
  have hgivens : given = givenWarnings raw := by
    rw [boundedTexts_eq hgiven]
    unfold boundedList at hwarns
    unfold givenWarnings
    split at hwarns
    · rename_i hget
      cases hwarns
      rw [hget]
      rfl
    · rename_i hget
      simp only [bind_ok, require_ok, pure_ok, exists_const] at hwarns
      rw [hget, hwarns.2]
    · simp only [throw_ok] at hwarns
  have hany : ∀ {p : Json F → Bool} {q : WorkflowNode → Bool}, (∀ {item n}, NodeOf item n → p item = q n) →
      anyRawNode raw p = nodes.any q := by
    intro p q hpq
    unfold anyRawNode
    rw [hitems']
    exact any_nodeOf hall hpq
  have hadded : addedWarnings nodes trigger risk = warningsToAdd raw := by
    have htext := (mem_of_named htrigger).2
    have hrisktext := (mem_of_named hrisk).2
    have htriggerIff : trigger = .manual ↔ loweredText (raw.get? "trigger") = Trigger.manual.text := by
      rw [← htext]
      exact ⟨congrArg _, trigger_text_inj⟩
    have hriskIff : ∀ r : RiskLevel, risk = r ↔ loweredText (raw.get? "risk_level") = r.text := by
      intro r
      rw [← hrisktext]
      exact ⟨congrArg _, risk_text_inj⟩
    unfold addedWarnings warningsToAdd
    simp only [hany fun h => h.hasKind .output, hany fun h => h.hasAction .manualStep, htriggerIff, hriskIff]
    have happroval : (anyRawNode raw fun item => hasKind .approval item || hasApproval item) =
        nodes.any fun n => n.kind = .approval || n.approvalRequired :=
      hany fun h => by rw [h.hasKind, h.hasApproval]
    rw [happroval]
  rw [hgivens, hadded]

/-! ## The surrogate of a parallel contract has the same texts -/

/-- The item has the same vocabulary, as far as the added texts go. -/
structure SameAdded (item item' : Json F) : Prop where
  output : hasKind .output item' = hasKind .output item
  approval : hasKind .approval item' = hasKind .approval item
  manualStep : hasAction .manualStep item' = hasAction .manualStep item
  flag : hasApproval item' = hasApproval item

theorem parallelPair_texts {kindText actionText : String} {pair : NodeKind × NodeAction}
    (h : parallelPair kindText actionText = some pair) :
    kindText = NodeKind.parallel.text ∧ ∃ a ∈ [NodeAction.parallelFork, .parallelJoin], a.text = actionText := by
  unfold parallelPair at h
  split at h
  · cases h
  · rename_i hkind
    obtain ⟨action, haction, -⟩ := Option.map_eq_some_iff.mp h
    exact ⟨of_not_not hkind, action, mem_of_named haction⟩

theorem surrogateNode_same {node : Json F} {entry : Json F × Option (String × NodeKind × NodeAction)}
    (h : surrogateNode index node = .ok entry) : SameAdded node entry.1 := by
  simp only [surrogateNode, bind_ok, require_ok, exists_const] at h
  obtain ⟨hdict, h⟩ := h
  split at h
  · simp only [bind_ok, require_ok, pure_ok, orRaise_ok, exists_const] at h
    obtain ⟨pair, hpair, -, rfl⟩ := h
    obtain ⟨hkind, action, haction, htext⟩ := parallelPair_texts hpair
    have hdict' : (node.setKey "kind" (.str "validation")).isDict = true := by
      rw [isDict_setKey]
      exact hdict
    -- the surrogate is a validation, the node it stands for a parallel one
    have hnew : loweredText (((node.setKey "kind" (.str "validation")).setKey "action" (.str "validate")).get? "kind") =
        NodeKind.validation.text := by
      rw [get?_setKey hdict', if_neg (by decide), get?_setKey hdict, if_pos rfl]
      exact loweredText_nodeId (nodeIdRe_kind .validation)
    have hnew' : loweredText
        (((node.setKey "kind" (.str "validation")).setKey "action" (.str "validate")).get? "action") =
          NodeAction.validate.text := by
      rw [get?_setKey hdict', if_pos rfl]
      exact loweredText_nodeId (nodeIdRe_action .validate)
    have hkinds : ∀ k ∈ [NodeKind.output, .approval], NodeKind.validation.text ≠ k.text ∧
        NodeKind.parallel.text ≠ k.text := by decide
    have hactions : ∀ a ∈ [NodeAction.parallelFork, .parallelJoin, .validate], a.text ≠ NodeAction.manualStep.text := by
      decide
    have hsame : ∀ k ∈ [NodeKind.output, .approval],
        hasKind k ((node.setKey "kind" (.str "validation")).setKey "action" (.str "validate")) = hasKind k node := by
      intro k hk
      rw [hasKind, hasKind, hnew, hkind, decide_eq_false (hkinds k hk).1, decide_eq_false (hkinds k hk).2]
    refine ⟨hsame _ (by decide), hsame _ (by decide), ?_, ?_⟩
    · rw [hasAction, hasAction, hnew', ← htext, decide_eq_false (hactions _ (by decide)), decide_eq_false]
      refine hactions _ ?_
      simp only [List.mem_cons, List.not_mem_nil, or_false] at haction ⊢
      exact haction.elim .inl fun h => .inr (.inl h)
    · rw [hasApproval, hasApproval, get?_setKey hdict', if_neg (by decide), get?_setKey hdict, if_neg (by decide)]
  · cases h
    exact ⟨rfl, rfl, rfl, rfl⟩

theorem surrogateNodes_same {nodes : List (Json F)}
    {entries : List (Json F × Option (String × NodeKind × NodeAction))}
    (h : surrogateNodes index nodes = .ok entries) : List.Forall₂ SameAdded nodes (entries.map Prod.fst) := by
  induction nodes generalizing index entries with
  | nil =>
    cases h
    exact .nil
  | cons node nodes ih =>
    simp only [surrogateNodes, bind_ok, pure_ok] at h
    obtain ⟨entry, hentry, rest, hrest, rfl⟩ := h
    exact .cons (surrogateNode_same hentry) (ih hrest)

theorem warningsToAdd_setNodes (hdict : raw.isDict = true) {items' : List (Json F)}
    (hitems : raw.get? "nodes" = some (.arr items)) (h : List.Forall₂ SameAdded items items') :
    givenWarnings (raw.setKey "nodes" (.arr items')) = givenWarnings raw ∧
      warningsToAdd (raw.setKey "nodes" (.arr items')) = warningsToAdd raw := by
  have hget : ∀ k, k ≠ "nodes" → (raw.setKey "nodes" (.arr items')).get? k = raw.get? k := by
    intro k hk
    rw [get?_setKey hdict, if_neg hk]
  have hany : ∀ {p : Json F → Bool}, (∀ {item item'}, SameAdded item item' → p item' = p item) →
      anyRawNode (raw.setKey "nodes" (.arr items')) p = anyRawNode raw p := by
    intro p hp
    unfold anyRawNode
    rw [get?_setKey hdict, if_pos rfl, hitems]
    clear hitems hget
    induction h with
    | nil => rfl
    | cons hn _ ih => simpa only [List.any_cons, hp hn] using congrArg _ ih
  constructor
  · unfold givenWarnings
    rw [hget _ (by decide)]
  · unfold warningsToAdd
    have happroval := hany (p := fun item => hasKind .approval item || hasApproval item)
      fun h => by rw [h.approval, h.flag]
    simp only [hget _ (show "trigger" ≠ "nodes" by decide), hget _ (show "risk_level" ≠ "nodes" by decide),
      hany fun h => h.output, hany fun h => h.manualStep, happroval]

theorem validateContractV4_warnings (h : validateContractV4 raw = .ok c) :
    c.warnings = dedup (givenWarnings raw ++ warningsToAdd raw) := by
  simp only [validateContractV4, bind_ok, require_ok, exists_const] at h
  obtain ⟨hdict, h⟩ := h
  split at h
  · rename_i items hitems
    simp only [bind_ok, pure_ok] at h
    obtain ⟨entries, hentries, validated, hvalidated, rfl⟩ := h
    obtain ⟨hgiven, hadd⟩ := warningsToAdd_setNodes hdict hitems (surrogateNodes_same hentries)
    have hwarnings := validateContract_warnings hvalidated
    rw [hgiven, hadd] at hwarnings
    exact hwarnings
  · simp only [throw_ok] at h

/-! ## The second validation -/

theorem validateContract_refused (hwarnings : 12 < c.warnings.length) (c' : WorkflowContract) :
    validateContract (c.toJson : Json F) ≠ .ok c' := by
  intro h
  obtain ⟨-, -, -, -, -, -, -, -, hwarns⟩ := get?_toJson (F := F) c
  simp only [validateContract, bind_ok, hwarns] at h
  obtain ⟨_, -, _, -, _, -, _, -, _, -, _, -, _, -, _, -, items, hitems, -⟩ := h
  simp only [boundedList, Json.strs, bind_ok, require_ok, List.length_map] at hitems
  obtain ⟨_, hle, -⟩ := hitems
  omega

omit [PyRuntime F] in
theorem contractOf_toJson (c : WorkflowContract) : ContractOf c (c.toJson : Json F) := by
  obtain ⟨hdict, htitle, hobjective, htrigger, hrisk, hclass, hnodes, houtputs, hwarns⟩ := get?_toJson (F := F) c
  refine ⟨hdict, htitle, hobjective, htrigger, hrisk, hclass, ⟨_, hnodes, ?_⟩, houtputs, hwarns⟩
  rw [List.forall₂_map_right_iff, List.forall₂_same]
  exact fun n _ => itemOf_toJson n

theorem validateContract_identity (h : validateContract raw = .ok c) :
    validateContract (c.toJson : Json F) = .ok c ↔ WarningsFit raw := by
  rw [WarningsFit, ← validateContract_warnings h]
  obtain ⟨hnormal, hbase, -⟩ := validateContract_normal h
  constructor
  · intro hagain
    by_contra hmany
    exact validateContract_refused (by omega) c hagain
  · exact fun hfit => validateContract_again hnormal hbase hfit (contractOf_toJson c)

theorem validateContractV4_identity (h : validateContractV4 raw = .ok c) :
    validateContractV4 (c.toJson : Json F) = .ok c ↔ WarningsFit raw := by
  rw [WarningsFit, ← validateContractV4_warnings h]
  constructor
  · intro hagain
    by_contra hmany
    exact validateContractV4_refused (by omega) c hagain
  · exact fun hfit => validateContractV4_again (validateContractV4_normal h) hfit

/-- Validating what `validate_contract` returned gives it back exactly when the texts of the raw contract
fit, and so for `validate_contract_v4`. -/
theorem revalidation_identity (raw : Json F) (c : WorkflowContract) :
    (validateContract raw = .ok c → (validateContract (c.toJson : Json F) = .ok c ↔ WarningsFit raw)) ∧
      (validateContractV4 raw = .ok c → (validateContractV4 (c.toJson : Json F) = .ok c ↔ WarningsFit raw)) :=
  ⟨validateContract_identity, validateContractV4_identity⟩

end Raw

/-! ## A contract of two nodes -/

/-- A node of the raw contract below. -/
def rawStep (id kind : String) (parents : List String) : Json WholeFloat :=
  .obj [("action", .str kind), ("depends_on", .strs parents), ("id", .str id), ("kind", .str kind), ("label", .str id)]

/-- Two steps started by an event, with the warnings given. -/
def rawEvent (warnings : List String) : Json WholeFloat :=
  .obj [("data_class", .str "internal"), ("nodes", .arr [rawStep "first" "input" [], rawStep "last" "output" ["first"]]),
    ("objective", .str "handle the event"), ("risk_level", .str "low"), ("title", .str "event"),
    ("trigger", .str "event"), ("warnings", .strs warnings)]

def twelveWarnings : List String :=
  ["w1", "w2", "w3", "w4", "w5", "w6", "w7", "w8", "w9", "w10", "w11", "w12"]

theorem revalidation_identity_event : ∃ c c',
    validateContract (rawEvent []) = .ok c ∧ validateContract (c.toJson : Json WholeFloat) = .ok c ∧
      validateContractV4 (rawEvent []) = .ok c' ∧ validateContractV4 (c'.toJson : Json WholeFloat) = .ok c' := by
  have hfit : WarningsFit (rawEvent []) := by decide
  obtain ⟨c, hc⟩ := ok_of_toBool (show (validateContract (rawEvent [])).toBool = true by decide)
  obtain ⟨c', hc'⟩ := ok_of_toBool (show (validateContractV4 (rawEvent [])).toBool = true by decide)
  exact ⟨c, c', hc, ((revalidation_identity _ c).1 hc).mpr hfit, hc', ((revalidation_identity _ c').2 hc').mpr hfit⟩

/-- The trigger's warning is the thirteenth, and what the validation returned is refused. -/
theorem event_not_revalidated :
    (¬ ∀ (raw : Json WholeFloat) c, validateContract raw = .ok c →
      validateContract (c.toJson : Json WholeFloat) = .ok c) ∧
    ¬ ∀ (raw : Json WholeFloat) c, validateContractV4 raw = .ok c →
      validateContractV4 (c.toJson : Json WholeFloat) = .ok c := by
  have hmany : ¬ WarningsFit (rawEvent twelveWarnings) := by decide
  obtain ⟨c, hc⟩ := ok_of_toBool (show (validateContract (rawEvent twelveWarnings)).toBool = true by decide)
  obtain ⟨c', hc'⟩ :=
    ok_of_toBool (show (validateContractV4 (rawEvent twelveWarnings)).toBool = true by decide)
  constructor
  · exact fun hall => hmany ((validateContract_identity hc).mp (hall _ c hc))
  · exact fun hall => hmany ((validateContractV4_identity hc').mp (hall _ c' hc'))

end ThreeAgent
