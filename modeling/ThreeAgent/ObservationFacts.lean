/-
An observation that has gone through its payload: the measured amounts come
back as floats. Where the amounts are exact as floats (`Exact`), nothing that
reads the observation can tell the difference: its validation, its payload
and its fingerprint are the same.
-/
import ThreeAgent.ExecutionCheckpointFacts

namespace PyJson.Num

variable {F : Type} [PyFloat F]

/-- `float(n) == n`: an integer that no float equals is not exact. -/
def Exact : Num F → Prop
  | .int k => ∀ x : F, PyFloat.ofInt k = some x → PyFloat.eqInt x k = true
  | .float _ => True

/-- The number as a float, where there is one. -/
def floated (n : Num F) : Num F :=
  match n.toFloat with
  | some x => .float x
  | none => n

/-- `a == b`. -/
def Same : Num F → Num F → Prop
  | .int a, .int b => a = b
  | .float x, .int n => PyFloat.eqInt x n = true
  | .int n, .float x => PyFloat.eqInt x n = true
  | .float x, .float y => x = y

variable {n m : Num F} {x : F}

theorem floated_of (h : n.toFloat = some x) : n.floated = .float x := by
  rw [floated, h]

@[simp] theorem toFloat_floated (n : Num F) : n.floated.toFloat = n.toFloat := by
  unfold floated
  split
  · rename_i x hx
    exact hx.symm
  · rfl

theorem same_floated (h : n.Exact) : n.Same n.floated := by
  cases n with
  | int k =>
    unfold floated
    split
    · rename_i x hx
      exact h x hx
    · rfl
  | float x => rfl

theorem floated_lt (h : n.Exact) (hx : n.toFloat = some x) (m : Num F) : n.floated.lt m = n.lt m := by
  cases n with
  | float y => rfl
  | int k =>
    have heq : PyFloat.eqInt x k = true := h x hx
    rw [floated_of hx]
    cases m with
    | int j => exact PyFloat.lt_int x k heq j
    | float y => exact PyFloat.lt_float x k heq y

end PyJson.Num

namespace ThreeAgent

open PyText Outcome PyJson ExecutionObservation

section Restored

variable {F : Type} [PyRuntime F]

/-! ## Costs -/

namespace ObservationCost

/-- Both amounts are exact as floats. -/
structure Exact (c : ObservationCost F) : Prop where
  wallTimeS : c.wallTimeS.Exact
  costUsd : ∀ usd ∈ c.costUsd, usd.Exact

/-- The cost as its payload reads back. -/
def restored (c : ObservationCost F) : ObservationCost F :=
  { c with wallTimeS := c.wallTimeS.floated, costUsd := c.costUsd.map Num.floated }

/-- `==` of costs. -/
structure Same (c c' : ObservationCost F) : Prop where
  wallTimeS : c.wallTimeS.Same c'.wallTimeS
  modelTokens : c.modelTokens = c'.modelTokens
  toolCalls : c.toolCalls = c'.toolCalls
  costUsd : Option.Rel Num.Same c.costUsd c'.costUsd

variable {c : ObservationCost F} {v : Json F} {budget : TaskResourceBudget F}

theorem same_restored (h : c.Exact) : c.Same c.restored where
  wallTimeS := Num.same_floated h.wallTimeS
  modelTokens := rfl
  toolCalls := rfl
  costUsd := by
    simp only [restored]
    cases hc : c.costUsd with
    | none => exact .none
    | some usd => exact .some (Num.same_floated (h.costUsd usd hc))

theorem canonicalDict_floats (h : c.canonicalDict = .ok v) :
    c.validate = .ok ⟨⟩ ∧ (∃ x, c.wallTimeS.toFloat = some x) ∧ ∀ usd ∈ c.costUsd, ∃ x, usd.toFloat = some x := by
  simp only [canonicalDict, bind_ok, orRaise_ok] at h
  obtain ⟨_, hv, x, hx, cost, hcost, -⟩ := h
  refine ⟨hv, ⟨x, hx⟩, ?_⟩
  intro usd husd
  simp only [costFloat, Option.mem_def.mp husd, bind_ok, orRaise_ok] at hcost
  obtain ⟨y, hy, -⟩ := hcost
  exact ⟨y, hy⟩

theorem validate_restored (he : c.Exact) (h : c.canonicalDict = .ok v) : c.restored.validate = .ok ⟨⟩ := by
  obtain ⟨hv, ⟨x, hx⟩, husd⟩ := canonicalDict_floats h
  simp only [validate, bind_ok, require_ok] at hv ⊢
  obtain ⟨_, hwall, _, htokens, _, hcalls, hcost⟩ := hv
  refine ⟨⟨⟩, ?_, ⟨⟩, htokens, ⟨⟩, hcalls, ?_⟩
  · rw [restored, Num.floated_lt he.wallTimeS hx]
    exact hwall
  · intro usd hmem
    simp only [restored, Option.mem_def, Option.map_eq_some_iff] at hmem
    obtain ⟨usd', hmem, rfl⟩ := hmem
    obtain ⟨y, hy⟩ := husd usd' hmem
    rw [Num.floated_lt (he.costUsd usd' hmem) hy]
    exact hcost usd' hmem

theorem costFloat_restored (c : ObservationCost F) : c.restored.costFloat = c.costFloat := by
  simp only [costFloat, restored]
  cases c.costUsd with
  | none => rfl
  | some usd => simp only [Option.map_some, Num.toFloat_floated]

theorem canonicalDict_restored (he : c.Exact) (h : c.canonicalDict = .ok v) : c.restored.canonicalDict = .ok v := by
  have hv := validate_restored he h
  simp only [canonicalDict, bind_ok, orRaise_ok, pure_ok] at h ⊢
  obtain ⟨_, -, x, hx, cost, hcost, rfl⟩ := h
  refine ⟨⟨⟩, hv, x, ?_, cost, ?_, rfl⟩
  · rw [restored, Num.toFloat_floated]
    exact hx
  · rw [costFloat_restored]
    exact hcost

end ObservationCost

/-! ## Observations -/

namespace ExecutionObservation

/-- The amounts of the cost, when there is one, are exact as floats. -/
def Exact (o : ExecutionObservation F) : Prop := ∀ c ∈ o.cost, c.Exact

/-- The observation as its payload reads back. -/
def restored (o : ExecutionObservation F) : ExecutionObservation F := { o with cost := o.cost.map ObservationCost.restored }

/-- `==` of observations. -/
structure Same (o o' : ExecutionObservation F) : Prop where
  fields : o' = { o with cost := o'.cost }
  cost : Option.Rel ObservationCost.Same o.cost o'.cost

variable {o : ExecutionObservation F} {plan : ExecutionPlan F} {parent : TaskCapabilityAuthority}
  {entries : List (String × Json F)}

theorem same_restored (h : o.Exact) : o.Same o.restored where
  fields := rfl
  cost := by
    unfold Exact at h
    simp only [restored]
    cases hc : o.cost with
    | none => exact .none
    | some c => exact .some (ObservationCost.same_restored (h c hc))

theorem costDict_restored (he : o.Exact) {v : Json F} (h : o.costDict = .ok v) : o.restored.costDict = .ok v := by
  unfold Exact at he
  simp only [costDict, restored] at h ⊢
  cases hc : o.cost with
  | none =>
    rw [hc] at h
    exact h
  | some c =>
    rw [hc] at h
    exact ObservationCost.canonicalDict_restored (he c hc) h

theorem identityEntries_restored (he : o.Exact) (h : o.identityEntries = .ok entries) :
    o.restored.identityEntries = .ok entries := by
  simp only [identityEntries, bind_ok, pure_ok] at h ⊢
  obtain ⟨output, hout, bindings, hbind, cost, hcost, rfl⟩ := h
  exact ⟨output, hout, bindings, hbind, cost, costDict_restored he hcost, rfl⟩

theorem cost_of_entries (h : o.identityEntries = .ok entries) {c : ObservationCost F} (hc : o.cost = some c) :
    ∃ v, c.canonicalDict = .ok v := by
  simp only [identityEntries, bind_ok] at h
  obtain ⟨_, -, _, -, v, hcost, -⟩ := h
  simp only [costDict, hc] at hcost
  exact ⟨v, hcost⟩

theorem checkFields_restored (he : o.Exact) (hentries : o.identityEntries = .ok entries)
    (h : o.checkFields = .ok ⟨⟩) : o.restored.checkFields = .ok ⟨⟩ := by
  have hcost : o.restored.checkCost = .ok ⟨⟩ := by
    simp only [checkCost, restored]
    cases hc : o.cost with
    | none => rfl
    | some c =>
      obtain ⟨v, hv⟩ := cost_of_entries hentries hc
      exact ObservationCost.validate_restored (he c hc) hv
  simp only [checkFields, bind_ok, require_ok] at h ⊢
  obtain ⟨_, h1, _, h2, _, h3, _, h4, _, h5, _, h6, _, h7, _, h8, started, h9, finished, h10, _, h11, fi, h12, si, h13,
    _, h14, _, h15, _, h16, _, h17, _, h18, bs, h19, _, h20, -⟩ := h
  exact ⟨⟨⟩, h1, ⟨⟩, h2, ⟨⟩, h3, ⟨⟩, h4, ⟨⟩, h5, ⟨⟩, h6, ⟨⟩, h7, ⟨⟩, h8, started, h9, finished, h10, ⟨⟩, h11, fi, h12,
    si, h13, ⟨⟩, h14, ⟨⟩, h15, ⟨⟩, h16, ⟨⟩, h17, ⟨⟩, h18, bs, h19, ⟨⟩, h20, hcost⟩

theorem checkIdentity_restored (he : o.Exact) (h : o.checkIdentity = .ok ⟨⟩) : o.restored.checkIdentity = .ok ⟨⟩ := by
  simp only [checkIdentity, bind_ok, require_ok] at h ⊢
  obtain ⟨entries, hentries, digest, hdigest, hid⟩ := h
  exact ⟨entries, identityEntries_restored he hentries, digest, hdigest, hid⟩

theorem entries_of_identity (h : o.checkIdentity = .ok ⟨⟩) : ∃ entries, o.identityEntries = .ok entries := by
  simp only [checkIdentity, bind_ok] at h
  obtain ⟨entries, hentries, -⟩ := h
  exact ⟨entries, hentries⟩

theorem validateSelf_ok : o.validateSelf = .ok ⟨⟩ ↔ o.checkFields = .ok ⟨⟩ ∧ o.checkIdentity = .ok ⟨⟩ := by
  simp only [validateSelf, bind_ok]
  constructor
  · rintro ⟨_, h1, h2⟩
    exact ⟨h1, h2⟩
  · rintro ⟨h1, h2⟩
    exact ⟨⟨⟩, h1, h2⟩

theorem validate_ok : o.validate plan parent = .ok ⟨⟩ ↔
    o.checkFields = .ok ⟨⟩ ∧ o.checkPlan plan parent = .ok ⟨⟩ ∧ o.checkIdentity = .ok ⟨⟩ := by
  simp only [validate, bind_ok]
  constructor
  · rintro ⟨_, h1, _, h2, h3⟩
    exact ⟨h1, h2, h3⟩
  · rintro ⟨h1, h2, h3⟩
    exact ⟨⟨⟩, h1, ⟨⟩, h2, h3⟩

theorem validateSelf_of_validate (h : o.validate plan parent = .ok ⟨⟩) : o.validateSelf = .ok ⟨⟩ := by
  obtain ⟨hf, -, hi⟩ := validate_ok.mp h
  exact validateSelf_ok.mpr ⟨hf, hi⟩

theorem validateSelf_restored (he : o.Exact) (h : o.validateSelf = .ok ⟨⟩) : o.restored.validateSelf = .ok ⟨⟩ := by
  obtain ⟨hf, hi⟩ := validateSelf_ok.mp h
  obtain ⟨entries, hentries⟩ := entries_of_identity hi
  exact validateSelf_ok.mpr ⟨checkFields_restored he hentries hf, checkIdentity_restored he hi⟩

end ExecutionObservation

/-! ## Payloads -/

omit [PyRuntime F] in
theorem optionalText_ofOption [PyRuntime F] (o : Option String) : optionalText (Json.ofOption .str o : Json F) = o := by
  cases o with
  | none => rfl
  | some t => rfl

theorem bindingFromPayload_canonicalDict {b : EvidenceBinding} {v : Json F} (h : b.canonicalDict = .ok v) :
    bindingFromPayload v = .ok b := by
  simp only [EvidenceBinding.canonicalDict, bind_ok, pure_ok] at h
  obtain ⟨_, hv, rfl⟩ := h
  have hschema : b.schemaVersion = executionEvidenceBindingSchema := by
    simp only [EvidenceBinding.validate, bind_ok, require_ok] at hv
    obtain ⟨_, h, -⟩ := hv
    exact h
  simp only [bindingFromPayload, bind_ok, require_ok, pure_ok, Json.item, get?_dict]
  refine ⟨⟨⟩, hasKeys_dict rfl, ⟨⟩, ?_, ⟨⟩, ?_, ?_⟩
  · show (Json.str b.schemaVersion : Json F).isText executionEvidenceBindingSchema = true
    simp [Json.isText, hschema]
  · show EvidenceBinding.validate ⟨b.evidenceRef, b.evidenceFingerprint,
      optionalText (Json.ofOption .str b.requirement : Json F), b.schemaVersion⟩ = .ok ⟨⟩
    rw [optionalText_ofOption]
    exact hv
  · show (⟨b.evidenceRef, b.evidenceFingerprint, optionalText (Json.ofOption .str b.requirement : Json F),
      b.schemaVersion⟩ : EvidenceBinding) = b
    rw [optionalText_ofOption]

theorem costFromRaw_canonicalDict {c : ObservationCost F} {v : Json F} (he : c.Exact) (h : c.canonicalDict = .ok v) :
    costFromPayload v = .ok (some c.restored) := by
  have hv := ObservationCost.validate_restored he h
  simp only [ObservationCost.canonicalDict, bind_ok, orRaise_ok, pure_ok] at h
  obtain ⟨_, -, x, hx, cost, hcost, rfl⟩ := h
  have husd : costUsdFromPayload (Json.ofOption .float cost : Json F) = .ok c.restored.costUsd := by
    simp only [ObservationCost.costFloat, ObservationCost.restored] at hcost ⊢
    cases hc : c.costUsd with
    | none =>
      rw [hc] at hcost
      cases hcost
      rfl
    | some usd =>
      simp only [hc, bind_ok, orRaise_ok, pure_ok] at hcost
      obtain ⟨y, hy, rfl⟩ := hcost
      simp only [Option.map_some, Num.floated_of hy]
      rfl
  have hwall : c.restored.wallTimeS = .float x := Num.floated_of hx
  simp only [ObservationCost.validate, bind_ok, require_ok] at hv
  obtain ⟨_, h1, _, h2, _, h3, h4⟩ := hv
  have hraw : costFromRaw (Json.dict
      [("wall_time_s", .float x), ("model_tokens", .int c.modelTokens), ("tool_calls", .int c.toolCalls),
       ("cost_usd", Json.ofOption .float cost)] : Json F) = .ok c.restored := by
    simp only [costFromRaw, bind_ok, require_ok, orRaise_ok, pure_ok, Json.item, get?_dict]
    rw [hwall] at h1
    refine ⟨.float x, rfl, ⟨⟩, h1, c.modelTokens, rfl, ⟨⟩, h2, c.toolCalls, rfl, ⟨⟩, h3, c.restored.costUsd, husd, ⟨⟩,
      h4, ?_⟩
    rw [← hwall]
    rfl
  show (do
    require (Json.hasKeys _ _ = true) _
    let cost ← costFromRaw _
    return some cost : Except Raised (Option (ObservationCost F))) = _
  simp only [bind_ok, require_ok, pure_ok]
  exact ⟨⟨⟩, hasKeys_dict rfl, c.restored, hraw, rfl⟩

variable {o : ExecutionObservation F}

theorem costFromPayload_costDict {v : Json F} (he : o.Exact) (h : o.costDict = .ok v) :
    costFromPayload v = .ok o.restored.cost := by
  simp only [costDict, restored] at h ⊢
  cases hc : o.cost with
  | none =>
    rw [hc] at h
    cases h
    rfl
  | some c =>
    rw [hc] at h
    exact costFromRaw_canonicalDict (he c hc) h

theorem outputFromPayload_normalizedOutput {v : Json F} (hc : o.checkOutput = .ok ⟨⟩)
    (h : o.normalizedOutput = .ok v) : outputFromPayload v = .ok o.normalizedOutputJson := by
  simp only [checkOutput, normalizedOutput] at hc h
  cases hj : o.normalizedOutputJson with
  | none =>
    rw [hj] at h
    cases h
    rfl
  | some t =>
    simp only [hj, bind_ok, orRaise_ok, require_ok] at hc h
    obtain ⟨value, hloads, canonical, hcan, rfl⟩ := hc
    rw [hloads] at h
    cases value with
    | obj kvs =>
      cases h
      simp only [normalizedOutputText, bind_ok, require_ok, pure_ok, Option.some.injEq] at hcan
      obtain ⟨text, htext, _, -, rfl⟩ := hcan
      simp only [outputFromPayload, bind_ok, pure_ok]
      exact ⟨text, checkpointText_ok.mpr (canonicalText_ok.mp htext), rfl⟩
    | _ => cases h

omit [PyRuntime F] in
theorem matchesDigest_output (t : Option String) :
    matchesDigest (Json.ofOption (fun text => .str (hashText text)) t : Json F) (t.map hashText) = true := by
  cases t with
  | none => rfl
  | some t => simp [Json.ofOption, matchesDigest]

theorem observationFromPayload_canonicalDict {v : Json F} (he : o.Exact)
    (h : o.canonicalDict = .ok v) : observationFromPayload v = .ok o.restored := by
  simp only [canonicalDict, identityEntries, bind_ok, pure_ok] at h
  obtain ⟨_, hself, _, ⟨output, hout, bindings, hbind, cost, hcost, rfl⟩, rfl⟩ := h
  have hfields := (validateSelf_ok.mp hself).1
  simp only [checkFields, bind_ok, require_ok] at hfields
  obtain ⟨_, hschema, _, -, _, -, _, -, _, -, _, -, _, -, _, -, _, -, _, -, _, -, _, -, _, -, _, -, _, houtput, -⟩ := hfields
  have hrecord : (⟨o.observationId, o.taskId, o.taskContextFingerprint, o.planFingerprint, o.nodeId, o.nodeFingerprint,
      o.authorityFingerprint, o.status, o.startedAt, o.finishedAt, o.normalizedOutputJson,
      optionalText (Json.ofOption .str o.errorClass : Json F), o.evidenceBindings, o.restored.cost, o.schemaVersion⟩ :
      ExecutionObservation F) = o.restored := by
    rw [optionalText_ofOption]
    rfl
  simp only [observationFromPayload, bind_ok, require_ok, orRaise_ok, rethrow_ok, pure_ok, Json.item, get?_dict]
  refine ⟨⟨⟩, rfl, ⟨⟩, hasKeys_dict rfl, ⟨⟩, ?_, bindings, rfl, o.evidenceBindings, ?_, o.restored.cost,
    costFromPayload_costDict he hcost, o.normalizedOutputJson, outputFromPayload_normalizedOutput houtput hout, ⟨⟩, ?_,
    ⟨⟩, ?_, ?_⟩
  · show (Json.str o.schemaVersion : Json F).isText executionObservationSchema = true
    simp [Json.isText, hschema]
  · refine mapM_ok.mpr ?_
    exact (mapM_ok.mp hbind).flip.imp fun b v hb => bindingFromPayload_canonicalDict hb
  · show validateSelf ⟨o.observationId, o.taskId, o.taskContextFingerprint, o.planFingerprint,
      o.nodeId, o.nodeFingerprint, o.authorityFingerprint, o.status, o.startedAt, o.finishedAt, o.normalizedOutputJson,
      optionalText (Json.ofOption .str o.errorClass : Json F), o.evidenceBindings, o.restored.cost, o.schemaVersion⟩ =
      .ok ⟨⟩
    rw [hrecord]
    exact validateSelf_restored he hself
  · exact matchesDigest_output o.normalizedOutputJson
  · exact hrecord

end Restored

end ThreeAgent
