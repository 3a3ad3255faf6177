/-
The checkpoint codecs against each other. What is written of a valid record is
read back as the record; a payload that is read is written back as itself
exactly when its scalar fields have the types that the records give them: the
readers pass them through `str()` and `int()`, so that a ticket with the level
`"0"` is the ticket with the level `0`.
-/
import ThreeAgent.Lib.JsonDict
import ThreeAgent.ObservationFacts

namespace PyJson.Json

variable {F : Type}

/-- `isinstance(value, str)`. -/
def IsText (v : Json F) : Prop := ∃ s, v = .str s

/-- `value is None or isinstance(value, str)`. -/
def IsOptionalText (v : Json F) : Prop := v = .null ∨ v.IsText

/-- An integer that is no boolean. -/
def IsInt (v : Json F) : Prop := ∃ n, v = .int n

end PyJson.Json

namespace ThreeAgent

open PyText Outcome PyJson

section Scalars

variable {F : Type} [PyRuntime F]

variable {v : Json F}

theorem str_toStr_iff : Json.str v.toStr = v ↔ v.IsText := by
  constructor
  · intro h
    exact ⟨_, h.symm⟩
  · rintro ⟨s, rfl⟩
    rfl

theorem ofOption_optionalText_iff : Json.ofOption .str (optionalText v) = v ↔ v.IsOptionalText := by
  constructor
  · intro h
    cases v with
    | null => exact .inl rfl
    | _ => exact .inr (str_toStr_iff.mp h)
  · rintro (rfl | ⟨s, rfl⟩)
    · rfl
    · rfl

theorem int_toInt?_iff {n : Int} (h : v.toInt? = some n) : Json.int n = v ↔ v.IsInt := by
  constructor
  · intro he
    exact ⟨n, he.symm⟩
  · rintro ⟨m, rfl⟩
    cases h
    rfl

omit [PyRuntime F] in
theorem eq_str_of_isText {s : String} (h : v.isText s = true) : v = .str s := by
  cases v with
  | str t =>
    rw [Json.isText, decide_eq_true_eq] at h
    rw [h]
  | _ => cases h

omit [PyRuntime F] in
theorem eq_bool_of_isTrue (h : isTrue v = true) : v = .bool true := by
  cases v with
  | bool b =>
    cases b
    · cases h
    · rfl
  | _ => cases h

omit [PyRuntime F] in
theorem eq_strs_of_fingerprintList {ds : List String} (h : fingerprintList v = some ds) : v = Json.strs ds := by
  cases v with
  | arr vs =>
    rw [Json.strs]
    congr 1
    simp only [fingerprintList] at h
    induction vs generalizing ds with
    | nil =>
      cases h
      rfl
    | cons w vs ih =>
      simp only [List.mapM_cons, Option.bind_eq_bind, Option.bind_eq_some_iff, Option.pure_def, Option.some.injEq] at h
      obtain ⟨d, hd, ds, hds, rfl⟩ := h
      cases w with
      | str s =>
        simp only at hd
        split at hd
        · cases hd
          rw [List.map_cons, ← ih hds]
        · cases hd
      | _ => cases hd
  | _ => cases h

end Scalars

/-! ## Tickets -/

variable {t : DispatchTicket}

section Tickets

variable {F : Type} [PyRuntime F]

/-- The payload `p` is read as the ticket `t`. -/
structure TicketRead (p : Json F) (t : DispatchTicket) : Prop where
  keys : p.hasKeys dispatchKeys = true
  authorized : p.item "dispatch_authorized" = .bool true
  ticketId : t.ticketId = (p.item "ticket_id").toStr
  schemaVersion : p.item "schema_version" = .str t.schemaVersion
  taskId : t.taskId = (p.item "task_id").toStr
  planFingerprint : t.planFingerprint = (p.item "plan_fingerprint").toStr
  nodeId : t.nodeId = (p.item "node_id").toStr
  nodeFingerprint : t.nodeFingerprint = (p.item "node_fingerprint").toStr
  authorityFingerprint : t.authorityFingerprint = (p.item "authority_fingerprint").toStr
  dependencies : p.item "dependency_observation_fingerprints" = Json.strs t.dependencyObservationFingerprints
  dispatchSequence : (p.item "dispatch_sequence").toInt? = some t.dispatchSequence
  executionLevel : (p.item "execution_level").toInt? = some t.executionLevel
  valid : t.validate = .ok ⟨⟩
  fingerprints : validateDispatchFingerprints t = .ok ⟨⟩

theorem dispatchFromPayload_ok {p : Json F} : dispatchFromPayload p = .ok t ↔ TicketRead p t := by
  simp only [dispatchFromPayload, ticketOfPayload, sha256Item, intItem, requireSha256, checkSha256, bind_ok, require_ok,
    orRaise_ok, rethrow_ok, pure_ok]
  constructor
  · rintro ⟨_, -, _, hkeys, _, hschema, _, hauth, ds, hds, plan, ⟨_, -, rfl⟩, node, ⟨_, -, rfl⟩, auth, ⟨_, -, rfl⟩, n, hn,
      l, hl, _, hv, _, hf, rfl⟩
    have hs := eq_str_of_isText hschema
    exact ⟨hkeys, eq_bool_of_isTrue hauth, rfl, by rw [hs]; rfl, rfl, rfl, rfl, rfl, rfl, eq_strs_of_fingerprintList hds,
      hn, hl, hv, hf⟩
  · intro h
    obtain ⟨hp, hn, ha, hd⟩ := validateDispatchFingerprints_ok.mp h.fingerprints
    have hschema : t.schemaVersion = dispatchTicketSchema := by
      have hv := h.valid
      simp only [DispatchTicket.validate, bind_ok, require_ok] at hv
      obtain ⟨_, hs, -⟩ := hv
      exact hs
    have hrecord : t = ⟨(p.item "ticket_id").toStr, (p.item "task_id").toStr, (p.item "plan_fingerprint").toStr,
        (p.item "node_id").toStr, (p.item "node_fingerprint").toStr, (p.item "authority_fingerprint").toStr,
        t.dependencyObservationFingerprints, t.dispatchSequence, t.executionLevel, (p.item "schema_version").toStr⟩ := by
      rw [← h.ticketId, ← h.taskId, ← h.planFingerprint, ← h.nodeId, ← h.nodeFingerprint, ← h.authorityFingerprint,
        h.schemaVersion]
      rfl
    refine ⟨⟨⟩, isDict_of_hasKeys h.keys, ⟨⟩, h.keys, ⟨⟩, ?_, ⟨⟩, ?_, t.dependencyObservationFingerprints, ?_,
      _, ⟨⟨⟩, h.planFingerprint ▸ hp, rfl⟩, _, ⟨⟨⟩, h.nodeFingerprint ▸ hn, rfl⟩, _,
      ⟨⟨⟩, h.authorityFingerprint ▸ ha, rfl⟩, t.dispatchSequence, h.dispatchSequence, t.executionLevel, h.executionLevel,
      ⟨⟩, ?_, ⟨⟩, ?_, hrecord.symm⟩
    · rw [h.schemaVersion]
      simp [Json.isText, hschema]
    · rw [h.authorized]
      rfl
    · rw [h.dependencies]
      exact fingerprintList_strs hd
    · rw [← hrecord]
      exact h.valid
    · rw [← hrecord]
      exact h.fingerprints

def ticketTexts : List String :=
  ["ticket_id", "task_id", "plan_fingerprint", "node_id", "node_fingerprint", "authority_fingerprint"]

def ticketNumbers : List String := ["dispatch_sequence", "execution_level"]

/-- The scalar fields of the payload have the types that a ticket gives them. -/
structure TicketTyped (p : Json F) : Prop where
  texts : ∀ k ∈ ticketTexts, (p.item k).IsText
  numbers : ∀ k ∈ ticketNumbers, (p.item k).IsInt

theorem dispatchPayload_read {p : Json F} (hp : Canonical p) (h : TicketRead p t) :
    dispatchPayload t = .ok p ↔ TicketTyped p := by
  rw [dispatchPayload_ok]
  constructor
  · rintro ⟨-, -, rfl⟩
    constructor
    · intro k hk
      simp only [ticketTexts, List.mem_cons, List.not_mem_nil, or_false] at hk
      rcases hk with rfl | rfl | rfl | rfl | rfl | rfl
      all_goals exact ⟨_, by rw [item_dict]; rfl⟩
    · intro k hk
      simp only [ticketNumbers, List.mem_cons, List.not_mem_nil, or_false] at hk
      rcases hk with rfl | rfl
      all_goals exact ⟨_, by rw [item_dict]; rfl⟩
  · intro hty
    refine ⟨h.valid, h.fingerprints, canonical_ext hp (canonical_dispatchEntries t) h.keys (hasKeys_dict rfl) ?_⟩
    have htext : ∀ k ∈ ticketTexts, p.item k = .str (p.item k).toStr := fun k hk =>
      (str_toStr_iff.mpr (hty.texts k hk)).symm
    have hnumber : ∀ k ∈ ticketNumbers, ∀ n, (p.item k).toInt? = some n → p.item k = .int n := fun k hk n hn =>
      ((int_toInt?_iff hn).mpr (hty.numbers k hk)).symm
    have hitem : ∀ k v, (dispatchEntries t : List (String × Json F)).reverse.lookup k = some v →
        (Json.dict (dispatchEntries t) : Json F).item k = v := by
      intro k v hv
      rw [item_dict, hv]
      rfl
    intro k hk
    simp only [dispatchKeys, List.mem_cons, List.not_mem_nil, or_false] at hk
    rcases hk with rfl | rfl | rfl | rfl | rfl | rfl | rfl | rfl | rfl | rfl | rfl
    · rw [hitem "ticket_id" (.str t.ticketId) rfl, h.ticketId]
      exact htext _ (by simp [ticketTexts])
    · rw [hitem "schema_version" (.str t.schemaVersion) rfl, h.schemaVersion]
    · rw [hitem "task_id" (.str t.taskId) rfl, h.taskId]
      exact htext _ (by simp [ticketTexts])
    · rw [hitem "plan_fingerprint" (.str t.planFingerprint) rfl, h.planFingerprint]
      exact htext _ (by simp [ticketTexts])
    · rw [hitem "node_id" (.str t.nodeId) rfl, h.nodeId]
      exact htext _ (by simp [ticketTexts])
    · rw [hitem "node_fingerprint" (.str t.nodeFingerprint) rfl, h.nodeFingerprint]
      exact htext _ (by simp [ticketTexts])
    · rw [hitem "authority_fingerprint" (.str t.authorityFingerprint) rfl, h.authorityFingerprint]
      exact htext _ (by simp [ticketTexts])
    · rw [hitem "dependency_observation_fingerprints" (Json.strs t.dependencyObservationFingerprints) rfl, h.dependencies]
    · rw [hitem "dispatch_sequence" (.int t.dispatchSequence) rfl]
      exact hnumber _ (by simp [ticketNumbers]) _ h.dispatchSequence
    · rw [hitem "execution_level" (.int t.executionLevel) rfl]
      exact hnumber _ (by simp [ticketNumbers]) _ h.executionLevel
    · rw [hitem "dispatch_authorized" (.bool true) rfl, h.authorized]

end Tickets

/-! ## Costs -/

section Costs

variable {F : Type} [PyRuntime F]

def costAmounts : List String := ["wall_time_s", "cost_usd"]

def costCounts : List String := ["model_tokens", "tool_calls"]

/-- `a == b` of an amount: the same value, or an integer and a float of one value. -/
def AmountSame (a b : Json F) : Prop := a = b ∨ ∃ n x, a = .int n ∧ b = .float x ∧ PyFloat.eqInt x n = true

/-- `float(n) == n`, when the amount is an integer. -/
def AmountExact (a : Json F) : Prop := ∀ n, a = .int n → ∀ x : F, PyFloat.ofInt n = some x → PyFloat.eqInt x n = true

/-- The cost `w` is the cost `v` up to `==` of the amounts. -/
def CostSame (v w : Json F) : Prop := ∃ a b, AmountSame (v.item "wall_time_s") a ∧ AmountSame (v.item "cost_usd") b ∧
  w = (v.setKey "wall_time_s" a).setKey "cost_usd" b

/-- The amount `b` that is written of a raw amount `a`. -/
inductive AmountWritten : Json F → Json F → Prop where
  | null : AmountWritten .null .null
  | float (x : F) : AmountWritten (.float x) (.float x)
  | int {n : Int} {x : F} : PyFloat.ofInt n = some x → AmountWritten (.int n) (.float x)

theorem AmountWritten.eq_iff {a b : Json F} (h : AmountWritten a b) : b = a ↔ ¬ a.IsInt := by
  cases h with
  | null => simp [Json.IsInt]
  | float x => simp [Json.IsInt]
  | int hx => simp [Json.IsInt]

theorem AmountWritten.same_iff {a b : Json F} (h : AmountWritten a b) : AmountSame a b ↔ AmountExact a := by
  cases h with
  | null => simp [AmountSame, AmountExact]
  | float x => simp [AmountSame, AmountExact]
  | int hx => simp [AmountSame, AmountExact, hx]

/-- The cost `w` that is written of a raw cost `v`. -/
inductive CostWritten : Json F → Json F → Prop where
  | null : CostWritten .null .null
  | dict {v w : Json F} (hv : v.hasKeys ["wall_time_s", "model_tokens", "tool_calls", "cost_usd"] = true)
      (hw : w.hasKeys ["wall_time_s", "model_tokens", "tool_calls", "cost_usd"] = true) (hcanonical : Canonical w)
      (counts : ∀ k ∈ costCounts, w.item k = v.item k)
      (amounts : ∀ k ∈ costAmounts, AmountWritten (v.item k) (w.item k)) : CostWritten v w

variable {w : Json F}

variable {v : Json F}

theorem CostWritten.eq_iff (hc : Canonical v) (h : CostWritten v w) : w = v ↔ ∀ k ∈ costAmounts, ¬ (v.item k).IsInt := by
  cases h with
  | null =>
    refine ⟨fun _ k _ => ?_, fun _ => rfl⟩
    rintro ⟨n, hn⟩
    cases hn
  | dict hv hw hcanonical counts amounts =>
    constructor
    · rintro rfl k hk
      exact (amounts k hk).eq_iff.mp rfl
    · intro hfloats
      refine canonical_ext hcanonical hc hw hv ?_
      intro k hk
      simp only [List.mem_cons, List.not_mem_nil, or_false] at hk
      rcases hk with rfl | rfl | rfl | rfl
      · exact (amounts _ (by decide)).eq_iff.mpr (hfloats _ (by decide))
      · exact counts _ (by decide)
      · exact counts _ (by decide)
      · exact (amounts _ (by decide)).eq_iff.mpr (hfloats _ (by decide))

theorem CostWritten.same_iff (hc : Canonical v) (h : CostWritten v w) :
    CostSame v w ↔ ∀ k ∈ costAmounts, AmountExact (v.item k) := by
  cases h with
  | null =>
    refine ⟨fun _ k _ n hn => ?_, fun _ => ⟨.null, .null, .inl rfl, .inl rfl, rfl⟩⟩
    cases hn
  | dict hv hw hcanonical counts amounts =>
    have hset : ∀ a b : Json F, ((v.setKey "wall_time_s" a).setKey "cost_usd" b).hasKeys
        ["wall_time_s", "model_tokens", "tool_calls", "cost_usd"] = true := fun a b =>
      hasKeys_setKey (hasKeys_setKey hv (by decide)) (by decide)
    have hitem : ∀ (a b : Json F) (k : String), ((v.setKey "wall_time_s" a).setKey "cost_usd" b).item k =
        if k = "cost_usd" then b else if k = "wall_time_s" then a else v.item k := by
      intro a b k
      rw [item_setKey (hasKeys_setKey hv (by decide)), item_setKey hv]
    constructor
    · rintro ⟨a, b, ha, hb, rfl⟩ k hk
      simp only [costAmounts, List.mem_cons, List.not_mem_nil, or_false] at hk
      rcases hk with rfl | rfl
      · have hwritten := amounts "wall_time_s" (by decide)
        rw [hitem, if_neg (by decide), if_pos rfl] at hwritten
        exact hwritten.same_iff.mp ha
      · have hwritten := amounts "cost_usd" (by decide)
        rw [hitem, if_pos rfl] at hwritten
        exact hwritten.same_iff.mp hb
    · intro hexact
      refine ⟨w.item "wall_time_s", w.item "cost_usd", (amounts _ (by decide)).same_iff.mpr (hexact _ (by decide)),
        (amounts _ (by decide)).same_iff.mpr (hexact _ (by decide)), ?_⟩
      have hamounts : ∀ k, Canonical (w.item k) := fun k => canonical_item hcanonical k
      refine canonical_ext hcanonical (canonical_setKey (canonical_setKey hc (hamounts _)) (hamounts _)) hw (hset _ _) ?_
      intro k hk
      rw [hitem]
      simp only [List.mem_cons, List.not_mem_nil, or_false] at hk
      rcases hk with rfl | rfl | rfl | rfl
      · rfl
      · exact counts _ (by decide)
      · exact counts _ (by decide)
      · rfl

omit [PyRuntime F] in
theorem eq_int_of_integer? {n : Int} (h : integer? v = some n) : v = .int n := by
  cases v with
  | int m =>
    cases h
    rfl
  | _ => cases h

theorem amountWritten_number {a : Num F} {x : F} (h : number? v = some a) (hx : a.toFloat = some x) :
    AmountWritten v (.float x) := by
  cases v with
  | int n =>
    cases h
    exact .int hx
  | float y =>
    cases h
    cases hx
    exact .float _
  | _ => cases h

omit [PyRuntime F] in
theorem costUsdFromPayload_cases {usd : Option (Num F)} (h : costUsdFromPayload v = .ok usd) :
    v = .null ∧ usd = none ∨ ∃ n, number? v = some n ∧ usd = some n := by
  cases v with
  | null =>
    cases h
    exact .inl ⟨rfl, rfl⟩
  | int n =>
    cases h
    exact .inr ⟨_, rfl, rfl⟩
  | float x =>
    cases h
    exact .inr ⟨_, rfl, rfl⟩
  | _ => cases h

theorem amountWritten_usd {c : ObservationCost F} {x : Option F} (h : costUsdFromPayload v = .ok c.costUsd)
    (hx : c.costFloat = .ok x) : AmountWritten v (Json.ofOption .float x) := by
  rcases costUsdFromPayload_cases h with ⟨rfl, hnone⟩ | ⟨n, hn, hsome⟩
  · rw [ObservationCost.costFloat, hnone] at hx
    cases hx
    exact .null
  · simp only [ObservationCost.costFloat, hsome, bind_ok, orRaise_ok, pure_ok] at hx
    obtain ⟨y, hy, rfl⟩ := hx
    exact amountWritten_number hn hy

variable {cost : Option (ObservationCost F)}

theorem costFromPayload_cases (h : costFromPayload v = .ok cost) : v = .null ∧ cost = none ∨
      v.hasKeys ["wall_time_s", "model_tokens", "tool_calls", "cost_usd"] = true ∧ ∃ c, costFromRaw v = .ok c ∧
        cost = some c := by
  unfold costFromPayload at h
  split at h
  · cases h
    exact .inl ⟨rfl, rfl⟩
  · simp only [bind_ok, require_ok, pure_ok] at h
    obtain ⟨_, hkeys, c, hc, rfl⟩ := h
    exact .inr ⟨hkeys, c, hc, rfl⟩

theorem costWritten_of_read {o : ExecutionObservation F} (h : costFromPayload v = .ok o.cost)
    (hw : o.costDict = .ok w) : CostWritten v w := by
  rcases costFromPayload_cases h with ⟨rfl, hnone⟩ | ⟨hkeys, c, hraw, hsome⟩
  · rw [ExecutionObservation.costDict, hnone] at hw
    cases hw
    exact .null
  · rw [ExecutionObservation.costDict, hsome] at hw
    have hcanonical := ObservationCost.canonical_canonicalDict hw
    simp only [costFromRaw, bind_ok, orRaise_ok, require_ok, pure_ok] at hraw
    obtain ⟨wall, hwall, _, -, tokens, htokens, _, -, calls, hcalls, _, -, usd, husd, _, -, rfl⟩ := hraw
    simp only [ObservationCost.canonicalDict, bind_ok, orRaise_ok, pure_ok] at hw
    obtain ⟨_, -, x, hx, y, hy, rfl⟩ := hw
    refine .dict hkeys (hasKeys_dict rfl) hcanonical ?_ ?_
    · intro k hk
      simp only [costCounts, List.mem_cons, List.not_mem_nil, or_false] at hk
      rcases hk with rfl | rfl
      · rw [eq_int_of_integer? htokens, item_dict]
        rfl
      · rw [eq_int_of_integer? hcalls, item_dict]
        rfl
    · intro k hk
      simp only [costAmounts, List.mem_cons, List.not_mem_nil, or_false] at hk
      rcases hk with rfl | rfl
      · have hitem : AmountWritten (v.item "wall_time_s") (.float x) := amountWritten_number hwall hx
        rw [item_dict]
        exact hitem
      · have hitem := amountWritten_usd husd hy
        rw [item_dict]
        exact hitem

end Costs

/-! ## Observations -/

section Observations

variable {F : Type} [PyRuntime F]

/-- The scalar fields of an evidence binding have the types that the record gives them. -/
structure BindingTyped (raw : Json F) : Prop where
  evidenceRef : (raw.item "evidence_ref").IsText
  evidenceFingerprint : (raw.item "evidence_fingerprint").IsText
  requirement : (raw.item "requirement").IsOptionalText

theorem binding_read {raw w : Json F} {b : EvidenceBinding} (hc : Canonical raw) (h : bindingFromPayload raw = .ok b)
    (hw : b.canonicalDict = .ok w) : w = raw ↔ BindingTyped raw := by
  have hcanonical := EvidenceBinding.canonical_canonicalDict hw
  simp only [bindingFromPayload, EvidenceBinding.canonicalDict, bind_ok, require_ok, pure_ok] at h hw
  obtain ⟨_, hkeys, _, hschema, _, -, rfl⟩ := h
  obtain ⟨_, -, rfl⟩ := hw
  constructor
  · intro he
    rw [← he]
    refine ⟨⟨_, by rw [item_dict]; rfl⟩, ⟨_, by rw [item_dict]; rfl⟩, ?_⟩
    rw [item_dict]
    exact ofOption_optionalText_iff.mp (by cases optionalText (raw.item "requirement") <;> rfl)
  · intro hty
    refine (canonical_ext hc hcanonical hkeys (hasKeys_dict rfl) ?_).symm
    intro k hk
    rw [item_dict]
    simp only [List.mem_cons, List.not_mem_nil, or_false] at hk
    rcases hk with rfl | rfl | rfl | rfl
    · rw [eq_str_of_isText hschema]
      rfl
    · exact (ofOption_optionalText_iff.mpr hty.requirement).symm
    · exact (str_toStr_iff.mpr hty.evidenceRef).symm
    · exact (str_toStr_iff.mpr hty.evidenceFingerprint).symm

variable {o : ExecutionObservation F}

theorem output_read {v w : Json F} (hc : Canonical v)
    (h : outputFromPayload v = .ok o.normalizedOutputJson) (hw : o.normalizedOutput = .ok w) : w = v := by
  unfold outputFromPayload at h
  split at h
  · rw [ExecutionObservation.normalizedOutput, ← Except.ok.inj h] at hw
    cases hw
    rfl
  · simp only [bind_ok, pure_ok] at h
    obtain ⟨t, ht, hj⟩ := h
    rw [checkpointText_ok] at ht
    rw [ExecutionObservation.normalizedOutput, ← hj] at hw
    simp only [loads_dumps hc ht] at hw
    split at hw
    · rename_i hloads
      cases hw
      exact (Option.some.inj hloads).symm
    · cases hw
    · cases hw

omit [PyRuntime F] in
theorem eq_of_matchesDigest {v : Json F} {t : Option String} (h : matchesDigest v (t.map hashText) = true) :
    v = Json.ofOption (fun text => .str (hashText text)) t := by
  cases t with
  | none =>
    cases v with
    | null => rfl
    | _ => cases h
  | some t =>
    cases v with
    | str s =>
      have hs : s = hashText t := by simpa [matchesDigest] using h
      rw [hs]
      rfl
    | _ => cases h

def observationTexts : List String :=
  ["observation_id", "task_id", "task_context_fingerprint", "plan_fingerprint", "node_id", "node_fingerprint",
   "authority_fingerprint", "status", "started_at", "finished_at"]

/-- The elements of `payload["evidence_bindings"]` have the types that the record gives them. -/
def BindingsTyped (p : Json F) : Prop := ∀ raws, p.item "evidence_bindings" = .arr raws → ∀ raw ∈ raws, BindingTyped raw

/-- The scalar fields of the payload, beside the cost, have the types that an observation gives them. -/
structure ObservationTyped (p : Json F) : Prop where
  texts : ∀ k ∈ observationTexts, (p.item k).IsText
  errorClass : (p.item "error_class").IsOptionalText
  bindings : BindingsTyped p

/-- The payload `v` is the payload `p` up to `==` of the amounts of the cost. -/
def SamePayload (p v : Json F) : Prop := ∃ w, CostSame (p.item "cost") w ∧ v = p.setKey "cost" w

/-- What is written of the observation that was read from `p`. -/
structure ObservationWritten (p v : Json F) : Prop where
  keys : p.hasKeys observationKeys = true
  written : v.hasKeys observationKeys = true
  canonical : Canonical v
  texts : ∀ k ∈ observationTexts, v.item k = .str (p.item k).toStr
  errorClass : v.item "error_class" = Json.ofOption .str (optionalText (p.item "error_class"))
  same : ∀ k ∈ ["schema_version", "normalized_output", "normalized_output_sha256"], v.item k = p.item k
  bindings : v.item "evidence_bindings" = p.item "evidence_bindings" ↔ BindingsTyped p
  cost : CostWritten (p.item "cost") (v.item "cost")

theorem bindings_read {raws ws : List (Json F)} {bs : List EvidenceBinding} (hc : ElemsCanonical raws)
    (h : raws.mapM bindingFromPayload = .ok bs) (hw : bs.mapM EvidenceBinding.canonicalDict = .ok ws) :
    ws = raws ↔ ∀ raw ∈ raws, BindingTyped raw := by
  have hread := mapM_ok.mp h
  have hwritten := mapM_ok.mp hw
  clear h hw
  induction hread generalizing ws with
  | nil =>
    cases hwritten
    simp
  | cons hb _ ih =>
    cases hwritten with
    | cons hw hws =>
      rw [List.cons.injEq, List.forall_mem_cons]
      exact and_congr (binding_read hc.1 hb hw) (ih hc.2 hws)

omit [PyRuntime F] in
theorem eq_arr_of_elements? {v : Json F} {vs : List (Json F)} (h : elements? v = some vs) : v = .arr vs := by
  cases v with
  | arr ws =>
    cases h
    rfl
  | _ => cases h

theorem ExecutionObservation.canonicalDict_of_validateSelf (h : o.validateSelf = .ok ⟨⟩) :
    ∃ v, o.canonicalDict = .ok v := by
  obtain ⟨entries, hentries⟩ := entries_of_identity (validateSelf_ok.mp h).2
  refine ⟨Json.dict (("observation_id", .str o.observationId) :: entries), ?_⟩
  simp only [canonicalDict, bind_ok, pure_ok]
  exact ⟨⟨⟩, h, entries, hentries, rfl⟩

theorem observationWritten {p : Json F} (hc : Canonical p)
    (h : observationFromPayload p = .ok o) : ∃ v, o.canonicalDict = .ok v ∧ ObservationWritten p v := by
  simp only [observationFromPayload, bind_ok, require_ok, orRaise_ok, rethrow_ok, pure_ok] at h
  obtain ⟨_, -, _, hkeys, _, hschema, raws, hraws, bs, hbs, cost, hcost, output, houtput, _, hvalid, _, hsha, rfl⟩ := h
  obtain ⟨v, hv⟩ := ExecutionObservation.canonicalDict_of_validateSelf hvalid
  have hcanonical := ExecutionObservation.canonical_canonicalDict _ hv
  refine ⟨v, hv, ?_⟩
  simp only [ExecutionObservation.canonicalDict, ExecutionObservation.identityEntries, bind_ok, pure_ok] at hv
  obtain ⟨_, -, _, ⟨w, hw, ws, hws, c, hcw, rfl⟩, rfl⟩ := hv
  have hitem := eq_arr_of_elements? hraws
  have helems : ElemsCanonical raws := by
    have hcan := canonical_item hc "evidence_bindings"
    rw [hitem] at hcan
    exact hcan
  refine ⟨hkeys, hasKeys_dict rfl, hcanonical, ?_, ?_, ?_, ?_, ?_⟩
  · intro k hk
    simp only [observationTexts, List.mem_cons, List.not_mem_nil, or_false] at hk
    rcases hk with rfl | rfl | rfl | rfl | rfl | rfl | rfl | rfl | rfl | rfl
    all_goals
      rw [item_dict]
      rfl
  · rw [item_dict]
    rfl
  · intro k hk
    simp only [List.mem_cons, List.not_mem_nil, or_false] at hk
    rcases hk with rfl | rfl | rfl
    · rw [item_dict, eq_str_of_isText hschema]
      rfl
    · rw [item_dict]
      exact output_read (canonical_item hc _) houtput hw
    · rw [item_dict, eq_of_matchesDigest hsha]
      rfl
  · rw [item_dict, BindingsTyped, hitem]
    have hiff := bindings_read helems hbs hws
    constructor
    · intro he raws' hraws'
      cases hraws'
      exact hiff.mp (Json.arr.inj he)
    · intro hty
      exact congrArg Json.arr (hiff.mpr (hty raws rfl))
  · rw [item_dict]
    exact costWritten_of_read hcost hcw

namespace ObservationWritten

variable {p v : Json F} (h : ObservationWritten p v)

include h

theorem fields_iff : (∀ k ∈ observationKeys, k ≠ "cost" → v.item k = p.item k) ↔ ObservationTyped p := by
  constructor
  · intro hsame
    refine ⟨fun k hk => ?_, ?_, h.bindings.mp (hsame _ (by decide) (by decide))⟩
    · have hmem : k ∈ observationKeys ∧ k ≠ "cost" := by
        simp only [observationTexts, List.mem_cons, List.not_mem_nil, or_false] at hk
        rcases hk with rfl | rfl | rfl | rfl | rfl | rfl | rfl | rfl | rfl | rfl
        all_goals decide
      exact str_toStr_iff.mp ((h.texts k hk).symm.trans (hsame k hmem.1 hmem.2))
    · exact ofOption_optionalText_iff.mp (h.errorClass.symm.trans (hsame _ (by decide) (by decide)))
  · intro hty k hk hne
    have htext : ∀ k ∈ observationTexts, v.item k = p.item k := fun k hk =>
      (h.texts k hk).trans (str_toStr_iff.mpr (hty.texts k hk))
    simp only [observationKeys, List.mem_cons, List.not_mem_nil, or_false] at hk
    rcases hk with rfl | rfl | rfl | rfl | rfl | rfl | rfl | rfl | rfl | rfl | rfl | rfl | rfl | rfl | rfl | rfl
    all_goals first
      | exact htext _ (by decide)
      | exact h.same _ (by decide)
      | skip
    · exact h.errorClass.trans (ofOption_optionalText_iff.mpr hty.errorClass)
    · exact h.bindings.mpr hty.bindings
    · exact absurd rfl hne

theorem eq_iff (hc : Canonical p) :
    v = p ↔ ObservationTyped p ∧ ∀ k ∈ costAmounts, ¬ ((p.item "cost").item k).IsInt := by
  rw [← h.fields_iff, ← h.cost.eq_iff (canonical_item hc _)]
  constructor
  · rintro rfl
    exact ⟨fun _ _ _ => rfl, rfl⟩
  · rintro ⟨hfields, hcost⟩
    refine canonical_ext h.canonical hc h.written h.keys ?_
    intro k hk
    by_cases hne : k = "cost"
    · rw [hne, hcost]
    · exact hfields k hk hne

theorem same_iff (hc : Canonical p) :
    SamePayload p v ↔ ObservationTyped p ∧ ∀ k ∈ costAmounts, AmountExact ((p.item "cost").item k) := by
  rw [← h.fields_iff, ← h.cost.same_iff (canonical_item hc _)]
  constructor
  · rintro ⟨w, hw, rfl⟩
    refine ⟨fun k _ hne => ?_, ?_⟩
    · rw [item_setKey h.keys, if_neg hne]
    · rw [item_setKey h.keys, if_pos rfl]
      exact hw
  · rintro ⟨hfields, hcost⟩
    refine ⟨v.item "cost", hcost, canonical_ext h.canonical (canonical_setKey hc (canonical_item h.canonical _)) h.written
      (hasKeys_setKey h.keys (by decide)) ?_⟩
    intro k hk
    rw [item_setKey h.keys]
    split
    · rename_i he
      rw [he]
    · rename_i hne
      exact hfields k hk hne

end ObservationWritten

theorem exact_of_same_floated {n : Num F} (h : n.Same n.floated) : n.Exact := by
  cases n with
  | int k =>
    intro x hx
    rw [Num.floated_of (n := .int k) hx] at h
    exact h
  | float x => trivial

theorem ObservationCost.exact_of_same_restored {c : ObservationCost F} (h : c.Same c.restored) : c.Exact := by
  refine ⟨exact_of_same_floated h.wallTimeS, ?_⟩
  intro usd husd
  have hcost := h.costUsd
  rw [restored, Option.mem_def.mp husd] at hcost
  cases hcost with
  | some hsame => exact exact_of_same_floated hsame

theorem cost_of_costDict {v : Json F}
    (hv : o.costDict = .ok v) (h : costFromPayload v = .ok cost) : cost = o.restored.cost := by
  simp only [ExecutionObservation.restored]
  cases hc : o.cost with
  | none =>
    rw [ExecutionObservation.costDict, hc] at hv
    cases hv
    cases h
    rfl
  | some c =>
    simp only [ExecutionObservation.costDict, hc, ObservationCost.canonicalDict, bind_ok, orRaise_ok, pure_ok] at hv
    obtain ⟨_, -, x, hx, y, hy, rfl⟩ := hv
    rcases costFromPayload_cases h with ⟨hnull, -⟩ | ⟨-, c', hraw, rfl⟩
    · cases hnull
    simp only [costFromRaw, bind_ok, orRaise_ok, require_ok, pure_ok, item_dict] at hraw
    obtain ⟨wall, hwall, _, -, tokens, htokens, _, -, calls, hcalls, _, -, usd, husd, _, -, rfl⟩ := hraw
    cases hwall
    cases htokens
    cases hcalls
    have husd' : costUsdFromPayload (Json.ofOption .float y) = .ok usd := husd
    have hcost : usd = c.costUsd.map Num.floated := by
      rw [ObservationCost.costFloat] at hy
      cases hu : c.costUsd with
      | none =>
        rw [hu] at hy
        cases hy
        cases husd'
        rfl
      | some a =>
        simp only [hu, bind_ok, orRaise_ok, pure_ok] at hy
        obtain ⟨z, hz, rfl⟩ := hy
        cases husd'
        rw [Option.map_some, Num.floated_of hz]
    rw [Option.map_some, ObservationCost.restored, Num.floated_of hx, hcost]

theorem read_same_iff (h : o.validateSelf = .ok ⟨⟩) :
    (∃ v o', o.canonicalDict = .ok v ∧ observationFromPayload v = .ok o' ∧ o.Same o') ↔ o.Exact := by
  constructor
  · rintro ⟨v, o', hv, ho', hsame⟩
    have hcost : o'.cost = o.restored.cost := by
      simp only [ExecutionObservation.canonicalDict, ExecutionObservation.identityEntries, bind_ok, pure_ok] at hv
      obtain ⟨_, -, _, ⟨w, -, ws, -, c, hcw, rfl⟩, rfl⟩ := hv
      simp only [observationFromPayload, bind_ok, require_ok, orRaise_ok, rethrow_ok, pure_ok] at ho'
      obtain ⟨_, -, _, -, _, -, raws, -, bs, -, cost, hread, output, -, _, -, _, -, rfl⟩ := ho'
      rw [item_dict] at hread
      exact cost_of_costDict hcw hread
    intro c hc
    have hrel := hsame.cost
    rw [hcost, ExecutionObservation.restored, Option.mem_def.mp hc] at hrel
    cases hrel with
    | some hrel => exact ObservationCost.exact_of_same_restored hrel
  · intro hexact
    obtain ⟨v, hv⟩ := ExecutionObservation.canonicalDict_of_validateSelf h
    exact ⟨v, o.restored, hv, observationFromPayload_canonicalDict hexact hv, ExecutionObservation.same_restored hexact⟩

/-- **When the checkpoint codecs are exact.** A valid ticket is read back from its payload when its fingerprints are
digests, and an observation, up to the amounts of its cost, when the amounts are equal to floats. A payload that is
read is the one that is written of the record when no field of it is converted: for a ticket, for an observation up
to the amounts, and for an observation with its amounts. -/
theorem codecs_exact_iff :
    (∀ t : DispatchTicket, t.validate = .ok ⟨⟩ →
      ((∃ p : Json F, dispatchPayload t = .ok p ∧ dispatchFromPayload p = .ok t) ↔
        ∀ f ∈ [t.planFingerprint, t.nodeFingerprint, t.authorityFingerprint] ++ t.dependencyObservationFingerprints,
          sha256Re f = true)) ∧
    (∀ (p : Json F) (t : DispatchTicket), Canonical p → dispatchFromPayload p = .ok t →
      (dispatchPayload t = .ok p ↔ TicketTyped p)) ∧
    (∀ o : ExecutionObservation F, o.validateSelf = .ok ⟨⟩ →
      ((∃ v o', o.canonicalDict = .ok v ∧ observationFromPayload v = .ok o' ∧ o.Same o') ↔ o.Exact)) ∧
    (∀ (p : Json F) (o : ExecutionObservation F), Canonical p → observationFromPayload p = .ok o →
      ((∃ v, o.canonicalDict = .ok v ∧ SamePayload p v) ↔
        ObservationTyped p ∧ ∀ k ∈ costAmounts, AmountExact ((p.item "cost").item k)) ∧
      (o.canonicalDict = .ok p ↔ ObservationTyped p ∧ ∀ k ∈ costAmounts, ¬ ((p.item "cost").item k).IsInt)) := by
  refine ⟨?_, ?_, fun o ho => read_same_iff ho, ?_⟩
  · intro t ht
    have hiff : validateDispatchFingerprints t = .ok ⟨⟩ ↔ ∀ f ∈ [t.planFingerprint, t.nodeFingerprint,
        t.authorityFingerprint] ++ t.dependencyObservationFingerprints, sha256Re f = true := by
      rw [validateDispatchFingerprints_ok]
      simp only [List.cons_append, List.nil_append, List.forall_mem_cons]
    rw [← hiff]
    constructor
    · rintro ⟨p, hp, -⟩
      exact (dispatchPayload_ok.mp hp).2.1
    · intro hf
      exact ⟨_, dispatchPayload_ok.mpr ⟨ht, hf, rfl⟩, dispatchFromPayload_entries ht hf⟩
  · intro p t hp h
    exact dispatchPayload_read hp (dispatchFromPayload_ok.mp h)
  · intro p o hp h
    obtain ⟨v, hv, hwritten⟩ := observationWritten hp h
    constructor
    · rw [← hwritten.same_iff hp]
      constructor
      · rintro ⟨w, hw, hsame⟩
        rw [hv] at hw
        cases hw
        exact hsame
      · exact fun hsame => ⟨v, hv, hsame⟩
    · rw [← hwritten.eq_iff hp, hv, Except.ok.injEq]

end Observations

/-! ## A ticket -/

theorem TicketRead.spellLevel {F : Type} [PyRuntime F] {p : Json F} (h : TicketRead p t) {s : String}
    (hs : int? s = some t.executionLevel) : TicketRead (p.setKey "execution_level" (.str s)) t := by
  have hkeys : (p.setKey "execution_level" (.str s)).hasKeys dispatchKeys = true := hasKeys_setKey h.keys (by decide)
  have hitem : ∀ k, k ≠ "execution_level" → (p.setKey "execution_level" (.str s)).item k = p.item k := by
    intro k hk
    rw [item_setKey h.keys, if_neg hk]
  have hlevel : ((p.setKey "execution_level" (.str s)).item "execution_level").toInt? = some t.executionLevel := by
    rw [item_setKey h.keys, if_pos rfl]
    exact hs
  exact
    { keys := hkeys
      authorized := by rw [hitem _ (by decide), h.authorized]
      ticketId := by rw [hitem _ (by decide), h.ticketId]
      schemaVersion := by rw [hitem _ (by decide), h.schemaVersion]
      taskId := by rw [hitem _ (by decide), h.taskId]
      planFingerprint := by rw [hitem _ (by decide), h.planFingerprint]
      nodeId := by rw [hitem _ (by decide), h.nodeId]
      nodeFingerprint := by rw [hitem _ (by decide), h.nodeFingerprint]
      authorityFingerprint := by rw [hitem _ (by decide), h.authorityFingerprint]
      dependencies := by rw [hitem _ (by decide), h.dependencies]
      dispatchSequence := by rw [hitem _ (by decide), h.dispatchSequence]
      executionLevel := hlevel
      valid := h.valid
      fingerprints := h.fingerprints }

namespace Sample

theorem signedTicket : ∃ t, t.validate = .ok ⟨⟩ ∧ validateDispatchFingerprints t = .ok ⟨⟩ ∧ t.executionLevel = 0 := by
  obtain ⟨id, hid⟩ := ExecutionScheduler.expectedId_of (t := ticketA (hashText "plan") (hashText "node") "")
    (show (1 : Int).natAbs < 2 ^ 64 by decide) (show (0 : Int).natAbs < 2 ^ 64 by decide)
  refine ⟨ticketA (hashText "plan") (hashText "node") id, ?_, ?_, rfl⟩
  · simp only [DispatchTicket.validate, bind_ok, require_ok]
    exact ⟨⟨⟩, rfl, ⟨⟩, show (1 : Int) ≤ 1 by decide, id, hid, rfl⟩
  · exact validateDispatchFingerprints_ok.mpr ⟨sha256Re_hashText _, sha256Re_hashText _, sha256Re_build _ _ _ _ _ _,
      by simp [ticketA]⟩

/-- What the codecs do with the ticket and with its payload. -/
theorem codecs_exact_signed : ∃ (t : DispatchTicket) (p : Json WholeFloat), dispatchPayload t = .ok p ∧
    dispatchFromPayload p = .ok t ∧ TicketTyped p := by
  obtain ⟨t, hv, hf, -⟩ := signedTicket
  have hcodecs := codecs_exact_iff (F := WholeFloat)
  obtain ⟨hp, hn, ha, hd⟩ := validateDispatchFingerprints_ok.mp hf
  obtain ⟨p, hpay, hread⟩ := (hcodecs.1 t hv).mpr (by
    simp only [List.cons_append, List.nil_append, List.forall_mem_cons]
    exact ⟨hp, hn, ha, hd⟩)
  have hcanonical : Canonical p := (dispatchPayload_ok.mp hpay).2.2 ▸ canonical_dispatchEntries t
  exact ⟨t, p, hpay, hread, (hcodecs.2.1 p t hcanonical hread).mp hpay⟩

/-- The level `"0"` is read as the level `0`, which is not written as `"0"`. -/
theorem spelled_level_not_exact : ∃ (p : Json WholeFloat) (t : DispatchTicket), Canonical p ∧
    p.item "execution_level" = .str "0" ∧ dispatchFromPayload p = .ok t ∧ dispatchPayload t ≠ .ok p := by
  obtain ⟨t, hv, hf, hlevel⟩ := signedTicket
  have hread := dispatchFromPayload_ok.mp (dispatchFromPayload_entries (F := WholeFloat) hv hf)
  have hspelled := hread.spellLevel (s := "0") (by rw [hlevel]; decide +kernel)
  refine ⟨_, t, canonical_setKey (canonical_dispatchEntries t) (w := .str "0") trivial, ?_,
    dispatchFromPayload_ok.mpr hspelled, ?_⟩
  · rw [item_setKey hread.keys, if_pos rfl]
  · intro hp
    have he := congrArg (Json.item · "execution_level") (dispatchPayload_ok.mp hp).2.2
    simp only [item_setKey hread.keys, item_dict] at he
    cases he

end Sample

end ThreeAgent
