/-
The verdict of the promotion gate against what is asked of it: one payload for
each mandatory class, the requested lineage, and every required check shown.

The checks are compared under names that one side of the comparison normalises
and the other does not. A required check that is not spelled in its normal form
is never found, and of several spellings of one name only the last is seen.
Where neither happens, the verdict is the one asked for.
-/
import ThreeAgent.Lib.JsonDict
import ThreeAgent.Lib.WholeFloat
import ThreeAgent.PromotionGate

namespace ThreeAgent

variable {name baseline candidate text classId : String}

namespace PromotionGate

open PyText Outcome PyJson PyDict PromotionEvidence

variable {request : Request}

variable {expected : Option (String × String)}

variable {F : Type}

/-! ## Names of checks -/

theorem normalName_normalName (name : String) : normalName (normalName name) = normalName name :=
  upper_strip_upper_strip name

theorem checkName_str [PyRuntime F] (check : String) : checkName (.str check : Json F) = normalName check := by
  by_cases h : check = ""
  · rw [h]
    rfl
  · rw [checkName, Json.textOr, if_pos (by simpa [Json.truthy] using h), Json.toStr]

/-- The value of the last of the entries whose key has the normal name. -/
def lastNamed (entries : PyDict.Dict (Json F)) (name : String) : Option (Json F) :=
  (entries.reverse.find? fun e => normalName e.1 = name).map (·.2)

theorem get?_normalChecks (entries : PyDict.Dict (Json F)) (name : String) :
    get? (normalChecks entries) name = lastNamed entries name := by
  rw [normalChecks, get?_foldl_set, get?_nil, Option.or_none, lastNamed]

variable {entries : PyDict.Dict (Json F)}

variable {v : Json F}

theorem exists_of_lastNamed
    (h : lastNamed entries name = some v) : ∃ e ∈ entries, normalName e.1 = name ∧ e.2 = v := by
  obtain ⟨e, he, hv⟩ := Option.map_eq_some_iff.mp h
  exact ⟨e, List.mem_reverse.mp (List.mem_of_find?_eq_some he), by simpa using List.find?_some he, hv⟩

theorem lastNamed_of_forall
    (hex : ∃ e ∈ entries, normalName e.1 = name) (hall : ∀ e ∈ entries, normalName e.1 = name → e.2 = v) :
    lastNamed entries name = some v := by
  obtain ⟨e, he, hname⟩ := hex
  obtain ⟨e', he'⟩ : ∃ e', entries.reverse.find? (fun e => normalName e.1 = name) = some e' := by
    rw [← Option.isSome_iff_exists, List.find?_isSome]
    exact ⟨e, List.mem_reverse.mpr he, by simpa using hname⟩
  have hmem := List.mem_reverse.mp (List.mem_of_find?_eq_some he')
  rw [lastNamed, he', Option.map_some, hall e' hmem (by simpa using List.find?_some he')]

variable {check : Json F}

theorem checkPassed_normalChecks [PyRuntime F] :
    checkPassed (normalChecks entries) check = true ↔
      check = .str (checkName check) ∧ lastNamed entries (checkName check) = some (.bool true) := by
  cases check with
  | str name =>
    have hfound : checkPassed (normalChecks entries) (.str name) = true ↔ lastNamed entries name = some (.bool true) := by
      rw [checkPassed, get?_normalChecks]
      cases hlast : lastNamed entries name with
      | none => simp
      | some v => cases v <;> simp
    rw [hfound, checkName_str]
    constructor
    · intro h
      obtain ⟨e, -, hname, -⟩ := exists_of_lastNamed h
      have hnormal : normalName name = name := by rw [← hname, normalName_normalName]
      rw [hnormal]
      exact ⟨rfl, h⟩
    · rintro ⟨hname, h⟩
      rwa [← Json.str.inj hname] at h
  | _ => simp only [checkPassed, Bool.false_eq_true, reduceCtorEq, false_and]

/-! ## The first row of each class -/

section Collect

variable {rows : List (PromotionEvidence F)} {acc : Collected F}

theorem admitRows [PyRuntime F] {registrySha256 : String} (h : ∀ row ∈ rows, row.validate registrySha256 = .ok ⟨⟩) :
    rows.foldlM (admitRow registrySha256) acc = .ok (rows.foldl collectRow acc) := by
  induction rows generalizing acc with
  | nil => rfl
  | cons row rows ih =>
    have hrow : admitRow registrySha256 acc row = .ok (collectRow acc row) := by
      rw [admitRow, h row List.mem_cons_self]
      rfl
    rw [List.foldlM_cons, hrow, List.foldl_cons]
    exact ih fun r hr => h r (List.mem_cons_of_mem _ hr)

theorem get?_collect (classId : String) : get? (rows.foldl collectRow acc).2 classId =
    (get? acc.2 classId).or (rows.find? (·.corpusClass = classId)) := by
  induction rows generalizing acc with
  | nil => simp
  | cons row rows ih =>
    rw [List.foldl_cons, ih, List.find?_cons, collectRow]
    by_cases hhas : has acc.2 row.corpusClass = true
    · rw [if_pos hhas]
      by_cases hclass : row.corpusClass = classId
      · obtain ⟨first, hfirst⟩ := has_iff.mp hhas
        rw [hclass] at hfirst
        simp [hfirst]
      · simp [hclass]
    · rw [if_neg hhas, get?_set]
      by_cases hclass : row.corpusClass = classId
      · have hnone := has_eq_false.mp (Bool.not_eq_true _ ▸ hhas)
        rw [hclass] at hnone
        simp [hclass, hnone]
      · simp [hclass]

theorem failures_collect (hacc : (keys acc.2).Nodup) :
    (rows.foldl collectRow acc).1 = [] ↔ acc.1 = [] ∧ (keys acc.2 ++ rows.map (·.corpusClass)).Nodup := by
  induction rows generalizing acc with
  | nil => simp [hacc]
  | cons row rows ih =>
    rw [List.foldl_cons, List.map_cons]
    by_cases hhas : has acc.2 row.corpusClass = true
    · have hstep : collectRow acc row = (acc.1 ++ ["DUPLICATE_EVIDENCE:" ++ row.corpusClass], acc.2) := if_pos hhas
      rw [hstep, @ih (acc.1 ++ ["DUPLICATE_EVIDENCE:" ++ row.corpusClass], acc.2) hacc]
      constructor
      · rintro ⟨hnil, -⟩
        simp at hnil
      · rintro ⟨-, hnodup⟩
        rw [List.nodup_append] at hnodup
        exact absurd rfl (hnodup.2.2 _ (mem_keys.mpr hhas) _ List.mem_cons_self)
    · have habsent : has acc.2 row.corpusClass = false := Bool.not_eq_true _ ▸ hhas
      have hstep : collectRow acc row = (acc.1, set acc.2 row.corpusClass row) := if_neg hhas
      rw [hstep, @ih (acc.1, _) (nodup_set hacc habsent), keys_set_of_absent habsent]
      simp

theorem keys_collect (h : (keys acc.2 ++ rows.map (·.corpusClass)).Nodup) :
    keys (rows.foldl collectRow acc).2 = keys acc.2 ++ rows.map (·.corpusClass) := by
  induction rows generalizing acc with
  | nil => simp
  | cons row rows ih =>
    rw [List.map_cons] at h
    have habsent : has acc.2 row.corpusClass = false := by
      rw [← Bool.not_eq_true]
      intro hhas
      rw [List.nodup_append] at h
      exact h.2.2 _ (mem_keys.mpr hhas) _ List.mem_cons_self rfl
    have hstep : collectRow acc row = (acc.1, set acc.2 row.corpusClass row) := by
      rw [collectRow, if_neg (by simp [habsent])]
    have hkeys : keys (set acc.2 row.corpusClass row) ++ rows.map (·.corpusClass) =
        keys acc.2 ++ row.corpusClass :: rows.map (·.corpusClass) := by
      rw [keys_set_of_absent habsent]
      simp
    rw [List.foldl_cons, hstep, @ih (acc.1, _) (hkeys ▸ h), hkeys, List.map_cons]

theorem promotionClasses_nodup : promotionClasses.Nodup := by decide

theorem collect_perm (hclasses : ∀ row ∈ rows, row.corpusClass ∈ promotionClasses) :
    ((rows.foldl collectRow ([], [])).1 = [] ∧ ∀ classId ∈ promotionClasses, ∃ row ∈ rows, row.corpusClass = classId) ↔
      (rows.map (·.corpusClass)).Perm promotionClasses := by
  have hfailures := @failures_collect F rows ([], []) (by simp [keys])
  simp only [keys, List.map_nil, List.nil_append, true_and] at hfailures
  rw [hfailures]
  constructor
  · rintro ⟨hnodup, hall⟩
    refine (List.perm_ext_iff_of_nodup hnodup promotionClasses_nodup).mpr fun classId => ?_
    rw [List.mem_map]
    constructor
    · rintro ⟨row, hrow, rfl⟩
      exact hclasses row hrow
    · exact hall classId
  · intro hperm
    refine ⟨hperm.nodup_iff.mpr promotionClasses_nodup, fun classId hclass => ?_⟩
    exact List.mem_map.mp (hperm.mem_iff.mpr hclass)

theorem length_collect (hperm : (rows.map (·.corpusClass)).Perm promotionClasses) :
    (rows.foldl collectRow (([], []) : Collected F)).2.length = promotionClasses.length := by
  have hkeys := @keys_collect F rows ([], [])
    (by simpa [keys] using hperm.nodup_iff.mpr promotionClasses_nodup)
  have hlen := congrArg List.length hkeys
  simp only [keys, List.map_nil, List.nil_append, List.length_map] at hlen
  rw [hlen, ← hperm.length_eq, List.length_map]

end Collect

theorem find?_of_nodup {α : Type} {key : α → String} {xs : List α} (hnodup : (xs.map key).Nodup) {x : α} (hx : x ∈ xs) :
    xs.find? (fun y => key y = key x) = some x := by
  obtain ⟨y, hy⟩ : ∃ y, xs.find? (fun y => key y = key x) = some y := by
    rw [← Option.isSome_iff_exists, List.find?_isSome]
    exact ⟨x, hx, by simp⟩
  have hkey : key y = key x := by simpa using List.find?_some hy
  rw [hy, List.inj_on_of_nodup_map hnodup (List.mem_of_find?_eq_some hy) hx hkey]

variable [PyRuntime F]

/-! ## What is validated -/

theorem policy_ok {policy : PromotionPolicy F} (h : policy.validate = .ok ⟨⟩) :
    policy.classes.map (·.classId) = promotionClasses ∧ ∀ spec ∈ policy.classes, spec.validate = .ok ⟨⟩ := by
  simp only [PromotionPolicy.validate, bind_ok, require_ok, exists_const] at h
  obtain ⟨-, -, -, hclasses, hspecs⟩ := h
  exact ⟨hclasses, forM_ok.mp hspecs⟩

theorem byId_ok {policy : PromotionPolicy F} (h : policy.validate = .ok ⟨⟩) :
    ∃ specs, policy.byId = .ok specs ∧ ∀ spec ∈ policy.classes, get? specs spec.classId = some spec := by
  refine ⟨_, by rw [PromotionPolicy.byId, h]; rfl, fun spec hspec => ?_⟩
  have hnodup : (policy.classes.reverse.map (·.classId)).Nodup := by
    rw [List.map_reverse, (policy_ok h).1]
    decide
  rw [get?_foldl_set, find?_of_nodup hnodup (List.mem_reverse.mpr hspec)]
  rfl

theorem truthy_of_isBool (h : isBool v = true) : v.truthy = true ↔ v = .bool true := by
  cases v with
  | bool b => cases b <;> simp [Json.truthy]
  | _ => cases h

theorem spec_flags {spec : PromotionClassSpec F} (h : spec.validate = .ok ⟨⟩) :
    isBool spec.holdoutCommitmentRequired = true ∧ isBool spec.evaluatorAttestationRequired = true := by
  simp only [PromotionClassSpec.validate, bind_ok, require_ok, exists_const] at h
  obtain ⟨-, -, -, -, -, -, hflags, -⟩ := h
  exact hflags

/-- What the gate reads of validated evidence. -/
structure Validated (registrySha256 : String) (row : PromotionEvidence F) : Prop where
  corpusClass : row.corpusClass ∈ promotionClasses
  registryId : row.metricRegistryId = metricRegistryId
  registry : lowered row.metricRegistrySha256 = registrySha256
  baseline : gitShaRe (lowered row.baselineRef) = true
  distinct : lowered row.baselineRef ≠ lowered row.candidateRef
  candidate : gitShaRe (lowered row.candidateRef) = true
  secure : isBool row.securityPassed = true
  attested : isBool row.evaluatorAttested = true

variable {row : PromotionEvidence F}

theorem validate_ok {registrySha256 : String}
    (h : row.validate registrySha256 = .ok ⟨⟩) : Validated registrySha256 row := by
  simp only [validate, sha256, gitSha, bind_ok, require_ok, pure_ok, exists_const] at h
  obtain ⟨-, -, hclass, -, -, -, -, hid, _, ⟨-, rfl⟩, hregistry, _, ⟨hbaseline, rfl⟩, _, ⟨hcandidate, rfl⟩, hdistinct, -, -, -,
    hflags, -⟩ := h
  exact ⟨hclass, hid, hregistry, hbaseline, hdistinct, hcandidate, hflags.1, hflags.2⟩

theorem fromPayload_ok {registrySha256 : String} {payload : Json F}
    (h : fromPayload registrySha256 payload = .ok row) :
    (∃ refs, row = ofFields payload refs) ∧ row.validate registrySha256 = .ok ⟨⟩ := by
  simp only [fromPayload, bind_ok, require_ok, pure_ok, exists_const] at h
  obtain ⟨-, -, -, refs, -, _, hvalid, rfl⟩ := h
  exact ⟨⟨refs, rfl⟩, hvalid⟩

theorem lowered_lowered (value : String) : lowered (lowered value) = lowered value := lower_strip_lower_strip _

theorem lowered_loweredField (payload : Json F) (key : String) :
    lowered (loweredField payload key) = loweredField payload key :=
  lowered_lowered _

/-! ## The verdict over rows -/

variable {specs : PyDict.Dict (PromotionClassSpec F)}

section Evaluate

variable {load : String → Except Raised EvaluationCorpus} {registrySha256 : String} {policy : PromotionPolicy F}
  {rows : List (PromotionEvidence F)}

theorem evaluateClass_eq
    {byClass : PyDict.Dict (PromotionEvidence F)} {spec : PromotionClassSpec F}
    (hspec : get? specs spec.classId = some spec) (hexpected : repositoryExpectation load spec = .ok expected) :
    evaluateClass load registrySha256 baseline candidate specs byClass spec.classId =
      .ok (classResult registrySha256 baseline candidate expected spec spec.classId
        (get? byClass spec.classId)) := by
  rw [evaluateClass, hspec]
  simp only [orRaise, hexpected, bind, Except.bind, pure, Except.pure]

theorem evaluateClasses_ok (byClass : PyDict.Dict (PromotionEvidence F))
    (registrySha256 baseline candidate : String) (hclasses : policy.classes.map (·.classId) = promotionClasses)
    (hspecs : ∀ spec ∈ policy.classes, get? specs spec.classId = some spec)
    (hcorpora : ∀ spec ∈ policy.classes, ∃ expected, repositoryExpectation load spec = .ok expected) :
    ∃ results, promotionClasses.mapM (evaluateClass load registrySha256 baseline candidate specs byClass) = .ok results ∧
      ((∀ result ∈ results, result.failures = []) ↔ ∀ spec ∈ policy.classes, ∀ expected,
        repositoryExpectation load spec = .ok expected →
          classFailures registrySha256 baseline candidate expected spec (get? byClass spec.classId) = []) := by
  have hspec : ∀ classId ∈ promotionClasses, ∃ spec ∈ policy.classes, spec.classId = classId := by
    intro classId hclass
    rw [← hclasses] at hclass
    exact List.mem_map.mp hclass
  obtain ⟨results, hresults⟩ : ∃ results, promotionClasses.mapM
      (evaluateClass load registrySha256 baseline candidate specs byClass) = .ok results := by
    refine mapM_returns fun classId hclass => ?_
    obtain ⟨spec, hmem, rfl⟩ := hspec classId hclass
    obtain ⟨expected, hexpected⟩ := hcorpora spec hmem
    exact ⟨_, evaluateClass_eq (hspecs spec hmem) hexpected⟩
  refine ⟨results, hresults, ?_⟩
  have hforall := mapM_ok.mp hresults
  constructor
  · intro hall spec hmem expected hexpected
    have hclass : spec.classId ∈ promotionClasses := hclasses ▸ List.mem_map.mpr ⟨spec, hmem, rfl⟩
    obtain ⟨result, hin, hresult⟩ := forall₂_mem_left hforall hclass
    rw [evaluateClass_eq (hspecs spec hmem) hexpected] at hresult
    have hnone := hall result hin
    rwa [← Except.ok.inj hresult] at hnone
  · intro hall result hin
    obtain ⟨classId, hclass, hresult⟩ := forall₂_mem_right hforall hin
    obtain ⟨spec, hmem, rfl⟩ := hspec classId hclass
    obtain ⟨expected, hexpected⟩ := hcorpora spec hmem
    rw [evaluateClass_eq (hspecs spec hmem) hexpected] at hresult
    rw [← Except.ok.inj hresult]
    exact hall spec hmem expected hexpected

/-- **When rows are accepted.** There is one for each mandatory class and for no other, and none has a failure. -/
theorem evaluate_accepted {baselineRef candidateRef rollbackRef : String}
    (hpolicy : policy.validate = .ok ⟨⟩) (hrequest : admitRequest baselineRef candidateRef rollbackRef = .ok request)
    (hrows : ∀ row ∈ rows, row.validate registrySha256 = .ok ⟨⟩)
    (hcorpora : ∀ spec ∈ policy.classes, ∃ expected, repositoryExpectation load spec = .ok expected) :
    ∃ receipt, evaluate load registrySha256 policy rows baselineRef candidateRef rollbackRef = .ok receipt ∧
      (receipt.accepted = true ↔ (rows.map (·.corpusClass)).Perm promotionClasses ∧
        ∀ spec ∈ policy.classes, ∀ row ∈ rows, row.corpusClass = spec.classId → ∀ expected,
          repositoryExpectation load spec = .ok expected →
            rowFailures registrySha256 request.baseline request.candidate expected spec row = []) := by
  obtain ⟨hclasses, -⟩ := policy_ok hpolicy
  obtain ⟨specs, hbyId, hspecs⟩ := byId_ok hpolicy
  have hin : ∀ row ∈ rows, row.corpusClass ∈ promotionClasses := fun row hrow => (validate_ok (hrows row hrow)).corpusClass
  obtain ⟨results, hresults, hfailures⟩ :=
    evaluateClasses_ok (rows.foldl collectRow ([], [])).2 registrySha256 request.baseline request.candidate hclasses hspecs
      hcorpora
  simp only [get?_collect, get?_nil, Option.none_or] at hfailures
  refine ⟨_, by
    rw [evaluate, hpolicy, hrequest, hbyId, admitRows hrows]
    simp only [bind, Except.bind, pure, Except.pure] at hresults ⊢
    rw [hresults], ?_⟩
  simp only [Bool.and_eq_true, List.isEmpty_iff, List.append_eq_nil_iff, List.flatMap_eq_nil_iff, List.map_eq_nil_iff,
    decide_eq_true_eq]
  rw [hfailures]
  constructor
  · rintro ⟨⟨hcollect, hnone⟩, -⟩
    have hperm := (collect_perm hin).mp ⟨hcollect, fun classId hclass => ?_⟩
    · refine ⟨hperm, fun spec hspec row hrow hclass expected hexpected => ?_⟩
      have hnodup := hperm.nodup_iff.mpr promotionClasses_nodup
      have hfound := find?_of_nodup hnodup hrow
      have h := hnone spec hspec expected hexpected
      rwa [← hclass, hfound] at h
    · obtain ⟨spec, hspec, rfl⟩ := List.mem_map.mp (hclasses ▸ hclass)
      obtain ⟨expected, hexpected⟩ := hcorpora spec hspec
      have h := hnone spec hspec expected hexpected
      cases hfound : rows.find? (·.corpusClass = spec.classId) with
      | none => simp [hfound, classFailures] at h
      | some row => exact ⟨row, List.mem_of_find?_eq_some hfound, by simpa using List.find?_some hfound⟩
  · rintro ⟨hperm, hnone⟩
    obtain ⟨hcollect, hall⟩ := (collect_perm hin).mpr hperm
    refine ⟨⟨hcollect, fun spec hspec expected hexpected => ?_⟩, length_collect hperm⟩
    obtain ⟨row, hrow, hclass⟩ := hall spec.classId (hclasses ▸ List.mem_map.mpr ⟨spec, hspec, rfl⟩)
    have hfound := find?_of_nodup (hperm.nodup_iff.mpr promotionClasses_nodup) hrow
    rw [← hclass, hfound]
    exact hnone spec hspec row hrow hclass expected hexpected

end Evaluate

/-! ## What is asked of a payload -/

section Asked

variable (load : String → Except Raised EvaluationCorpus)

/-- What a class asks of its payload, the checks apart. -/
structure ClassShown (baseline candidate : String) (spec : PromotionClassSpec F) (payload : Json F) : Prop where
  baseline : loweredField payload "baseline_ref" = baseline
  candidate : loweredField payload "candidate_ref" = candidate
  secure : payload.item "security_passed" = .bool true
  committed : spec.holdoutCommitmentRequired = .bool true → payload.item "label_commitment_sha256" ≠ .null
  attested : spec.evaluatorAttestationRequired = .bool true → payload.item "evaluator_attested" = .bool true
  corpus : ∀ ref corpus, spec.sourceKind = "repository_corpus" → spec.sourceRef = some ref → load ref = .ok corpus →
    textField payload "corpus_id" = corpus.corpusId ∧ loweredField payload "corpus_sha256" = corpus.sha256

/-- The corpus class that a payload names. -/
def payloadClass (payload : Json F) : String := textField payload "corpus_class"

/-- One payload for each mandatory class, and each is as its class asks, the checks apart. -/
structure Qualified (policy : PromotionPolicy F) (payloads : List (Json F)) (baseline candidate : String) : Prop where
  once : ∀ classId ∈ promotionClasses, (payloads.map payloadClass).count classId = 1
  shown : ∀ spec ∈ policy.classes, ∀ payload ∈ payloads, payloadClass payload = spec.classId →
    ClassShown load baseline candidate spec payload

end Asked

/-- `P` of every required check of every class and the payload of the class. -/
def EachRequired (policy : PromotionPolicy F) (payloads : List (Json F)) (P : Json F → Json F → Prop) : Prop :=
  ∀ spec ∈ policy.classes, ∀ payload ∈ payloads, payloadClass payload = spec.classId →
    ∀ check ∈ spec.requiredChecks, P check payload

/-- The payload has a key with the normal name of the check. -/
def Keyed (check payload : Json F) : Prop := ∃ e ∈ rawChecks payload, normalName e.1 = checkName check

/-- Every key of the payload with the normal name of the check is true. -/
def NoneUntrue (check payload : Json F) : Prop :=
  ∀ e ∈ rawChecks payload, normalName e.1 = checkName check → e.2 = .bool true

/-- The last key of the payload with the normal name of the check is true. -/
def LastTrue (check payload : Json F) : Prop := lastNamed (rawChecks payload) (checkName check) = some (.bool true)

/-- The check is a text in its normal form. -/
def SpelledNormally (check : Json F) : Prop := check = .str (checkName check)

theorem keyed_noneUntrue_iff {payload : Json F} :
    Keyed check payload ∧ NoneUntrue check payload ↔ LastTrue check payload ∧ NoneUntrue check payload := by
  constructor
  · rintro ⟨hkeyed, hnone⟩
    exact ⟨lastNamed_of_forall hkeyed hnone, hnone⟩
  · rintro ⟨hlast, hnone⟩
    obtain ⟨e, he, hname, -⟩ := exists_of_lastNamed hlast
    exact ⟨⟨e, he, hname⟩, hnone⟩

theorem failure_eq_nil {failed : Bool} : failure failed text = [] ↔ failed = false := by
  cases failed <;> simp [failure]

section Rows

variable {load : String → Except Raised EvaluationCorpus} {registrySha256 : String}

variable {spec : PromotionClassSpec F}

theorem expectation_cases (h : repositoryExpectation load spec = .ok expected) :
    (spec.sourceKind ≠ "repository_corpus" ∧ expected = none) ∨
      (spec.sourceKind = "repository_corpus" ∧ ∃ ref corpus, spec.sourceRef = some ref ∧ load ref = .ok corpus ∧
        expected = some (corpus.corpusId, corpus.sha256)) := by
  unfold repositoryExpectation at h
  by_cases hkind : spec.sourceKind = "repository_corpus"
  · simp only [hkind, ne_eq, not_true_eq_false, ite_false, bind_ok, orRaise_ok, require_ok, pure_ok] at h
    obtain ⟨_, -, ref, href, corpus, hload, _, -, hexpected⟩ := h
    exact .inr ⟨hkind, ref, corpus, href, hload, hexpected.symm⟩
  · simp only [ne_eq, hkind, not_false_eq_true, ite_true, bind_ok, pure_ok] at h
    obtain ⟨_, -, hexpected⟩ := h
    exact .inl ⟨hkind, hexpected.symm⟩

theorem corpusFailure_nil (h : repositoryExpectation load spec = .ok expected) {id hash : String} :
    corpusFailures id hash expected = [] ↔
      ∀ ref corpus, spec.sourceKind = "repository_corpus" → spec.sourceRef = some ref → load ref = .ok corpus →
        id = corpus.corpusId ∧ hash = corpus.sha256 := by
  rcases expectation_cases h with ⟨hkind, rfl⟩ | ⟨hkind, ref, corpus, href, hload, rfl⟩
  · simp [corpusFailures, hkind]
  · simp only [corpusFailures, failure_eq_nil, Bool.or_eq_false_iff, decide_eq_false_iff_not, not_not]
    constructor
    · rintro hmatch ref' corpus' - href' hload'
      rw [href] at href'
      cases href'
      rw [hload] at hload'
      rwa [← Except.ok.inj hload']
    · intro hmatch
      exact hmatch ref corpus hkind href hload

theorem rowFailures_nil {payload : Json F}
    (hrow : fromPayload registrySha256 payload = .ok row) (hspec : spec.validate = .ok ⟨⟩)
    (hexpected : repositoryExpectation load spec = .ok expected) :
    rowFailures registrySha256 baseline candidate expected spec row = [] ↔
      ClassShown load baseline candidate spec payload ∧
        ∀ check ∈ spec.requiredChecks, SpelledNormally check ∧ LastTrue check payload := by
  obtain ⟨⟨refs, rfl⟩, hvalid⟩ := fromPayload_ok hrow
  have hrowValid := validate_ok hvalid
  obtain ⟨hholdout, hattestation⟩ := spec_flags hspec
  have hregistry := hrowValid.registry
  simp only [ofFields, lowered_loweredField] at hregistry
  have hlabel : ∀ v : Json F, (labelHash v).isNone = true ↔ v = .null := by
    intro v
    cases v <;> simp [labelHash]
  unfold rowFailures
  simp only [List.append_eq_nil_iff, failure_eq_nil, List.flatMap_eq_nil_iff, corpusFailure_nil hexpected,
    Bool.or_eq_false_iff, Bool.and_eq_false_imp, Bool.not_eq_false', decide_eq_false_iff_not, ne_eq, not_not,
    hrowValid.registryId, truthy_of_isBool hrowValid.secure, truthy_of_isBool hrowValid.attested,
    truthy_of_isBool hholdout, truthy_of_isBool hattestation, and_true]
  simp only [ofFields, hregistry, checkPassed_normalChecks, ← Bool.not_eq_true, hlabel]
  constructor
  · rintro ⟨⟨⟨⟨⟨⟨⟨hbaseline, hcandidate⟩, -⟩, hsecure⟩, hchecks⟩, hcorpus⟩, hcommitted⟩, hattested⟩
    exact ⟨⟨hbaseline, hcandidate, hsecure, hcommitted, hattested, hcorpus⟩, hchecks⟩
  · rintro ⟨hshown, hchecks⟩
    exact ⟨⟨⟨⟨⟨⟨⟨hshown.baseline, hshown.candidate⟩, trivial⟩, hshown.secure⟩, hchecks⟩, hshown.corpus⟩, hshown.committed⟩,
      hshown.attested⟩

theorem expectation_returns (hspec : spec.validate = .ok ⟨⟩)
    (hload : spec.sourceKind = "repository_corpus" → ∀ ref, spec.sourceRef = some ref →
      ∃ corpus, load ref = .ok corpus ∧ corpus.corpusClass = spec.classId) :
    ∃ expected, repositoryExpectation load spec = .ok expected := by
  unfold repositoryExpectation
  rw [hspec]
  by_cases hkind : spec.sourceKind = "repository_corpus"
  · have hsource : spec.validateSource = .ok ⟨⟩ := by
      simp only [PromotionClassSpec.validate, bind_ok, require_ok, exists_const] at hspec
      obtain ⟨-, -, _, hsource, -⟩ := hspec
      exact hsource
    cases href : spec.sourceRef with
    | none =>
      -- an absent reference is the empty text, which is no path
      simp only [PromotionClassSpec.validateSource, hkind, ite_true, href, Option.getD_none, bind_ok, require_ok] at hsource
      obtain ⟨_, hpath, -⟩ := hsource
      simp only [safeRelativePath, bind_ok, require_ok] at hpath
      obtain ⟨-, ⟨hne, -⟩, -⟩ := hpath
      exact absurd (by decide) hne
    | some ref =>
      obtain ⟨corpus, hcorpus, hclass⟩ := hload hkind ref href
      exact ⟨some (corpus.corpusId, corpus.sha256), by simp [hkind, hcorpus, hclass, orRaise, require, bind, Except.bind]⟩
  · exact ⟨none, by simp [hkind, bind, Except.bind]⟩

end Rows

/-! ## The verdict over payloads -/

theorem count_classes_iff {classes : List String} (hin : ∀ classId ∈ classes, classId ∈ promotionClasses) :
    (∀ classId ∈ promotionClasses, classes.count classId = 1) ↔ classes.Perm promotionClasses := by
  constructor
  · intro hcount
    rw [List.perm_iff_count]
    intro classId
    by_cases hclass : classId ∈ promotionClasses
    · rw [hcount classId hclass, List.count_eq_one_of_mem promotionClasses_nodup hclass]
    · rw [List.count_eq_zero_of_not_mem hclass, List.count_eq_zero_of_not_mem fun h => hclass (hin _ h)]
  · intro hperm classId hclass
    rw [hperm.count_eq, List.count_eq_one_of_mem promotionClasses_nodup hclass]

theorem admitRequest_ok {baselineRef candidateRef rollbackRef : String}
    (h : admitRequest baselineRef candidateRef rollbackRef = .ok request) :
    request.baseline = lowered baselineRef ∧ request.candidate = lowered candidateRef := by
  simp only [admitRequest, gitSha, bind_ok, require_ok, pure_ok, exists_const] at h
  obtain ⟨_, ⟨-, rfl⟩, _, ⟨-, rfl⟩, _, -, -, -, rfl⟩ := h
  exact ⟨rfl, rfl⟩

section Verdict

/-- What the verdict is asked about: an accepted policy, payloads that are each accepted, and corpora that are there. -/
structure Given (load : String → Except Raised EvaluationCorpus) (registrySha256 : String) (policy : PromotionPolicy F)
    (payloads : List (Json F)) : Prop where
  validated : policy.validate = .ok ⟨⟩
  read : ∀ payload ∈ payloads, ∃ row, PromotionEvidence.fromPayload registrySha256 payload = .ok row
  corpora : ∀ spec ∈ policy.classes, spec.sourceKind = "repository_corpus" → ∀ ref, spec.sourceRef = some ref →
    ∃ corpus, load ref = .ok corpus ∧ corpus.corpusClass = spec.classId

variable {load : String → Except Raised EvaluationCorpus} {registrySha256 : String} {policy : PromotionPolicy F}
  {payloads payloads' : List (Json F)} {baselineRef candidateRef rollbackRef : String}

theorem verdict_refused {e : Raised} (given : Given load registrySha256 policy payloads)
    (h : admitRequest baselineRef candidateRef rollbackRef = .error e) :
    verdict load registrySha256 policy payloads baselineRef candidateRef rollbackRef = .error e := by
  obtain ⟨rows, hrows⟩ := mapM_returns given.read
  simp only [verdict, hrows, evaluate, given.validated, h, bind, Except.bind]

theorem corpusClass_of_fromPayload {payload : Json F}
    (h : fromPayload registrySha256 payload = .ok row) : row.corpusClass = payloadClass payload := by
  obtain ⟨⟨refs, rfl⟩, -⟩ := fromPayload_ok h
  rfl

section
variable (given : Given load registrySha256 policy payloads)
include given

/-- For admitted refs there is a verdict, and it accepts exactly the payloads that are as the classes ask, whose last
key under each required name is true, under checks spelled in their normal form. -/
theorem verdict_reached
    (h : admitRequest baselineRef candidateRef rollbackRef = .ok request) :
    ∃ accepted, verdict load registrySha256 policy payloads baselineRef candidateRef rollbackRef = .ok accepted ∧
      (accepted = true ↔ Qualified load policy payloads (lowered baselineRef) (lowered candidateRef) ∧
        EachRequired policy payloads LastTrue ∧ EachRequired policy payloads fun check _ => SpelledNormally check) := by
  obtain ⟨hclasses, hspecs⟩ := policy_ok given.validated
  obtain ⟨rows, hrows⟩ := mapM_returns given.read
  have hforall := mapM_ok.mp hrows
  have hpayload : ∀ row ∈ rows, ∃ payload ∈ payloads, fromPayload registrySha256 payload = .ok row :=
    fun row hrow => forall₂_mem_right hforall hrow
  have hvalid : ∀ row ∈ rows, row.validate registrySha256 = .ok ⟨⟩ := by
    intro row hrow
    obtain ⟨payload, -, hfrom⟩ := hpayload row hrow
    exact (fromPayload_ok hfrom).2
  have hexpected : ∀ spec ∈ policy.classes, ∃ expected, repositoryExpectation load spec = .ok expected :=
    fun spec hspec => expectation_returns (hspecs spec hspec) (given.corpora spec hspec)
  have hlist : rows.map (·.corpusClass) = payloads.map payloadClass := by
    clear hpayload hvalid hrows given
    induction hforall with
    | nil => rfl
    | cons hfrom _ ih => rw [List.map_cons, List.map_cons, ih, corpusClass_of_fromPayload hfrom]
  have hin : ∀ classId ∈ payloads.map payloadClass, classId ∈ promotionClasses := by
    intro classId hmem
    rw [← hlist] at hmem
    obtain ⟨row, hrow, rfl⟩ := List.mem_map.mp hmem
    exact (validate_ok (hvalid row hrow)).corpusClass
  obtain ⟨receipt, hevaluate, haccepted⟩ := evaluate_accepted given.validated h hvalid hexpected
  obtain ⟨hbaseline, hcandidate⟩ := admitRequest_ok h
  refine ⟨receipt.accepted, by rw [verdict, hrows]; simp only [bind, Except.bind, hevaluate, pure, Except.pure], ?_⟩
  rw [haccepted, hlist, ← count_classes_iff hin, hbaseline, hcandidate]
  constructor
  · rintro ⟨honce, hnone⟩
    have hshown : ∀ spec ∈ policy.classes, ∀ payload ∈ payloads, payloadClass payload = spec.classId →
        ClassShown load (lowered baselineRef) (lowered candidateRef) spec payload ∧
          ∀ check ∈ spec.requiredChecks, SpelledNormally check ∧ LastTrue check payload := by
      intro spec hspec payload hmem hid
      obtain ⟨row, hrow, hfrom⟩ := forall₂_mem_left hforall hmem
      obtain ⟨expected, hexp⟩ := hexpected spec hspec
      exact (rowFailures_nil hfrom (hspecs spec hspec) hexp).mp
        (hnone spec hspec row hrow ((corpusClass_of_fromPayload hfrom).trans hid) expected hexp)
    exact ⟨⟨honce, fun spec hspec payload hmem hid => (hshown spec hspec payload hmem hid).1⟩,
      fun spec hspec payload hmem hid check hcheck => ((hshown spec hspec payload hmem hid).2 check hcheck).2,
      fun spec hspec payload hmem hid check hcheck => ((hshown spec hspec payload hmem hid).2 check hcheck).1⟩
  · rintro ⟨hqualified, hlast, hspelled⟩
    refine ⟨hqualified.once, fun spec hspec row hrow hid expected hexp => ?_⟩
    obtain ⟨payload, hmem, hfrom⟩ := hpayload row hrow
    have hid' : payloadClass payload = spec.classId := (corpusClass_of_fromPayload hfrom).symm.trans hid
    refine (rowFailures_nil hfrom (hspecs spec hspec) hexp).mpr ⟨hqualified.shown spec hspec payload hmem hid', ?_⟩
    exact fun check hcheck => ⟨hspelled spec hspec payload hmem hid' check hcheck,
      hlast spec hspec payload hmem hid' check hcheck⟩

theorem admitRequest_of_qualified
    (hrollback : lowered rollbackRef = lowered baselineRef)
    (h : Qualified load policy payloads (lowered baselineRef) (lowered candidateRef)) :
    ∃ request, admitRequest baselineRef candidateRef rollbackRef = .ok request := by
  have hgolden : "golden" ∈ promotionClasses := by decide
  obtain ⟨payload, hpayload, hclass⟩ : ∃ payload ∈ payloads, payloadClass payload = "golden" := by
    have hpos : 0 < (payloads.map payloadClass).count "golden" := by
      rw [h.once _ hgolden]
      decide
    exact List.mem_map.mp (List.count_pos_iff.mp hpos)
  obtain ⟨spec, hspec, hid⟩ := List.mem_map.mp ((policy_ok given.validated).1 ▸ hgolden)
  have hshown := h.shown spec hspec payload hpayload (hclass.trans hid.symm)
  obtain ⟨row, hrow⟩ := given.read payload hpayload
  obtain ⟨⟨refs, rfl⟩, hvalid⟩ := fromPayload_ok hrow
  obtain ⟨-, -, -, hbaseline, hdistinct, hcandidate, -, -⟩ := validate_ok hvalid
  simp only [ofFields, hshown.baseline, hshown.candidate, lowered_lowered] at hbaseline hcandidate hdistinct
  exact ⟨⟨lowered baselineRef, lowered candidateRef, lowered baselineRef⟩, by
    simp [admitRequest, gitSha, hrollback, hbaseline, hcandidate, hdistinct, require, bind, Except.bind, pure, Except.pure]⟩

theorem verdict_true_iff
    (hrollback : lowered rollbackRef = lowered baselineRef) :
    verdict load registrySha256 policy payloads baselineRef candidateRef rollbackRef = .ok true ↔
      Qualified load policy payloads (lowered baselineRef) (lowered candidateRef) ∧
        EachRequired policy payloads LastTrue ∧ EachRequired policy payloads fun check _ => SpelledNormally check := by
  cases hrequest : admitRequest baselineRef candidateRef rollbackRef with
  | error e =>
    rw [verdict_refused given hrequest]
    simp only [reduceCtorEq, false_iff, not_and]
    intro hqualified
    obtain ⟨request, hok⟩ := admitRequest_of_qualified given hrollback hqualified
    rw [hrequest] at hok
    cases hok
  | ok request =>
    obtain ⟨accepted, hverdict, haccepted⟩ := verdict_reached given hrequest
    rw [hverdict, Except.ok.injEq, haccepted]

end

/-! ### In any order -/

theorem Given.perm (hperm : payloads.Perm payloads') (given : Given load registrySha256 policy payloads) :
    Given load registrySha256 policy payloads' :=
  ⟨given.validated, fun payload hmem => given.read payload (hperm.mem_iff.mpr hmem), given.corpora⟩

theorem qualified_perm (hperm : payloads.Perm payloads') :
    Qualified load policy payloads baseline candidate ↔ Qualified load policy payloads' baseline candidate := by
  have hone : ∀ {xs ys : List (Json F)}, xs.Perm ys → Qualified load policy xs baseline candidate →
      Qualified load policy ys baseline candidate := by
    intro xs ys hperm h
    refine ⟨fun classId hclass => ?_, fun spec hspec payload hmem => h.shown spec hspec payload (hperm.mem_iff.mpr hmem)⟩
    rw [← (hperm.map payloadClass).count_eq]
    exact h.once classId hclass
  exact ⟨hone hperm, hone hperm.symm⟩

theorem eachRequired_perm {P : Json F → Json F → Prop} (hperm : payloads.Perm payloads') :
    EachRequired policy payloads P ↔ EachRequired policy payloads' P := by
  simp only [EachRequired, hperm.mem_iff]

theorem verdict_perm (given : Given load registrySha256 policy payloads) (hperm : payloads.Perm payloads') :
    verdict load registrySha256 policy payloads' baselineRef candidateRef rollbackRef =
      verdict load registrySha256 policy payloads baselineRef candidateRef rollbackRef := by
  cases hrequest : admitRequest baselineRef candidateRef rollbackRef with
  | error e => rw [verdict_refused given hrequest, verdict_refused (given.perm hperm) hrequest]
  | ok request =>
    obtain ⟨accepted, hverdict, haccepted⟩ := verdict_reached given hrequest
    obtain ⟨accepted', hverdict', haccepted'⟩ := verdict_reached (given.perm hperm) hrequest
    rw [← qualified_perm hperm, ← eachRequired_perm hperm, ← eachRequired_perm hperm, ← haccepted, ← Bool.eq_iff_iff]
      at haccepted'
    rw [hverdict, hverdict', haccepted']

/-! ### Against what is asked -/

/-- Every required check is shown: a key has its name, and every key with its name is true. -/
def ChecksShown (policy : PromotionPolicy F) (payloads : List (Json F)) : Prop :=
  EachRequired policy payloads fun check payload => Keyed check payload ∧ NoneUntrue check payload

/-- Where all else is as asked and the last key under each required name is true: the checks are spelled in their
normal form exactly when no earlier key under a required name is untrue. -/
def SpellingsAgree (load : String → Except Raised EvaluationCorpus) (policy : PromotionPolicy F)
    (payloads : List (Json F)) (baseline candidate : String) : Prop :=
  Qualified load policy payloads baseline candidate → EachRequired policy payloads LastTrue →
    ((EachRequired policy payloads fun check _ => SpelledNormally check) ↔ EachRequired policy payloads NoneUntrue)

theorem checksShown_iff : ChecksShown policy payloads ↔
    EachRequired policy payloads LastTrue ∧ EachRequired policy payloads NoneUntrue := by
  simp only [ChecksShown, keyed_noneUntrue_iff, EachRequired, ← forall_and]

/-- **When the verdict is the one asked for.** A payload list is accepted exactly when it is as the classes ask and
every required check is shown, in whatever order it is given, if and only if the spellings agree. -/
theorem verdict_as_asked_iff (given : Given load registrySha256 policy payloads)
    (hrollback : lowered rollbackRef = lowered baselineRef) :
    ((verdict load registrySha256 policy payloads baselineRef candidateRef rollbackRef = .ok true ↔
          Qualified load policy payloads (lowered baselineRef) (lowered candidateRef) ∧ ChecksShown policy payloads) ∧
        ∀ payloads', payloads.Perm payloads' →
          verdict load registrySha256 policy payloads' baselineRef candidateRef rollbackRef =
            verdict load registrySha256 policy payloads baselineRef candidateRef rollbackRef) ↔
      SpellingsAgree load policy payloads (lowered baselineRef) (lowered candidateRef) := by
  have hperm : ∀ payloads', payloads.Perm payloads' →
      verdict load registrySha256 policy payloads' baselineRef candidateRef rollbackRef =
        verdict load registrySha256 policy payloads baselineRef candidateRef rollbackRef :=
    fun _ h => verdict_perm given h
  rw [verdict_true_iff given hrollback, checksShown_iff, SpellingsAgree, and_iff_left hperm]
  constructor
  · intro h hqualified hlast
    constructor
    · exact fun hspelled => (h.mp ⟨hqualified, hlast, hspelled⟩).2.2
    · exact fun hnone => (h.mpr ⟨hqualified, hlast, hnone⟩).2.2
  · intro h
    constructor
    · rintro ⟨hqualified, hlast, hspelled⟩
      exact ⟨hqualified, hlast, (h hqualified hlast).mp hspelled⟩
    · rintro ⟨hqualified, hlast, hnone⟩
      exact ⟨hqualified, hlast, (h hqualified hlast).mpr hnone⟩

end Verdict

theorem textField_str {payload : Json F} {key : String} (h : payload.get? key = some (.str text)) :
    textField payload key = strip text := by
  rw [textField, h, Json.textOr]
  by_cases htext : text = ""
  · rw [htext]
    rfl
  · rw [if_pos (by simpa [Json.truthy] using htext), Json.toStr]

namespace Sample

def registrySha256 : String := "sha256:aaaaaaaaaaaaaaaaaaaaaaaaaaaaaaaaaaaaaaaaaaaaaaaaaaaaaaaaaaaaaaaa"

def baselineRef : String := "1111111111111111111111111111111111111111"

def candidateRef : String := "2222222222222222222222222222222222222222"

def requiredCheck : String := "CONTROL_PLANE_REPLAY_PASS"

/-- A class without a corpus of the repository, that asks for one check. -/
def spec (classId : String) : PromotionClassSpec WholeFloat where
  classId := classId
  sourceKind := "external_benchmark"
  sourceRef := none
  requiredChecks := [.str requiredCheck]
  holdoutCommitmentRequired := .bool false
  evaluatorAttestationRequired := .bool false

theorem spec_external (classId : String) : (spec classId).sourceKind ≠ "repository_corpus" :=
  show "external_benchmark" ≠ "repository_corpus" by decide

def policy : PromotionPolicy WholeFloat where
  policyId := "promotion"
  metricRegistryId := PromotionGate.metricRegistryId
  classes := promotionClasses.map spec

def payload (classId : String) (checks : PyDict.Dict (Json WholeFloat)) : Json WholeFloat :=
  .obj [("schema_version", .str promotionEvidenceSchema), ("evidence_id", .str "e1"), ("corpus_class", .str classId),
    ("corpus_id", .str "c1"), ("corpus_sha256", .str registrySha256), ("metric_registry_id", .str metricRegistryId),
    ("metric_registry_sha256", .str registrySha256), ("baseline_ref", .str baselineRef),
    ("candidate_ref", .str candidateRef), ("checks", .obj checks), ("security_passed", .bool true),
    ("evidence_refs", .arr [.str "e1"]), ("label_commitment_sha256", .null), ("evaluator_attested", .bool false)]

def load (_ : String) : Except Raised EvaluationCorpus := .error (gateError "no corpus")

theorem policy_validate : policy.validate = .ok ⟨⟩ := by rfl

theorem strip_promotionClasses : ∀ classId ∈ promotionClasses, strip classId = classId := by decide

variable {checks : PyDict.Dict (Json WholeFloat)}

theorem payload_read (hclass : classId ∈ promotionClasses)
    (hne : checks.isEmpty = false) (hne' : (normalChecks checks).isEmpty = false)
    (hchecks : (normalChecks checks).forM checkEntry = .ok ⟨⟩) :
    ∃ row, fromPayload registrySha256 (payload classId checks) = .ok row := by
  have hevidence : textField (payload classId checks) "evidence_id" = strip "e1" := textField_str rfl
  have hcorpusClass : textField (payload classId checks) "corpus_class" = strip classId := textField_str rfl
  have hcorpus : textField (payload classId checks) "corpus_id" = strip "c1" := textField_str rfl
  have hsha : textField (payload classId checks) "corpus_sha256" = strip registrySha256 := textField_str rfl
  have hid : textField (payload classId checks) "metric_registry_id" = strip metricRegistryId := textField_str rfl
  have hregistry : textField (payload classId checks) "metric_registry_sha256" = strip registrySha256 := textField_str rfl
  have hbaseline : textField (payload classId checks) "baseline_ref" = strip baselineRef := textField_str rfl
  have hcandidate : textField (payload classId checks) "candidate_ref" = strip candidateRef := textField_str rfl
  have hraw : rawChecks (payload classId checks) = checks := rfl
  have hvalid : (ofFields (payload classId checks) [.str "e1"]).validate registrySha256 = .ok ⟨⟩ := by
    have hsha256 : ∀ field, sha256 (lower (strip registrySha256)) field = .ok registrySha256 := by
      intro field
      rw [sha256, show lowered (lower (strip registrySha256)) = registrySha256 by decide +kernel,
        show sha256Re registrySha256 = true by decide +kernel]
      rfl
    have hgit : gitSha (lower (strip baselineRef)) "baseline_ref" = .ok baselineRef := by decide +kernel
    have hgit' : gitSha (lower (strip candidateRef)) "candidate_ref" = .ok candidateRef := by decide
    have hmetric : strip metricRegistryId = metricRegistryId := by decide
    simp only [validate, bind_ok, require_ok, exists_const]
    simp only [ofFields, loweredField]
    rw [hevidence, hcorpusClass, hcorpus, hsha, hid, hregistry, hbaseline, hcandidate, hraw,
      strip_promotionClasses classId hclass, hmetric]
    exact ⟨"e1", by decide, hclass, "c1", by decide, _, hsha256 _, rfl, _, hsha256 _, rfl, _, hgit, _,
      hgit', by decide, hne', _, hchecks, ⟨rfl, rfl⟩, _, rfl, _, rfl, rfl⟩
  have hkeys : (payload classId checks).hasKeys evidenceKeys = true := by
    rw [hasKeys_iff, show (payload classId checks).keys = evidenceKeys from rfl]
    exact ⟨rfl, fun _ => Iff.rfl⟩
  have hschema : ((payload classId checks).item "schema_version").isText promotionEvidenceSchema = true := by rfl
  have hrefs : tupleOr ((payload classId checks).item "evidence_refs") = .ok [.str "e1"] := by rfl
  refine ⟨ofFields (payload classId checks) [.str "e1"], ?_⟩
  rw [fromPayload, hkeys, hschema, hraw, hne, hrefs]
  simp only [require, ite_true, bind, Except.bind, hvalid, pure, Except.pure]

/-- One payload for each class, all with the same checks. -/
def payloads (checks : PyDict.Dict (Json WholeFloat)) : List (Json WholeFloat) := promotionClasses.map (payload · checks)

theorem payloadClass_payload (hclass : classId ∈ promotionClasses)
    (checks : PyDict.Dict (Json WholeFloat)) : payloadClass (payload classId checks) = classId :=
  (textField_str rfl).trans (strip_promotionClasses classId hclass)

theorem normalName_requiredCheck : normalName requiredCheck = requiredCheck := by decide +kernel

theorem checkName_requiredCheck : checkName (.str requiredCheck : Json WholeFloat) = requiredCheck := by
  rw [checkName_str, normalName_requiredCheck]

theorem given_payloads {checks : PyDict.Dict (Json WholeFloat)} (hne : checks.isEmpty = false)
    (hchecks : normalChecks checks = [(requiredCheck, .bool true)]) :
    Given load registrySha256 policy (payloads checks) where
  validated := policy_validate
  read p hp := by
    obtain ⟨classId, hclass, rfl⟩ := List.mem_map.mp hp
    refine payload_read hclass hne (by rw [hchecks]; rfl) ?_
    rw [hchecks, forM_ok]
    intro e he
    rw [List.mem_singleton.mp he, checkEntry, normalName_requiredCheck, require_ok]
    exact ⟨by decide +kernel, rfl⟩
  corpora spec hspec hkind := by
    obtain ⟨classId, -, rfl⟩ := List.mem_map.mp hspec
    exact absurd hkind (spec_external classId)

theorem qualified_payloads (checks : PyDict.Dict (Json WholeFloat)) :
    Qualified load policy (payloads checks) (lowered baselineRef) (lowered candidateRef) where
  once := by
    have hmap : (payloads checks).map payloadClass = promotionClasses := by
      rw [payloads, List.map_map]
      exact (List.map_congr_left fun classId hclass => payloadClass_payload hclass checks).trans (List.map_id _)
    rw [hmap]
    decide
  shown spec hspec p hp _ := by
    obtain ⟨classId, -, rfl⟩ := List.mem_map.mp hspec
    obtain ⟨classId', -, rfl⟩ := List.mem_map.mp hp
    refine ⟨congrArg lower (textField_str rfl), congrArg lower (textField_str rfl), rfl, ?_, ?_, ?_⟩
    · exact fun h => by cases h
    · exact fun h => by cases h
    · exact fun _ _ hkind => absurd hkind (spec_external classId)

theorem eachRequired_payloads {P : Json WholeFloat → Json WholeFloat → Prop} :
    (∀ classId ∈ promotionClasses, P (.str requiredCheck) (payload classId checks)) ↔
      EachRequired policy (payloads checks) P := by
  constructor
  · intro h spec hspec p hp _ check hcheck
    obtain ⟨classId, -, rfl⟩ := List.mem_map.mp hspec
    obtain ⟨classId', hclass, rfl⟩ := List.mem_map.mp hp
    rw [List.mem_singleton.mp hcheck]
    exact h classId' hclass
  · intro h classId hclass
    exact h (spec classId) (List.mem_map_of_mem hclass) _ (List.mem_map_of_mem hclass)
      (payloadClass_payload hclass checks) _ List.mem_cons_self

def plainChecks : PyDict.Dict (Json WholeFloat) := [(requiredCheck, .bool true)]

/-- The check is reported as failed, and as passed under another spelling after it. -/
def hiddenChecks : PyDict.Dict (Json WholeFloat) :=
  [("control_plane_replay_pass", .bool false), (requiredCheck, .bool true)]

theorem normalName_hidden : normalName "control_plane_replay_pass" = requiredCheck := by decide

theorem normalChecks_plain : normalChecks plainChecks = [(requiredCheck, .bool true)] := by
  simp only [normalChecks, plainChecks, List.foldl_cons, List.foldl_nil, PyDict.set, normalName_requiredCheck]

theorem normalChecks_hidden : normalChecks hiddenChecks = [(requiredCheck, .bool true)] := by
  simp only [normalChecks, hiddenChecks, List.foldl_cons, List.foldl_nil, PyDict.set, normalName_requiredCheck,
    normalName_hidden, ite_true]

theorem lastTrue_payloads (entries : PyDict.Dict (Json WholeFloat)) :
    EachRequired policy (payloads (entries ++ [(requiredCheck, .bool true)])) LastTrue := by
  refine eachRequired_payloads.mp fun classId _ => ?_
  rw [LastTrue, checkName_requiredCheck, show rawChecks (payload classId _) = entries ++ [(requiredCheck, .bool true)] from rfl,
    lastNamed, List.reverse_append, List.reverse_singleton, List.singleton_append,
    List.find?_cons_of_pos (by simpa using normalName_requiredCheck)]
  rfl

theorem spelledNormally_payloads (checks : PyDict.Dict (Json WholeFloat)) :
    EachRequired policy (payloads checks) fun check _ => SpelledNormally check := by
  refine eachRequired_payloads.mp fun _ _ => ?_
  rw [SpelledNormally, checkName_requiredCheck]

theorem verdict_as_asked_iff_plain :
    verdict load registrySha256 policy (payloads plainChecks) baselineRef candidateRef baselineRef = .ok true := by
  have given : Given load registrySha256 policy (payloads plainChecks) := given_payloads rfl normalChecks_plain
  have hlast : EachRequired policy (payloads plainChecks) LastTrue := lastTrue_payloads []
  have hnone : EachRequired policy (payloads plainChecks) NoneUntrue := by
    refine eachRequired_payloads.mp fun classId _ e he _ => ?_
    rw [List.mem_singleton.mp he]
  have hagree : SpellingsAgree load policy (payloads plainChecks) (lowered baselineRef) (lowered candidateRef) :=
    fun _ _ => iff_of_true (spelledNormally_payloads _) hnone
  exact ((verdict_as_asked_iff given rfl).mpr hagree).1.mpr ⟨qualified_payloads _, checksShown_iff.mpr ⟨hlast, hnone⟩⟩

/-- A failed check is hidden by a later spelling of its name: the payloads are accepted. -/
theorem hidden_check_accepted :
    ¬ (verdict load registrySha256 policy (payloads hiddenChecks) baselineRef candidateRef baselineRef = .ok true ↔
      Qualified load policy (payloads hiddenChecks) (lowered baselineRef) (lowered candidateRef) ∧
        ChecksShown policy (payloads hiddenChecks)) := by
  have given : Given load registrySha256 policy (payloads hiddenChecks) := given_payloads rfl normalChecks_hidden
  have haccepted : verdict load registrySha256 policy (payloads hiddenChecks) baselineRef candidateRef baselineRef = .ok true :=
    (verdict_true_iff given rfl).mpr ⟨qualified_payloads hiddenChecks,
      lastTrue_payloads [("control_plane_replay_pass", .bool false)], spelledNormally_payloads _⟩
  intro h
  have hshown := eachRequired_payloads.mpr (h.mp haccepted).2 "golden" (by decide)
  have htrue := hshown.2 ("control_plane_replay_pass", .bool false) List.mem_cons_self
    (normalName_hidden.trans checkName_requiredCheck.symm)
  cases htrue

end Sample

end PromotionGate

end ThreeAgent
