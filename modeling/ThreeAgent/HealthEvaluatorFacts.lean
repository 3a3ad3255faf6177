/-
The laws of the health of an asset, over whole runs of the evaluator, each call
given the state that the one before came to; and when the order in which the
observations are given cannot matter.
-/
import ThreeAgent.HealthEvaluator

namespace ThreeAgent.SecurityMonitoring

variable {nowText : String} {refs : List String} {j : Judgement} {o : ObservationRecord}

namespace DeterministicHealthEvaluator

open PyText Outcome PyJson Keyed

variable [PyTime] {e : DeterministicHealthEvaluator} {call : HealthCall} {previous : Option HealthStateRecord}
  {r : HealthEvaluation}

/-- The state before a call. -/
def before (previous : Option HealthStateRecord) : HealthState := (previous.map HealthStateRecord.state).getD .unknown

/-! ## One call -/

/-- The judgement that a call comes to on its samples. -/
def judgement (e : DeterministicHealthEvaluator) (call : HealthCall) (now : Int) (state : HealthState)
    (samples : List ObservationRecord) : Judgement :=
  if call.maintenance = true then { target := .maintenance, reason := "MAINTENANCE_ACTIVE" } else e.judge now state samples

/-- The evidence of a call. -/
def evidence (call : HealthCall) (evaluationRef : String) (samples : List ObservationRecord) : List String :=
  let refs := (samples.filterMap ObservationRecord.evidenceRef).foldl addRef [evaluationRef]
  if call.maintenance = true then addRef refs (strip (call.maintenanceEvidenceRef.getD "")) else refs

/-- What a call has checked, apart from its observations. -/
structure Checked (call : HealthCall) (previous : Option HealthStateRecord) (asset nowText evaluationRef : String) : Prop where
  assetId : compact call.assetId "asset_id" 128 = .ok asset
  evaluatedAt : healthTimestamp call.evaluatedAt "evaluated_at" = .ok nowText
  evaluation : compact call.evaluationEvidenceRef "evaluation_evidence_ref" 256 = .ok evaluationRef
  maintenance : call.maintenance = true → ∃ ref, call.maintenanceEvidenceRef = some ref ∧
    compact ref "maintenance_evidence_ref" 256 = .ok (strip ref)
  previous : ∀ record ∈ previous, ∃ record', record.validate = .ok record' ∧ record'.assetId = asset

theorem state_validate {record record' : HealthStateRecord} (h : record.validate = .ok record') :
    record'.state = record.state := by
  simp only [HealthStateRecord.validate, bind_ok, require_ok, pure_ok] at h
  obtain ⟨_, -, _, -, _, -, _, -, _, -, rfl⟩ := h
  rfl

theorem state_of_mapM {record : Option HealthStateRecord} (h : previous.mapM HealthStateRecord.validate = .ok record) :
    (record.map HealthStateRecord.state).getD .unknown = before previous := by
  cases optionMapM_ok.mp h with
  | none => rfl
  | some hvalid => exact state_validate hvalid

variable {asset : String}

theorem previous_iff : (∃ record, previous.mapM HealthStateRecord.validate = .ok record ∧
      (record.all fun r => decide (r.assetId = asset)) = true) ↔
    ∀ record ∈ previous, ∃ record', record.validate = .ok record' ∧ record'.assetId = asset := by
  cases previous with
  | none => exact ⟨fun _ => nofun, fun _ => ⟨none, rfl, rfl⟩⟩
  | some given =>
    refine ⟨?_, ?_⟩
    · intro ⟨record, hrecord, hmatch⟩ _ hgiven
      cases hgiven
      cases optionMapM_ok.mp hrecord with
      | some hvalid => exact ⟨_, hvalid, of_decide_eq_true hmatch⟩
    · intro h
      obtain ⟨record, hvalid, hasset⟩ := h given rfl
      exact ⟨some record, optionMapM_ok.mpr (.some hvalid), decide_eq_true hasset⟩

theorem evaluate_ok : e.evaluate previous call = .ok r ↔ ∃ asset nowText evaluationRef samples,
    Checked call previous asset nowText evaluationRef ∧
    e.samples asset (instantOf nowText) call.observations = .ok samples ∧
    e.conclude asset nowText (before previous) (evidence call evaluationRef samples)
      (judgement e call (instantOf nowText) (before previous) samples) = .ok r := by
  simp only [evaluate, bind_ok, require_ok, exists_const]
  refine ⟨?_, ?_⟩
  · rintro ⟨asset, hasset, nowText, hnow, evaluationRef, hevaluation, hgiven, samples, hsamples, record, hrecord, hmatch, h⟩
    have hprevious := previous_iff.mp ⟨record, hrecord, hmatch⟩
    rw [state_of_mapM hrecord] at h
    cases hflag : call.maintenance with
    | false =>
      rw [hflag, if_neg Bool.false_ne_true] at h
      refine ⟨asset, nowText, evaluationRef, samples, ⟨hasset, hnow, hevaluation, ?_, hprevious⟩, hsamples, ?_⟩
      · intro hmaintenance
        exact absurd (hflag.symm.trans hmaintenance) Bool.false_ne_true
      · rw [evidence, judgement, hflag, if_neg Bool.false_ne_true, if_neg Bool.false_ne_true]
        exact h
    | true =>
      rw [hflag, if_pos rfl] at h
      simp only [bind_ok] at h
      obtain ⟨ref, href, h⟩ := h
      obtain ⟨hshape, hurl, rfl⟩ := compact_ok.mp href
      obtain ⟨given, hsome⟩ := Option.ne_none_iff_exists'.mp fun hnone => hgiven ⟨hflag, hnone⟩
      rw [hsome, Option.getD_some] at href h
      refine ⟨asset, nowText, evaluationRef, samples, ⟨hasset, hnow, hevaluation, ?_, hprevious⟩, hsamples, ?_⟩
      · exact fun _ => ⟨given, hsome, href⟩
      · rw [evidence, judgement, hflag, if_pos rfl, if_pos rfl, hsome, Option.getD_some]
        exact h
  · rintro ⟨asset, nowText, evaluationRef, samples, hchecked, hsamples, h⟩
    obtain ⟨record, hrecord, hmatch⟩ := previous_iff.mpr hchecked.previous
    refine ⟨asset, hchecked.assetId, nowText, hchecked.evaluatedAt, evaluationRef, hchecked.evaluation, ?_, samples, hsamples,
      record, hrecord, hmatch, ?_⟩
    · rintro ⟨hflag, hnone⟩
      obtain ⟨ref, hsome, -⟩ := hchecked.maintenance hflag
      rw [hnone] at hsome
      cases hsome
    · rw [state_of_mapM hrecord]
      cases hflag : call.maintenance with
      | false =>
        rw [evidence, judgement, hflag, if_neg Bool.false_ne_true, if_neg Bool.false_ne_true] at h
        rw [if_neg Bool.false_ne_true]
        exact h
      | true =>
        obtain ⟨ref, hsome, href⟩ := hchecked.maintenance hflag
        rw [evidence, judgement, hflag, if_pos rfl, if_pos rfl, hsome, Option.getD_some] at h
        rw [if_pos rfl, hsome, Option.getD_some]
        simp only [bind_ok]
        exact ⟨strip ref, href, h⟩

theorem conclude_ok {state : HealthState}
    (h : e.conclude asset nowText state refs j = .ok r) : r.state.state = j.target ∧
      (∀ t ∈ r.transition, t.previousState = state ∧ t.currentState = j.target) ∧
      (r.transition = none ↔ j.target = state) ∧
      r.unhealthyStreak = j.unhealthy ∧ r.hardFailureStreak = j.hard ∧ r.recoveryStreak = j.recovery := by
  simp only [conclude, bind_ok] at h
  obtain ⟨record, hrecord, transition, htransition, h⟩ := h
  cases h
  have hstate := state_validate hrecord
  rw [transitionOf] at htransition
  split at htransition
  · rename_i hne
    simp only [bind_ok, pure_ok] at htransition
    obtain ⟨t, ht, rfl⟩ := htransition
    simp only [HealthTransitionRecord.validate, bind_ok, require_ok, exists_const, pure_ok] at ht
    obtain ⟨_, -, -, _, -, _, -, -, _, -, -, -, rfl⟩ := ht
    refine ⟨hstate, ?_, ?_, rfl, rfl, rfl⟩
    · intro t ht
      cases ht
      exact ⟨rfl, rfl⟩
    · exact iff_of_false (Option.some_ne_none _) hne
  · rename_i heq
    cases htransition
    refine ⟨hstate, ?_, ?_, rfl, rfl, rfl⟩
    · intro t ht
      cases ht
    · exact ⟨fun _ => not_not.mp heq, fun _ => rfl⟩

/-- What a judgement concludes for checked arguments. -/
def conclusion (e : DeterministicHealthEvaluator) (asset nowText : String) (previous : HealthState) (refs : List String)
    (j : Judgement) : HealthEvaluation where
  state := { assetId := asset, state := j.target, evaluatedAt := nowText, evidenceRefs := refs, reasonCode := some j.reason }
  transition := if j.target ≠ previous then some
    { assetId := asset, previousState := previous, currentState := j.target, transitionedAt := nowText, evidenceRefs := refs
      reasonCode := j.reason, policyFingerprint := e.policy.fingerprint } else none
  unhealthyStreak := j.unhealthy
  hardFailureStreak := j.hard
  recoveryStreak := j.recovery

theorem conclude_eq {state : HealthState}
    (hasset : compact asset "asset_id" 128 = .ok asset) (hnow : ∀ field, healthTimestamp nowText field = .ok nowText)
    (hrefs : healthEvidenceRefs refs = .ok refs) (hne : refs ≠ []) (hreason : compact j.reason "reason_code" 128 = .ok j.reason) :
    e.conclude asset nowText state refs j = .ok (conclusion e asset nowText state refs j) := by
  have hfingerprint : sha256Re e.policy.fingerprint = true := sha256Re_hashText _
  have hstate : HealthStateRecord.validate (conclusion e asset nowText state refs j).state =
      .ok (conclusion e asset nowText state refs j).state := by
    simp only [HealthStateRecord.validate, bind_ok, require_ok, exists_const, pure_ok]
    exact ⟨_, hasset, _, hnow _, _, hrefs, _, optionMapM_ok.mpr (.some hreason), rfl, rfl⟩
  simp only [conclude, bind_ok, pure_ok]
  refine ⟨_, hstate, (conclusion e asset nowText state refs j).transition, ?_, rfl⟩
  rw [transitionOf, conclusion]
  dsimp only
  split
  · rename_i hchanged
    simp only [HealthTransitionRecord.validate, bind_ok, require_ok, exists_const, pure_ok]
    refine ⟨_, ⟨_, hasset, hchanged.symm, _, hnow _, _, hrefs, hne, _, hreason, ?_, trivial, rfl⟩, ?_⟩
    · rw [strip_of_sha256Re hfingerprint]
      exact sha256Fingerprint_shape _
    · rw [strip_of_sha256Re hfingerprint, lower_of_sha256Re hfingerprint]
  · rfl

/-! ## The laws of a step -/

section Laws

variable {samples : List ObservationRecord} {now : Int} {state : HealthState}

omit [PyTime] in
theorem le_trailing_toNat {p : ObservationRecord → Bool} {n : Int} : n ≤ trailing p samples ↔ LastAll p n.toNat samples := by
  rw [← le_trailing]
  omega

/-- The latest sample is fresh, and no streak has reached its threshold. -/
structure Undecided (e : DeterministicHealthEvaluator) (now : Int) (samples : List ObservationRecord) : Prop where
  fresh : ∃ latest ∈ samples.getLast?, now - instantOf latest.observedAt ≤ e.policy.dataGapAfterSeconds * 1000000
  recovery : ¬ LastAll (fun o => o.status.isOk) e.policy.recoverySamplesToHealthy.toNat samples
  hard : ¬ LastAll (fun o => o.status.isFailure) e.policy.failureSamplesToUnreachable.toNat samples
  unhealthy : ¬ LastAll (fun o => o.status.isFailure || o.status.isDegraded) e.policy.failureSamplesToDegraded.toNat samples

/-- What each call of a run does to the state. -/
structure Lawful (e : DeterministicHealthEvaluator) (call : HealthCall) (previous : HealthState)
    (samples : List ObservationRecord) (r : HealthEvaluation) : Prop where
  maintained : call.maintenance = true → r.state.state = .maintenance
  entersMaintenance : r.state.state = .maintenance → previous ≠ .maintenance → call.maintenance = true
  keepsMaintenance : r.state.state = .maintenance → call.maintenance = false →
    ∃ nowText, healthTimestamp call.evaluatedAt "evaluated_at" = .ok nowText ∧ Undecided e (instantOf nowText) samples
  leavesGap : previous = .dataGap → r.state.state ≠ .dataGap → call.maintenance = true ∨
    LastAll (fun o => o.status.isOk) e.policy.recoverySamplesToHealthy.toNat samples ∨
    LastAll (fun o => o.status.isFailure) e.policy.failureSamplesToUnreachable.toNat samples ∨
    LastAll (fun o => o.status.isFailure || o.status.isDegraded) e.policy.failureSamplesToDegraded.toNat samples
  recovers : previous = .unreachable ∨ previous = .degraded → r.state.state = .healthy →
    LastAll (fun o => o.status.isOk) e.policy.recoverySamplesToHealthy.toNat samples
  fails : previous ≠ .unreachable → r.state.state = .unreachable →
    LastAll (fun o => o.status.isFailure) e.policy.failureSamplesToUnreachable.toNat samples
  transition : ∀ t ∈ r.transition, t.previousState = previous ∧ t.currentState = r.state.state
  unchanged : r.transition = none ↔ r.state.state = previous

/-- The state that the tests on the streaks lead to. -/
structure Reached (e : DeterministicHealthEvaluator) (now : Int) (previous target : HealthState)
    (samples : List ObservationRecord) : Prop where
  maintenance : target = .maintenance → previous = .maintenance
  undecided : target = .maintenance → Undecided e now samples
  gap : previous = .dataGap → target ≠ .dataGap →
    LastAll (fun o => o.status.isOk) e.policy.recoverySamplesToHealthy.toNat samples ∨
    LastAll (fun o => o.status.isFailure) e.policy.failureSamplesToUnreachable.toNat samples ∨
    LastAll (fun o => o.status.isFailure || o.status.isDegraded) e.policy.failureSamplesToDegraded.toNat samples
  healthy : previous = .unreachable ∨ previous = .degraded → target = .healthy →
    LastAll (fun o => o.status.isOk) e.policy.recoverySamplesToHealthy.toNat samples
  unreachable : previous ≠ .unreachable → target = .unreachable →
    LastAll (fun o => o.status.isFailure) e.policy.failureSamplesToUnreachable.toNat samples

theorem reached_target
    (hfresh : ∃ latest ∈ samples.getLast?, now - instantOf latest.observedAt ≤ e.policy.dataGapAfterSeconds * 1000000) :
    Reached e now state (e.target state (trailing (fun o => o.status.isFailure || o.status.isDegraded) samples)
    (trailing (fun o => o.status.isFailure) samples) (trailing (fun o => o.status.isOk) samples)).1 samples := by
  simp only [target]
  split
  case h_1 =>
    split
    · rename_i hrecovery
      exact ⟨nofun, nofun, nofun, fun _ _ => le_trailing_toNat.mp hrecovery, nofun⟩
    · exact ⟨nofun, nofun, nofun, nofun, fun h => absurd rfl h⟩
  case h_2 =>
    split
    · rename_i hrecovery
      exact ⟨nofun, nofun, nofun, fun _ _ => le_trailing_toNat.mp hrecovery, nofun⟩
    · split
      · rename_i hhard
        exact ⟨nofun, nofun, nofun, nofun, fun _ _ => le_trailing_toNat.mp hhard⟩
      · exact ⟨nofun, nofun, nofun, nofun, nofun⟩
  case h_3 =>
    split
    · rename_i hrecovery
      exact ⟨nofun, nofun, fun _ _ => Or.inl (le_trailing_toNat.mp hrecovery), nofun, nofun⟩
    · split
      · rename_i hhard
        exact ⟨nofun, nofun, fun _ _ => Or.inr (Or.inl (le_trailing_toNat.mp hhard)), nofun,
          fun _ _ => le_trailing_toNat.mp hhard⟩
      · split
        · rename_i hunhealthy
          exact ⟨nofun, nofun, fun _ _ => Or.inr (Or.inr (le_trailing_toNat.mp hunhealthy)), nofun, nofun⟩
        · exact ⟨nofun, nofun, fun _ h => absurd rfl h, nofun, nofun⟩
  case h_4 hnotUnreachable hnotDegraded hnotGap =>
    have hnot : ¬ (state = .unreachable ∨ state = .degraded) := fun h => h.elim hnotUnreachable hnotDegraded
    split
    · rename_i hhard
      exact ⟨nofun, nofun, fun h => absurd h hnotGap, fun h => absurd h hnot, fun _ _ => le_trailing_toNat.mp hhard⟩
    · rename_i hhard
      split
      · exact ⟨nofun, nofun, fun h => absurd h hnotGap, fun h => absurd h hnot, nofun⟩
      · rename_i hunhealthy
        split
        · exact ⟨nofun, nofun, fun h => absurd h hnotGap, fun h => absurd h hnot, nofun⟩
        · rename_i hrecovery
          have hundecided : Undecided e now samples :=
            ⟨hfresh, mt le_trailing_toNat.mpr hrecovery, mt le_trailing_toNat.mpr hhard, mt le_trailing_toNat.mpr hunhealthy⟩
          exact ⟨fun h => h, fun _ => hundecided, fun h => absurd h hnotGap, fun h => absurd h hnot,
            fun hne heq => absurd heq hne⟩

theorem reached_judge : Reached e now state (e.judge now state samples).target samples := by
  rw [judge]
  split
  · exact ⟨nofun, nofun, fun _ h => absurd rfl h, nofun, nofun⟩
  · rename_i latest hlatest
    split
    · exact ⟨nofun, nofun, fun _ h => absurd rfl h, nofun, nofun⟩
    · rename_i hfresh
      exact reached_target ⟨latest, hlatest, not_lt.mp hfresh⟩

theorem lawful_of_conclude {evaluationRef : String} (hnow : healthTimestamp call.evaluatedAt "evaluated_at" = .ok nowText)
    (h : e.conclude asset nowText state (evidence call evaluationRef samples)
      (judgement e call (instantOf nowText) state samples) = .ok r) :
    Lawful e call state samples r := by
  obtain ⟨hstate, htransition, hunchanged, -⟩ := conclude_ok h
  rw [← hstate] at htransition hunchanged
  rw [judgement] at hstate
  cases hflag : call.maintenance with
  | true =>
    rw [hflag, if_pos rfl] at hstate
    have hmaintenance : r.state.state = .maintenance := hstate
    refine ⟨fun _ => hmaintenance, fun _ _ => hflag, ?_, fun _ _ => Or.inl hflag, ?_, ?_, htransition, hunchanged⟩
    · exact fun _ hoff => absurd (hoff.symm.trans hflag) Bool.false_ne_true
    · intro _ hhealthy
      rw [hmaintenance] at hhealthy
      cases hhealthy
    · intro _ hunreachable
      rw [hmaintenance] at hunreachable
      cases hunreachable
  | false =>
    rw [hflag, if_neg Bool.false_ne_true] at hstate
    have hreached : Reached e (instantOf nowText) state r.state.state samples := hstate ▸ reached_judge
    refine ⟨fun h => absurd (hflag.symm.trans h) Bool.false_ne_true, ?_, ?_, ?_, hreached.healthy, hreached.unreachable,
      htransition, hunchanged⟩
    · intro hmaintenance hprevious
      exact absurd (hreached.maintenance hmaintenance) hprevious
    · exact fun hmaintenance _ => ⟨nowText, hnow, hreached.undecided hmaintenance⟩
    · intro hprevious hleft
      exact Or.inr (hreached.gap hprevious hleft)

end Laws

/-! ## Runs -/

/-- A call that returned, with the state it was given. -/
structure HealthStep where
  call : HealthCall
  previous : Option HealthStateRecord
  result : HealthEvaluation

/-- The calls of a run that return, each given the state of the one before; one that raises leaves the state as it is. -/
def run (e : DeterministicHealthEvaluator) : Option HealthStateRecord → List HealthCall → List HealthStep
  | _, [] => []
  | previous, call :: calls =>
    match e.evaluate previous call with
    | .ok r => ⟨call, previous, r⟩ :: run e (some r.state) calls
    | .error _ => run e previous calls

/-- The state after the steps of a run. -/
def stateAfter (previous : Option HealthStateRecord) (steps : List HealthStep) : HealthState :=
  (steps.getLast?.map fun step => step.result.state.state).getD (before previous)

def transitionsOf (steps : List HealthStep) : List HealthTransitionRecord := steps.filterMap fun step => step.result.transition

/-- Transitions from one state to another, each from where the one before led. -/
def Chained : HealthState → List HealthTransitionRecord → HealthState → Prop
  | start, [], stop => start = stop
  | start, t :: ts, stop => t.previousState = start ∧ Chained t.currentState ts stop

/-- The samples of a step are those of its call, checked and in order. -/
def SamplesOf (e : DeterministicHealthEvaluator) (call : HealthCall) (samples : List ObservationRecord) : Prop :=
  ∃ nowText, healthTimestamp call.evaluatedAt "evaluated_at" = .ok nowText ∧
    e.samples (strip call.assetId) (instantOf nowText) call.observations = .ok samples

theorem lawful_evaluate (h : e.evaluate previous call = .ok r) :
    ∃ samples, SamplesOf e call samples ∧ Lawful e call (before previous) samples r := by
  obtain ⟨asset, nowText, evaluationRef, samples, hchecked, hsamples, hconclude⟩ := evaluate_ok.mp h
  obtain ⟨-, -, rfl⟩ := compact_ok.mp hchecked.assetId
  exact ⟨samples, ⟨nowText, hchecked.evaluatedAt, hsamples⟩, lawful_of_conclude hchecked.evaluatedAt hconclude⟩

/-- Every run obeys the laws at each step, and its transitions are a chain. -/
theorem run_lawful (e : DeterministicHealthEvaluator) (calls : List HealthCall) :
    (∀ step ∈ e.run none calls, ∃ samples, SamplesOf e step.call samples ∧
      Lawful e step.call (before step.previous) samples step.result) ∧
    Chained .unknown (transitionsOf (e.run none calls)) (stateAfter none (e.run none calls)) := by
  have hrun : ∀ (calls : List HealthCall) (previous : Option HealthStateRecord),
      (∀ step ∈ e.run previous calls, ∃ samples, SamplesOf e step.call samples ∧
        Lawful e step.call (before step.previous) samples step.result) ∧
      Chained (before previous) (transitionsOf (e.run previous calls)) (stateAfter previous (e.run previous calls)) := by
    intro calls
    induction calls with
    | nil => exact fun previous => ⟨List.forall_mem_nil _, rfl⟩
    | cons call calls ih =>
      intro previous
      rw [run]
      split
      · rename_i r hr
        obtain ⟨samples, hsamples, hlawful⟩ := lawful_evaluate hr
        obtain ⟨hsteps, hchain⟩ := ih (some r.state)
        refine ⟨List.forall_mem_cons.mpr ⟨⟨samples, hsamples, hlawful⟩, hsteps⟩, ?_⟩
        have hafter : stateAfter previous (⟨call, previous, r⟩ :: e.run (some r.state) calls) =
            stateAfter (some r.state) (e.run (some r.state) calls) := by
          rw [stateAfter, stateAfter, List.getLast?_cons]
          cases (e.run (some r.state) calls).getLast? with
          | none => rfl
          | some _ => rfl
        rw [hafter, transitionsOf, List.filterMap_cons]
        dsimp only
        cases htransition : r.transition with
        | none =>
          have hstate := hlawful.unchanged.mp htransition
          rw [before, Option.map_some, Option.getD_some, hstate] at hchain
          exact hchain
        | some t =>
          obtain ⟨hfrom, hto⟩ := hlawful.transition t htransition
          exact ⟨hfrom, hto ▸ hchain⟩
      · exact ih previous
  exact hrun calls none

/-! ## The order of the observations -/

/-- The evidence that the key of an observation tells. -/
def refOfKey (k : Int ×ₗ String ×ₗ String ×ₗ String ×ₗ String) : Option String :=
  let ref := (ofLex (ofLex (ofLex (ofLex k).2).2).2).2
  if ref = "" then none else some ref

theorem evidenceRef_eq (h : o.evidenceRef ≠ some "") : o.evidenceRef = refOfKey (sampleKey o) := by
  have hkey : refOfKey (sampleKey o) = if o.evidenceRef.getD "" = "" then none else some (o.evidenceRef.getD "") := rfl
  rw [hkey]
  cases href : o.evidenceRef with
  | none => rw [Option.getD_none, if_pos rfl]
  | some ref =>
    have hne : ref ≠ "" := fun heq => h (heq ▸ href)
    rw [Option.getD_some, if_neg hne]

theorem evidenceRef_checked {now : Int} {o' : ObservationRecord}
    (h : checkObservation asset now o = .ok o') : o'.evidenceRef ≠ some "" := by
  simp only [checkObservation, ObservationRecord.validate, bind_ok, require_ok, exists_const, pure_ok] at h
  obtain ⟨_, ⟨_, -, _, -, -, _, -, _, -, _, -, evidenceRef, hevidence, rfl⟩, -, -, rfl⟩ := h
  intro hempty
  dsimp only at hempty
  subst hempty
  generalize o.evidenceRef = given at hevidence
  cases optionMapM_ok.mp hevidence with
  | some hcompact =>
    obtain ⟨⟨hne, -⟩, -, hstrip⟩ := compact_ok.mp hcompact
    exact hne hstrip

def streakPredicates : List (ObservationRecord → Bool) :=
  [fun o => o.status.isFailure || o.status.isDegraded, fun o => o.status.isFailure, fun o => o.status.isOk]

/-- The streaks are counted: there is no maintenance, and the latest sample is not too old. -/
def Counted (e : DeterministicHealthEvaluator) (call : HealthCall) (now : Int) (samples : List ObservationRecord) : Prop :=
  call.maintenance = false ∧ ∃ latest, samples.getLast? = some latest ∧
    ¬ e.policy.dataGapAfterSeconds * 1000000 < now - instantOf latest.observedAt

/-- The evaluation of a call does not depend on the order of its observations. -/
def OrderFree (e : DeterministicHealthEvaluator) (previous : Option HealthStateRecord) (call : HealthCall) : Prop :=
  ∀ observations, observations.Perm call.observations →
    e.evaluate previous { call with observations } = e.evaluate previous call

section Order

variable {asset : String} {now : Int} {observations observations' validated samples samples' : List ObservationRecord}
  {state : HealthState}

theorem judge_congr (hlast : (samples'.getLast?).map (fun o => instantOf o.observedAt) =
      (samples.getLast?).map fun o => instantOf o.observedAt)
    (hstreaks : ∀ p ∈ streakPredicates, trailing p samples' = trailing p samples) :
    e.judge now state samples' = e.judge now state samples := by
  simp only [streakPredicates, List.mem_cons, List.not_mem_nil, or_false, forall_eq_or_imp, forall_eq] at hstreaks
  obtain ⟨hunhealthy, hhard, hrecovery⟩ := hstreaks
  rw [judge, judge]
  cases hl : samples.getLast? with
  | none =>
    rw [hl, Option.map_none, Option.map_eq_none_iff] at hlast
    rw [hlast]
  | some latest =>
    rw [hl, Option.map_some, Option.map_eq_some_iff] at hlast
    obtain ⟨latest', hl', htime⟩ := hlast
    rw [hl']
    dsimp only
    rw [htime, hunhealthy, hhard, hrecovery]

/-- The samples of the observations in another order: the same, but for the order of ties. -/
structure Reordered (samples samples' : List ObservationRecord) : Prop where
  sorted : ∃ validated validated', validated'.Perm validated ∧ samples = sortedBy sampleKey validated ∧
    samples' = sortedBy sampleKey validated'
  keys : samples'.map sampleKey = samples.map sampleKey
  evidence : samples'.map ObservationRecord.evidenceRef = samples.map ObservationRecord.evidenceRef

theorem reordered_sortedBy {f : ObservationRecord → Except Raised ObservationRecord}
    (hf : ∀ o o', f o = .ok o' → o'.evidenceRef ≠ some "")
    (hvalid : observations.mapM f = .ok validated) {validated' : List ObservationRecord} (hperm : validated'.Perm validated) :
    Reordered (sortedBy sampleKey validated) (sortedBy sampleKey validated') := by
  have hkeys : (sortedBy sampleKey validated').map sampleKey = (sortedBy sampleKey validated).map sampleKey := by
    refine List.Perm.eq_of_pairwise (fun a b _ _ hab hba => le_antisymm hab hba) (List.pairwise_map.mpr sortedBy_pairwise)
      (List.pairwise_map.mpr sortedBy_pairwise) ?_
    exact ((sortedBy_perm.trans hperm).trans sortedBy_perm.symm).map sampleKey
  have href : ∀ o ∈ validated, o.evidenceRef = refOfKey (sampleKey o) := by
    intro o ho
    obtain ⟨o₀, -, hcheck⟩ := forall₂_mem_right (mapM_ok.mp hvalid) ho
    exact evidenceRef_eq (hf _ _ hcheck)
  refine ⟨⟨validated, validated', hperm, rfl, rfl⟩, hkeys, ?_⟩
  calc (sortedBy sampleKey validated').map ObservationRecord.evidenceRef
      = ((sortedBy sampleKey validated').map sampleKey).map refOfKey := by
        rw [List.map_map]
        exact List.map_congr_left fun o ho => href o (hperm.mem_iff.mp (mem_sortedBy.mp ho))
    _ = ((sortedBy sampleKey validated).map sampleKey).map refOfKey := by rw [hkeys]
    _ = (sortedBy sampleKey validated).map ObservationRecord.evidenceRef := by
        rw [List.map_map]
        exact (List.map_congr_left fun o ho => href o (mem_sortedBy.mp ho)).symm

theorem samples_perm (h : e.samples asset now observations = .ok samples) (hperm : observations'.Perm observations) :
    ∃ samples', e.samples asset now observations' = .ok samples' ∧ Reordered samples samples' := by
  simp only [DeterministicHealthEvaluator.samples, bind_ok, require_ok, exists_const, pure_ok] at h
  obtain ⟨hcount, validated, hvalid, rfl⟩ := h
  obtain ⟨validated', hvalid', hperm'⟩ := mapM_perm hvalid hperm
  refine ⟨sortedBy sampleKey validated', ?_, reordered_sortedBy (fun _ _ => evidenceRef_checked) hvalid hperm'⟩
  simp only [DeterministicHealthEvaluator.samples, bind_ok, require_ok, exists_const, pure_ok]
  exact ⟨hperm.length_eq ▸ hcount, validated', hvalid', rfl⟩

theorem exists_samples (h : e.samples asset now observations = .ok samples) :
    ∃ validated, samples = sortedBy sampleKey validated ∧
    ∀ validated', validated'.Perm validated → ∃ observations', observations'.Perm observations ∧
      e.samples asset now observations' = .ok (sortedBy sampleKey validated') ∧
      Reordered samples (sortedBy sampleKey validated') := by
  simp only [DeterministicHealthEvaluator.samples, bind_ok, require_ok, exists_const, pure_ok] at h
  obtain ⟨hcount, validated, hvalid, rfl⟩ := h
  refine ⟨validated, rfl, ?_⟩
  intro validated' hperm
  obtain ⟨observations', hperm', hvalid'⟩ := exists_mapM_perm hvalid hperm
  refine ⟨observations', hperm', ?_, reordered_sortedBy (fun _ _ => evidenceRef_checked) hvalid hperm⟩
  simp only [DeterministicHealthEvaluator.samples, bind_ok, require_ok, exists_const, pure_ok]
  exact ⟨hperm'.length_eq ▸ hcount, validated', hvalid', rfl⟩

theorem Reordered.last (h : Reordered samples samples') : (samples'.getLast?).map (fun o => instantOf o.observedAt) =
    (samples.getLast?).map fun o => instantOf o.observedAt := by
  have hlast := congrArg (fun ks => (List.getLast? ks).map fun k => (ofLex k).1) h.keys
  simp only [List.getLast?_map, Option.map_map] at hlast
  exact hlast

theorem evidence_reordered (h : Reordered samples samples') (evaluationRef : String) :
    evidence call evaluationRef samples' = evidence call evaluationRef samples := by
  have hrefs : samples'.filterMap ObservationRecord.evidenceRef = samples.filterMap ObservationRecord.evidenceRef := by
    have := congrArg (List.filterMap id) h.evidence
    simpa [List.filterMap_map] using this
  rw [evidence, evidence, hrefs]

theorem counted_judge (state : HealthState) (h : Counted e call now samples) :
    ∃ target reason, judgement e call now state samples =
    ⟨target, reason, trailing (fun o => o.status.isFailure || o.status.isDegraded) samples,
      trailing (fun o => o.status.isFailure) samples, trailing (fun o => o.status.isOk) samples⟩ := by
  obtain ⟨hflag, latest, hlatest, hfresh⟩ := h
  rw [judgement, hflag, if_neg Bool.false_ne_true, judge, hlatest]
  dsimp only
  rw [if_neg hfresh]
  exact ⟨_, _, rfl⟩

theorem Reordered.counted (h : Reordered samples samples') (hcounted : Counted e call now samples) :
    Counted e call now samples' := by
  obtain ⟨hflag, latest, hlatest, hfresh⟩ := hcounted
  have hlast := h.last
  rw [hlatest, Option.map_some, Option.map_eq_some_iff] at hlast
  obtain ⟨latest', hlatest', htime⟩ := hlast
  exact ⟨hflag, latest', hlatest', htime ▸ hfresh⟩

theorem Reordered.judgement_of_not_counted (h : Reordered samples samples') (hnot : ¬ Counted e call now samples) :
    judgement e call now state samples' = judgement e call now state samples := by
  rw [judgement, judgement]
  cases hflag : call.maintenance with
  | true => rfl
  | false =>
    rw [if_neg Bool.false_ne_true, if_neg Bool.false_ne_true, judge, judge]
    have hlast := h.last
    cases hl : samples.getLast? with
    | none =>
      rw [hl, Option.map_none, Option.map_eq_none_iff] at hlast
      rw [hlast]
    | some latest =>
      rw [hl, Option.map_some, Option.map_eq_some_iff] at hlast
      obtain ⟨latest', hl', htime⟩ := hlast
      have hstale : e.policy.dataGapAfterSeconds * 1000000 < now - instantOf latest.observedAt := by
        by_contra hfresh
        exact hnot ⟨hflag, latest, hl, hfresh⟩
      rw [hl']
      dsimp only
      rw [htime, if_pos hstale, if_pos hstale]

/-- No tie of the samples that a counted streak reaches is mixed. -/
def Untied (e : DeterministicHealthEvaluator) (call : HealthCall) : Prop :=
  ∀ nowText samples, healthTimestamp call.evaluatedAt "evaluated_at" = .ok nowText →
    e.samples (strip call.assetId) (instantOf nowText) call.observations = .ok samples →
    Counted e call (instantOf nowText) samples → ∀ p ∈ streakPredicates, Even sampleKey p samples

/-- An evaluation is independent of the order of its observations just where no tie that counts is mixed. -/
theorem orderFree_iff (h : e.evaluate previous call = .ok r) : OrderFree e previous call ↔ Untied e call := by
  obtain ⟨asset, nowText, evaluationRef, samples, hchecked, hsamples, hconclude⟩ := evaluate_ok.mp h
  have hasset : strip call.assetId = asset := (compact_ok.mp hchecked.assetId).2.2
  refine ⟨?_, ?_⟩
  · intro hfree nowText' samples₁ hnow hsamples₁ hcounted p hp
    rw [hchecked.evaluatedAt] at hnow
    cases hnow
    rw [hasset, hsamples] at hsamples₁
    cases hsamples₁
    obtain ⟨validated, hsorted, horders⟩ := exists_samples hsamples
    refine Even.perm (hsorted ▸ sortedBy_perm) (even_of_trailing ?_)
    intro validated' hperm
    obtain ⟨observations', hperm', hsamples', hreordered⟩ := horders validated' hperm
    -- the two orders are evaluated alike, so they count the same streaks
    have hsame := hfree observations' hperm'
    rw [h] at hsame
    obtain ⟨asset', nowText', evaluationRef', samples₁, hchecked', hsamples₁, hconclude'⟩ := evaluate_ok.mp hsame
    have hasset' := hchecked'.assetId
    have hnow' := hchecked'.evaluatedAt
    dsimp only at hasset' hnow' hsamples₁ hconclude'
    rw [hchecked.assetId] at hasset'
    rw [hchecked.evaluatedAt] at hnow'
    cases hasset'
    cases hnow'
    rw [hsamples'] at hsamples₁
    cases hsamples₁
    obtain ⟨target, reason, hjudge⟩ := counted_judge (before previous) hcounted
    obtain ⟨target', reason', hjudge'⟩ := counted_judge (before previous) (hreordered.counted hcounted)
    rw [hjudge] at hconclude
    have hjudge'' : judgement e { call with observations := observations' } (instantOf nowText) (before previous)
        (sortedBy sampleKey validated') = _ := hjudge'
    rw [hjudge''] at hconclude'
    obtain ⟨-, -, -, hu, hh, hr⟩ := conclude_ok hconclude
    obtain ⟨-, -, -, hu', hh', hr'⟩ := conclude_ok hconclude'
    rw [← hsorted]
    simp only [streakPredicates, List.mem_cons, List.not_mem_nil, or_false] at hp
    rcases hp with rfl | rfl | rfl
    · exact hu'.symm.trans hu
    · exact hh'.symm.trans hh
    · exact hr'.symm.trans hr
  · intro huntied observations' hperm
    obtain ⟨samples', hsamples', hreordered⟩ := samples_perm hsamples hperm
    have hjudge : judgement e call (instantOf nowText) (before previous) samples' =
        judgement e call (instantOf nowText) (before previous) samples := by
      by_cases hcounted : Counted e call (instantOf nowText) samples
      · have heven := huntied nowText samples hchecked.evaluatedAt (hasset ▸ hsamples) hcounted
        rw [judgement, judgement, hcounted.1, if_neg Bool.false_ne_true, if_neg Bool.false_ne_true]
        refine judge_congr hreordered.last ?_
        intro p hp
        obtain ⟨validated, validated', hperm', rfl, rfl⟩ := hreordered.sorted
        exact trailing_sortedBy_perm hperm' (Even.perm sortedBy_perm.symm (heven p hp))
      · exact hreordered.judgement_of_not_counted hcounted
    rw [h]
    refine evaluate_ok.mpr ⟨asset, nowText, evaluationRef, samples', ?_, hsamples', ?_⟩
    · exact ⟨hchecked.assetId, hchecked.evaluatedAt, hchecked.evaluation, hchecked.maintenance, hchecked.previous⟩
    · have hevidence : evidence call evaluationRef samples' = evidence call evaluationRef samples :=
        evidence_reordered hreordered evaluationRef
      rw [← hevidence, ← hjudge] at hconclude
      exact hconclude

end Order

end DeterministicHealthEvaluator

/-! ## Runs on one asset -/

variable {maintenance : Bool}

namespace DeterministicHealthEvaluator

open PyText Outcome Keyed

def sampleEvaluator : DeterministicHealthEvaluator := { policy := {} }

def sampleInstant : String := "2026-01-01T00:00:00Z"

def sampleObservation (status : ObservationStatus) : ObservationRecord where
  runId := "run"
  assetId := "asset"
  collector := "icmp_echo"
  observedAt := sampleInstant
  metric := "reachability"
  status := status

def sampleCall (observations : List ObservationRecord) (maintenance : Bool) : HealthCall where
  assetId := "asset"
  observations := observations
  evaluatedAt := sampleInstant
  evaluationEvidenceRef := "evaluation"
  maintenance := maintenance
  maintenanceEvidenceRef := some "window"

def sampleRefs (maintenance : Bool) : List String := if maintenance then ["evaluation", "window"] else ["evaluation"]

abbrev sampleConclusion (before : HealthState) (maintenance : Bool) (j : Judgement) : HealthEvaluation :=
  conclusion sampleEvaluator "asset" sampleInstant before (sampleRefs maintenance) j

theorem compact_sample : compact "asset" "asset_id" 128 = .ok "asset" := by decide

theorem healthTimestamp_sample (fieldName : String) :
    @healthTimestamp sampleTime sampleInstant fieldName = .ok sampleInstant := by
  simp only [healthTimestamp, bind_ok, orRaise_ok, require_ok]
  exact ⟨⟨1767225600000000, some 0⟩, by decide, (), rfl, by decide⟩

theorem evidence_sample {observations samples : List ObservationRecord}
    (hrefs : samples.filterMap ObservationRecord.evidenceRef = []) :
    evidence (sampleCall observations maintenance) "evaluation" samples = sampleRefs maintenance := by
  have hwindow : addRef ["evaluation"] (strip "window") = ["evaluation", "window"] := by decide
  rw [evidence, hrefs]
  cases maintenance with
  | false => rfl
  | true => exact (if_pos rfl).trans hwindow

theorem healthEvidenceRefs_sample (maintenance : Bool) :
    healthEvidenceRefs (sampleRefs maintenance) = .ok (sampleRefs maintenance) := by
  revert maintenance
  decide

def sampleState (state : HealthState) (reason : String) (maintenance : Bool) : HealthStateRecord where
  assetId := "asset"
  state := state
  evaluatedAt := sampleInstant
  evidenceRefs := sampleRefs maintenance
  reasonCode := some reason

theorem sampleState_validate {state : HealthState} {reason : String}
    (hreason : compact reason "reason_code" 128 = .ok reason) :
    @HealthStateRecord.validate sampleTime (sampleState state reason maintenance) =
    .ok (sampleState state reason maintenance) := by
  let : PyTime := sampleTime
  simp only [HealthStateRecord.validate, bind_ok, require_ok, exists_const, pure_ok]
  exact ⟨"asset", compact_sample, sampleInstant, healthTimestamp_sample _, sampleRefs maintenance,
    healthEvidenceRefs_sample maintenance, some reason, optionMapM_ok.mpr (.some hreason), rfl, rfl⟩

theorem evaluate_sample {previous : Option HealthStateRecord} {observations samples : List ObservationRecord}
    (hprevious : ∀ record ∈ previous, ∃ state reason flag, record = sampleState state reason flag ∧
      compact reason "reason_code" 128 = .ok reason)
    (hsamples : @DeterministicHealthEvaluator.samples sampleTime sampleEvaluator "asset" 1767225600000000 observations =
      .ok samples)
    (hrefs : samples.filterMap ObservationRecord.evidenceRef = [])
    (hj : @judgement sampleTime sampleEvaluator (sampleCall observations maintenance) 1767225600000000 (before previous)
      samples = j)
    (hreason : compact j.reason "reason_code" 128 = .ok j.reason) :
    @evaluate sampleTime sampleEvaluator previous (sampleCall observations maintenance) =
      .ok (sampleConclusion (before previous) maintenance j) := by
  let : PyTime := sampleTime
  have hnow : instantOf sampleInstant = 1767225600000000 := by decide
  refine evaluate_ok.mpr ⟨"asset", sampleInstant, "evaluation", samples, ?_, hnow ▸ hsamples, ?_⟩
  · have hevaluation : compact "evaluation" "evaluation_evidence_ref" 256 = .ok "evaluation" := by decide
    have hwindow : compact "window" "maintenance_evidence_ref" 256 = .ok (strip "window") := by decide
    refine ⟨compact_sample, healthTimestamp_sample _, hevaluation, fun _ => ⟨"window", rfl, hwindow⟩, ?_⟩
    intro record hrecord
    obtain ⟨state, reason, flag, rfl, hcompact⟩ := hprevious record hrecord
    exact ⟨_, sampleState_validate hcompact, rfl⟩
  · rw [evidence_sample hrefs, hnow, hj]
    refine conclude_eq compact_sample healthTimestamp_sample (healthEvidenceRefs_sample maintenance) ?_ hreason
    cases maintenance <;> decide

def sampleCalls : List HealthCall := [sampleCall [] false, sampleCall [] true, sampleCall [sampleObservation .ok] false]

theorem run_sample : (@run sampleTime sampleEvaluator none sampleCalls).map
      (fun step => (before step.previous, step.call, step.result.state.state)) =
    [(.unknown, sampleCall [] false, .dataGap), (.dataGap, sampleCall [] true, .maintenance),
      (.maintenance, sampleCall [sampleObservation .ok] false, .maintenance)] := by
  let : PyTime := sampleTime
  have hnone : sampleEvaluator.samples "asset" 1767225600000000 [] = .ok [] := by decide
  have hone : sampleEvaluator.samples "asset" 1767225600000000 [sampleObservation .ok] = .ok [sampleObservation .ok] := by decide
  have hfirst : sampleEvaluator.evaluate none (sampleCall [] false) =
      .ok (sampleConclusion .unknown false { target := .dataGap, reason := "NO_DURABLE_OBSERVATION" }) :=
    evaluate_sample nofun hnone rfl rfl (by decide)
  have hsecond : sampleEvaluator.evaluate (some (sampleState .dataGap "NO_DURABLE_OBSERVATION" false)) (sampleCall [] true) =
      .ok (sampleConclusion .dataGap true { target := .maintenance, reason := "MAINTENANCE_ACTIVE" }) := by
    refine evaluate_sample ?_ hnone rfl rfl (by decide)
    intro record hrecord
    cases hrecord
    exact ⟨_, _, _, rfl, by decide⟩
  have hthird : sampleEvaluator.evaluate (some (sampleState .maintenance "MAINTENANCE_ACTIVE" true))
      (sampleCall [sampleObservation .ok] false) =
      .ok (sampleConclusion .maintenance false
        { target := .maintenance, reason := "HYSTERESIS_PENDING", recovery := 1 }) := by
    refine evaluate_sample ?_ hone rfl rfl (by decide)
    intro record hrecord
    cases hrecord
    exact ⟨_, _, _, rfl, by decide⟩
  have hgap : (sampleConclusion .unknown false { target := .dataGap, reason := "NO_DURABLE_OBSERVATION" }).state =
      sampleState .dataGap "NO_DURABLE_OBSERVATION" false := rfl
  have hmaintenance : (sampleConclusion .dataGap true { target := .maintenance, reason := "MAINTENANCE_ACTIVE" }).state =
      sampleState .maintenance "MAINTENANCE_ACTIVE" true := rfl
  simp only [sampleCalls, run, hfirst, hgap, hsecond, hmaintenance, hthird]
  rfl

/-- After a maintenance the state is kept without its flag, and the maintenance left a gap without a sample. -/
theorem maintenance_outlasts_flag : ∃ calls, let steps := @run sampleTime sampleEvaluator none calls
    (∃ step ∈ steps, step.result.state.state = .maintenance ∧ step.call.maintenance = false) ∧
      ∃ step ∈ steps, before step.previous = .dataGap ∧ step.result.state.state ≠ .dataGap ∧ step.call.observations = [] := by
  refine ⟨sampleCalls, ?_⟩
  have hrun := run_sample
  have hmem : ∀ p ∈ (@run sampleTime sampleEvaluator none sampleCalls).map
      (fun step => (before step.previous, step.call, step.result.state.state)),
      ∃ step ∈ @run sampleTime sampleEvaluator none sampleCalls,
      (before step.previous, step.call, step.result.state.state) = p := fun p hp => List.mem_map.mp hp
  rw [hrun] at hmem
  obtain ⟨last, hlast, hlastEq⟩ := hmem (.maintenance, sampleCall [sampleObservation .ok] false, .maintenance) (by simp)
  obtain ⟨second, hsecond, hsecondEq⟩ := hmem (.dataGap, sampleCall [] true, .maintenance) (by simp)
  simp only [Prod.mk.injEq] at hlastEq hsecondEq
  refine ⟨⟨last, hlast, hlastEq.2.2, ?_⟩, second, hsecond, hsecondEq.1, ?_, ?_⟩
  · rw [hlastEq.2.1]
    rfl
  · rw [hsecondEq.2.2]
    nofun
  · rw [hsecondEq.2.1]
    rfl

/-! ## Two orders of the same observations -/

def tiedObservations : List ObservationRecord := [sampleObservation .ok, sampleObservation .unreachable]

/-- The streaks of a tie depend on the order in which its observations are given. -/
theorem tied_not_orderFree : (∃ r, @evaluate sampleTime sampleEvaluator none (sampleCall tiedObservations false) = .ok r) ∧
    ¬ @OrderFree sampleTime sampleEvaluator none (sampleCall tiedObservations false) := by
  let : PyTime := sampleTime
  have hgiven : sampleEvaluator.samples "asset" 1767225600000000 tiedObservations = .ok tiedObservations := by decide
  have hturned : sampleEvaluator.samples "asset" 1767225600000000 tiedObservations.reverse =
      .ok tiedObservations.reverse := by decide
  have hlast : sampleEvaluator.evaluate none (sampleCall tiedObservations false) =
      .ok (sampleConclusion .unknown false
        { target := .unknown, reason := "HYSTERESIS_PENDING", unhealthy := 1, hard := 1 }) :=
    evaluate_sample nofun hgiven rfl (by decide) (by decide)
  have hfirst : sampleEvaluator.evaluate none (sampleCall tiedObservations.reverse false) =
      .ok (sampleConclusion .unknown false { target := .unknown, reason := "HYSTERESIS_PENDING", recovery := 1 }) :=
    evaluate_sample nofun hturned rfl (by decide) (by decide)
  refine ⟨⟨_, hlast⟩, ?_⟩
  intro hfree
  have hsame : sampleEvaluator.evaluate none (sampleCall tiedObservations.reverse false) = _ := hfree _ (List.reverse_perm _)
  rw [hfirst, hlast] at hsame
  have hrecovery := congrArg HealthEvaluation.recoveryStreak (Except.ok.inj hsame)
  exact absurd hrecovery (by decide)

def apartObservations : List ObservationRecord :=
  [{ sampleObservation .ok with metric := "packet_loss" }, sampleObservation .unreachable]

/-- They are no tie, so their order does not matter. -/
theorem orderFree_apart : @OrderFree sampleTime sampleEvaluator none (sampleCall apartObservations false) := by
  let : PyTime := sampleTime
  have hsorted : sampleEvaluator.samples "asset" 1767225600000000 apartObservations = .ok apartObservations := by decide
  have hevaluate : sampleEvaluator.evaluate none (sampleCall apartObservations false) =
      .ok (sampleConclusion .unknown false { target := .unknown, reason := "HYSTERESIS_PENDING", unhealthy := 1, hard := 1 }) :=
    evaluate_sample nofun hsorted rfl (by decide) (by decide)
  refine (orderFree_iff hevaluate).mpr ?_
  intro nowText samples hnow hsamples _
  obtain rfl : nowText = sampleInstant := Except.ok.inj (hnow.symm.trans (healthTimestamp_sample _))
  have hasset : strip (sampleCall apartObservations false).assetId = "asset" := by decide
  have hinstant : instantOf sampleInstant = 1767225600000000 := by decide
  rw [hasset, hinstant] at hsamples
  obtain rfl : samples = apartObservations := Except.ok.inj (hsamples.symm.trans hsorted)
  have hkeys : ∀ a ∈ apartObservations, ∀ b ∈ apartObservations, sampleKey a = sampleKey b → a = b := by decide
  intro p _ a ha b hb hkey _
  rw [hkeys a ha b hb hkey]

end DeterministicHealthEvaluator

end ThreeAgent.SecurityMonitoring
