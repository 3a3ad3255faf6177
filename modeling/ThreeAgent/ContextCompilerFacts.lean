/-
What a compilation returns. Each stage keeps the ids apart into selected and
dropped ones, the order and the critical items; what the budget stage selects
depends on the items and not on their order, so a permutation of the
candidates has the same selection.
-/
import ThreeAgent.ContextCompactionFacts

namespace ThreeAgent.ContextCompiler

open Outcome PyText ContextCandidate

variable {a b items : List ContextCandidate} {d : ContextCandidate} {stage : Stage}

/-! ## Tokens -/

theorem tokens_append (a b : List ContextCandidate) : tokens (a ++ b) = tokens a + tokens b := by
  rw [tokens, List.map_append, List.sum_append]
  rfl

theorem tokens_cons (c : ContextCandidate) (items : List ContextCandidate) :
    tokens (c :: items) = c.tokenCount + tokens items := rfl

theorem tokens_perm (h : a.Perm b) : tokens a = tokens b := (h.map _).sum_eq

/-! ## The order by rank -/

instance : IsTrans ContextCandidate fun a b => a.rankLE b = true := ⟨fun _ _ _ => rankLE_trans⟩

instance : Std.Total fun a b : ContextCandidate => a.rankLE b = true := ⟨rankLE_total⟩

theorem ranked_perm (items : List ContextCandidate) : (ranked items).Perm (items.filter fun c => !c.critical) :=
  List.perm_insertionSort _ _

theorem ranked_pairwise (items : List ContextCandidate) : (ranked items).Pairwise fun a b => a.rankLE b = true :=
  List.pairwise_insertionSort _ _

theorem criticals_ranked (items : List ContextCandidate) : (criticals items ++ ranked items).Perm items :=
  ((ranked_perm items).append_left _).trans (List.filter_append_perm _ items)

theorem DistinctIds.perm (h : DistinctIds a) (hperm : a.Perm b) : DistinctIds b :=
  (hperm.map _).nodup_iff.mp h

theorem DistinctIds.sublist (h : DistinctIds b) (hsub : a.Sublist b) : DistinctIds a :=
  List.Nodup.sublist (hsub.map _) h

theorem ranked_eq_of_perm (h : DistinctIds a) (hperm : a.Perm b) : ranked a = ranked b := by
  have hranked : (ranked a).Perm (ranked b) :=
    (ranked_perm a).trans ((hperm.filter _).trans (ranked_perm b).symm)
  refine hranked.eq_of_pairwise ?_ (ranked_pairwise a) (ranked_pairwise b)
  intro c d hc hd hcd hdc
  have hmem : ∀ {e}, e ∈ ranked a → e ∈ a := fun he => List.mem_of_mem_filter ((ranked_perm a).mem_iff.mp he)
  exact h.eq (hmem hc) (hmem (hranked.mem_iff.mpr hd)) (itemId_eq_of_rankLE hcd hdc)

theorem filter_ids {part : List ContextCandidate} (hsub : part.Sublist items) (h : DistinctIds items) :
    (items.filter fun c => c.itemId ∈ part.map (·.itemId)) = part := by
  have hself : (part.filter fun c => c.itemId ∈ part.map (·.itemId)) = part := by
    rw [List.filter_eq_self]
    intro c hc
    exact decide_eq_true (List.mem_map_of_mem hc)
  have hfilter := hsub.filter fun c => decide (c.itemId ∈ part.map (·.itemId))
  rw [hself] at hfilter
  refine (hfilter.eq_of_length_le ?_).symm
  refine (List.subperm_of_subset (h.nodup.filter _) ?_).length_le
  intro c hc
  obtain ⟨hmem, hid⟩ := List.mem_filter.mp hc
  obtain ⟨d, hd, hid⟩ := List.mem_map.mp (of_decide_eq_true hid)
  exact h.eq (hsub.subset hd) hmem hid ▸ hd

/-! ## The loop that fills -/

/-- The items that the loop selects. -/
def chosen (capacity : Int) (used : Int) : List ContextCandidate → List ContextCandidate
  | [] => []
  | item :: items =>
    if used + item.tokenCount ≤ capacity then item :: chosen capacity (used + item.tokenCount) items
    else chosen capacity used items

variable {capacity used : Int}

theorem fill_fst (items : List ContextCandidate) :
    (fill capacity used items).1 = (chosen capacity used items).map (·.itemId) := by
  induction items generalizing used with
  | nil => rfl
  | cons item items ih =>
    rw [fill, chosen]
    by_cases hfits : used + item.tokenCount ≤ capacity
    · rw [if_pos hfits, if_pos hfits, List.map_cons, ← ih]
    · rw [if_neg hfits, if_neg hfits, ← ih]

theorem chosen_sublist (items : List ContextCandidate) : (chosen capacity used items).Sublist items := by
  induction items generalizing used with
  | nil => exact List.Sublist.refl _
  | cons item items ih =>
    rw [chosen]
    split
    · exact ih.cons_cons item
    · exact ih.cons item

theorem chosen_fits (h : used ≤ capacity) (items : List ContextCandidate) :
    used + tokens (chosen capacity used items) ≤ capacity := by
  induction items generalizing used with
  | nil =>
    rw [chosen, tokens, List.map_nil, List.sum_nil]
    omega
  | cons item items ih =>
    rw [chosen]
    split
    · rename_i hfits
      have hrest := ih hfits
      rw [tokens_cons]
      omega
    · exact ih h

theorem fill_ids (capacity used : Int) (items : List ContextCandidate) :
    ((fill capacity used items).1 ++ (fill capacity used items).2).Perm (items.map (·.itemId)) := by
  induction items generalizing used with
  | nil => exact List.Perm.refl _
  | cons item items ih =>
    rw [fill, List.map_cons]
    split
    · exact (ih _).cons item.itemId
    · exact List.perm_middle.trans ((ih _).cons item.itemId)

theorem chosen_append (front back : List ContextCandidate) : chosen capacity used (front ++ back) =
    chosen capacity used front ++ chosen capacity (used + tokens (chosen capacity used front)) back := by
  induction front generalizing used with
  | nil =>
    rw [chosen, tokens, List.map_nil, List.sum_nil, Int.add_zero]
    rfl
  | cons item front ih =>
    rw [List.cons_append, chosen, chosen]
    split
    · rw [ih, tokens_cons, Int.add_assoc]
      rfl
    · exact ih

theorem fill_dropped {front back : List ContextCandidate}
    (hd : d.itemId ∉ (fill capacity used (front ++ d :: back)).1) :
    capacity < used + tokens (chosen capacity used front) + d.tokenCount := by
  by_contra hfits
  refine hd ?_
  rw [fill_fst, chosen_append, chosen, if_pos (not_lt.mp hfits), List.map_append, List.map_cons]
  exact List.mem_append_right _ List.mem_cons_self

/-! ## The stages -/

/-- What every stage keeps. -/
structure Staged (candidates : List ContextCandidate) (stage : Stage) : Prop where
  ids : (stage.working.map (·.itemId) ++ stage.dropped).Perm (candidates.map (·.itemId))
  order : (stage.working.map (·.itemId)).Sublist (candidates.map (·.itemId))
  criticals : criticals stage.working = criticals candidates
  modes : stage.modes.Nodup
  extracts : ∀ item ∈ stage.working, ∃ c ∈ candidates, item = c ∨ item = c.extractiveProjection

variable {policy : ContextCompilePolicy} {candidates : List ContextCandidate}

theorem Staged.distinct (h : Staged candidates stage) (hdistinct : DistinctIds candidates) :
    DistinctIds stage.working := List.Nodup.sublist h.order hdistinct

theorem survives_of_critical {c : ContextCandidate} (h : c.critical = true) : Survives candidates c :=
  .inl ⟨fun hstale => hstale.2.2 h, .inl h⟩

theorem staged_structural (hdistinct : DistinctIds candidates) :
    Staged candidates (structuralStage policy candidates) := by
  unfold structuralStage
  by_cases hsoft : policy.softThreshold ≤ ratio policy candidates
  · rw [if_pos hsoft]
    have hworking := structuralCompact_survivors hdistinct
    refine ⟨structuralCompact_ids hdistinct, ?_, ?_, by simp, ?_⟩
    · dsimp only
      rw [hworking]
      exact List.filter_sublist.map _
    · dsimp only
      rw [hworking, criticals, List.filter_filter]
      refine List.filter_congr ?_
      intro c _
      cases hcritical : c.critical with
      | false => rfl
      | true =>
        rw [Bool.true_and]
        exact decide_eq_true (survives_of_critical hcritical)
    · intro item hitem
      dsimp only at hitem
      rw [hworking] at hitem
      exact ⟨item, List.mem_of_mem_filter hitem, .inl rfl⟩
  · rw [if_neg hsoft]
    exact ⟨by simp, List.Sublist.refl _, rfl, List.nodup_nil, fun item hitem => ⟨item, hitem, .inl rfl⟩⟩

theorem extract?_same {c e : ContextCandidate} (h : c.extract? = some e) :
    e.itemId = c.itemId ∧ e.critical = false ∧ c.critical = false ∧ e.structuralKey = c.structuralKey := by
  unfold extract? at h
  split at h
  · split at h
    · cases h
    · rename_i hexempt
      cases h
      have hcritical : c.critical = false := by
        cases hc : c.critical with
        | false => rfl
        | true => exact absurd (.inl hc) hexempt
      exact ⟨rfl, hcritical, hcritical, rfl⟩
  · cases h

section

variable (c : ContextCandidate)

theorem projection_cases : c.extractiveProjection = c ∨ c.extract? = some c.extractiveProjection := by
  unfold extractiveProjection
  cases c.extract? with
  | none => exact .inl rfl
  | some e => exact .inr rfl

theorem projection_itemId : c.extractiveProjection.itemId = c.itemId := by
  rcases projection_cases c with h | h
  · rw [h]
  · exact (extract?_same h).1

theorem projection_critical : c.extractiveProjection.critical = c.critical := by
  rcases projection_cases c with h | h
  · rw [h]
  · rw [(extract?_same h).2.1, (extract?_same h).2.2.1]

theorem projection_key : c.extractiveProjection.structuralKey = c.structuralKey := by
  rcases projection_cases c with h | h
  · rw [h]
  · exact (extract?_same h).2.2.2

end

theorem projection_of_critical {c : ContextCandidate} (h : c.critical = true) : c.extractiveProjection = c := by
  rcases projection_cases c with hsame | hextract
  · exact hsame
  · rw [(extract?_same hextract).2.2.1] at h
    cases h

theorem criticals_projected (items : List ContextCandidate) :
    criticals (items.map (·.extractiveProjection)) = criticals items := by
  induction items with
  | nil => rfl
  | cons c items ih =>
    simp only [criticals] at ih
    simp only [criticals, List.map_cons, List.filter_cons, projection_critical, ih]
    split
    · rename_i hcritical
      rw [projection_of_critical hcritical]
    · rfl

theorem ids_projected (items : List ContextCandidate) :
    (items.map (·.extractiveProjection)).map (·.itemId) = items.map (·.itemId) := by
  rw [List.map_map]
  exact List.map_congr_left fun c _ => projection_itemId c

theorem Staged.extractive (h : Staged candidates stage) (hplain : ∀ item ∈ stage.working, item ∈ candidates)
    (hmode : CompactionMode.extractive ∉ stage.modes) {r : ℚ} : Staged candidates (extractiveStage policy r stage) := by
  unfold extractiveStage
  split
  · refine ⟨?_, ?_, ?_, ?_, ?_⟩
    · rw [ids_projected]
      exact h.ids
    · rw [ids_projected]
      exact h.order
    · rw [criticals_projected]
      exact h.criticals
    · dsimp only
      split
      · exact List.Nodup.append h.modes (List.nodup_singleton _) (List.disjoint_singleton.mpr hmode)
      · exact h.modes
    · intro item hitem
      obtain ⟨c, hc, rfl⟩ := List.mem_map.mp hitem
      exact ⟨c, hplain c hc, .inr rfl⟩
  · exact h

/-- What comes before the budget stage. -/
def beforeBudget (policy : ContextCompilePolicy) (candidates : List ContextCandidate) : Stage :=
  extractiveStage policy (ratio policy candidates) (structuralStage policy candidates)

theorem structuralStage_subset (hdistinct : DistinctIds candidates) :
    ∀ item ∈ (structuralStage policy candidates).working, item ∈ candidates := by
  unfold structuralStage
  split
  · intro item hitem
    dsimp only at hitem
    rw [structuralCompact_survivors hdistinct] at hitem
    exact List.mem_of_mem_filter hitem
  · exact fun _ hitem => hitem

theorem structuralStage_modes : CompactionMode.extractive ∉ (structuralStage policy candidates).modes := by
  unfold structuralStage
  split <;> simp

theorem staged_beforeBudget (hdistinct : DistinctIds candidates) : Staged candidates (beforeBudget policy candidates) :=
  (staged_structural hdistinct).extractive (structuralStage_subset hdistinct) structuralStage_modes

/-! ## The budget stage -/

/-- The items that the budget stage keeps, the critical ones first. -/
def fitted (capacity : Int) (items : List ContextCandidate) : List ContextCandidate :=
  criticals items ++ chosen capacity (tokens (criticals items)) (ranked items)

theorem fitted_ids (capacity : Int) (items : List ContextCandidate) : (fitted capacity items).map (·.itemId) =
    criticalIds items ++ (fill capacity (tokens (criticals items)) (ranked items)).1 := by
  rw [fitted, List.map_append, fill_fst]
  rfl

theorem filter_fitted (capacity : Int) (h : DistinctIds items) :
    (items.filter fun c => c.itemId ∈ (fitted capacity items).map (·.itemId)).Perm (fitted capacity items) := by
  have hall := criticals_ranked items
  have hsub : (fitted capacity items).Sublist (criticals items ++ ranked items) :=
    (chosen_sublist (ranked items)).append_left (criticals items)
  have hfilter := filter_ids hsub (h.perm hall.symm)
  have hperm := hall.symm.filter fun c => decide (c.itemId ∈ (fitted capacity items).map (·.itemId))
  rw [hfilter] at hperm
  exact hperm

/-- The budget stage, where it has to drop. -/
def tight (capacity : Int) (stage : Stage) : Stage where
  working := stage.working.filter fun c => c.itemId ∈ (fitted capacity stage.working).map (·.itemId)
  dropped := stage.dropped ++ (fill capacity (tokens (criticals stage.working)) (ranked stage.working)).2
  modes := if CompactionMode.structural ∈ stage.modes then stage.modes else stage.modes ++ [.structural]

theorem budgetStage_eq (stage : Stage) : budgetStage policy stage =
    if policy.inputCapacity < tokens stage.working then tight policy.inputCapacity stage else stage := by
  unfold budgetStage tight
  simp only [fitted_ids]

theorem mem_fitted_of_critical {c : ContextCandidate} (hc : c ∈ items)
    (hcritical : c.critical = true) : c ∈ fitted capacity items :=
  List.mem_append_left _ (List.mem_filter.mpr ⟨hc, hcritical⟩)

theorem Staged.tight (h : Staged candidates stage) (hdistinct : DistinctIds candidates) :
    Staged candidates (tight capacity stage) := by
  have hworking := h.distinct hdistinct
  have hfitted := filter_fitted capacity hworking
  refine ⟨?_, (List.filter_sublist.map _).trans h.order, ?_, ?_, ?_⟩
  · have hids := h.ids
    have hkept := hfitted.map (·.itemId)
    have hfill := fill_ids capacity (tokens (ContextCompiler.criticals stage.working)) (ranked stage.working)
    have hall := (criticals_ranked stage.working).map (·.itemId)
    rw [List.map_append] at hall
    rw [List.perm_iff_count] at hids hkept hfill hall ⊢
    intro id
    have hids := hids id
    have hkept := hkept id
    have hfill := hfill id
    have hall := hall id
    have hparts := congrArg (List.count id) (fitted_ids capacity stage.working)
    simp only [ContextCompiler.tight, criticalIds, List.count_append] at hids hkept hfill hall hparts ⊢
    omega
  · refine Eq.trans ?_ h.criticals
    show List.filter _ (List.filter _ _) = _
    rw [List.filter_filter, ContextCompiler.criticals]
    refine List.filter_congr ?_
    intro c hc
    cases hcritical : c.critical with
    | false => rfl
    | true =>
      rw [Bool.true_and]
      exact decide_eq_true (List.mem_map_of_mem (mem_fitted_of_critical hc hcritical))
  · show (if _ then _ else _ : List CompactionMode).Nodup
    split
    · exact h.modes
    · rename_i hmode
      exact List.Nodup.append h.modes (List.nodup_singleton _) (List.disjoint_singleton.mpr hmode)
  · intro item hitem
    exact h.extracts item (List.mem_of_mem_filter hitem)

theorem tight_fits (hdistinct : DistinctIds stage.working)
    (hcritical : tokens (criticals stage.working) ≤ capacity) : tokens (tight capacity stage).working ≤ capacity := by
  show tokens (stage.working.filter _) ≤ capacity
  rw [tokens_perm (filter_fitted capacity hdistinct), fitted, tokens_append]
  exact chosen_fits hcritical _

theorem tight_dropped (hdistinct : DistinctIds stage.working) (hd : d ∈ stage.working)
    (hdropped : d.itemId ∉ (tight capacity stage).working.map (·.itemId)) : d.critical = false ∧
      capacity < tokens ((tight capacity stage).working.filter fun c => c.critical || c.rankLE d) + d.tokenCount := by
  have hfitted := filter_fitted capacity hdistinct
  have hids : d.itemId ∉ (fitted capacity stage.working).map (·.itemId) := by
    intro hid
    exact hdropped (List.mem_map_of_mem (List.mem_filter.mpr ⟨hd, decide_eq_true hid⟩))
  have hcritical : d.critical = false := by
    cases hcritical : d.critical with
    | false => rfl
    | true => exact absurd (List.mem_map_of_mem (mem_fitted_of_critical hd hcritical)) hids
  refine ⟨hcritical, ?_⟩
  have hranked : d ∈ ranked stage.working := by
    refine (ranked_perm stage.working).mem_iff.mpr (List.mem_filter.mpr ⟨hd, ?_⟩)
    rw [hcritical]
    rfl
  have hdistinctRanked : DistinctIds (ranked stage.working) :=
    (hdistinct.sublist List.filter_sublist).perm (ranked_perm stage.working).symm
  obtain ⟨front, back, hsplit⟩ := List.append_of_mem hranked
  have hpairwise := ranked_pairwise stage.working
  have hnot : d.itemId ∉ (fill capacity (tokens (criticals stage.working)) (ranked stage.working)).1 := by
    intro hid
    rw [fitted_ids] at hids
    exact hids (List.mem_append_right _ hid)
  rw [hsplit] at hnot hpairwise hdistinctRanked
  have hfull := fill_dropped hnot
  -- the kept items of a higher rank are the critical ones and those selected before
  have hbefore : (chosen capacity (tokens (criticals stage.working)) (ranked stage.working)).filter
      (fun c => c.critical || c.rankLE d) = chosen capacity (tokens (criticals stage.working)) front := by
    rw [fill_fst, chosen_append, List.map_append] at hnot
    rw [hsplit, chosen_append, List.filter_append]
    obtain ⟨-, hdback, hfront⟩ := List.pairwise_append.mp hpairwise
    have hkeep : (chosen capacity (tokens (criticals stage.working)) front).filter (fun c => c.critical || c.rankLE d) =
        chosen capacity (tokens (criticals stage.working)) front := by
      rw [List.filter_eq_self]
      intro c hc
      rw [hfront c ((chosen_sublist front).subset hc) d List.mem_cons_self, Bool.or_true]
    have hnone : ∀ u, d.itemId ∉ (chosen capacity u (d :: back)).map (·.itemId) →
        (chosen capacity u (d :: back)).filter (fun c => c.critical || c.rankLE d) = [] := by
      intro u hid
      rw [List.filter_eq_nil_iff]
      intro c hc hle
      have hmem := (chosen_sublist (d :: back)).subset hc
      have hsame : c.itemId = d.itemId := by
        rcases List.mem_cons.mp hmem with hcd | hcback
        · rw [hcd]
        · have hnoncritical : c.critical = false := by
            have hcr : c ∈ ranked stage.working := hsplit ▸ List.mem_append_right _ hmem
            have hfilter := (List.mem_filter.mp ((ranked_perm stage.working).mem_iff.mp hcr)).2
            rwa [Bool.not_eq_true'] at hfilter
          rw [hnoncritical, Bool.false_or] at hle
          exact itemId_eq_of_rankLE hle ((List.pairwise_cons.mp hdback).1 c hcback)
      exact hid (hsame ▸ List.mem_map_of_mem hc)
    rw [hkeep, hnone _ fun hid => hnot (List.mem_append_right _ hid), List.append_nil]
  have htokens : tokens ((tight capacity stage).working.filter fun c => c.critical || c.rankLE d) =
      tokens (criticals stage.working) + tokens (chosen capacity (tokens (criticals stage.working)) front) := by
    show tokens (List.filter _ (List.filter _ _)) = _
    rw [tokens_perm (hfitted.filter _), fitted, List.filter_append, tokens_append, hbefore]
    congr 2
    rw [List.filter_eq_self]
    intro c hc
    rw [(List.mem_filter.mp hc).2, Bool.true_or]
  rw [htokens]
  exact hfull

/-! ## The items of a key -/

/-- A key has at most one item that is not critical. -/
def KeysUnique (items : List ContextCandidate) : Prop :=
  ∀ a ∈ items, ∀ b ∈ items, a.critical = false → b.critical = false → a.structuralKey ≠ none →
    a.structuralKey = b.structuralKey → a = b

theorem Survives.best {a b : ContextCandidate} (ha : Survives items a) (hb : b ∈ items)
    (hb' : Survives items b) (hacritical : a.critical = false) (hbcritical : b.critical = false)
    (hkey : a.structuralKey ≠ none) (hsame : a.structuralKey = b.structuralKey) : a.rankLE b = true := by
  have hnot : ∀ {c : ContextCandidate}, c.critical = false → c.structuralKey ≠ none → ¬ c.Plain := by
    intro c hcritical hkey hplain
    rcases hplain.2 with h | h
    · rw [hcritical] at h
      cases h
    · exact hkey h
  have hstale : ¬ b.Stale := by
    rcases hb' with hplain | hbest
    · exact hplain.1
    · exact hbest.1
  rcases ha with hplain | hbest
  · exact absurd hplain (hnot hacritical hkey)
  · refine hbest.2 b hb hstale ?_ hsame.symm
    rw [hbcritical]
    exact Bool.false_ne_true

theorem keysUnique_structural (hdistinct : DistinctIds candidates) :
    KeysUnique (structuralCompact candidates).1 := by
  rw [structuralCompact_survivors hdistinct]
  intro a ha b hb hacritical hbcritical hkey hsame
  obtain ⟨hamem, hasurvives⟩ := List.mem_filter.mp ha
  obtain ⟨hbmem, hbsurvives⟩ := List.mem_filter.mp hb
  have hasurvives := of_decide_eq_true hasurvives
  have hbsurvives := of_decide_eq_true hbsurvives
  have hab := hasurvives.best hbmem hbsurvives hacritical hbcritical hkey hsame
  have hba := hbsurvives.best hamem hasurvives hbcritical hacritical (hsame ▸ hkey) hsame.symm
  exact hdistinct.eq hamem hbmem (itemId_eq_of_rankLE hab hba)

theorem KeysUnique.projected (h : KeysUnique items) :
    KeysUnique (items.map (·.extractiveProjection)) := by
  intro a ha b hb hacritical hbcritical hkey hsame
  obtain ⟨a', ha', rfl⟩ := List.mem_map.mp ha
  obtain ⟨b', hb', rfl⟩ := List.mem_map.mp hb
  rw [projection_critical] at hacritical hbcritical
  rw [projection_key] at hkey
  rw [projection_key, projection_key] at hsame
  rw [h a' ha' b' hb' hacritical hbcritical hkey hsame]

theorem KeysUnique.subset {items' : List ContextCandidate} (h : KeysUnique items) (hsub : ∀ c ∈ items', c ∈ items) :
    KeysUnique items' := fun a ha b hb => h a (hsub a ha) b (hsub b hb)

/-! ## Valid arguments -/

/-- A valid policy, and valid candidates with distinct ids. -/
structure Valid (policy : ContextCompilePolicy) (candidates : List ContextCandidate) : Prop where
  policyValid : policy.validate = .ok ⟨⟩
  nonempty : candidates ≠ []
  candidatesValid : ∀ c ∈ candidates, c.validate = .ok ⟨⟩
  distinct : DistinctIds candidates

instance (policy : ContextCompilePolicy) (candidates : List ContextCandidate) : Decidable (Valid policy candidates) :=
  decidable_of_iff (policy.validate = .ok ⟨⟩ ∧ candidates ≠ [] ∧ (∀ c ∈ candidates, c.validate = .ok ⟨⟩) ∧
    DistinctIds candidates) ⟨fun h => ⟨h.1, h.2.1, h.2.2.1, h.2.2.2⟩, fun h => ⟨h.1, h.2, h.3, h.4⟩⟩

variable {candidates' : List ContextCandidate}

theorem Valid.perm (h : Valid policy candidates) (hperm : candidates.Perm candidates') :
    Valid policy candidates' where
  policyValid := h.policyValid
  nonempty hnil := h.nonempty (List.Perm.eq_nil (hnil ▸ hperm))
  candidatesValid c hc := h.candidatesValid c (hperm.mem_iff.mpr hc)
  distinct := h.distinct.perm hperm

theorem Valid.numbers (h : Valid policy candidates) : 0 < policy.inputCapacity ∧ policy.softThreshold < 1 ∧
    policy.softThreshold < policy.hardThreshold := by
  have hvalid := h.policyValid
  simp only [ContextCompilePolicy.validate, ContextCompilePolicy.checkThreshold, nonnegativeInt, bind_ok, require_ok,
    exists_const] at hvalid
  obtain ⟨-, -, -, hreserve, ⟨-, hsoft⟩, -, -, horder, -⟩ := hvalid
  refine ⟨?_, hsoft, horder⟩
  rw [ContextCompilePolicy.inputCapacity]
  omega

theorem Valid.uncompacted (h : Valid policy candidates) (hsoft : ¬ policy.softThreshold ≤ ratio policy candidates) :
    budgetStage policy (beforeBudget policy candidates) = { working := candidates } := by
  obtain ⟨hcapacity, hone, hhard⟩ := h.numbers
  have hstructural : structuralStage policy candidates = { working := candidates } := by
    rw [structuralStage, if_neg hsoft]
  have hsmall : ¬ policy.inputCapacity < tokens candidates := by
    have hratio : ratio policy candidates < 1 := (not_le.mp hsoft).trans hone
    rw [ratio, div_lt_one (by exact_mod_cast hcapacity)] at hratio
    exact not_lt.mpr (by exact_mod_cast hratio.le)
  have hextractive : beforeBudget policy candidates = { working := candidates } := by
    rw [beforeBudget, hstructural, extractiveStage, if_neg]
    rintro (hle | hlt)
    · exact hsoft (hhard.le.trans hle)
    · exact hsmall hlt
  rw [hextractive, budgetStage_eq, if_neg hsmall]

/-! ## The end of the stages -/

/-- The end of the stages. -/
def finalStage (policy : ContextCompilePolicy) (candidates : List ContextCandidate) : Stage :=
  budgetStage policy (beforeBudget policy candidates)

theorem staged_final (h : DistinctIds candidates) : Staged candidates (finalStage policy candidates) := by
  rw [finalStage, budgetStage_eq]
  split
  · exact (staged_beforeBudget h).tight h
  · exact staged_beforeBudget h

theorem final_fits (h : DistinctIds candidates) (hcritical : tokens (criticals candidates) ≤ policy.inputCapacity) :
    tokens (finalStage policy candidates).working ≤ policy.inputCapacity := by
  have hbefore : Staged candidates (beforeBudget policy candidates) := staged_beforeBudget h
  rw [finalStage, budgetStage_eq]
  split
  · exact tight_fits (hbefore.distinct h) (by rwa [hbefore.criticals])
  · rename_i hfits
    exact not_lt.mp hfits

theorem final_dropped (h : DistinctIds candidates) (hd : d ∈ (beforeBudget policy candidates).working)
    (hdropped : d.itemId ∉ (finalStage policy candidates).working.map (·.itemId)) : d.critical = false ∧
      policy.inputCapacity <
        tokens ((finalStage policy candidates).working.filter fun c => c.critical || c.rankLE d) + d.tokenCount := by
  rw [finalStage, budgetStage_eq] at hdropped ⊢
  split at hdropped
  · rename_i hover
    rw [if_pos hover]
    exact tight_dropped ((staged_beforeBudget h).distinct h) hd hdropped
  · exact absurd (List.mem_map_of_mem hd) hdropped

theorem final_keys (h : Valid policy candidates) (hmode : CompactionMode.structural ∈ (finalStage policy candidates).modes) :
    KeysUnique (finalStage policy candidates).working := by
  by_cases hsoft : policy.softThreshold ≤ ratio policy candidates
  · have hstructural : KeysUnique (structuralStage policy candidates).working := by
      rw [structuralStage, if_pos hsoft]
      exact keysUnique_structural h.distinct
    have hbefore : KeysUnique (beforeBudget policy candidates).working := by
      rw [beforeBudget, extractiveStage]
      split
      · exact hstructural.projected
      · exact hstructural
    rw [finalStage, budgetStage_eq]
    split
    · exact hbefore.subset fun c hc => List.mem_of_mem_filter hc
    · exact hbefore
  · rw [finalStage, h.uncompacted hsoft] at hmode
    cases hmode

theorem sorted_dedup_perm {ids : List String} (h : ids.Nodup) : (sorted (dedup ids)).Perm ids := by
  rw [dedup_of_nodup h]
  exact List.perm_insertionSort _ _

theorem final_partition (h : DistinctIds candidates) :
    ((compiledContext policy candidates (finalStage policy candidates)).selectedIds ++
      (compiledContext policy candidates (finalStage policy candidates)).droppedItemIds).Perm
        (candidates.map (·.itemId)) := by
  have hstaged : Staged candidates (finalStage policy candidates) := staged_final h
  have hnodup := (List.nodup_append.mp (hstaged.ids.nodup_iff.mpr h)).2.1
  exact ((sorted_dedup_perm hnodup).append_left _).trans hstaged.ids

theorem final_critical (h : DistinctIds candidates) {c : ContextCandidate} (hc : c ∈ candidates) (hcritical : c.critical = true) :
    c ∈ (finalStage policy candidates).working := by
  have hmem : c ∈ criticals candidates := List.mem_filter.mpr ⟨hc, hcritical⟩
  rw [← (@staged_final policy candidates h).criticals] at hmem
  exact List.mem_of_mem_filter hmem

theorem final_valid (h : DistinctIds candidates) (hcritical : tokens (criticals candidates) ≤ policy.inputCapacity) :
    (compiledContext policy candidates (finalStage policy candidates)).validate = .ok ⟨⟩ := by
  have hstaged : Staged candidates (finalStage policy candidates) := staged_final h
  have hpartition := @final_partition policy candidates h
  obtain ⟨hselected, hdropped, hdisjoint⟩ := List.nodup_append.mp (hpartition.nodup_iff.mpr h)
  have hids : ∀ id ∈ criticalIds candidates, id ∈ (finalStage policy candidates).working.map (·.itemId) := by
    intro id hid
    obtain ⟨c, hc, rfl⟩ := List.mem_map.mp hid
    obtain ⟨hmem, hcritical⟩ := List.mem_filter.mp hc
    exact List.mem_map_of_mem (final_critical h hmem hcritical)
  simp only [CompiledContext.validate, bind_ok, require_ok, exists_const]
  refine ⟨hselected, hdropped, ?_, ?_, ?_, ?_, hids, rfl, final_fits h hcritical, hstaged.modes⟩
  · exact h.sublist List.filter_sublist
  · intro id hid hid'
    exact hdisjoint id hid id hid' rfl
  · intro id hid
    obtain ⟨c, hc, rfl⟩ := List.mem_map.mp hid
    exact List.mem_map.mpr ⟨_, List.mem_map_of_mem (List.mem_of_mem_filter hc), rfl⟩
  · intro id hid hid'
    exact hdisjoint id (hids id hid) id hid' rfl

theorem compile_eq (h : Valid policy candidates) : compile policy candidates =
    if tokens (criticals candidates) ≤ policy.inputCapacity then
      .ok (compiledContext policy candidates (finalStage policy candidates))
    else .error (fail "CRITICAL_CONTEXT_EXCEEDS_BUDGET") := by
  have hvalid : candidates.forM (·.validate) = .ok ⟨⟩ := forM_ok.mpr h.candidatesValid
  have hdistinct : (candidates.map (·.itemId)).Nodup := h.distinct
  have hcriticals : criticals (extractiveStage policy (ratio policy candidates) (structuralStage policy candidates)).working =
      criticals candidates := (staged_beforeBudget h.distinct).criticals
  unfold compile
  dsimp only
  rw [hcriticals]
  by_cases hfits : tokens (criticals candidates) ≤ policy.inputCapacity
  · have hkept : ∀ id ∈ criticalIds candidates, id ∉ (finalStage policy candidates).dropped := by
      intro id hid hdropped
      obtain ⟨c, hc, rfl⟩ := List.mem_map.mp hid
      obtain ⟨hmem, hcritical⟩ := List.mem_filter.mp hc
      have hnodup := (@staged_final policy candidates h.distinct).ids.nodup_iff.mpr h.distinct
      have hselected := List.mem_map_of_mem (f := (·.itemId)) (@final_critical policy candidates h.distinct c hmem hcritical)
      exact (List.nodup_append.mp hnodup).2.2 _ hselected _ hdropped rfl
    have hresult := @final_valid policy candidates h.distinct hfits
    rw [finalStage, beforeBudget] at hkept hresult
    rw [if_pos hfits, h.policyValid, require, if_pos h.nonempty, hvalid, require, if_pos hdistinct, require, if_pos hfits,
      require, if_pos hkept, hresult]
    rfl
  · rw [if_neg hfits, h.policyValid, require, if_pos h.nonempty, hvalid, require, if_pos hdistinct, require, if_neg hfits]
    rfl

/-! ## A permutation of the candidates -/

theorem Survives.perm (hperm : candidates.Perm candidates') (c : ContextCandidate) :
    Survives candidates c ↔ Survives candidates' c := by
  simp only [Survives, hperm.mem_iff]

theorem ratio_perm (hperm : candidates.Perm candidates') :
    ratio policy candidates = ratio policy candidates' := by
  rw [ratio, ratio, tokens_perm hperm]

theorem structural_perm (h : DistinctIds candidates)
    (hperm : candidates.Perm candidates') :
    (structuralStage policy candidates).working.Perm (structuralStage policy candidates').working := by
  rw [structuralStage, structuralStage, ratio_perm hperm]
  split
  · dsimp only
    rw [structuralCompact_survivors h, structuralCompact_survivors (h.perm hperm)]
    refine (hperm.filter _).trans (List.Perm.of_eq (List.filter_congr ?_))
    intro c _
    exact decide_eq_decide.mpr (Survives.perm hperm c)
  · exact hperm

theorem beforeBudget_perm (h : DistinctIds candidates)
    (hperm : candidates.Perm candidates') :
    (beforeBudget policy candidates).working.Perm (beforeBudget policy candidates').working := by
  have hstructural := @structural_perm policy candidates candidates' h hperm
  rw [beforeBudget, beforeBudget, extractiveStage, extractiveStage, ratio_perm hperm, tokens_perm hstructural]
  split
  · exact hstructural.map _
  · exact hstructural

theorem final_perm (h : DistinctIds candidates) (hperm : candidates.Perm candidates') :
    (finalStage policy candidates).working.Perm (finalStage policy candidates').working := by
  have hbefore := @beforeBudget_perm policy candidates candidates' h hperm
  have hdistinct := (@staged_beforeBudget policy candidates h).distinct h
  rw [finalStage, finalStage, budgetStage_eq, budgetStage_eq, tokens_perm hbefore]
  split
  · have hcriticals : (criticals (beforeBudget policy candidates).working).Perm
        (criticals (beforeBudget policy candidates').working) := hbefore.filter _
    have hfitted : (fitted policy.inputCapacity (beforeBudget policy candidates).working).Perm
        (fitted policy.inputCapacity (beforeBudget policy candidates').working) := by
      rw [fitted, fitted, ranked_eq_of_perm hdistinct hbefore, tokens_perm hcriticals]
      exact hcriticals.append_right _
    exact (filter_fitted _ hdistinct).trans (hfitted.trans (filter_fitted _ (hdistinct.perm hbefore)).symm)
  · exact hbefore

/-! ## The compilation -/

/-- What is promised of a compiled context. -/
structure Compiled (policy : ContextCompilePolicy) (candidates : List ContextCandidate) (result : CompiledContext) : Prop where
  partition : (result.selectedIds ++ result.droppedItemIds).Perm (candidates.map (·.itemId))
  critical : ∀ c ∈ candidates, c.critical = true → c ∈ result.items
  order : result.selectedIds.Sublist (candidates.map (·.itemId))
  extracts : ∀ item ∈ result.items, ∃ c ∈ candidates, item = c ∨ item = c.extractiveProjection
  total : result.compiledTokens = tokens result.items
  capacity : result.compiledTokens ≤ policy.inputCapacity
  budget : ∀ d ∈ (beforeBudget policy candidates).working, d.itemId ∉ result.selectedIds → d.critical = false ∧
    policy.inputCapacity < tokens (result.items.filter fun c => c.critical || c.rankLE d) + d.tokenCount
  keys : CompactionMode.structural ∈ result.compactionModes → KeysUnique result.items

/-- **The compilation of valid arguments** fails just when the critical items do not fit; else its result is as
promised, and every permutation of the candidates has the same selection. -/
theorem compile_compiled (h : Valid policy candidates) :
    (compile policy candidates = .error (fail "CRITICAL_CONTEXT_EXCEEDS_BUDGET") ↔
      policy.inputCapacity < tokens (criticals candidates)) ∧
    (tokens (criticals candidates) ≤ policy.inputCapacity → ∃ result, compile policy candidates = .ok result ∧
      Compiled policy candidates result ∧ ∀ candidates', candidates.Perm candidates' →
        ∃ result', compile policy candidates' = .ok result' ∧ ∀ id, id ∈ result'.selectedIds ↔ id ∈ result.selectedIds) := by
  have hcompile := compile_eq h
  constructor
  · rw [hcompile]
    by_cases hfits : tokens (criticals candidates) ≤ policy.inputCapacity
    · rw [if_pos hfits]
      simpa using hfits
    · rw [if_neg hfits]
      simpa using hfits
  · intro hfits
    have hstaged : Staged candidates (finalStage policy candidates) := staged_final h.distinct
    rw [if_pos hfits] at hcompile
    refine ⟨_, hcompile, ?_, ?_⟩
    · exact ⟨final_partition h.distinct, fun c hc hcritical => final_critical h.distinct hc hcritical, hstaged.order,
        hstaged.extracts, rfl, final_fits h.distinct hfits, fun d hd => final_dropped h.distinct hd, final_keys h⟩
    · intro candidates' hperm
      have hcompile' := compile_eq (h.perm hperm)
      have hcriticals : (criticals candidates).Perm (criticals candidates') := hperm.filter _
      have hfits' : tokens (criticals candidates') ≤ policy.inputCapacity := by
        rw [← tokens_perm hcriticals]
        exact hfits
      rw [if_pos hfits'] at hcompile'
      refine ⟨_, hcompile', ?_⟩
      intro id
      exact ((final_perm h.distinct hperm).map _).mem_iff.symm

namespace Sample

def samplePolicy : ContextCompilePolicy := { maxInput := 100, reservedOutput := 20 }

def note (itemId : String) (tokenCount : Int) (priority : Int) : ContextCandidate where
  itemId
  sectionType := "notes"
  content := "text"
  tokenCount
  sourceRefs := ["notes/" ++ itemId]
  priority

def sampleCandidates : List ContextCandidate :=
  [{ note "task" 40 90 with critical := true },
   { note "old" 20 50 with structuralKey := some "plan" },
   { note "new" 20 60 with structuralKey := some "plan" },
   { note "log" 30 40 with extractiveContent := some "gist", extractiveTokenCount := some 15 },
   note "rest" 50 10]

theorem candidates_valid : Valid samplePolicy sampleCandidates := by decide +kernel

/-- The sample compiles, with what is promised of its result. -/
theorem compile_compiled_candidates : ∃ result, compile samplePolicy sampleCandidates = .ok result ∧
    Compiled samplePolicy sampleCandidates result ∧ result.selectedIds = ["task", "new", "log"] := by
  obtain ⟨-, hcompiled⟩ := compile_compiled candidates_valid
  obtain ⟨result, hresult, hpromised, -⟩ := hcompiled (by decide)
  refine ⟨result, hresult, hpromised, ?_⟩
  have hselected : (compile samplePolicy sampleCandidates).toOption.map (·.selectedIds) = some ["task", "new", "log"] := by
    decide +kernel
  rw [hresult] at hselected
  exact Option.some.inj hselected

end Sample

end ThreeAgent.ContextCompiler
