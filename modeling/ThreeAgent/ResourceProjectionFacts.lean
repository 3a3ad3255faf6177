/-
The projection of bytes over GPUs: a filling of the free parts of the GPUs.

Each round of the loop is a round of a filling, whichever GPU is the least
loaded; so the loop ends within its fuel, and what it ends with is what the
rules of the filling say.
-/
import ThreeAgent.Lib.Filling
import ThreeAgent.ResourceProjection

namespace ThreeAgent.ResourceBudget

open Filling

variable {projected : List ℚ} {i : Nat} {st : Projecting} {demand : Int}

section Loop

variable {gpus : List GPUResourceState} {limit : ℚ} {chunk : Int}

/-- What is free on each GPU below its limit. -/
def freeOn (gpus : List GPUResourceState) (limit : ℚ) (projected : List ℚ) : List ℚ :=
  List.zipWith (fun g p => g.totalBytes * limit - p) gpus projected

theorem getElem?_freeOn (limit : ℚ) (hlen : projected.length = gpus.length) (hi : i < gpus.length) :
    (freeOn gpus limit projected)[i]? = some (total gpus i * limit - projected.getD i 0) := by
  have hp : projected[i]? = some (projected.getD i 0) := by
    rw [List.getD_eq_getElem?_getD, List.getElem?_eq_getElem (hlen ▸ hi)]
    rfl
  have ht : gpus[i].totalBytes = total gpus i := by
    rw [total, List.getD_eq_getElem?_getD, List.getElem?_map, List.getElem?_eq_getElem hi]
    rfl
  rw [freeOn, List.getElem?_zipWith, List.getElem?_eq_getElem hi, hp, ← ht]

theorem freeOn_set (hlen : projected.length = gpus.length) (hi : i < gpus.length) (x : ℚ) :
    freeOn gpus limit (projected.set i x) = (freeOn gpus limit projected).set i (total gpus i * limit - x) := by
  have hset : (projected.set i x).length = gpus.length := by rw [List.length_set, hlen]
  apply List.ext_getElem?
  intro j
  by_cases hj : j < gpus.length
  · rw [getElem?_freeOn limit hset hj, List.getElem?_set, List.getD_eq_getElem?_getD, List.getElem?_set]
    by_cases hij : i = j
    · subst hij
      have hfree : i < (freeOn gpus limit projected).length := by
        rw [freeOn, List.length_zipWith, hlen, Nat.min_self]
        exact hi
      rw [if_pos rfl, if_pos (hlen ▸ hi), if_pos rfl, if_pos hfree]
      rfl
    · rw [if_neg hij, if_neg hij, getElem?_freeOn limit hlen hj, List.getD_eq_getElem?_getD]
  · have hnone : ∀ ps : List ℚ, (freeOn gpus limit ps)[j]? = none := by
      intro ps
      rw [freeOn, List.getElem?_zipWith, List.getElem?_eq_none (by omega)]
    rw [hnone, List.getElem?_set, if_neg (by omega), hnone]

theorem mem_eligible : i ∈ eligible gpus limit projected ↔
    i < gpus.length ∧ projected.getD i 0 < total gpus i * limit := by
  rw [eligible, List.mem_filter, List.mem_range, decide_eq_true_eq]

theorem share_eq {remaining : Int} {free : ℚ} (hchunk : 0 < chunk) (hfree : 0 < free) :
    min (min (remaining : ℚ) (if chunk = 0 then (remaining : ℚ) else chunk)) (max 0 free) =
      portion remaining chunk free := by
  rw [if_neg hchunk.ne', max_eq_right hfree.le, portion]

theorem projectRound_some {st' : Projecting} (hlen : st.projected.length = gpus.length) (hchunk : 0 < chunk)
    (h : projectRound gpus limit chunk st = some st') : st'.projected.length = gpus.length ∧
      Round chunk ⟨freeOn gpus limit st.projected, st.remaining⟩ ⟨freeOn gpus limit st'.projected, st'.remaining⟩ := by
  unfold projectRound at h
  split at h
  · cases h
  · rename_i idx hidx
    obtain ⟨hi, hbelow⟩ := mem_eligible.mp (List.argmin_mem hidx)
    have hfree : 0 < total gpus idx * limit - st.projected.getD idx 0 := sub_pos.mpr hbelow
    have hget := getElem?_freeOn limit hlen hi
    obtain ⟨hlt, hval⟩ := List.getElem?_eq_some_iff.mp hget
    dsimp only at h
    rw [share_eq hchunk hfree] at h
    split at h
    · cases h
    · cases h
      refine ⟨by rw [List.length_set, hlen], (freeOn gpus limit st.projected).take idx, _,
        (freeOn gpus limit st.projected).drop (idx + 1), ?_, hfree, ?_⟩
      · rw [← hval, ← List.drop_eq_getElem_cons hlt, List.take_append_drop]
      · congr 1
        rw [freeOn_set hlen hi, List.set_eq_take_append_cons_drop, if_pos hlt, sub_add_eq_sub_sub]

theorem projectRound_none (hlen : st.projected.length = gpus.length) (hchunk : 0 < chunk)
    (hleft : 0 < st.remaining) (h : projectRound gpus limit chunk st = none) :
    ∀ x ∈ freeOn gpus limit st.projected, x ≤ 0 := by
  unfold projectRound at h
  split at h
  · rename_i hnone
    rw [List.argmin_eq_none] at hnone
    intro x hx
    obtain ⟨i, hi, rfl⟩ := List.getElem_of_mem hx
    have hi' : i < gpus.length := by
      rw [freeOn, List.length_zipWith, hlen, Nat.min_self] at hi
      exact hi
    have hget := getElem?_freeOn limit hlen hi'
    rw [List.getElem?_eq_getElem hi, Option.some_inj] at hget
    rw [hget]
    by_contra hpos
    have hmem : i ∈ eligible gpus limit st.projected := mem_eligible.mpr ⟨hi', sub_pos.mp (not_le.mp hpos)⟩
    rw [hnone] at hmem
    cases hmem
  · rename_i idx hidx
    obtain ⟨hi, hbelow⟩ := mem_eligible.mp (List.argmin_mem hidx)
    have hfree : 0 < total gpus idx * limit - st.projected.getD idx 0 := sub_pos.mpr hbelow
    dsimp only at h
    rw [share_eq hchunk hfree, if_neg (not_le.mpr (portion_pos hleft hchunk hfree))] at h
    cases h

/-! ### The whole loop -/

theorem project_spec {sizes : List ℚ} (hchunk : 0 < chunk) (st : Projecting)
    (hlen : st.projected.length = gpus.length) (hinv : Filling.Inv sizes demand ⟨freeOn gpus limit st.projected, st.remaining⟩) :
    ∃ result, (∀ fuel, Filling.State.measure ⟨freeOn gpus limit st.projected, st.remaining⟩ < fuel →
        project gpus limit chunk fuel st = some result) ∧
      match result with
      | none => ∃ s, Filling.Inv sizes demand s ∧ 0 < s.remaining ∧ ∀ x ∈ s.free, x ≤ 0
      | some projected => projected.length = gpus.length ∧ Filling.Inv sizes demand ⟨freeOn gpus limit projected, 0⟩ := by
  generalize hmeasure : Filling.State.measure ⟨freeOn gpus limit st.projected, st.remaining⟩ = m
  induction m using Nat.strong_induction_on generalizing st with
  | _ m ih =>
    by_cases hleft : 0 < st.remaining
    · cases hround : projectRound gpus limit chunk st with
      | none =>
        refine ⟨none, ?_, _, hinv, hleft, projectRound_none hlen hchunk hleft hround⟩
        intro fuel hfuel
        obtain ⟨fuel, rfl⟩ := Nat.exists_eq_succ_of_ne_zero (by omega : fuel ≠ 0)
        rw [Nat.succ_eq_add_one, project, if_pos hleft, hround]
      | some st' =>
        obtain ⟨hlen', hstep⟩ := projectRound_some hlen hchunk hround
        have hinv' := hinv.round hchunk hleft hstep
        have hless := measure_round hchunk hleft hstep hinv'.nonneg
        obtain ⟨result, hresult, hends⟩ := ih _ (hmeasure ▸ hless) st' hlen' hinv' rfl
        refine ⟨result, ?_, hends⟩
        intro fuel hfuel
        obtain ⟨fuel, rfl⟩ := Nat.exists_eq_succ_of_ne_zero (by omega : fuel ≠ 0)
        rw [Nat.succ_eq_add_one, project, if_pos hleft, hround]
        exact hresult fuel (by omega)
    · have hzero : st.remaining = 0 := le_antisymm (not_lt.mp hleft) hinv.nonneg
      refine ⟨some st.projected, ?_, hlen, hzero ▸ hinv⟩
      intro fuel hfuel
      obtain ⟨fuel, rfl⟩ := Nat.exists_eq_succ_of_ne_zero (by omega : fuel ≠ 0)
      rw [Nat.succ_eq_add_one, project, if_neg hleft]

/-! ### What the rounds say about the GPUs -/

/-- What is free on each GPU at first. -/
def freeAtFirst (gpus : List GPUResourceState) (limit : ℚ) : List ℚ := freeOn gpus limit (gpus.map (·.usedBytes))

/-- What a GPU has after the projection: never less than before, and no more than its limit if it was below it. -/
def Kept (limit : ℚ) (g : GPUResourceState) (projected : ℚ) : Prop :=
  g.usedBytes ≤ projected ∧ (g.usedBytes < g.totalBytes * limit → projected ≤ g.totalBytes * limit)

theorem freeOn_cons (g : GPUResourceState) (gpus : List GPUResourceState) (p : ℚ) (projected : List ℚ) :
    freeOn (g :: gpus) limit (p :: projected) = (g.totalBytes * limit - p) :: freeOn gpus limit projected := rfl

theorem freeAtFirst_cons (g : GPUResourceState) (gpus : List GPUResourceState) :
    freeAtFirst (g :: gpus) limit = (g.totalBytes * limit - g.usedBytes) :: freeAtFirst gpus limit := rfl

theorem freeAtFirst_length (gpus : List GPUResourceState) : (freeAtFirst gpus limit).length = gpus.length := by
  rw [freeAtFirst, freeOn, List.length_zipWith, List.length_map, Nat.min_self]

theorem Kept.of_taken {g : GPUResourceState} {projected : ℚ}
    (h : Taken (g.totalBytes * limit - g.usedBytes) (g.totalBytes * limit - projected)) : Kept limit g projected := by
  constructor
  · linarith [h.le]
  · intro hbelow
    have := h.nonneg (sub_pos.mpr hbelow)
    linarith

theorem kept_of_taken (hlen : projected.length = gpus.length)
    (h : List.Forall₂ Taken (freeAtFirst gpus limit) (freeOn gpus limit projected)) :
    List.Forall₂ (Kept limit) gpus projected := by
  induction gpus generalizing projected with
  | nil =>
    rw [List.length_eq_zero_iff.mp hlen]
    exact .nil
  | cons g gpus ih =>
    cases projected with
    | nil => cases hlen
    | cons p projected =>
      rw [freeAtFirst_cons, freeOn_cons, List.forall₂_cons] at h
      exact .cons (.of_taken h.1) (ih (Nat.succ_injective hlen) h.2)

/-- The bytes that a projection adds over all GPUs. -/
def addedBytes (gpus : List GPUResourceState) (projected : List ℚ) : ℚ :=
  (List.zipWith (fun g p => p - g.usedBytes) gpus projected).sum

theorem taken_eq_addedBytes (hlen : projected.length = gpus.length) :
    taken (freeAtFirst gpus limit) (freeOn gpus limit projected) = addedBytes gpus projected := by
  induction gpus generalizing projected with
  | nil => rfl
  | cons g gpus ih =>
    cases projected with
    | nil => cases hlen
    | cons p projected =>
      have hrest := ih (Nat.succ_injective hlen)
      rw [freeAtFirst_cons, freeOn_cons]
      simp only [taken, addedBytes, List.zipWith_cons_cons, List.sum_cons] at hrest ⊢
      rw [hrest, sub_sub_sub_cancel_left]

/-- The whole bytes that are free over all GPUs. -/
def freeCapacity (gpus : List GPUResourceState) (limit : ℚ) : Int :=
  (gpus.map fun g => ⌊max 0 (g.totalBytes * limit - g.usedBytes)⌋).sum

theorem capacity_freeAtFirst (gpus : List GPUResourceState) (limit : ℚ) :
    capacity (freeAtFirst gpus limit) = freeCapacity gpus limit := by
  induction gpus with
  | nil => rfl
  | cons g gpus ih =>
    simp only [capacity, freeCapacity] at ih ⊢
    rw [freeAtFirst_cons, List.map_cons, List.map_cons, List.sum_cons, List.sum_cons, ih]

theorem chunkOf_pos (remaining : Int) : 0 < chunkOf remaining := lt_max_of_lt_left (by norm_num)

theorem freeCapacity_nonneg (gpus : List GPUResourceState) (limit : ℚ) : 0 ≤ freeCapacity gpus limit := by
  apply List.sum_nonneg
  intro x hx
  obtain ⟨g, -, rfl⟩ := List.mem_map.mp hx
  exact Int.floor_nonneg.mpr (le_max_left _ _)

theorem demandOf_le_iff (candidateBytes reservedBytes : Int) {c : Int} (hc : 0 ≤ c) :
    demandOf candidateBytes reservedBytes ≤ c ↔ candidateBytes + reservedBytes ≤ c := by
  rw [demandOf, max_le_iff, and_iff_right hc]

/-- The loop ends, whatever its fuel from a bound on; it makes a projection just when the demand fits into the
capacity, and then places the demand, up to a byte for each GPU. -/
theorem project_ends (limit : ℚ) (hne : gpus ≠ []) (hdemand : 0 ≤ demand) :
    ∃ result : Option (List ℚ),
      (∀ fuel, roundsOf gpus demand ≤ fuel →
        project gpus limit (chunkOf demand) fuel ⟨gpus.map (·.usedBytes), demand⟩ = some result) ∧
      (result.isSome ↔ demand ≤ freeCapacity gpus limit) ∧
      ∀ projected, result = some projected → List.Forall₂ (Kept limit) gpus projected ∧
        (demand : ℚ) ≤ addedBytes gpus projected ∧ addedBytes gpus projected < demand + gpus.length := by
  have hlen : (gpus.map (·.usedBytes)).length = gpus.length := List.length_map _
  have hstart : Filling.Inv (freeAtFirst gpus limit) demand ⟨freeAtFirst gpus limit, demand⟩ := Filling.Inv.start _ hdemand
  obtain ⟨result, hresult, hends⟩ := project_spec (chunkOf_pos demand) ⟨gpus.map (·.usedBytes), demand⟩ hlen hstart
  refine ⟨result, ?_, ?_⟩
  · intro fuel hfuel
    apply hresult
    have hopen : openRooms (freeAtFirst gpus limit) ≤ gpus.length :=
      List.countP_le_length.trans (freeAtFirst_length gpus).le
    exact (Nat.add_le_add_left hopen _).trans_lt hfuel
  · have hne' : freeAtFirst gpus limit ≠ [] := by
      rw [← List.length_pos_iff, freeAtFirst_length]
      exact List.length_pos_iff.mpr hne
    rw [← capacity_freeAtFirst]
    cases result with
    | none =>
      obtain ⟨s, hinv, hleft, hfull⟩ := hends
      refine ⟨?_, by simp⟩
      simpa using hinv.stuck hleft hfull
    | some projected =>
      obtain ⟨hplen, hinv⟩ := hends
      obtain ⟨hfits, hlow, hhigh⟩ := hinv.met le_rfl hne'
      refine ⟨by simpa using hfits, ?_⟩
      rintro _ ⟨⟩
      rw [taken_eq_addedBytes hplen, freeAtFirst_length] at hhigh
      rw [taken_eq_addedBytes hplen] at hlow
      exact ⟨kept_of_taken hplen hinv.rooms, hlow, hhigh⟩

end Loop

theorem balancedProjection_isSome_iff {config : BudgetLimits} {gpus : List GPUResourceState} (hne : gpus ≠ [])
    {candidateBytes reservedBytes : Int} :
    (balancedProjection config gpus candidateBytes reservedBytes).isSome ↔
      candidateBytes + reservedBytes ≤ freeCapacity gpus (vramLimit config) := by
  obtain ⟨result, hresult, hfits, -⟩ := project_ends (vramLimit config) hne
    (le_max_left 0 (candidateBytes + reservedBytes))
  rw [balancedProjection, if_neg hne]
  dsimp only
  rw [demandOf, hresult _ le_rfl, Option.join_some, Option.isSome_map, hfits]
  exact demandOf_le_iff _ _ (freeCapacity_nonneg gpus _)

theorem balancedProjection_spec (config : BudgetLimits) {gpus : List GPUResourceState} (hne : gpus ≠ []) (limit : ℚ)
    (candidateBytes reservedBytes : Int) :
    ∃ result : Option (List ℚ),
      (∀ fuel, roundsOf gpus (demandOf candidateBytes reservedBytes) ≤ fuel →
        project gpus limit (chunkOf (demandOf candidateBytes reservedBytes)) fuel
          ⟨gpus.map (·.usedBytes), demandOf candidateBytes reservedBytes⟩ = some result) ∧
      (limit = vramLimit config →
        balancedProjection config gpus candidateBytes reservedBytes = result.map (projectionOf gpus)) ∧
      (result.isSome ↔ candidateBytes + reservedBytes ≤ freeCapacity gpus limit) ∧
      ∀ projected, result = some projected → List.Forall₂ (Kept limit) gpus projected ∧
        (demandOf candidateBytes reservedBytes : ℚ) ≤ addedBytes gpus projected ∧
        addedBytes gpus projected < demandOf candidateBytes reservedBytes + gpus.length := by
  have hdemand : 0 ≤ demandOf candidateBytes reservedBytes := le_max_left _ _
  obtain ⟨result, hresult, hfits, hplaced⟩ := project_ends limit hne hdemand
  refine ⟨result, hresult, ?_, ?_, hplaced⟩
  · rintro rfl
    rw [balancedProjection, if_neg hne]
    dsimp only
    rw [hresult _ le_rfl]
    rfl
  · rw [hfits, demandOf_le_iff _ _ (freeCapacity_nonneg gpus limit)]

namespace Sample

def cards : List GPUResourceState :=
  [⟨0, 1000, 800, 5, 40, 50⟩, ⟨1, 1001, 100, 5, 40, 50⟩]

theorem balancedProjection_spec_cards : ∃ projected : List ℚ,
    balancedProjection {} cards 700 150 = some (projectionOf cards projected) ∧
      List.Forall₂ (Kept (vramLimit {})) cards projected ∧ 850 ≤ addedBytes cards projected ∧
      addedBytes cards projected < 852 := by
  obtain ⟨result, -, hprojection, hfits, hplaced⟩ := balancedProjection_spec {} (show cards ≠ [] by decide) (vramLimit {}) 700 150
  have hsome : result.isSome := hfits.mpr (by decide +kernel)
  obtain ⟨projected, rfl⟩ := Option.isSome_iff_exists.mp hsome
  obtain ⟨hkept, hlow, hhigh⟩ := hplaced projected rfl
  have hdemand : demandOf 700 150 = 850 := rfl
  have hcards : cards.length = 2 := rfl
  rw [hdemand] at hlow hhigh
  rw [hcards] at hhigh
  refine ⟨projected, hprojection rfl, hkept, by exact_mod_cast hlow, ?_⟩
  calc addedBytes cards projected < ((850 : Int) : ℚ) + ((2 : Nat) : ℚ) := hhigh
    _ = 852 := by norm_num

end Sample

end ThreeAgent.ResourceBudget
