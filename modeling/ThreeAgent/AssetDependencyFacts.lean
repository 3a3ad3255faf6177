/-
What `impact` finds, for every declared graph. The search labels assets in the
order of their depth, so no label is lowered and the labels are distances; the
graph does not depend on the order in which it was declared.
-/
import ThreeAgent.AssetDependency

namespace ThreeAgent.SecurityMonitoring

namespace DependencyGraph

open PyText Outcome PyJson PyDict Keyed Distance

/-! ## The search -/

section Search

variable {g : DependencyGraph} {seeds : List String} {limit : Nat}

/-- The declared edges of a graph. -/
def Edge (g : DependencyGraph) (a b : String) : Prop := ∃ d ∈ g.outgoing a, d.downstreamAssetId = b

/-- What a round has done after some of the dependencies of an asset at depth `c`. -/
structure Relaxed (c : Nat) (ds : List AssetDependency) (s t : Search) : Prop where
  depths : ∀ b n, get? t.depths b = some n ↔
    get? s.depths b = some n ∨ (get? s.depths b = none ∧ ∃ d ∈ ds, d.downstreamAssetId = b) ∧ n = c + 1
  keys : (keys t.depths).Nodup
  pending : ∃ fresh, t.pending = s.pending ++ fresh ∧ fresh.Nodup ∧
    ∀ b, b ∈ fresh ↔ get? s.depths b = none ∧ ∃ d ∈ ds, d.downstreamAssetId = b
  used : ∀ id, id ∈ t.used ↔ id ∈ s.used ∨ ∃ d ∈ ds, get? t.depths d.downstreamAssetId = some (c + 1) ∧ d.dependencyId = id
  truncated : t.truncated = s.truncated

variable {d : AssetDependency}

theorem exists_mem_snoc {ds : List AssetDependency} {P : AssetDependency → Prop} :
    (∃ x ∈ ds ++ [d], P x) ↔ (∃ x ∈ ds, P x) ∨ P d := by
  simp only [List.mem_append, List.mem_singleton, or_and_right, exists_or, exists_eq_left]

section Relax

variable {c : Nat} {ds : List AssetDependency} {s t : Search} {d : AssetDependency}

theorem Relaxed.nil (hkeys : (PyDict.keys s.depths).Nodup) : Relaxed c [] s s where
  depths := by simp
  keys := hkeys
  pending := ⟨[], (List.append_nil _).symm, List.nodup_nil, by simp⟩
  used := by simp
  truncated := rfl

theorem Relaxed.snoc_new (h : Relaxed c ds s t) (hget : get? t.depths d.downstreamAssetId = none) :
    Relaxed c (ds ++ [d]) s { t with
      depths := PyDict.set t.depths d.downstreamAssetId (c + 1)
      pending := t.pending ++ [d.downstreamAssetId]
      used := t.used ++ [d.dependencyId] } := by
  obtain ⟨fresh, hpending, hnodup, hfresh⟩ := h.pending
  have hnot : ∀ n, ¬ get? t.depths d.downstreamAssetId = some n := by
    intro n hn
    rw [hget] at hn
    cases hn
  have hold : get? s.depths d.downstreamAssetId = none := by
    cases hs : get? s.depths d.downstreamAssetId with
    | none => rfl
    | some n => exact absurd ((h.depths _ n).mpr (.inl hs)) (hnot n)
  have hother : ∀ x ∈ ds, d.downstreamAssetId ≠ x.downstreamAssetId := by
    intro x hx heq
    exact hnot (c + 1) ((h.depths _ _).mpr (.inr ⟨⟨hold, x, hx, heq.symm⟩, rfl⟩))
  refine ⟨?_, nodup_set h.keys (has_eq_false.mpr hget), ⟨fresh ++ [d.downstreamAssetId], ?_, ?_, ?_⟩, ?_, h.truncated⟩
  · intro b n
    dsimp only
    rw [get?_set, exists_mem_snoc]
    by_cases hb : d.downstreamAssetId = b
    · rw [if_pos hb, ← hb, hold, Option.some_inj]
      simp [eq_comm]
    · rw [if_neg hb, h.depths]
      simp [hb]
  · rw [hpending, List.append_assoc]
  · rw [List.nodup_append]
    refine ⟨hnodup, List.nodup_singleton _, ?_⟩
    intro a ha b hb heq
    obtain ⟨-, x, hx, hxa⟩ := (hfresh a).mp ha
    exact hother x hx ((List.mem_singleton.mp hb).symm.trans (heq.symm.trans hxa.symm))
  · intro b
    rw [List.mem_append, List.mem_singleton, hfresh, exists_mem_snoc]
    by_cases hb : b = d.downstreamAssetId
    · simp [hb, hold]
    · have hb' : ¬ d.downstreamAssetId = b := fun heq => hb heq.symm
      simp [hb, hb']
  · intro id
    have hsame : (∃ x ∈ ds, get? (PyDict.set t.depths d.downstreamAssetId (c + 1)) x.downstreamAssetId = some (c + 1) ∧
        x.dependencyId = id) ↔ ∃ x ∈ ds, get? t.depths x.downstreamAssetId = some (c + 1) ∧ x.dependencyId = id := by
      refine exists_congr fun x => and_congr_right fun hx => ?_
      rw [get?_set_ne (hother x hx)]
    rw [List.mem_append, List.mem_singleton, h.used, exists_mem_snoc, hsame, get?_set_self, or_assoc]
    simp [eq_comm]

theorem Relaxed.snoc_old {m : Nat} {used : List String} (h : Relaxed c ds s t) (hget : get? t.depths d.downstreamAssetId = some m)
    (hused : ∀ id, id ∈ used ↔ id ∈ t.used ∨ m = c + 1 ∧ d.dependencyId = id) :
    Relaxed c (ds ++ [d]) s { t with used } := by
  obtain ⟨fresh, hpending, hnodup, hfresh⟩ := h.pending
  have hsame : ∀ b, (get? s.depths b = none ∧ ∃ x ∈ ds ++ [d], x.downstreamAssetId = b) ↔
      get? s.depths b = none ∧ ∃ x ∈ ds, x.downstreamAssetId = b := by
    intro b
    refine and_congr_right fun hnone => ?_
    rw [exists_mem_snoc]
    refine ⟨?_, Or.inl⟩
    intro hor
    rcases hor with hx | rfl
    · exact hx
    · rcases (h.depths _ m).mp hget with hs | ⟨⟨-, hx⟩, -⟩
      · rw [hnone] at hs
        cases hs
      · exact hx
  refine ⟨?_, h.keys, ⟨fresh, hpending, hnodup, ?_⟩, ?_, h.truncated⟩
  · intro b n
    rw [hsame]
    exact h.depths b n
  · intro b
    rw [hsame]
    exact hfresh b
  · intro id
    dsimp only
    rw [hused, h.used, exists_mem_snoc, or_assoc, hget, Option.some_inj]

theorem Relaxed.snoc {seeds : List String} (h : Relaxed c ds s t) (hseeds : ∀ a ∈ seeds, get? s.depths a = some 0)
    (hbound : ∀ b n, get? s.depths b = some n → n ≤ c + 1) : Relaxed c (ds ++ [d]) s (relax seeds c t d) := by
  rw [relax]
  cases hget : get? t.depths d.downstreamAssetId with
  | none => exact h.snoc_new hget
  | some m =>
    have hm : m ≤ c + 1 := by
      rcases (h.depths _ m).mp hget with hs | ⟨-, rfl⟩
      · exact hbound _ _ hs
      · exact le_refl _
    dsimp only
    rw [if_neg (not_lt.mpr hm)]
    split
    · rename_i hnext
      refine h.snoc_old hget fun id => ?_
      rw [List.mem_append, List.mem_singleton, ← hnext.2]
      simp [eq_comm]
    · rename_i hnot
      refine h.snoc_old hget fun id => ?_
      refine ⟨Or.inl, ?_⟩
      intro hor
      refine hor.resolve_right ?_
      intro ⟨heq, _⟩
      refine hnot ⟨?_, heq.symm⟩
      -- a seed keeps its label 0
      intro hseed
      have hzero := (h.depths _ 0).mpr (.inl (hseeds _ hseed))
      rw [hget] at hzero
      cases hzero
      omega

theorem relaxed_foldl {seeds : List String} (hkeys : (PyDict.keys s.depths).Nodup)
    (hseeds : ∀ a ∈ seeds, get? s.depths a = some 0)
    (hbound : ∀ b n, get? s.depths b = some n → n ≤ c + 1) (ds : List AssetDependency) :
    Relaxed c ds s (ds.foldl (relax seeds c) s) := by
  induction ds using List.reverseRecOn with
  | nil => exact .nil hkeys
  | append_singleton ds d ih =>
    rw [List.foldl_append]
    exact ih.snoc hseeds hbound

end Relax

/-- What the rounds of the search keep; the assets that have left the queue are done. -/
structure Inv (g : DependencyGraph) (seeds : List String) (limit : Nat) (s : Search) : Prop where
  keys : (PyDict.keys s.depths).Nodup
  zero : ∀ a, get? s.depths a = some 0 ↔ a ∈ seeds
  back : ∀ b n, get? s.depths b = some (n + 1) → ∃ a, get? s.depths a = some n ∧ g.Edge a b
  bound : ∀ a n, get? s.depths a = some n → n ≤ limit
  labelled : ∀ a ∈ s.pending, ∃ n, get? s.depths a = some n
  nodup : s.pending.Nodup
  ascending : s.pending.Pairwise fun a b => ∀ m n, get? s.depths a = some m → get? s.depths b = some n → m ≤ n
  window : ∀ a ∈ s.pending, ∀ m, get? s.depths a = some m → ∀ b n, get? s.depths b = some n → n ≤ m + 1
  done : ∀ a n, get? s.depths a = some n → a ∉ s.pending → ∀ b ∈ s.pending, ∀ m, get? s.depths b = some m → n ≤ m
  forward : ∀ a n, get? s.depths a = some n → a ∉ s.pending → n < limit → ∀ b, g.Edge a b → ∃ m ≤ n + 1, get? s.depths b = some m
  used : ∀ id, id ∈ s.used ↔ ∃ a n d, get? s.depths a = some n ∧ a ∉ s.pending ∧ n < limit ∧ d ∈ g.outgoing a ∧
    get? s.depths d.downstreamAssetId = some (n + 1) ∧ d.dependencyId = id
  truncated : s.truncated = true ↔ ∃ a b, get? s.depths a = some limit ∧ a ∉ s.pending ∧ g.Edge a b ∧ get? s.depths b = none

section Round

variable {s t : Search} {upstream : String} {rest : List String} {c : Nat}

theorem not_mem_rest (upstream : String) {a : String} (h : a ∉ rest) : a = upstream ∨ a ∉ upstream :: rest := by
  by_cases ha : a = upstream
  · exact .inl ha
  · exact .inr (List.not_mem_cons_of_ne_of_not_mem ha h)

theorem Inv.cut (h : Inv g seeds limit s) (hpending : s.pending = upstream :: rest) (hup : get? s.depths upstream = some limit) :
    Inv g seeds limit { s with
      pending := rest
      truncated := s.truncated || (g.outgoing upstream).any fun d => !has s.depths d.downstreamAssetId } := by
  obtain ⟨hnotmem, hnodup⟩ := List.nodup_cons.mp (hpending ▸ h.nodup)
  obtain ⟨hhead, hascending⟩ := List.pairwise_cons.mp (hpending ▸ h.ascending)
  have hrest : ∀ a ∈ rest, a ∈ s.pending := fun a ha => hpending ▸ List.mem_cons_of_mem _ ha
  refine ⟨h.keys, h.zero, h.back, h.bound, fun a ha => h.labelled a (hrest a ha), hnodup, hascending,
    fun a ha => h.window a (hrest a ha), ?_, ?_, ?_, ?_⟩
  · intro a n ha hnot b hb m hm
    rcases not_mem_rest upstream hnot with rfl | hnot
    · exact hhead b hb n m ha hm
    · exact h.done a n ha (hpending ▸ hnot) b (hrest b hb) m hm
  · intro a n ha hnot hn
    rcases not_mem_rest upstream hnot with rfl | hnot
    · rw [hup] at ha
      cases ha
      exact absurd hn (lt_irrefl _)
    · exact h.forward a n ha (hpending ▸ hnot) hn
  · intro id
    rw [h.used, hpending]
    refine exists_congr fun a => exists_congr fun n => exists_congr fun d => ?_
    refine and_congr_right fun ha => ?_
    refine ⟨fun ⟨hnot, hn, hd⟩ => ⟨List.not_mem_of_not_mem_cons hnot, hn, hd⟩, ?_⟩
    intro ⟨hnot, hn, hd⟩
    refine ⟨?_, hn, hd⟩
    rcases not_mem_rest upstream hnot with rfl | hnot
    · rw [hup] at ha
      cases ha
      exact absurd hn (lt_irrefl _)
    · exact hnot
  · dsimp only
    rw [Bool.or_eq_true, h.truncated, hpending, List.any_eq_true]
    simp only [Bool.not_eq_true', has_eq_false]
    refine ⟨?_, ?_⟩
    · intro hor
      rcases hor with ⟨a, b, ha, hnot, hb⟩ | ⟨d, hd, hnone⟩
      · exact ⟨a, b, ha, List.not_mem_of_not_mem_cons hnot, hb⟩
      · exact ⟨upstream, _, hup, hnotmem, ⟨d, hd, rfl⟩, hnone⟩
    · intro ⟨a, b, ha, hnot, hedge, hnone⟩
      rcases not_mem_rest upstream hnot with rfl | hnot
      · obtain ⟨d, hd, rfl⟩ := hedge
        exact .inr ⟨d, hd, hnone⟩
      · exact .inl ⟨a, b, ha, hnot, hedge, hnone⟩

theorem Inv.relaxed (h : Inv g seeds limit s) (hpending : s.pending = upstream :: rest) (hup : get? s.depths upstream = some c)
    (hc : c < limit) (hr : Relaxed c (g.outgoing upstream) { s with pending := rest } t) : Inv g seeds limit t := by
  obtain ⟨hnotmem, hnodup⟩ := List.nodup_cons.mp (hpending ▸ h.nodup)
  obtain ⟨hhead, hascending⟩ := List.pairwise_cons.mp (hpending ▸ h.ascending)
  have hrest : ∀ a ∈ rest, a ∈ s.pending := fun a ha => hpending ▸ List.mem_cons_of_mem _ ha
  have hfirst : upstream ∈ s.pending := hpending ▸ List.mem_cons_self
  have hle : ∀ b n, get? s.depths b = some n → n ≤ c + 1 := h.window upstream hfirst c hup
  obtain ⟨fresh, hqueue, hfreshNodup, hfresh⟩ := hr.pending
  have hdepths : ∀ b n, get? t.depths b = some n ↔ get? s.depths b = some n ∨ b ∈ fresh ∧ n = c + 1 := by
    intro b n
    rw [hr.depths, hfresh]
  have hold : ∀ {b n}, get? s.depths b = some n → get? t.depths b = some n := fun hb => (hdepths _ _).mpr (.inl hb)
  -- a label below that of a fresh asset, or of an asset that is not in the queue, was there before
  have hnew : ∀ {a n}, get? t.depths a = some n → a ∉ t.pending → get? s.depths a = some n ∧ (a = upstream ∨ a ∉ s.pending) := by
    intro a n ha hnot
    rw [hqueue, List.mem_append, not_or] at hnot
    refine ⟨((hdepths a n).mp ha).resolve_right fun hin => hnot.2 hin.1, ?_⟩
    rw [hpending]
    exact not_mem_rest upstream hnot.1
  have hdone : ∀ {a n}, get? t.depths a = some n → a ∉ t.pending → n ≤ c := by
    intro a n ha hnot
    obtain ⟨ha, rfl | hnot⟩ := hnew ha hnot
    · rw [hup] at ha
      cases ha
      exact le_refl _
    · exact h.done a n ha hnot upstream hfirst c hup
  have hqueued : ∀ {a m}, a ∈ t.pending → get? t.depths a = some m → c ≤ m := by
    intro a m ha hm
    rcases (hdepths a m).mp hm with hs | ⟨-, rfl⟩
    · rw [hqueue, List.mem_append] at ha
      rcases ha with ha | ha
      · exact hhead a ha c m hup hs
      · rw [((hfresh a).mp ha).1] at hs
        cases hs
    · exact Nat.le_succ c
  have hlabel : ∀ b n, get? t.depths b = some n → n ≤ c + 1 := by
    intro b n hb
    rcases (hdepths b n).mp hb with hs | ⟨-, rfl⟩
    · exact hle b n hs
    · exact le_refl _
  have hnotlimit : ∀ {a}, get? s.depths a = some limit → a ∉ s.pending → False := by
    intro a ha hnot
    have := h.done a limit ha hnot upstream hfirst c hup
    omega
  refine ⟨hr.keys, ?_, ?_, ?_, ?_, ?_, ?_, ?_, ?_, ?_, ?_, ?_⟩
  · intro a
    rw [hdepths, h.zero, or_iff_left fun hin => absurd hin.2 (Nat.succ_ne_zero c).symm]
  · intro b n hb
    rcases (hdepths b (n + 1)).mp hb with hs | ⟨hin, hn⟩
    · obtain ⟨a, ha, hedge⟩ := h.back b n hs
      exact ⟨a, hold ha, hedge⟩
    · obtain rfl : n = c := Nat.succ_injective hn
      exact ⟨upstream, hold hup, ((hfresh b).mp hin).2⟩
  · intro a n ha
    have := hlabel a n ha
    omega
  · intro a ha
    rw [hqueue, List.mem_append] at ha
    rcases ha with ha | ha
    · obtain ⟨n, hn⟩ := h.labelled a (hrest a ha)
      exact ⟨n, hold hn⟩
    · exact ⟨c + 1, (hdepths _ _).mpr (.inr ⟨ha, rfl⟩)⟩
  · rw [hqueue]
    refine List.nodup_append.mpr ⟨hnodup, hfreshNodup, ?_⟩
    intro a ha b hb heq
    obtain ⟨n, hn⟩ := h.labelled a (hrest a ha)
    rw [heq, ((hfresh b).mp hb).1] at hn
    cases hn
  · rw [hqueue, List.pairwise_append]
    refine ⟨?_, ?_, ?_⟩
    · refine hascending.imp_of_mem fun {a b} ha hb hab m n hm hn => ?_
      obtain ⟨m', hm'⟩ := h.labelled a (hrest a ha)
      obtain ⟨n', hn'⟩ := h.labelled b (hrest b hb)
      rw [hold hm'] at hm
      rw [hold hn'] at hn
      cases hm
      cases hn
      exact hab _ _ hm' hn'
    · refine List.pairwise_of_forall_mem_list fun a ha b hb m n hm hn => ?_
      rw [(hdepths a (c + 1)).mpr (.inr ⟨ha, rfl⟩)] at hm
      rw [(hdepths b (c + 1)).mpr (.inr ⟨hb, rfl⟩)] at hn
      cases hm
      cases hn
      exact le_refl _
    · intro a _ b hb m n hm hn
      rw [(hdepths b (c + 1)).mpr (.inr ⟨hb, rfl⟩)] at hn
      cases hn
      exact hlabel a m hm
  · intro a ha m hm b n hn
    have hcm := hqueued ha hm
    have hnc := hlabel b n hn
    omega
  · intro a n ha hnot b hb m hm
    exact (hdone ha hnot).trans (hqueued hb hm)
  · intro a n ha hnot hn b hedge
    obtain ⟨hs, rfl | hnot⟩ := hnew ha hnot
    · rw [hup] at hs
      cases hs
      cases hb : get? s.depths b with
      | some m => exact ⟨m, hle b m hb, hold hb⟩
      | none => exact ⟨c + 1, le_refl _, (hdepths _ _).mpr (.inr ⟨(hfresh b).mpr ⟨hb, hedge⟩, rfl⟩)⟩
    · obtain ⟨m, hm, hb⟩ := h.forward a n hs hnot hn b hedge
      exact ⟨m, hm, hold hb⟩
  · intro id
    have hupnot : upstream ∉ t.pending := by
      rw [hqueue, List.mem_append, not_or]
      refine ⟨hnotmem, ?_⟩
      intro hin
      have hnone := ((hfresh upstream).mp hin).1
      rw [hup] at hnone
      cases hnone
    have hpast : ∀ {a}, (∃ n, get? s.depths a = some n) → a ∉ s.pending → a ∉ t.pending := by
      intro a hlab hnot
      rw [hqueue, List.mem_append, not_or]
      refine ⟨fun hin => hnot (hrest a hin), ?_⟩
      intro hin
      obtain ⟨n, hn⟩ := hlab
      rw [((hfresh a).mp hin).1] at hn
      cases hn
    rw [hr.used, h.used]
    refine ⟨?_, ?_⟩
    · intro hor
      rcases hor with ⟨a, n, d, ha, hnot, hn, hd, hb, hid⟩ | ⟨d, hd, hb, hid⟩
      · exact ⟨a, n, d, hold ha, hpast ⟨n, ha⟩ hnot, hn, hd, hold hb, hid⟩
      · exact ⟨upstream, c, d, hold hup, hupnot, hc, hd, hb, hid⟩
    · intro ⟨a, n, d, ha, hnot, hn, hd, hb, hid⟩
      obtain ⟨hs, rfl | hnot⟩ := hnew ha hnot
      · rw [hup] at hs
        cases hs
        exact .inr ⟨d, hd, hb, hid⟩
      · obtain ⟨m, hm, hb'⟩ := h.forward a n hs hnot hn _ ⟨d, hd, rfl⟩
        rw [hold hb'] at hb
        cases hb
        exact .inl ⟨a, n, d, hs, hnot, hn, hd, hb', hid⟩
  · rw [hr.truncated, h.truncated]
    refine ⟨?_, ?_⟩
    · intro ⟨a, b, ha, hnot, _⟩
      exact (hnotlimit ha hnot).elim
    · intro ⟨a, b, ha, hnot, _⟩
      have := hdone ha hnot
      omega

end Round

theorem inv_start (hnodup : seeds.Nodup) : Inv g seeds limit (start seeds) := by
  have hkeys : keys (start seeds).depths = seeds := by simp [keys, start, Function.comp_def]
  have hdistinct : (keys (start seeds).depths).Nodup := by
    rw [hkeys]
    exact hnodup
  have hget : ∀ a n, get? (start seeds).depths a = some n ↔ a ∈ seeds ∧ n = 0 := by
    intro a n
    refine ⟨?_, ?_⟩
    · intro h
      obtain ⟨b, hb, heq⟩ := List.mem_map.mp (mem_of_get? h)
      cases heq
      exact ⟨hb, rfl⟩
    · rintro ⟨ha, hn⟩
      exact get?_of_mem hdistinct (List.mem_map.mpr ⟨a, ha, by rw [hn]⟩)
  have hpending : (start seeds).pending = seeds := rfl
  refine ⟨hdistinct, ?_, ?_, ?_, ?_, hnodup, ?_, ?_, ?_, ?_, ?_, ?_⟩
  · intro a
    rw [hget]
    exact and_iff_left rfl
  · intro b n hb
    exact absurd ((hget _ _).mp hb).2 (Nat.succ_ne_zero n)
  · intro a n ha
    obtain ⟨-, rfl⟩ := (hget _ _).mp ha
    exact Nat.zero_le _
  · intro a ha
    exact ⟨0, (hget _ _).mpr ⟨ha, rfl⟩⟩
  · refine List.pairwise_of_forall_mem_list fun a _ b _ m n hm hn => ?_
    obtain ⟨-, rfl⟩ := (hget _ _).mp hm
    exact Nat.zero_le _
  · intro a _ m _ b n hn
    obtain ⟨-, rfl⟩ := (hget _ _).mp hn
    exact Nat.zero_le _
  · intro a n ha hnot
    exact absurd ((hget _ _).mp ha).1 hnot
  · intro a n ha hnot
    exact absurd ((hget _ _).mp ha).1 hnot
  · intro id
    refine ⟨?_, ?_⟩
    · intro hid
      cases hid
    · rintro ⟨a, n, d, ha, hnot, _⟩
      exact absurd ((hget _ _).mp ha).1 hnot
  · refine ⟨?_, ?_⟩
    · intro htrue
      cases htrue
    · rintro ⟨a, b, ha, hnot, _⟩
      exact absurd ((hget _ _).mp ha).1 hnot

theorem visit_none {s : Search} : g.visit seeds limit s = none ↔ s.pending = [] := by
  rw [visit]
  cases s.pending with
  | nil => exact ⟨fun _ => rfl, fun _ => rfl⟩
  | cons upstream rest =>
    dsimp only
    refine ⟨?_, nofun⟩
    intro h
    split at h
    · split at h
      · cases h
      · cases h
    · cases h

theorem countP_split {α : Type*} {p q : α → Prop} [DecidablePred p] [DecidablePred q] (h : ∀ a, q a → p a) (xs : List α) :
    (xs.countP fun a => p a) = (xs.countP fun a => p a ∧ ¬ q a) + xs.countP fun a => q a := by
  induction xs with
  | nil => rfl
  | cons a xs ih =>
    simp only [List.countP_cons, ih]
    by_cases hq : q a
    · simp [hq, h a hq]
      omega
    · by_cases hp : p a
      · simp [hp, hq]
        omega
      · simp [hp, hq]

/-- How much there is to do: the queue, and the targets without a label. -/
def todo (targets : List String) (s : Search) : Nat :=
  s.pending.length + targets.countP fun b => get? s.depths b = none

theorem visit_some {targets : List String} (htargets : ∀ a b, g.Edge a b → b ∈ targets) {s t : Search} (h : Inv g seeds limit s)
    (hvisit : g.visit seeds limit s = some t) : Inv g seeds limit t ∧ todo targets t < todo targets s := by
  rw [visit] at hvisit
  cases hpending : s.pending with
  | nil =>
    rw [hpending] at hvisit
    cases hvisit
  | cons upstream rest =>
    rw [hpending] at hvisit
    obtain ⟨c, hup⟩ := h.labelled upstream (hpending ▸ List.mem_cons_self)
    dsimp only at hvisit
    rw [hup, Option.getD_some] at hvisit
    split at hvisit
    · rename_i hcut
      obtain rfl : c = limit := le_antisymm (h.bound _ _ hup) hcut
      have ht : t = { s with
          pending := rest
          truncated := s.truncated || (g.outgoing upstream).any fun d => !has s.depths d.downstreamAssetId } := by
        split at hvisit
        · rename_i hany
          rw [hany, Bool.or_true]
          exact (Option.some.inj hvisit).symm
        · rename_i hany
          rw [Bool.not_eq_true] at hany
          rw [hany, Bool.or_false]
          exact (Option.some.inj hvisit).symm
      subst ht
      refine ⟨h.cut hpending hup, ?_⟩
      rw [todo, todo, hpending, List.length_cons]
      dsimp only
      omega
    · rename_i hbelow
      have hr : Relaxed c (g.outgoing upstream) { s with pending := rest } t := by
        obtain rfl := Option.some.inj hvisit
        exact relaxed_foldl (s := { s with pending := rest }) h.keys (fun a ha => (h.zero a).mpr ha)
          (h.window upstream (hpending ▸ List.mem_cons_self) c hup) _
      refine ⟨h.relaxed hpending hup (not_le.mp hbelow) hr, ?_⟩
      obtain ⟨fresh, hqueue, hnodup, hfresh⟩ := hr.pending
      -- the assets labelled in this round are targets that had no label
      have hnew : fresh.length ≤ targets.countP fun b => get? s.depths b = none ∧ ¬ get? t.depths b = none := by
        rw [List.countP_eq_length_filter]
        refine (List.subperm_of_subset hnodup fun b hb => ?_).length_le
        obtain ⟨hnone, d, hd, rfl⟩ := (hfresh b).mp hb
        have hlabel := (hr.depths _ (c + 1)).mpr (.inr ⟨⟨hnone, d, hd, rfl⟩, rfl⟩)
        have hs : get? s.depths d.downstreamAssetId = none := hnone
        rw [List.mem_filter]
        refine ⟨htargets upstream _ ⟨d, hd, rfl⟩, decide_eq_true ⟨hs, ?_⟩⟩
        rw [hlabel]
        exact Option.some_ne_none _
      have hsplit := countP_split (p := fun b => get? s.depths b = none) (q := fun b => get? t.depths b = none)
        fun b hb => by
          cases hs : get? s.depths b with
          | none => rfl
          | some n =>
            rw [(hr.depths b n).mpr (.inl hs)] at hb
            cases hb
      rw [todo, todo, hpending, List.length_cons, hqueue, List.length_append, hsplit targets]
      dsimp only
      omega

theorem traverse_returns {targets : List String} (htargets : ∀ a b, g.Edge a b → b ∈ targets) : ∀ {rounds : Nat} {s : Search},
    Inv g seeds limit s → todo targets s < rounds →
    ∃ t, g.traverse seeds limit rounds s = some t ∧ Inv g seeds limit t ∧ t.pending = []
  | 0, _, _, hlt => absurd hlt (Nat.not_lt_zero _)
  | rounds + 1, s, h, hlt => by
    rw [traverse]
    cases hvisit : g.visit seeds limit s with
    | none => exact ⟨s, rfl, h, visit_none.mp hvisit⟩
    | some s' =>
      obtain ⟨h', hless⟩ := visit_some htargets h hvisit
      exact traverse_returns htargets h' (by omega)

theorem traverse_mono : ∀ {rounds more : Nat} {s t : Search}, g.traverse seeds limit rounds s = some t → rounds ≤ more →
    g.traverse seeds limit more s = some t
  | 0, _, _, _, h, _ => by cases h
  | rounds + 1, 0, _, _, _, hle => absurd hle (Nat.not_succ_le_zero _)
  | rounds + 1, more + 1, s, t, h, hle => by
    rw [traverse] at h ⊢
    cases hvisit : g.visit seeds limit s with
    | none =>
      rw [hvisit] at h
      exact h
    | some s' =>
      rw [hvisit] at h
      exact traverse_mono h (Nat.le_of_succ_le_succ hle)

theorem Inv.labelling {s : Search} (h : Inv g seeds limit s) (hdone : s.pending = []) :
    Labelling g.Edge (fun a => a ∈ seeds) limit (get? s.depths) where
  zero := h.zero
  back := h.back
  forward := fun a b n ha hn hedge => h.forward a n ha (hdone ▸ List.not_mem_nil) hn b hedge
  bound := h.bound

end Search

/-! ## The graph -/

section Graph

variable {assets : List AssetInventoryRecord} {dependencies : List AssetDependency} {enabledIds : List String}

/-- A validated asset of those given. -/
def Item (assets : List AssetInventoryRecord) (i : AssetInventoryRecord) : Prop := ∃ raw ∈ assets, raw.validate = .ok i

/-- A validated dependency of those given. -/
def Declares (dependencies : List AssetDependency) (d : AssetDependency) : Prop := ∃ raw ∈ dependencies, raw.validate = .ok d

variable {e : AssetInventoryRecord × Nat} {entries : List (AssetInventoryRecord × Nat)}

theorem item_snoc {i : AssetInventoryRecord} (he : e.1.validate = .ok i) {j : AssetInventoryRecord} :
    Item ((entries ++ [e]).map Prod.fst) j ↔ Item (entries.map Prod.fst) j ∨ j = i := by
  simp only [Item, List.map_append, List.mem_append, List.map_cons, List.map_nil, List.mem_singleton, or_and_right, exists_or,
    exists_eq_left, he, Except.ok.injEq]
  exact or_congr_right eq_comm

theorem declares_snoc {entries : List (AssetDependency × Nat)} {e : AssetDependency × Nat}
    (he : e.1.validate = .ok d) {d' : AssetDependency} :
    Declares ((entries ++ [e]).map Prod.fst) d' ↔ Declares (entries.map Prod.fst) d' ∨ d' = d := by
  simp only [Declares, List.map_append, List.mem_append, List.map_cons, List.map_nil, List.mem_singleton, or_and_right, exists_or,
    exists_eq_left, he, Except.ok.injEq]
  exact or_congr_right eq_comm

/-- The dictionary of the assets so far: one for each id, which every other of that id agrees with. -/
structure AssetsOf (entries : List (AssetInventoryRecord × Nat)) (byId : Dict AssetInventoryRecord) : Prop where
  nodup : (keys byId).Nodup
  held : ∀ k i, get? byId k = some i → i.assetId = k ∧ Item (entries.map Prod.fst) i
  kept : ∀ i, Item (entries.map Prod.fst) i → ∃ j, get? byId i.assetId = some j ∧ j.fingerprint = i.fingerprint
  checked : ∀ e ∈ entries, e.2 < maxAssets ∧ ∃ i, e.1.validate = .ok i

theorem AssetsOf.nil : AssetsOf [] [] where
  nodup := List.nodup_nil
  held := nofun
  kept := by
    intro i ⟨_, hraw, _⟩
    cases hraw
  checked := nofun

theorem addAsset_ok {byId byId' : Dict AssetInventoryRecord} :
    addAsset byId e = .ok byId' ↔ e.2 < maxAssets ∧ ∃ i, e.1.validate = .ok i ∧
      ((∃ j, get? byId i.assetId = some j ∧ j.fingerprint = i.fingerprint ∧ byId' = byId) ∨
        (get? byId i.assetId = none ∧ byId' = PyDict.set byId i.assetId i)) := by
  simp only [addAsset, bind_ok, require_ok, exists_const]
  refine and_congr_right fun _ => exists_congr fun i => and_congr_right fun _ => ?_
  cases get? byId i.assetId with
  | none =>
    simp only [pure_ok, reduceCtorEq, false_and, exists_false, false_or, true_and]
    exact eq_comm
  | some j =>
    simp only [bind_ok, require_ok, exists_const, pure_ok, Option.some.injEq, exists_eq_left', reduceCtorEq, false_and, or_false]
    exact and_congr_right fun _ => eq_comm

theorem AssetsOf.step {byId byId' : Dict AssetInventoryRecord}
     (h : AssetsOf entries byId) (hadd : addAsset byId e = .ok byId') :
    AssetsOf (entries ++ [e]) byId' := by
  obtain ⟨hindex, i, hi, hcase⟩ := addAsset_ok.mp hadd
  have hchecked : ∀ e' ∈ entries ++ [e], e'.2 < maxAssets ∧ ∃ i, e'.1.validate = .ok i :=
    List.forall_mem_append.mpr ⟨h.checked, List.forall_mem_singleton.mpr ⟨hindex, i, hi⟩⟩
  rcases hcase with ⟨j, hj, hsame, rfl⟩ | ⟨hnone, rfl⟩
  · refine ⟨h.nodup, ?_, ?_, hchecked⟩
    · intro k i' hk
      obtain ⟨hid, hitem⟩ := h.held k i' hk
      exact ⟨hid, (item_snoc hi).mpr (.inl hitem)⟩
    · intro i' hitem
      rcases (item_snoc hi).mp hitem with hitem | rfl
      · exact h.kept i' hitem
      · exact ⟨j, hj, hsame⟩
  · refine ⟨nodup_set h.nodup (has_eq_false.mpr hnone), ?_, ?_, hchecked⟩
    · intro k i' hk
      rw [get?_set] at hk
      split at hk
      · rename_i hid
        cases hk
        exact ⟨hid, (item_snoc hi).mpr (.inr rfl)⟩
      · obtain ⟨hid, hitem⟩ := h.held k i' hk
        exact ⟨hid, (item_snoc hi).mpr (.inl hitem)⟩
    · intro i' hitem
      rcases (item_snoc hi).mp hitem with hitem | rfl
      · obtain ⟨j, hj, hsame⟩ := h.kept i' hitem
        refine ⟨j, ?_, hsame⟩
        rw [get?_set_ne, hj]
        intro hid
        rw [hid, hj] at hnone
        cases hnone
      · exact ⟨i', get?_set_self, rfl⟩

/-- Assets that are valid, not too many, and of which those with one id have one fingerprint. -/
structure Consistent (assets : List AssetInventoryRecord) : Prop where
  bounded : assets.length ≤ maxAssets
  valid : ∀ raw ∈ assets, ∃ i, raw.validate = .ok i
  agree : ∀ i j, Item assets i → Item assets j → i.assetId = j.assetId → i.fingerprint = j.fingerprint

theorem index_lt_iff {α : Type*} {xs : List α} {n : Nat} : (∀ e ∈ xs.zipIdx, e.2 < n) ↔ xs.length ≤ n := by
  refine ⟨?_, ?_⟩
  · intro h
    by_contra hlt
    have hn : n < xs.length := not_le.mp hlt
    exact absurd (h (xs[n], n) (List.mk_mem_zipIdx_iff_getElem?.mpr (List.getElem?_eq_getElem hn))) (lt_irrefl n)
  · intro h e he
    exact lt_of_lt_of_le (List.snd_lt_of_mem_zipIdx he) h

theorem assets_ok {byId : Dict AssetInventoryRecord} (h : assets.zipIdx.foldlM addAsset [] = .ok byId) :
    AssetsOf assets.zipIdx byId ∧ Consistent assets := by
  have hof : AssetsOf ([] ++ assets.zipIdx) byId := foldlM_ok (fun _ _ _ _ hI hstep => AssetsOf.step hI hstep) .nil h
  rw [List.nil_append] at hof
  refine ⟨hof, index_lt_iff.mp fun e he => (hof.checked e he).1, ?_, ?_⟩
  · intro raw hraw
    rw [← List.zipIdx_map_fst 0 assets] at hraw
    obtain ⟨e, he, rfl⟩ := List.mem_map.mp hraw
    exact (hof.checked e he).2
  · intro i j hi hj hid
    rw [← List.zipIdx_map_fst 0 assets] at hi hj
    obtain ⟨i', hi', hsame⟩ := hof.kept i hi
    obtain ⟨j', hj', hsame'⟩ := hof.kept j hj
    rw [hid, hj'] at hi'
    cases hi'
    exact hsame.symm.trans hsame'

theorem assets_returns (h : Consistent assets) : ∃ byId, assets.zipIdx.foldlM addAsset [] = .ok byId := by
  have hstep : ∀ done byId e, done ⊆ assets.zipIdx → e ∈ assets.zipIdx → AssetsOf done byId →
      ∃ byId', addAsset byId e = .ok byId' ∧ AssetsOf (done ++ [e]) byId' := by
    intro done byId e hdone he hof
    have hmem : ∀ e' ∈ assets.zipIdx, e'.1 ∈ assets := fun e' he' => List.fst_mem_of_mem_zipIdx he'
    obtain ⟨i, hi⟩ := h.valid e.1 (hmem e he)
    have hadd : ∃ byId', addAsset byId e = .ok byId' := by
      cases hget : get? byId i.assetId with
      | none => exact ⟨_, addAsset_ok.mpr ⟨index_lt_iff.mpr h.bounded e he, i, hi, .inr ⟨hget, rfl⟩⟩⟩
      | some j =>
        obtain ⟨hid, hitem⟩ := hof.held _ j hget
        obtain ⟨raw, hraw, hj⟩ := hitem
        obtain ⟨e', he', rfl⟩ := List.mem_map.mp hraw
        refine ⟨_, addAsset_ok.mpr ⟨index_lt_iff.mpr h.bounded e he, i, hi, .inl ⟨j, hget, ?_, rfl⟩⟩⟩
        exact h.agree j i ⟨_, hmem e' (hdone he'), hj⟩ ⟨_, hmem e he, hi⟩ hid
    obtain ⟨byId', hadd⟩ := hadd
    exact ⟨byId', hadd, hof.step hadd⟩
  have hall : [] ++ assets.zipIdx ⊆ assets.zipIdx := fun _ he => he
  obtain ⟨byId, hbyId, -⟩ := foldlM_returns hstep hall AssetsOf.nil
  exact ⟨byId, hbyId⟩

/-- The dictionary of the dependencies so far. -/
structure DependenciesOf (enabledIds : List String) (entries : List (AssetDependency × Nat))
    (byId : Dict AssetDependency) : Prop where
  nodup : (keys byId).Nodup
  held : ∀ k d, get? byId k = some d ↔ Declares (entries.map Prod.fst) d ∧ d.dependencyId = k
  checked : ∀ e ∈ entries, e.2 < maxDependencies ∧ ∃ d, e.1.validate = .ok d
  enabled : ∀ d, Declares (entries.map Prod.fst) d → d.upstreamAssetId ∈ enabledIds ∧ d.downstreamAssetId ∈ enabledIds

theorem DependenciesOf.nil : DependenciesOf enabledIds [] [] where
  nodup := List.nodup_nil
  held := by
    intro k d
    refine ⟨nofun, ?_⟩
    intro ⟨⟨_, hraw, _⟩, _⟩
    cases hraw
  checked := nofun
  enabled := by
    intro d ⟨_, hraw, _⟩
    cases hraw

theorem addDependency_ok {byId byId' : Dict AssetDependency} {e : AssetDependency × Nat} :
    addDependency enabledIds byId e = .ok byId' ↔ e.2 < maxDependencies ∧ ∃ d, e.1.validate = .ok d ∧
      (d.upstreamAssetId ∈ enabledIds ∧ d.downstreamAssetId ∈ enabledIds) ∧
      (∀ previous ∈ get? byId d.dependencyId, previous = d) ∧ byId' = PyDict.set byId d.dependencyId d := by
  simp only [addDependency, bind_ok, require_ok, exists_const, pure_ok]
  refine and_congr_right fun _ => exists_congr fun d => and_congr_right fun _ => and_congr_right fun _ => ?_
  refine and_congr ?_ eq_comm
  cases get? byId d.dependencyId with
  | none => simp
  | some previous => simp

theorem DependenciesOf.step {entries : List (AssetDependency × Nat)} {byId byId' : Dict AssetDependency}
    {e : AssetDependency × Nat}
    (h : DependenciesOf enabledIds entries byId) (hadd : addDependency enabledIds byId e = .ok byId') :
    DependenciesOf enabledIds (entries ++ [e]) byId' := by
  obtain ⟨hindex, d, hd, henabled, hsame, rfl⟩ := addDependency_ok.mp hadd
  refine ⟨?_, ?_, ?_, ?_⟩
  · cases hget : get? byId d.dependencyId with
    | none => exact nodup_set h.nodup (has_eq_false.mpr hget)
    | some previous =>
      rw [keys_set_of_present hget]
      exact h.nodup
  · intro k d'
    rw [get?_set, declares_snoc hd]
    split
    · rename_i hk
      subst hk
      rw [Option.some_inj]
      refine ⟨fun heq => ⟨.inr heq.symm, by rw [heq]⟩, ?_⟩
      intro ⟨hor, hid⟩
      rcases hor with hold | rfl
      · exact (hsame d' ((h.held _ d').mpr ⟨hold, hid⟩)).symm
      · rfl
    · rename_i hk
      rw [h.held]
      refine and_congr_left fun hid => (or_iff_left ?_).symm
      intro heq
      exact hk (heq ▸ hid)
  · exact List.forall_mem_append.mpr ⟨h.checked, List.forall_mem_singleton.mpr ⟨hindex, d, hd⟩⟩
  · intro d' hd'
    rcases (declares_snoc hd).mp hd' with hold | rfl
    · exact h.enabled d' hold
    · exact henabled

/-- Dependencies that are valid, not too many, between enabled assets, and told apart by their ids. -/
structure Declarable (enabledIds : List String) (dependencies : List AssetDependency) : Prop where
  bounded : dependencies.length ≤ maxDependencies
  valid : ∀ raw ∈ dependencies, ∃ d, raw.validate = .ok d
  enabled : ∀ d, Declares dependencies d → d.upstreamAssetId ∈ enabledIds ∧ d.downstreamAssetId ∈ enabledIds
  distinct : ∀ d d', Declares dependencies d → Declares dependencies d' → d.dependencyId = d'.dependencyId → d = d'

theorem dependencies_ok {byId : Dict AssetDependency} (h : dependencies.zipIdx.foldlM (addDependency enabledIds) [] = .ok byId) :
    DependenciesOf enabledIds dependencies.zipIdx byId ∧ Declarable enabledIds dependencies := by
  have hof : DependenciesOf enabledIds ([] ++ dependencies.zipIdx) byId :=
    foldlM_ok (fun _ _ _ _ hI hstep => DependenciesOf.step hI hstep) .nil h
  rw [List.nil_append] at hof
  have henabled := hof.enabled
  have hheld := hof.held
  rw [List.zipIdx_map_fst] at henabled hheld
  refine ⟨hof, index_lt_iff.mp fun e he => (hof.checked e he).1, ?_, henabled, ?_⟩
  · intro raw hraw
    rw [← List.zipIdx_map_fst 0 dependencies] at hraw
    obtain ⟨e, he, rfl⟩ := List.mem_map.mp hraw
    exact (hof.checked e he).2
  · intro d d' hd hd' hid
    have hget := (hheld _ d).mpr ⟨hd, hid⟩
    rw [(hheld _ d').mpr ⟨hd', rfl⟩] at hget
    exact (Option.some.inj hget).symm

theorem dependencies_returns (h : Declarable enabledIds dependencies) :
    ∃ byId, dependencies.zipIdx.foldlM (addDependency enabledIds) [] = .ok byId := by
  have hstep : ∀ done byId e, done ⊆ dependencies.zipIdx → e ∈ dependencies.zipIdx → DependenciesOf enabledIds done byId →
      ∃ byId', addDependency enabledIds byId e = .ok byId' ∧ DependenciesOf enabledIds (done ++ [e]) byId' := by
    intro done byId e hdone he hof
    have hmem : ∀ e' ∈ dependencies.zipIdx, e'.1 ∈ dependencies := fun e' he' => List.fst_mem_of_mem_zipIdx he'
    obtain ⟨d, hd⟩ := h.valid e.1 (hmem e he)
    have hadd : addDependency enabledIds byId e = .ok (PyDict.set byId d.dependencyId d) := by
      refine addDependency_ok.mpr ⟨index_lt_iff.mpr h.bounded e he, d, hd, h.enabled d ⟨_, hmem e he, hd⟩, ?_, rfl⟩
      intro previous hprevious
      obtain ⟨⟨raw, hraw, hvalid⟩, hid⟩ := (hof.held _ previous).mp hprevious
      obtain ⟨e', he', rfl⟩ := List.mem_map.mp hraw
      exact h.distinct previous d ⟨_, hmem e' (hdone he'), hvalid⟩ ⟨_, hmem e he, hd⟩ hid
    exact ⟨_, hadd, hof.step hadd⟩
  have hall : [] ++ dependencies.zipIdx ⊆ dependencies.zipIdx := fun _ he => he
  obtain ⟨byId, hbyId, -⟩ := foldlM_returns hstep hall DependenciesOf.nil
  exact ⟨byId, hbyId⟩

end Graph

section Build

variable {assets assets' : List AssetInventoryRecord} {dependencies dependencies' : List AssetDependency} {g : DependencyGraph}

/-- The enabled ones of the assets. -/
def enabledOf (assetById : Dict AssetInventoryRecord) : List String :=
  ((sortedBy Prod.fst assetById).filter fun e => e.2.enabled).map Prod.fst

/-- The graph of the assets and the dependencies that were kept. -/
def built (assetById : Dict AssetInventoryRecord) (dependencyById : Dict AssetDependency) : DependencyGraph where
  assets := sortedBy Prod.fst assetById
  enabledIds := enabledOf assetById
  dependencies := sortedBy AssetDependency.dependencyId (values dependencyById)
  adjacency := ((sortedBy AssetDependency.dependencyId (values dependencyById)).foldl addEdge []).map fun row =>
    (row.1, sortedBy AssetDependency.dependencyId row.2)

theorem init_ok : init assets dependencies = .ok g ↔ ∃ assetById, assets.zipIdx.foldlM addAsset [] = .ok assetById ∧
    ∃ dependencyById, dependencies.zipIdx.foldlM (addDependency (enabledOf assetById)) [] = .ok dependencyById ∧
      built assetById dependencyById = g := by
  simp only [init, bind_ok, pure_ok]
  rfl

theorem get?_addEdges (a : String) (ds : List AssetDependency) :
    (get? (ds.foldl addEdge []) a).getD [] = ds.filter fun d => d.upstreamAssetId = a := by
  induction ds using List.reverseRecOn with
  | nil => rfl
  | append_singleton ds d ih =>
    rw [List.foldl_append, List.foldl_cons, List.foldl_nil, addEdge, get?_set, List.filter_append]
    by_cases ha : d.upstreamAssetId = a
    · subst ha
      rw [if_pos rfl, Option.getD_some, ih, List.filter_cons_of_pos (by simp), List.filter_nil]
    · rw [if_neg ha, ih, List.filter_cons_of_neg (by simpa using ha), List.filter_nil, List.append_nil]

theorem mem_outgoing {assetById : Dict AssetInventoryRecord} {dependencyById : Dict AssetDependency} {a : String}
 : d ∈ (built assetById dependencyById).outgoing a ↔ d ∈ values dependencyById ∧ d.upstreamAssetId = a := by
  have hrows : d ∈ (get? ((sortedBy AssetDependency.dependencyId (values dependencyById)).foldl addEdge []) a).getD [] ↔
      d ∈ values dependencyById ∧ d.upstreamAssetId = a := by
    rw [get?_addEdges, List.mem_filter, mem_sortedBy, decide_eq_true_eq]
  rw [← hrows, outgoing, built, get?_map_snd]
  cases get? ((sortedBy AssetDependency.dependencyId (values dependencyById)).foldl addEdge []) a with
  | none => rfl
  | some rows => exact mem_sortedBy

def DeclaredEdge (dependencies : List AssetDependency) (a b : String) : Prop :=
  ∃ d, Declares dependencies d ∧ d.upstreamAssetId = a ∧ d.downstreamAssetId = b

/-- A built graph holds the declared dependencies, and nothing else. -/
structure Holds (g : DependencyGraph) (dependencies : List AssetDependency) : Prop where
  mem : ∀ d, d ∈ g.dependencies ↔ Declares dependencies d
  outgoing : ∀ a d, d ∈ g.outgoing a ↔ Declares dependencies d ∧ d.upstreamAssetId = a
  distinct : ∀ d d', Declares dependencies d → Declares dependencies d' → d.dependencyId = d'.dependencyId → d = d'

theorem holds_of_init (h : init assets dependencies = .ok g) : Holds g dependencies := by
  obtain ⟨assetById, -, dependencyById, hfold, rfl⟩ := init_ok.mp h
  obtain ⟨hof, hdeclarable⟩ := dependencies_ok hfold
  have hheld := hof.held
  rw [List.zipIdx_map_fst] at hheld
  have hvalues : ∀ d, d ∈ values dependencyById ↔ Declares dependencies d := by
    intro d
    rw [mem_values_iff hof.nodup]
    refine ⟨fun ⟨k, hk⟩ => ((hheld k d).mp hk).1, fun hd => ⟨d.dependencyId, (hheld _ d).mpr ⟨hd, rfl⟩⟩⟩
  refine ⟨?_, ?_, hdeclarable.distinct⟩
  · intro d
    rw [built, mem_sortedBy, hvalues]
  · intro a d
    rw [mem_outgoing, hvalues]

theorem Holds.edge_iff (h : Holds g dependencies) {a b : String} : g.Edge a b ↔ DeclaredEdge dependencies a b := by
  refine exists_congr fun d => ?_
  rw [h.outgoing, and_assoc]

/-! ### The order of the declarations -/

/-- Two assets of one fingerprint whose canonical texts differ. -/
def Collision (assets : List AssetInventoryRecord) : Prop :=
  ∃ i j, Item assets i ∧ Item assets j ∧ i.fingerprint = j.fingerprint ∧ canonicalJson i.toDict ≠ canonicalJson j.toDict

theorem writable_obj {kvs : List (String × Json Unit)} (hkeys : (kvs.map Prod.fst).Pairwise (· < ·))
    (h : ∀ e ∈ kvs, Writable e.2) :
    Writable (.obj kvs) :=
  ⟨⟨List.pairwise_map.mp hkeys, entriesCanonical_iff.mpr fun e he => (h e he).canonical⟩,
    entriesDumpable_iff.mpr fun e he => (h e he).dumpable⟩

theorem writable_toDict {raw i : AssetInventoryRecord} (h : raw.validate = .ok i) : Writable i.toDict := by
  have hports : ∀ port ∈ i.allowedTcpPorts, 1 ≤ port ∧ port ≤ 65535 := by
    simp only [AssetInventoryRecord.validate, bind_ok, require_ok, exists_const, pure_ok] at h
    obtain ⟨assetId, -, role, -, host, -, -, hports, -, handle, -, -, -, rfl⟩ := h
    exact hports
  have hport : Writable (.arr (i.allowedTcpPorts.map .int) : Json Unit) := by
    refine .arr ?_
    intro v hv
    obtain ⟨port, hmem, rfl⟩ := List.mem_map.mp hv
    obtain ⟨hlow, hhigh⟩ := hports port hmem
    exact .int (dumpable_int (by omega))
  have hcaps : Writable (.arr (i.collectorCapabilities.map .str) : Json Unit) := .strs _
  refine writable_obj ?_ ?_
  · simp only [List.map_cons, List.map_nil]
    decide
  · simp only [List.forall_mem_cons]
    refine ⟨hport, .str _, hcaps, ?_, .str _, .bool _, .str _, .str _, .str _, List.forall_mem_nil _⟩
    cases i.credentialRef with
    | none => exact ⟨trivial, rfl⟩
    | some handle => exact writable_obj (List.pairwise_singleton _ _) (List.forall_mem_singleton.mpr (.str handle))

theorem toDict_injective {i j : AssetInventoryRecord} (h : i.toDict = j.toDict) : i = j := by
  have hstr : Function.Injective (Json.str : String → Json Unit) := fun _ _ heq => Json.str.inj heq
  have hint : Function.Injective (Json.int : Int → Json Unit) := fun _ _ heq => Json.int.inj heq
  cases i with
  | mk assetId role host caps ports dataClass enabled credential schema =>
    cases j with
    | mk assetId' role' host' caps' ports' dataClass' enabled' credential' schema' =>
      simp only [AssetInventoryRecord.toDict, Json.obj.injEq, List.cons.injEq, Prod.mk.injEq, Json.arr.injEq, Json.str.injEq,
        Json.bool.injEq, true_and, and_true, hstr.list_map.eq_iff, hint.list_map.eq_iff] at h
      obtain ⟨rfl, rfl, rfl, hcredential, rfl, rfl, rfl, rfl, rfl⟩ := h
      cases credential with
      | none =>
        cases credential' with
        | none => rfl
        | some handle => cases hcredential
      | some handle =>
        cases credential' with
        | none => cases hcredential
        | some handle' =>
          simp only [Json.obj.injEq, List.cons.injEq, Prod.mk.injEq, Json.str.injEq, true_and, and_true] at hcredential
          rw [hcredential]

theorem eq_of_fingerprint (hfree : ¬ Collision assets) {i j : AssetInventoryRecord} (hi : Item assets i) (hj : Item assets j)
    (h : i.fingerprint = j.fingerprint) : i = j := by
  have htext : canonicalJson i.toDict = canonicalJson j.toDict := by
    by_contra hne
    exact hfree ⟨i, j, hi, hj, h, hne⟩
  obtain ⟨_, -, hvalid⟩ := hi
  obtain ⟨_, -, hvalid'⟩ := hj
  have hread := (writable_toDict hvalid).loads
  have hread' := (writable_toDict hvalid').loads
  rw [canonicalJson, canonicalJson] at htext
  rw [htext, hread'] at hread
  exact toDict_injective (Option.some.inj hread).symm

theorem Consistent.reorder (h : Consistent assets) (hmem : ∀ a, a ∈ assets' ↔ a ∈ assets) (hlength : assets'.length ≤ maxAssets) :
    Consistent assets' := by
  have hitem : ∀ {i}, Item assets' i → Item assets i := fun ⟨raw, hraw, hi⟩ => ⟨raw, (hmem raw).mp hraw, hi⟩
  exact ⟨hlength, fun raw hraw => h.valid raw ((hmem raw).mp hraw), fun i j hi hj => h.agree i j (hitem hi) (hitem hj)⟩

theorem Declarable.reorder {enabledIds : List String} (h : Declarable enabledIds dependencies)
    (hmem : ∀ d, d ∈ dependencies' ↔ d ∈ dependencies) (hlength : dependencies'.length ≤ maxDependencies) :
    Declarable enabledIds dependencies' := by
  have hdeclares : ∀ {d}, Declares dependencies' d → Declares dependencies d :=
    fun ⟨raw, hraw, hd⟩ => ⟨raw, (hmem raw).mp hraw, hd⟩
  exact ⟨hlength, fun raw hraw => h.valid raw ((hmem raw).mp hraw), fun d hd => h.enabled d (hdeclares hd),
    fun d d' hd hd' => h.distinct d d' (hdeclares hd) (hdeclares hd')⟩

theorem init_reorder (h : init assets dependencies = .ok g) (hfree : ¬ Collision assets) (hassets : ∀ a, a ∈ assets' ↔ a ∈ assets)
    (hdependencies : ∀ d, d ∈ dependencies' ↔ d ∈ dependencies) (hlength : assets'.length ≤ maxAssets)
    (hlength' : dependencies'.length ≤ maxDependencies) : init assets' dependencies' = .ok g := by
  obtain ⟨assetById, hfold, dependencyById, hfold', rfl⟩ := init_ok.mp h
  obtain ⟨hof, hconsistent⟩ := assets_ok hfold
  obtain ⟨hdof, hdeclarable⟩ := dependencies_ok hfold'
  obtain ⟨assetById', hagain⟩ := assets_returns (hconsistent.reorder hassets hlength)
  obtain ⟨hof', -⟩ := assets_ok hagain
  have hitem : ∀ i, Item assets' i ↔ Item assets i := fun i => exists_congr fun raw => and_congr_left fun _ => hassets raw
  have hkeep : ∀ {as : List AssetInventoryRecord} {byId : Dict AssetInventoryRecord}, AssetsOf as.zipIdx byId →
      (∀ i, Item as i ↔ Item assets i) → ∀ e, e ∈ byId ↔ Item assets e.2 ∧ e.2.assetId = e.1 := by
    intro as byId hof hsame e
    have hheld := hof.held
    have hkept := hof.kept
    rw [List.zipIdx_map_fst] at hheld hkept
    refine ⟨?_, ?_⟩
    · intro he
      obtain ⟨hid, hi⟩ := hheld e.1 e.2 (get?_of_mem hof.nodup he)
      exact ⟨(hsame _).mp hi, hid⟩
    · intro ⟨hi, hid⟩
      obtain ⟨j, hj, hfingerprint⟩ := hkept e.2 ((hsame _).mpr hi)
      have hji : j = e.2 := eq_of_fingerprint hfree ((hsame _).mp (hheld _ _ hj).2) hi hfingerprint
      rw [hji, hid] at hj
      exact mem_of_get? hj
  have hsorted : sortedBy Prod.fst assetById' = sortedBy Prod.fst assetById := by
    refine sortedBy_congr (keys_determine hof'.nodup) (List.Nodup.of_map _ hof'.nodup) (List.Nodup.of_map _ hof.nodup) ?_
    intro e
    rw [hkeep hof' hitem, hkeep hof fun _ => Iff.rfl]
  have henabled : enabledOf assetById' = enabledOf assetById := by rw [enabledOf, enabledOf, hsorted]
  obtain ⟨dependencyById', hagain'⟩ := dependencies_returns (hdeclarable.reorder hdependencies hlength')
  obtain ⟨hdof', -⟩ := dependencies_ok hagain'
  have hdeclares : ∀ d, Declares dependencies' d ↔ Declares dependencies d :=
    fun d => exists_congr fun raw => and_congr_left fun _ => hdependencies raw
  have hvalues : ∀ {ds : List AssetDependency} {byId : Dict AssetDependency},
      DependenciesOf (enabledOf assetById) ds.zipIdx byId →
      (∀ d, Declares ds d ↔ Declares dependencies d) → ∀ d, d ∈ values byId ↔ Declares dependencies d := by
    intro ds byId hof hsame d
    have hheld := hof.held
    rw [List.zipIdx_map_fst] at hheld
    rw [mem_values_iff hof.nodup, ← hsame]
    exact ⟨fun ⟨k, hk⟩ => ((hheld k d).mp hk).1, fun hd => ⟨d.dependencyId, (hheld _ d).mpr ⟨hd, rfl⟩⟩⟩
  have hnodup : ∀ {ds : List AssetDependency} {byId : Dict AssetDependency}, DependenciesOf (enabledOf assetById) ds.zipIdx byId →
      (values byId).Nodup := by
    intro ds byId hof
    refine List.Nodup.of_map AssetDependency.dependencyId ?_
    have hkeys : (values byId).map AssetDependency.dependencyId = keys byId := by
      rw [values, keys, List.map_map]
      refine List.map_congr_left fun e he => ?_
      exact ((hof.held e.1 e.2).mp (get?_of_mem hof.nodup he)).2
    rw [hkeys]
    exact hof.nodup
  have hsorted' : sortedBy AssetDependency.dependencyId (values dependencyById') =
      sortedBy AssetDependency.dependencyId (values dependencyById) := by
    refine sortedBy_congr ?_ (hnodup hdof') (hnodup hdof) ?_
    · intro d hd d' hd'
      exact hdeclarable.distinct d d' ((hvalues hdof' hdeclares d).mp hd) ((hvalues hdof' hdeclares d').mp hd')
    · intro d
      rw [hvalues hdof' hdeclares, hvalues hdof fun _ => Iff.rfl]
  refine init_ok.mpr ⟨assetById', hagain, dependencyById', henabled ▸ hagain', ?_⟩
  rw [built, built, hsorted, hsorted', henabled]

end Build

/-! ## What is assessed -/

section Impact

variable {assets : List AssetInventoryRecord} {dependencies : List AssetDependency} {g : DependencyGraph} {seeds : List String}
  {limit : Nat}

/-- An assessment tells the assets that the seeds reach within the limit with their distances, and the edges on the way. -/
structure Exact (dependencies : List AssetDependency) (seeds : List String) (limit : Nat) (r : AssetImpactAssessment) : Prop where
  depths : ∀ a n, (a, n) ∈ r.depthByAsset ↔ a ∉ seeds ∧ n ≤ limit ∧ IsDistance (DeclaredEdge dependencies) {a | a ∈ seeds} n a
  affected : r.potentiallyAffectedAssetIds = r.depthByAsset.map Prod.fst
  ordered : r.potentiallyAffectedAssetIds.Pairwise (· < ·)
  truncated : r.truncated = true ↔ ∃ a n, limit < n ∧ IsDistance (DeclaredEdge dependencies) {a | a ∈ seeds} n a
  edges : ∀ id, id ∈ r.dependencyIds ↔ ∃ d n, Declares dependencies d ∧ d.dependencyId = id ∧ d.downstreamAssetId ∉ seeds ∧
    IsDistance (DeclaredEdge dependencies) {a | a ∈ seeds} n d.upstreamAssetId ∧
    IsDistance (DeclaredEdge dependencies) {a | a ∈ seeds} (n + 1) d.downstreamAssetId ∧ n + 1 ≤ limit
  distinct : ∀ d d', Declares dependencies d → Declares dependencies d' → d.dependencyId = d'.dependencyId → d = d'
  dependencyOrder : r.dependencyIds.Pairwise (· < ·)

theorem sorted_lt {xs : List String} (h : xs.Nodup) : (sorted xs).Pairwise (· < ·) := by
  have hpair : (sorted xs).Pairwise (· ≤ ·) := List.pairwise_insertionSort _ xs
  have hne : (sorted xs).Nodup := (List.perm_insertionSort _ xs).nodup_iff.mpr h
  exact (hpair.and hne).imp fun ⟨hle, hne⟩ => lt_of_le_of_ne hle hne

theorem exact_assess (hg : Holds g dependencies) {s : Search} (h : Inv g seeds limit s) (hdone : s.pending = []) :
    Exact dependencies seeds limit (g.assess seeds limit s) := by
  have hlabelling : Labelling (DeclaredEdge dependencies) {a | a ∈ seeds} limit (get? s.depths) := by
    have hedge : g.Edge = DeclaredEdge dependencies := funext fun a => funext fun b => propext hg.edge_iff
    exact hedge ▸ h.labelling hdone
  have hlabel : ∀ a n, get? s.depths a = some n ↔ IsDistance (DeclaredEdge dependencies) {a | a ∈ seeds} n a ∧ n ≤ limit :=
    fun a n => hlabelling.label_iff
  have haffected : ∀ a, a ∈ (g.assess seeds limit s).potentiallyAffectedAssetIds ↔ ∃ n, 0 < n ∧ get? s.depths a = some n := by
    intro a
    rw [assess]
    dsimp only
    rw [mem_sorted, List.mem_map]
    refine ⟨?_, ?_⟩
    · intro ⟨e, he, hea⟩
      obtain ⟨he, hpos⟩ := List.mem_filter.mp he
      exact ⟨e.2, of_decide_eq_true hpos, hea ▸ get?_of_mem h.keys he⟩
    · intro ⟨n, hpos, hn⟩
      exact ⟨(a, n), List.mem_filter.mpr ⟨mem_of_get? hn, decide_eq_true hpos⟩, rfl⟩
  have hpositive : ∀ {a n}, get? s.depths a = some n → (0 < n ↔ a ∉ seeds) := by
    intro a n hn
    rw [← h.zero a, hn, Option.some_inj, Nat.pos_iff_ne_zero]
  refine ⟨?_, ?_, ?_, ?_, ?_, hg.distinct, ?_⟩
  · intro a n
    have hmem : (a, n) ∈ (g.assess seeds limit s).depthByAsset ↔
        ∃ b ∈ (g.assess seeds limit s).potentiallyAffectedAssetIds, (b, (get? s.depths b).getD 0) = (a, n) := List.mem_map
    rw [hmem]
    refine ⟨?_, ?_⟩
    · intro ⟨b, hb, heq⟩
      obtain ⟨m, hpos, hm⟩ := (haffected b).mp hb
      rw [hm, Option.getD_some, Prod.mk.injEq] at heq
      obtain ⟨rfl, rfl⟩ := heq
      obtain ⟨hdist, hle⟩ := (hlabel _ _).mp hm
      exact ⟨(hpositive hm).mp hpos, hle, hdist⟩
    · intro ⟨hseed, hle, hdist⟩
      have hn := (hlabel a n).mpr ⟨hdist, hle⟩
      refine ⟨a, (haffected a).mpr ⟨n, (hpositive hn).mpr hseed, hn⟩, ?_⟩
      rw [hn, Option.getD_some]
  · rw [assess]
    dsimp only
    rw [List.map_map]
    exact (List.map_id _).symm
  · exact sorted_lt ((h.keys.sublist (List.filter_sublist.map Prod.fst)))
  · rw [← hlabelling.beyond_iff]
    have htruncated : (g.assess seeds limit s).truncated = s.truncated := rfl
    rw [htruncated, h.truncated, hdone]
    simp only [List.not_mem_nil, not_false_eq_true, true_and, hg.edge_iff]
  · intro id
    have hused : id ∈ (g.assess seeds limit s).dependencyIds ↔ id ∈ s.used := mem_sorted.trans mem_dedup
    rw [hused, h.used, hdone]
    refine ⟨?_, ?_⟩
    · intro ⟨a, n, d, ha, _, hn, hd, hb, hid⟩
      obtain ⟨hdeclares, rfl⟩ := (hg.outgoing a d).mp hd
      have hseed := (hpositive hb).mp (Nat.succ_pos n)
      exact ⟨d, n, hdeclares, hid, hseed, ((hlabel _ _).mp ha).1, ((hlabel _ _).mp hb).1, hn⟩
    · intro ⟨d, n, hdeclares, hid, _, hup, hdown, hn⟩
      exact ⟨d.upstreamAssetId, n, d, (hlabel _ _).mpr ⟨hup, Nat.le_of_succ_le hn⟩, List.not_mem_nil, hn,
        (hg.outgoing _ d).mpr ⟨hdeclares, rfl⟩, (hlabel _ _).mpr ⟨hdown, hn⟩, hid⟩
  · exact sorted_lt (dedup_nodup _)

theorem seedRow_ok {e : String × Nat} {seed : String} :
    seedRow e = .ok seed ↔ e.2 < maxImpactSeeds ∧ assetIdText e.1 "seed_asset_id" = .ok seed := by
  simp only [seedRow, bind_ok, require_ok, exists_const]

theorem checkArguments_reorder {seedIds seedIds' : List String} {maxDepth : Int}
    (h : g.checkArguments seedIds maxDepth = .ok (seeds, limit)) (hmem : ∀ s, s ∈ seedIds' ↔ s ∈ seedIds)
    (hlength : seedIds'.length ≤ maxImpactSeeds) : g.checkArguments seedIds' maxDepth = .ok (seeds, limit) := by
  simp only [checkArguments, bind_ok, require_ok, exists_const, pure_ok] at h ⊢
  obtain ⟨hdepth, rows, hrows, hne, hunknown, heq⟩ := h
  have hrow : ∀ {ids : List String} {rows : List String}, ids.zipIdx.mapM seedRow = .ok rows →
      ∀ seed, seed ∈ rows ↔ ∃ raw ∈ ids, assetIdText raw "seed_asset_id" = .ok seed := by
    intro ids rows hrows seed
    have hforall := mapM_ok.mp hrows
    refine ⟨?_, ?_⟩
    · intro hseed
      obtain ⟨e, he, hok⟩ := forall₂_mem_right hforall hseed
      exact ⟨e.1, List.fst_mem_of_mem_zipIdx he, (seedRow_ok.mp hok).2⟩
    · rintro ⟨raw, hraw, hok⟩
      rw [← List.zipIdx_map_fst 0 ids] at hraw
      obtain ⟨e, he, rfl⟩ := List.mem_map.mp hraw
      obtain ⟨seed', hseed', hok'⟩ := forall₂_mem_left hforall he
      rw [(seedRow_ok.mp hok').2] at hok
      cases hok
      exact hseed'
  obtain ⟨rows', hrows'⟩ : ∃ rows', seedIds'.zipIdx.mapM seedRow = .ok rows' := by
    refine mapM_returns fun e he => ?_
    have hraw := (hmem e.1).mp (List.fst_mem_of_mem_zipIdx he)
    rw [← List.zipIdx_map_fst 0 seedIds] at hraw
    obtain ⟨e', he', heq'⟩ := List.mem_map.mp hraw
    obtain ⟨seed, -, hok⟩ := forall₂_mem_left (mapM_ok.mp hrows) he'
    exact ⟨seed, seedRow_ok.mpr ⟨index_lt_iff.mpr hlength e he, heq' ▸ (seedRow_ok.mp hok).2⟩⟩
  have hsame : sorted (dedup rows') = sorted (dedup rows) := by
    refine sorted_dedup_congr fun seed => ?_
    rw [hrow hrows', hrow hrows]
    exact exists_congr fun raw => and_congr_left fun _ => hmem raw
  exact ⟨hdepth, rows', hrows', by rwa [hsame], by rwa [hsame], by rwa [hsame]⟩

/-- The rounds that are enough for the search of a graph. -/
def enoughRounds (g : DependencyGraph) (seeds : List String) : Nat := seeds.length + g.dependencies.length + 1

/-- `impact` returns an exact assessment, and the same for any order and repetition of what was declared and asked, collisions
apart. -/
theorem impact_exact (hg : init assets dependencies = .ok g) {seedIds : List String} {maxDepth : Int}
    (harguments : g.checkArguments seedIds maxDepth = .ok (seeds, limit)) : ∃ r,
      (∀ rounds, enoughRounds g seeds ≤ rounds → g.impact rounds seedIds maxDepth = .ok (some r)) ∧
      Exact dependencies seeds limit r ∧
      ∀ assets' dependencies' seedIds', (∀ a, a ∈ assets' ↔ a ∈ assets) → (∀ d, d ∈ dependencies' ↔ d ∈ dependencies) →
        (∀ s, s ∈ seedIds' ↔ s ∈ seedIds) → assets'.length ≤ maxAssets → dependencies'.length ≤ maxDependencies →
        seedIds'.length ≤ maxImpactSeeds → Collision assets ∨ ∃ g', init assets' dependencies' = .ok g' ∧
          ∀ rounds, enoughRounds g' seeds ≤ rounds → g'.impact rounds seedIds' maxDepth = .ok (some r) := by
  have hholds := holds_of_init hg
  have hnodup : seeds.Nodup := by
    simp only [checkArguments, bind_ok, require_ok, exists_const, pure_ok] at harguments
    obtain ⟨-, rows, -, -, -, heq⟩ := harguments
    cases heq
    exact (List.perm_insertionSort _ _).nodup_iff.mpr (dedup_nodup rows)
  have htargets : ∀ a b, g.Edge a b → b ∈ g.dependencies.map AssetDependency.downstreamAssetId := by
    rintro a b ⟨d, hd, hb⟩
    exact List.mem_map.mpr ⟨d, (hholds.mem d).mpr ((hholds.outgoing a d).mp hd).1, hb⟩
  have htodo : todo (g.dependencies.map AssetDependency.downstreamAssetId) (start seeds) < enoughRounds g seeds := by
    have hcount := @List.countP_le_length _ (fun b => decide (get? (start seeds).depths b = none))
      (g.dependencies.map AssetDependency.downstreamAssetId)
    rw [List.length_map] at hcount
    have hpending : (start seeds).pending.length = seeds.length := rfl
    rw [todo, enoughRounds]
    omega
  have hstart : Inv g seeds limit (start seeds) := inv_start hnodup
  obtain ⟨s, hs, hinv, hdone⟩ := traverse_returns htargets hstart htodo
  have himpact : ∀ ids, g.checkArguments ids maxDepth = .ok (seeds, limit) → ∀ rounds, enoughRounds g seeds ≤ rounds →
      g.impact rounds ids maxDepth = .ok (some (g.assess seeds limit s)) := by
    intro ids hids rounds hrounds
    simp only [impact, bind_ok, pure_ok]
    refine ⟨_, hids, ?_⟩
    dsimp only
    rw [traverse_mono hs hrounds]
    rfl
  refine ⟨g.assess seeds limit s, himpact seedIds harguments, exact_assess hholds hinv hdone, ?_⟩
  intro assets' dependencies' seedIds' hassets hdependencies hseeds hlength hlength' hlength''
  by_cases hfree : Collision assets
  · exact .inl hfree
  · have hagain := init_reorder hg hfree hassets hdependencies hlength hlength'
    exact .inr ⟨g, hagain, himpact seedIds' (checkArguments_reorder harguments hseeds hlength'')⟩

/-! ### Two assets -/

def sampleAsset (assetId : String) : AssetInventoryRecord where
  assetId := assetId
  role := "server"
  managementHost := "host"
  collectorCapabilities := []

def sampleDependency : AssetDependency where
  upstreamAssetId := "a"
  downstreamAssetId := "b"
  relation := "network_path"
  declarationSha256 := sampleFingerprint

def sampleGraph : DependencyGraph :=
  built [("a", sampleAsset "a"), ("b", sampleAsset "b")] [(sampleDependency.dependencyId, sampleDependency)]

theorem sampleDependency_valid : sampleDependency.validate = .ok sampleDependency := by
  have hup : assetIdText "a" "upstream_asset_id" = .ok "a" := by decide
  have hdown : assetIdText "b" "downstream_asset_id" = .ok "b" := by decide
  have hstrip : strip "network_path" = "network_path" := by decide
  have hre : sha256Re sampleFingerprint = true := sha256Re_hashText _
  simp only [AssetDependency.validate, bind_ok, require_ok, exists_const, pure_ok]
  refine ⟨"a", hup, "b", hdown, by decide, ?_, sampleFingerprint, ?_, rfl, ?_⟩
  · rw [sampleDependency, hstrip]
    decide
  · exact fingerprintText_ok.mpr ⟨(strip_of_sha256Re hre).symm ▸ hre, strip_of_sha256Re hre⟩
  · rw [sampleDependency, hstrip]

theorem sampleHost_valid : validateManagementHost "host" = .ok "host" := by
  have hstrip : strip "host" = "host" := by decide
  have hname : IpAddress.addressText "host" = none ∧ hostRe "host" = true ∧ lower "host" = "host" := by decide
  simp only [validateManagementHost, hstrip, hname, bind_ok, require_ok, exists_const, pure_ok, and_true]
  refine ⟨by decide, ?_, by decide⟩
  -- `decide` on the quantifier itself would go through all characters
  intro c hc
  obtain rfl | rfl | rfl | rfl : c = 'h' ∨ c = 'o' ∨ c = 's' ∨ c = 't' := by simpa using hc
  all_goals decide

theorem sampleAsset_valid (assetId : String) (h : compact assetId "asset_id" 128 = .ok assetId) :
    (sampleAsset assetId).validate = .ok (sampleAsset assetId) := by
  have hrole : compact "server" "role" 64 = .ok "server" := by decide
  simp only [AssetInventoryRecord.validate, sampleAsset, h, hrole, sampleHost_valid, Outcome.ok_bind]
  rfl

theorem sampleGraph_init : init [sampleAsset "a", sampleAsset "b"] [sampleDependency] = .ok sampleGraph := by
  have ha := sampleAsset_valid "a" (by decide)
  have hb := sampleAsset_valid "b" (by decide)
  have hassets : [sampleAsset "a", sampleAsset "b"].zipIdx.foldlM addAsset [] =
      .ok [("a", sampleAsset "a"), ("b", sampleAsset "b")] := by
    simp only [List.zipIdx_cons, List.zipIdx_nil, List.foldlM_cons, List.foldlM_nil, bind_ok, pure_ok]
    exact ⟨[("a", sampleAsset "a")], addAsset_ok.mpr ⟨by decide, _, ha, .inr ⟨rfl, rfl⟩⟩, _,
      addAsset_ok.mpr ⟨by decide, _, hb, .inr ⟨by decide, rfl⟩⟩, by decide⟩
  have henabled : enabledOf [("a", sampleAsset "a"), ("b", sampleAsset "b")] = ["a", "b"] := by decide
  refine init_ok.mpr ⟨_, hassets, [(sampleDependency.dependencyId, sampleDependency)], ?_, rfl⟩
  simp only [List.zipIdx_cons, List.zipIdx_nil, List.foldlM_cons, List.foldlM_nil, bind_ok, pure_ok]
  refine ⟨_, addDependency_ok.mpr ⟨by decide, _, sampleDependency_valid, ?_, by simp, rfl⟩, rfl⟩
  rw [henabled]
  decide

theorem sampleGraph_arguments : sampleGraph.checkArguments ["a"] 16 = .ok (["a"], 16) := by
  have henabled : sampleGraph.enabledIds = ["a", "b"] := by decide
  simp only [checkArguments, bind_ok, require_ok, exists_const, pure_ok, henabled]
  exact ⟨by decide, ["a"], by decide, by decide, by decide, by decide⟩

/-- An outage of the asset that the other depends on is assessed. -/
theorem impact_exact_sample : ∃ r,
    (∀ rounds, enoughRounds sampleGraph ["a"] ≤ rounds → sampleGraph.impact rounds ["a"] 16 = .ok (some r)) ∧
      Exact [sampleDependency] ["a"] 16 r := by
  obtain ⟨r, hr, hexact, -⟩ := impact_exact sampleGraph_init sampleGraph_arguments
  exact ⟨r, hr, hexact⟩

end Impact

end DependencyGraph

end ThreeAgent.SecurityMonitoring
