/-
What a claim may cite is what the prompt shows. Packing the sources that were
supplied once more renders the same evidence, since a source that is skipped
leaves nothing behind in the packer (`packLoop_filter`); the ids that pass the
gates are those of the rendered blocks, and the accounting of the annotated
assessments adds up to the packer's totals (`synthesize_cites_rendered`).
-/
import ThreeAgent.EvidencePackingFacts
import ThreeAgent.ResearchSynthesis

namespace ThreeAgent

namespace EvidencePacking

open PyDict

variable {bodySha256 : String → String} {policy : EvidencePackingPolicy} {st st' : Packing} {source : Source}

/-! ## Packing again -/

/-- Two states that the next sources are packed alike in. -/
structure Alike (st st' : Packing) : Prop where
  blocks : st.blocks = st'.blocks
  packed : st.packedChunkChars = st'.packedChunkChars
  bodies : st.fullySuppliedBodySources = st'.fullySuppliedBodySources

theorem Alike.fitted_eq (h : Alike st st') (source : Source) :
    fitted bodySha256 policy st source = fitted bodySha256 policy st' source := by
  simp only [fitted, remaining, separatorCost, duplicateOf, h.blocks, h.packed, h.bodies]

theorem Alike.packSource (h : Alike st st') (source : Source) (rank rank' : Nat) :
    Alike (packSource bodySha256 policy st source rank) (packSource bodySha256 policy st' source rank') := by
  have hfitted : fitted bodySha256 policy st source = fitted bodySha256 policy st' source := h.fitted_eq source
  refine ⟨?_, ?_, ?_⟩
  · simp only [EvidencePacking.packSource, hfitted, h.blocks]
  · simp only [EvidencePacking.packSource, hfitted, h.packed]
  · simp only [EvidencePacking.packSource, suppliedBodies, hfitted, h.bodies]

theorem packSource_skipped (rank : Nat)
    (h : (fitted bodySha256 policy st source).chunk = "") : Alike (packSource bodySha256 policy st source rank) st := by
  refine ⟨?_, ?_, ?_⟩
  · simp [packSource, h]
  · simp [packSource, h]
  · simp only [packSource, suppliedBodies, h]
    split <;> simp

theorem packLoop_snoc (sources : List Source) (source : Source) :
    packLoop bodySha256 policy (sources ++ [source]) =
      packSource bodySha256 policy (packLoop bodySha256 policy sources) source (1 + sources.length) := by
  rw [packLoop, List.zipIdx_append, List.foldl_append]
  rfl

theorem packLoop_filter {p : Source → Bool} : ∀ {sources : List Source},
    (∀ before source after, sources = before ++ source :: after →
      (p source = true ↔ (fitted bodySha256 policy (packLoop bodySha256 policy before) source).chunk ≠ "")) →
    Alike (packLoop bodySha256 policy (sources.filter p)) (packLoop bodySha256 policy sources) := by
  intro sources
  induction sources using List.reverseRecOn with
  | nil => exact fun _ => ⟨rfl, rfl, rfl⟩
  | append_singleton sources source ih =>
    intro h
    have hbefore := ih fun before source' after hsplit => h before source' (after ++ [source]) (by simp [hsplit])
    have hlast := h sources source [] rfl
    rw [List.filter_append, packLoop_snoc]
    by_cases hp : p source = true
    · rw [List.filter_cons_of_pos hp, List.filter_nil, packLoop_snoc]
      exact hbefore.packSource source _ _
    · have hskipped := packSource_skipped (1 + sources.length) (not_not.mp (mt hlast.mpr hp))
      rw [List.filter_cons_of_neg hp, List.filter_nil, List.append_nil]
      exact ⟨hbefore.blocks.trans hskipped.blocks.symm, hbefore.packed.trans hskipped.packed.symm,
        hbefore.bodies.trans hskipped.bodies.symm⟩

theorem mem_receipts_packLoop {before after : List Source} :
    sourceReceipt bodySha256 policy (packLoop bodySha256 policy before) source (1 + before.length) ∈
      (packLoop bodySha256 policy (before ++ source :: after)).sourceReceipts := by
  induction after using List.reverseRecOn with
  | nil =>
    rw [packLoop_snoc]
    exact List.mem_append_right _ (List.mem_singleton_self _)
  | append_singleton after last ih =>
    rw [← List.cons_append, ← List.append_assoc, packLoop_snoc]
    exact List.mem_append_left _ ih

end EvidencePacking

namespace ResearchSynthesis

open EvidencePacking Outcome PyDict

/-! ## Items by their ids -/

section ById

variable {α : Type} {id : α → String} {items : List α}

theorem of_get?_byId {k : String} {x : α} (h : get? (byId id items) k = some x) : x ∈ items ∧ id x = k := by
  rw [byId, get?_foldl_set id fun item => item] at h
  simp only [Option.map_id', get?_nil, Option.or_none] at h
  exact ⟨(List.mem_filter.mp (List.mem_reverse.mp (List.mem_of_find?_eq_some h))).1, by simpa using List.find?_some h⟩

theorem exists_get?_byId {x : α} (hx : x ∈ items) (hne : id x ≠ "") : ∃ y, get? (byId id items) (id x) = some y := by
  rw [byId, get?_foldl_set id fun item => item]
  simp only [Option.map_id', get?_nil, Option.or_none]
  rw [← Option.isSome_iff_exists, List.find?_isSome]
  exact ⟨x, List.mem_reverse.mpr (List.mem_filter.mpr ⟨hx, decide_eq_true hne⟩), decide_eq_true rfl⟩

theorem get?_byId (hnodup : (items.map id).Nodup) {x : α} (hx : x ∈ items) (hne : id x ≠ "") :
    get? (byId id items) (id x) = some x := by
  obtain ⟨y, hy⟩ := exists_get?_byId hx hne
  obtain ⟨hmem, hid⟩ := of_get?_byId hy
  rw [hy, List.inj_on_of_nodup_map hnodup hmem hx hid]

end ById

/-! ## The evidence and the ids -/

/-- The vetted sources of a research: they can be read, their ids are distinct, and the accepted assessments are theirs. -/
structure Vetted (vetted : List ResearchSource) (assessments : List Assessment) : Prop where
  usable : ∀ s ∈ vetted, s.usable = true
  distinct : (vetted.map (·.sourceId)).Nodup
  nonempty : ∀ s ∈ vetted, s.sourceId ≠ ""
  accepted : ((assessments.filter (·.accepted)).map (·.sourceId)).Perm (vetted.map (·.sourceId))

theorem vetted_vettedSources {sources : List ResearchSource} {assessments : List Assessment}
    (hdistinct : (sources.map (·.sourceId)).Nodup) (hnonempty : ∀ s ∈ sources, s.sourceId ≠ "")
    (hassessed : (assessments.map (·.sourceId)).Nodup)
    (hvalid : ∀ a ∈ assessments, ∃ s ∈ sources, s.usable = true ∧ s.sourceId = a.sourceId) :
    Vetted (vettedSources sources assessments) assessments := by
  have hsub : (vettedSources sources assessments).Sublist sources := List.filter_sublist.trans List.filter_sublist
  have hmem := fun s (hs : s ∈ vettedSources sources assessments) => List.mem_filter.mp hs
  refine ⟨fun s hs => (List.mem_filter.mp (hmem s hs).1).2, (hsub.map _).nodup hdistinct,
    fun s hs => hnonempty s (hsub.subset hs), ?_⟩
  refine (List.perm_ext_iff_of_nodup ((List.filter_sublist.map _).nodup hassessed) ((hsub.map _).nodup hdistinct)).mpr ?_
  intro id
  refine ⟨?_, ?_⟩
  · intro hid
    obtain ⟨a, ha, rfl⟩ := List.mem_map.mp hid
    obtain ⟨s, hs, husable, heq⟩ := hvalid a (List.mem_filter.mp ha).1
    refine List.mem_map.mpr ⟨s, List.mem_filter.mpr ⟨List.mem_filter.mpr ⟨hs, husable⟩, ?_⟩, heq⟩
    exact decide_eq_true (heq ▸ hid)
  · intro hid
    obtain ⟨s, hs, rfl⟩ := List.mem_map.mp hid
    exact of_decide_eq_true (hmem s hs).2

variable {bodySha256 : String → String} {policy : EvidencePackingPolicy} {a : Assessment} {s : ResearchSource}
  {item : SourceReceipt} {research : Research}

variable {receipt : PackingReceipt}

theorem packEvidenceSources_eq {sources : List Source} {rendered : String}
    (h : packEvidenceSources bodySha256 policy sources = .ok (rendered, receipt)) :
    rendered = separator.intercalate (packLoop bodySha256 policy sources).blocks ∧
      receipt = packingReceipt policy (packLoop bodySha256 policy sources) rendered := by
  simp only [packEvidenceSources, bind_ok, require_ok, pure_ok, exists_const, Prod.mk.injEq] at h
  obtain ⟨-, rfl, rfl⟩ := h
  exact ⟨rfl, rfl⟩

theorem evidenceText_eq {sources : List ResearchSource} {rendered : String}
    (h : packEvidenceSources bodySha256 policy (sources.map (·.toSource)) = .ok (rendered, receipt))
    (active : Option (List Assessment)) :
    evidenceText bodySha256 policy sources active = .ok (rendered, active.map fun as => as.map (annotate receipt)) := by
  simp only [evidenceText, ne_eq, not_true_eq_false, if_false, h, ok_bind]
  rfl

/-- Whether the entry of an id says that it was supplied. -/
def suppliedIn (receipt : PackingReceipt) (id : String) : Bool :=
  (get? (byId SourceReceipt.sourceId receipt.sources) id).any (·.supplied)

/-- A packing of sources with distinct ids, its rows and its receipt. -/
structure Packed (bodySha256 : String → String) (policy : EvidencePackingPolicy) (sources : List Source) (rendered : String)
    (receipt : PackingReceipt) (rows : List Row) : Prop where
  ok : packEvidenceSources bodySha256 policy sources = .ok (rendered, receipt)
  sourced : rows.map Row.source = sources
  receipts : receipt.sources = rows.map Row.receipt
  rendered : rendered = rendering rows
  sound : ∀ row ∈ rows, row.Sound
  totals : Totals receipt
  distinct : (sources.map Source.sourceId).Nodup
  nonempty : ∀ s ∈ sources, s.sourceId ≠ ""

namespace Packed

variable {sources : List Source} {rendered : String} {receipt : PackingReceipt} {rows : List Row}
  (h : Packed bodySha256 policy sources rendered receipt rows)

include h

theorem ids : receipt.sources.map SourceReceipt.sourceId = sources.map Source.sourceId := by
  rw [h.receipts, ← h.sourced, List.map_map, List.map_map]
  exact List.map_congr_left fun row hrow => (h.sound row hrow).sourceId

theorem get?_receipt (hitem : item ∈ receipt.sources) :
    get? (byId SourceReceipt.sourceId receipt.sources) item.sourceId = some item := by
  refine get?_byId (h.ids ▸ h.distinct) hitem ?_
  have hid : item.sourceId ∈ sources.map Source.sourceId := h.ids ▸ List.mem_map_of_mem hitem
  obtain ⟨s, hs, heq⟩ := List.mem_map.mp hid
  exact heq ▸ h.nonempty s hs

theorem suppliedIn_row {row : Row} (hrow : row ∈ rows) :
    suppliedIn receipt row.source.sourceId = true ↔ row.chunk ≠ "" := by
  have hsound := h.sound row hrow
  rw [suppliedIn, ← hsound.sourceId, h.get?_receipt (h.receipts ▸ List.mem_map_of_mem hrow), Option.any_some]
  rcases hsound.placed with ⟨hnot, -, hchunk, -⟩ | ⟨hsupplied, -, hsupplied'⟩
  · simp [hnot, hchunk]
  · simp [hsupplied, hsupplied'.chunk_ne]

theorem again : ∃ receipt', packEvidenceSources bodySha256 policy (sources.filter fun s => suppliedIn receipt s.sourceId) =
    .ok (rendered, receipt') := by
  obtain ⟨hrendered, hreceipt⟩ := packEvidenceSources_eq h.ok
  have halike : Alike (packLoop bodySha256 policy (sources.filter fun s => suppliedIn receipt s.sourceId))
      (packLoop bodySha256 policy sources) := by
    refine packLoop_filter fun before source after hsplit => ?_
    have hmem : sourceReceipt bodySha256 policy (packLoop bodySha256 policy before) source (1 + before.length) ∈
        receipt.sources := by
      rw [hreceipt, hsplit]
      exact mem_receipts_packLoop
    have hget : get? (byId SourceReceipt.sourceId receipt.sources) source.sourceId = some _ := h.get?_receipt hmem
    rw [suppliedIn, hget, Option.any_some, rendered_iff]
    exact decide_eq_true_iff
  have hwithin : (rendered.length : Int) ≤ policy.budgetChars := by
    have hok := h.ok
    simp only [packEvidenceSources, bind_ok, require_ok, exists_const, ← hrendered] at hok
    exact hok.1
  refine ⟨packingReceipt policy (packLoop bodySha256 policy (sources.filter fun s => suppliedIn receipt s.sourceId)) rendered, ?_⟩
  simp only [packEvidenceSources, bind_ok, require_ok, pure_ok, exists_const, halike.blocks]
  exact ⟨hrendered ▸ hwithin, by rw [hrendered]⟩

end Packed

theorem suppliedSourcesAfterPack_ok {assessed : Dict Assessment} {supplied : ResearchSource → Bool} :
    ∀ {sources : List ResearchSource}, (∀ s ∈ sources, isSupplied assessed s = .ok (supplied s)) →
      suppliedSourcesAfterPack assessed sources = .ok (sources.filter supplied)
  | [], _ => rfl
  | s :: sources, h => by
    obtain ⟨hs, hrest⟩ := List.forall_mem_cons.mp h
    simp only [suppliedSourcesAfterPack, hs, suppliedSourcesAfterPack_ok hrest, ok_bind, List.filter_cons]
    rfl

theorem annotate_kept (receipt : PackingReceipt) (a : Assessment) :
    (annotate receipt a).sourceId = a.sourceId ∧ (annotate receipt a).accepted = a.accepted := by
  unfold annotate
  split <;> exact ⟨rfl, rfl⟩

theorem annotate_of_get? (h : get? (byId SourceReceipt.sourceId receipt.sources) a.sourceId = some item) :
    annotate receipt a = { a with supply := some (supplyOf receipt item) } := by
  rw [annotate, h]

theorem isSupplied_annotated {assessments : List Assessment}
    (hitem : get? (byId SourceReceipt.sourceId receipt.sources) s.sourceId = some item) (hne : s.sourceId ≠ "")
    (hassessed : ∃ a ∈ assessments, a.sourceId = s.sourceId) :
    isSupplied (byId Assessment.sourceId (assessments.map (annotate receipt))) s = .ok (suppliedIn receipt s.sourceId) := by
  obtain ⟨a, ha, hid⟩ := hassessed
  have hid' := (annotate_kept receipt a).1.trans hid
  have hne' : (annotate receipt a).sourceId ≠ "" := hid'.symm ▸ hne
  obtain ⟨b, hb⟩ := exists_get?_byId (List.mem_map_of_mem ha) hne'
  rw [hid'] at hb
  obtain ⟨hmem, hbid⟩ := of_get?_byId hb
  obtain ⟨c, -, rfl⟩ := List.mem_map.mp hmem
  have hc : get? (byId SourceReceipt.sourceId receipt.sources) c.sourceId = some item := by
    rw [← (annotate_kept receipt c).1, hbid, hitem]
  rw [isSupplied, hb, annotate_of_get? hc, suppliedIn, hitem]
  rfl

/-! ## The accounting -/

/-- What the accounting checks of an entry of the receipt. -/
structure Entry (research : Research) (item : SourceReceipt) : Prop where
  named : item.sourceId ≠ ""
  bounded : item.suppliedTextChars ≤ item.vettedTextChars
  flag : item.supplied = decide (0 < item.suppliedTextChars)
  length : get? research.sourceTextChars item.sourceId = some item.vettedTextChars

theorem Mode.text_ne (mode : Mode) : mode.text ≠ "" := by
  cases mode <;> decide

theorem accountItem_ok {st : Account}
    (hentry : Entry research item) (hid : a.sourceId = item.sourceId) (hbudget : 0 ≤ receipt.budgetChars)
    (hseen : item.sourceId ∉ st.seen) (hsame : st.budget.getD receipt.budgetChars = receipt.budgetChars)
    (hmode : st.mode.getD receipt.mode.text = receipt.mode.text) :
    ∃ st', accountItem research st (a, supplyOf receipt item) = .ok st' ∧ st'.budget = some receipt.budgetChars ∧
      st'.mode = some receipt.mode.text ∧ st'.seen = st.seen ++ [item.sourceId] ∧
      st'.vettedTextChars = st.vettedTextChars + item.vettedTextChars ∧
      st'.suppliedTextChars = st.suppliedTextChars + item.suppliedTextChars ∧
      st'.suppliedSourceIds.length = st.suppliedSourceIds.length + if item.supplied then 1 else 0 := by
  simp only [accountItem, bind_ok, require_ok, pure_ok, exists_const, hid]
  refine ⟨_, ⟨⟨hentry.named, hseen⟩, rfl, hbudget, Mode.text_ne _, hsame, hmode, hentry.bounded, hentry.length, hentry.flag, rfl⟩,
    rfl, rfl, rfl, rfl, rfl, ?_⟩
  rw [hentry.flag]
  by_cases hcounted : 0 < (supplyOf receipt item).suppliedTextChars
  · have hcounted' : 0 < item.suppliedTextChars := hcounted
    simp [hcounted, hcounted']
  · have hcounted' : ¬ 0 < item.suppliedTextChars := hcounted
    simp [hcounted, hcounted']

theorem foldlM_accountItem (hbudget : 0 ≤ receipt.budgetChars)
    {items : List (Assessment × Supply)} {entries : List SourceReceipt} {st : Account}
    (hitems : List.Forall₂ (fun item entry => item.1.sourceId = entry.sourceId ∧ item.2 = supplyOf receipt entry) items entries)
    (hentries : ∀ entry ∈ entries, Entry research entry) (hnodup : (st.seen ++ entries.map (·.sourceId)).Nodup)
    (hsame : st.budget.getD receipt.budgetChars = receipt.budgetChars)
    (hmode : st.mode.getD receipt.mode.text = receipt.mode.text) :
    ∃ st', items.foldlM (accountItem research) st = .ok st' ∧
      st'.budget = (if items = [] then st.budget else some receipt.budgetChars) ∧
      st'.mode = (if items = [] then st.mode else some receipt.mode.text) ∧
      st'.vettedTextChars = st.vettedTextChars + (entries.map (·.vettedTextChars)).sum ∧
      st'.suppliedTextChars = st.suppliedTextChars + (entries.map (·.suppliedTextChars)).sum ∧
      st'.suppliedSourceIds.length = st.suppliedSourceIds.length + entries.countP (·.supplied) := by
  induction hitems generalizing st with
  | nil => exact ⟨st, rfl, rfl, rfl, rfl, rfl, rfl⟩
  | @cons item entry items entries hhead hrest ih =>
    obtain ⟨a, supply⟩ := item
    obtain ⟨hid, rfl⟩ := hhead
    obtain ⟨hentry, hentries⟩ := List.forall_mem_cons.mp hentries
    have hseen : entry.sourceId ∉ st.seen := fun hmem =>
      (List.nodup_append.mp hnodup).2.2 _ hmem _ (List.mem_cons_self ..) rfl
    obtain ⟨st₁, hstep, hb, hm, hs, hv, hsup, hcount⟩ := accountItem_ok hentry hid hbudget hseen hsame hmode
    have hnodup' : (st₁.seen ++ entries.map (·.sourceId)).Nodup := by
      rw [hs, List.append_assoc]
      exact hnodup
    obtain ⟨st', hrun, hb', hm', hv', hsup', hcount'⟩ := ih hentries hnodup' (by rw [hb]; rfl) (by rw [hm]; rfl)
    refine ⟨st', by rw [List.foldlM_cons, hstep, ok_bind, hrun], ?_, ?_, ?_, ?_, ?_⟩
    · rw [hb', hb, ite_self, if_neg (List.cons_ne_nil _ _)]
    · rw [hm', hm, ite_self, if_neg (List.cons_ne_nil _ _)]
    · rw [hv', hv, List.map_cons, List.sum_cons, Nat.add_assoc]
    · rw [hsup', hsup, List.map_cons, List.sum_cons, Nat.add_assoc]
    · rw [hcount', hcount, List.countP_cons]
      omega

theorem receiptItems_annotate {receipt : PackingReceipt} : ∀ {accepted : List Assessment},
    (∀ a ∈ accepted, ∃ item, get? (byId SourceReceipt.sourceId receipt.sources) a.sourceId = some item) →
    List.Forall₂ (fun item entry => item.1.sourceId = entry.sourceId ∧ item.2 = supplyOf receipt entry)
      (receiptItems (accepted.map (annotate receipt)))
      ((accepted.map (·.sourceId)).filterMap (get? (byId SourceReceipt.sourceId receipt.sources)))
  | [], _ => .nil
  | a :: accepted, h => by
    obtain ⟨⟨item, hitem⟩, hrest⟩ := List.forall_mem_cons.mp h
    have hid : a.sourceId = item.sourceId := (of_get?_byId hitem).2.symm
    simp only [List.map_cons, receiptItems, List.filterMap_cons, annotate_of_get? hitem, hitem, Option.map_some]
    exact .cons ⟨hid, rfl⟩ (receiptItems_annotate hrest)

/-- A report repeats a receipt. -/
structure Accounts {F : Type} (receipt : PackingReceipt) (report : ContextAccounting F) : Prop where
  budget : report.contextBudgetChars = receipt.budgetChars
  mode : report.packingMode = some receipt.mode.text
  vetted : report.vettedSourceCount = receipt.sourceCount
  supplied : report.suppliedSourceCount = receipt.suppliedSourceCount
  vettedChars : report.vettedSourceTextChars = receipt.vettedSourceTextChars
  suppliedChars : report.suppliedSourceTextChars = receipt.suppliedSourceTextChars

theorem receiptContextAccounting_ok {F : Type} (ratio : Nat → Nat → F)
    {assessments : List Assessment} (hassessments : research.sourceAssessments = assessments.map (annotate receipt))
    (hperm : ((assessments.filter (·.accepted)).map (·.sourceId)).Perm (receipt.sources.map (·.sourceId)))
    (hdistinct : (receipt.sources.map (·.sourceId)).Nodup) (hentries : ∀ item ∈ receipt.sources, Entry research item)
    (htotals : Totals receipt) (hbudget : 0 ≤ receipt.budgetChars) :
    if receipt.sources = [] then receiptContextAccounting ratio research = .ok none
    else ∃ report, receiptContextAccounting ratio research = .ok (some report) ∧ Accounts receipt report := by
  set d := byId SourceReceipt.sourceId receipt.sources with hd
  set accepted := assessments.filter (·.accepted) with haccepted
  have hget : ∀ item ∈ receipt.sources, get? d item.sourceId = some item := fun item hitem =>
    get?_byId hdistinct hitem (hentries item hitem).named
  have hfilter : research.sourceAssessments.filter (·.accepted) = accepted.map (annotate receipt) := by
    rw [hassessments, List.filter_map, haccepted]
    exact congrArg _ (List.filter_congr fun a _ => (annotate_kept receipt a).2)
  have hfound : ∀ a ∈ accepted, ∃ item, get? d a.sourceId = some item := by
    intro a ha
    have hid : a.sourceId ∈ receipt.sources.map (·.sourceId) := hperm.subset (List.mem_map_of_mem ha)
    obtain ⟨item, hitem, heq⟩ := List.mem_map.mp hid
    exact ⟨item, heq ▸ hget item hitem⟩
  have hitems := receiptItems_annotate hfound
  -- the entries in the order of the assessments are a permutation of those in the order of the packing
  have hentriesPerm : ((accepted.map (·.sourceId)).filterMap (get? d)).Perm receipt.sources := by
    refine (hperm.filterMap (get? d)).trans (List.Perm.of_eq ?_)
    rw [List.filterMap_map]
    exact (List.filterMap_congr fun item hitem => hget item hitem).trans List.filterMap_some
  have hlength := hitems.length_eq.trans hentriesPerm.length_eq
  obtain ⟨st, hrun, hb, hm, hv, hsup, hcount⟩ := @foldlM_accountItem research receipt hbudget _ _ {} hitems
    (fun entry hentry => hentries entry (hentriesPerm.subset hentry))
    ((hentriesPerm.map _).nodup_iff.mpr hdistinct) rfl rfl
  simp only [receiptContextAccounting, hfilter]
  by_cases hempty : receipt.sources = []
  · rw [if_pos hempty]
    rw [hempty, List.length_nil, List.length_eq_zero_iff] at hlength
    rw [hlength, if_pos rfl]
    rfl
  · rw [if_neg hempty]
    have hne : receiptItems (accepted.map (annotate receipt)) ≠ [] := by
      intro hnil
      rw [hnil, List.length_nil, eq_comm, List.length_eq_zero_iff] at hlength
      exact hempty hlength
    have hcomplete : (receiptItems (accepted.map (annotate receipt))).length = (accepted.map (annotate receipt)).length := by
      rw [hlength, List.length_map, ← List.length_map (f := fun item : SourceReceipt => item.sourceId), ← hperm.length_eq,
        List.length_map]
    rw [if_neg hne] at hb hm ⊢
    simp only [bind_ok, require_ok, pure_ok, exists_const]
    refine ⟨_, ⟨hcomplete, st, hrun, rfl⟩, ?_, ?_, ?_, ?_, ?_, ?_⟩
    · simp [hb]
    · exact hm
    · exact hlength.trans htotals.sourceCount.symm
    · rw [htotals.supplied, ← hentriesPerm.countP_eq]
      simpa using hcount
    · rw [htotals.vettedChars, ← (hentriesPerm.map _).sum_eq]
      simpa using hv
    · rw [htotals.suppliedChars, ← (hentriesPerm.map _).sum_eq]
      simpa using hsup

theorem get?_sourceTextChars (hdistinct : (research.sources.map (·.sourceId)).Nodup)
    (hs : s ∈ research.sources) (husable : s.usable = true) :
    get? research.sourceTextChars s.sourceId = some s.extractedText.length := by
  rw [Research.sourceTextChars, get?_foldl_set (fun s : ResearchSource => s.sourceId) fun s => s.extractedText.length,
    get?_nil, Option.or_none]
  obtain ⟨t, ht⟩ : ∃ t, (research.sources.filter (·.usable)).reverse.find? (fun t => t.sourceId = s.sourceId) = some t := by
    rw [← Option.isSome_iff_exists, List.find?_isSome]
    exact ⟨s, List.mem_reverse.mpr (List.mem_filter.mpr ⟨hs, husable⟩), decide_eq_true rfl⟩
  have hmem := (List.mem_filter.mp (List.mem_reverse.mp (List.mem_of_find?_eq_some ht))).1
  have hid : t.sourceId = s.sourceId := by simpa using List.find?_some ht
  rw [ht, List.inj_on_of_nodup_map hdistinct hmem hs hid]
  rfl

/-! ## Citation authority -/

/-- What a synthesis cites is what it was shown, and its accounting is the packer's. -/
structure CitesRendered (vetted : List ResearchSource) (rendered : String) (receipt : PackingReceipt) (rows : List Row)
    (synthesis : Synthesis) : Prop where
  /-- The rendered text is that of the rows, a row of each source. -/
  aligned : rows.map Row.source = vetted.map (·.toSource)
  blocks : ∀ row ∈ rows, row.Sound
  joined : rendered = rendering rows
  /-- The prompt shows the first rendering, where there is something to show. -/
  evidence : synthesis.evidence = if synthesis.validIds = [] then none else some rendered
  /-- An id passes the gates just when its block is rendered. -/
  cited : ∀ id, (∃ rawIds, id ∈ cited synthesis.validIds rawIds) ↔ ∃ row ∈ rows, row.chunk ≠ "" ∧ row.source.sourceId = id
  /-- The accounting accepts the annotated assessments and repeats the totals of the receipt. -/
  accounts : ∀ (F : Type) (ratio : Nat → Nat → F) (research : Research),
    research.sourceAssessments = synthesis.sourceAssessments →
    vetted ⊆ research.sources → (research.sources.map (·.sourceId)).Nodup →
    if vetted = [] then receiptContextAccounting ratio research = .ok none
    else ∃ report, receiptContextAccounting ratio research = .ok (some report) ∧ Accounts receipt report

/-- **Citation authority equals rendered evidence.** -/
theorem synthesize_cites_rendered (bodySha256 : String → String) {policy : EvidencePackingPolicy}
    (hbudget : 0 < policy.budgetChars)
    {vetted : List ResearchSource} {assessments : List Assessment} (hvetted : Vetted vetted assessments) :
    ∃ rendered receipt rows synthesis,
      packEvidenceSources bodySha256 policy (vetted.map (·.toSource)) = .ok (rendered, receipt) ∧
      synthesize bodySha256 policy vetted assessments = .ok synthesis ∧
      CitesRendered vetted rendered receipt rows synthesis := by
  obtain ⟨rendered, receipt, rows, hok, hsources, hreceipts, hrendered, -, hsound, -, htotals, -⟩ :=
    packEvidenceSources_ok bodySha256 hbudget (vetted.map (·.toSource))
  have hp : Packed bodySha256 policy (vetted.map (·.toSource)) rendered receipt rows :=
    ⟨hok, hsources, hreceipts, hrendered, hsound, htotals, by rw [List.map_map]; exact hvetted.distinct,
      by simpa using hvetted.nonempty⟩
  have hids : receipt.sources.map (·.sourceId) = vetted.map (·.sourceId) := by
    rw [hp.ids, List.map_map]
    rfl
  have hget : ∀ s ∈ vetted, ∃ item, get? (byId SourceReceipt.sourceId receipt.sources) s.sourceId = some item := by
    intro s hs
    obtain ⟨item, hitem, hid⟩ := List.mem_map.mp (hids ▸ List.mem_map_of_mem (f := fun s : ResearchSource => s.sourceId) hs)
    exact ⟨item, hid ▸ hp.get?_receipt hitem⟩
  -- the sources that the annotated assessments name as supplied
  set supplied := vetted.filter fun s => suppliedIn receipt s.sourceId with hsupplied
  have hpack : suppliedSourcesAfterPack (byId Assessment.sourceId (assessments.map (annotate receipt))) vetted =
      .ok supplied := by
    refine suppliedSourcesAfterPack_ok fun s hs => ?_
    obtain ⟨item, hitem⟩ := hget s hs
    obtain ⟨a, ha, hid⟩ := List.mem_map.mp (hvetted.accepted.symm.subset (List.mem_map_of_mem hs))
    exact isSupplied_annotated hitem (hvetted.nonempty s hs) ⟨a, (List.mem_filter.mp ha).1, hid⟩
  have husable : supplied.filter (·.usable) = supplied :=
    List.filter_eq_self.mpr fun s hs => hvetted.usable s (List.mem_filter.mp hs).1
  obtain ⟨receipt', hagain⟩ := hp.again
  rw [List.filter_map] at hagain
  have hsecond : evidenceText bodySha256 policy supplied none = .ok (rendered, none) := evidenceText_eq hagain none
  have hbase : baseSynthesize bodySha256 policy supplied =
      .ok (if supplied = [] then none else some rendered, supplied.map (·.sourceId)) := by
    simp only [baseSynthesize, husable]
    by_cases hnil : supplied = []
    · rw [if_pos hnil, if_pos hnil, hnil]
      rfl
    · rw [if_neg hnil, if_neg hnil, hsecond]
      rfl
  refine ⟨rendered, receipt, rows, ⟨if supplied = [] then none else some rendered, supplied.map (·.sourceId),
    assessments.map (annotate receipt)⟩, hok, ?_, hsources, hsound, hrendered, ?_, ?_, ?_⟩
  · simp only [synthesize, evidenceText_eq hok, ok_bind, Option.map_some, Option.getD_some, hpack, hbase]
    rfl
  · simp only [List.map_eq_nil_iff]
  · intro id
    have hcited : (∃ rawIds, id ∈ cited (supplied.map (·.sourceId)) rawIds) ↔ id ∈ supplied.map (·.sourceId) := by
      refine ⟨?_, fun h => ⟨[id], ?_⟩⟩
      · intro h
        obtain ⟨rawIds, hmem⟩ := h
        exact of_decide_eq_true (List.mem_filter.mp (PyText.mem_dedup.mp hmem)).2
      · exact PyText.mem_dedup.mpr (List.mem_filter.mpr ⟨List.mem_singleton_self id, decide_eq_true h⟩)
    rw [hcited]
    refine ⟨?_, ?_⟩
    · intro h
      obtain ⟨s, hs, rfl⟩ := List.mem_map.mp h
      obtain ⟨hs, hflag⟩ := List.mem_filter.mp hs
      obtain ⟨row, hrow, heq⟩ := List.mem_map.mp
          (hsources.symm ▸ List.mem_map_of_mem (f := fun s : ResearchSource => s.toSource) hs)
      rw [← heq, hp.suppliedIn_row hrow] at hflag
      exact ⟨row, hrow, hflag, by rw [heq]⟩
    · intro h
      obtain ⟨row, hrow, hchunk, rfl⟩ := h
      obtain ⟨s, hs, heq⟩ := List.mem_map.mp (hsources ▸ List.mem_map_of_mem (f := Row.source) hrow)
      refine List.mem_map.mpr ⟨s, List.mem_filter.mpr ⟨hs, ?_⟩, by rw [heq]⟩
      rw [heq]
      exact (hp.suppliedIn_row hrow).mpr hchunk
  · intro F ratio research hassessments hlisted hdistinct
    have hentries : ∀ item ∈ receipt.sources, Entry research item := by
      intro item hitem
      rw [hreceipts] at hitem
      obtain ⟨row, hrow, rfl⟩ := List.mem_map.mp hitem
      have hrowSound := hsound row hrow
      obtain ⟨s, hs, heq⟩ := List.mem_map.mp (hsources ▸ List.mem_map_of_mem (f := Row.source) hrow)
      have hlength := get?_sourceTextChars hdistinct (hlisted hs) (hvetted.usable s hs)
      rw [heq, ← hrowSound.sourceId, ← hrowSound.vetted] at hlength
      refine ⟨?_, ?_, ?_, hlength⟩
      · rw [hrowSound.sourceId, ← heq]
        exact hvetted.nonempty s hs
      · rcases hrowSound.placed with ⟨-, hzero, -⟩ | ⟨-, -, hsup⟩
        · omega
        · rw [hrowSound.vetted]
          exact hsup.bounded
      · rcases hrowSound.placed with ⟨hnot, hzero, -⟩ | ⟨hyes, -, hsup⟩
        · rw [hnot, hzero]
          rfl
        · rw [hyes, decide_eq_true hsup.positive]
    have hempty : receipt.sources = [] ↔ vetted = [] := by
      rw [← List.map_eq_nil_iff, hids, List.map_eq_nil_iff]
    have haccounts := receiptContextAccounting_ok ratio hassessments (hids ▸ hvetted.accepted) (hids ▸ hvetted.distinct) hentries
      htotals (by rw [(packEvidenceSources_eq hok).2]; exact hbudget.le)
    simpa only [hempty] using haccounts

namespace Sample

def sources : List ResearchSource :=
  [{ sourceId := "S1", extractedText := "body", fetchStatus := "ok" },
  { sourceId := "S2", extractedText := "body", fetchStatus := "ok" }]

def assessments : List Assessment :=
  [⟨"S3", "low", false, none⟩, ⟨"S2", "medium", true, none⟩, ⟨"S1", "high", true, none⟩]

theorem sources_vetted : Vetted sources assessments := ⟨by decide, by decide, by decide, by decide⟩

theorem synthesize_cites_rendered_sample : ∃ rendered receipt rows synthesis,
    packEvidenceSources id { exactBodyDedupe := true } (sources.map (·.toSource)) = .ok (rendered, receipt) ∧
      synthesize id { exactBodyDedupe := true } sources assessments = .ok synthesis ∧
      CitesRendered sources rendered receipt rows synthesis :=
  synthesize_cites_rendered id (by decide) sources_vetted

end Sample

end ResearchSynthesis

end ThreeAgent
