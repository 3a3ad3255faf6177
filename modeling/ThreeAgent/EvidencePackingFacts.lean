/-
The ranking of evidence and its packing. The ranking is a stable sort, but
its receipt scores a source without an assessment as an empty assessment,
not as it was ranked. The packing is followed row by row: a source, its entry
in the receipt and its chunk; the invariant of the loop says what the
totals are and how long the rendering is.
-/
import ThreeAgent.EvidencePacking
import ThreeAgent.Lib.Chronicle
import ThreeAgent.Lib.WholeFloat

namespace ThreeAgent.EvidencePacking

open Outcome PyDict PyJson PyText Chronicle

/-! ## The ranking -/

section Ranking

variable {F : Type} [PyRuntime F]

/-- Some assessment is of the source. -/
def Assessed (assessments : List (Json F)) (source : Source) : Prop :=
  source.sourceId ≠ "" ∧ ∃ item ∈ assessments, item.isDict = true ∧ assessedId item = source.sourceId

theorem get?_assessmentMap (assessments : List (Json F)) (id : String) :
    get? (assessmentMap assessments) id =
      ((assessments.filter fun item => item.isDict && assessedId item ≠ "").reverse.find? fun item => assessedId item = id) := by
  rw [assessmentMap, get?_foldl_set assessedId fun item => item]
  simp

variable {source : Source}

theorem has_assessmentMap {assessments : List (Json F)} :
    has (assessmentMap assessments) source.sourceId = true ↔ Assessed assessments source := by
  rw [has, get?_assessmentMap, List.find?_isSome]
  constructor
  · rintro ⟨item, hitem, hid⟩
    obtain ⟨hmem, hkept⟩ := List.mem_filter.mp (List.mem_reverse.mp hitem)
    rw [Bool.and_eq_true, decide_eq_true_eq] at hkept
    rw [decide_eq_true_eq] at hid
    exact ⟨hid ▸ hkept.2, item, hmem, hkept.1, hid⟩
  · rintro ⟨hne, item, hmem, hdict, hid⟩
    refine ⟨item, List.mem_reverse.mpr (List.mem_filter.mpr ⟨hmem, ?_⟩), decide_eq_true hid⟩
    rw [hdict, Bool.true_and, hid]
    exact decide_eq_true hne

theorem assessmentScore_empty : assessmentScore (some (.obj [] : Json F)) = 0 := by
  have hword : ∀ key, word (.obj [] : Json F) key = "" := by
    intro key
    show lower (strip "") = ""
    decide
  have hbool : ∀ key b, isBool (.obj [] : Json F) key b = false := fun _ _ => rfl
  unfold assessmentScore
  simp only [hword, hbool]
  decide

theorem rankReceipt_score_iff {byId : Dict (Json F)} {rank : Nat} :
    (rankReceipt byId source rank).score = sourceScore byId source ↔ has byId source.sourceId = true := by
  unfold rankReceipt sourceScore has
  cases get? byId source.sourceId with
  | none =>
    have hnone : assessmentScore (none : Option (Json F)) = -1000 := rfl
    simp [assessmentScore_empty, hnone]
  | some item => simp

theorem receipt_scores_iff {byId : Dict (Json F)} {ranked : List Source} : ∀ rank : Nat,
    ((ranked.zipIdx rank).map fun e => rankReceipt byId e.1 e.2).map (·.score) = ranked.map (sourceScore byId) ↔
      ∀ source ∈ ranked, has byId source.sourceId = true := by
  induction ranked with
  | nil => simp
  | cons source ranked ih =>
    intro rank
    rw [List.zipIdx_cons, List.map_cons, List.map_cons, List.map_cons, List.cons.injEq, List.forall_mem_cons, ih,
      rankReceipt_score_iff]

/-- What the ranking promises: a permutation of the sources that keeps the order of those of one score, with a receipt
whose scores are those they were ranked by and do not increase. -/
structure Ranked (assessments : List (Json F)) (sources : List Source) (result : List Source × List (RankReceipt F)) :
    Prop where
  perm : result.1.Perm sources
  stable : ∀ score, result.1.filter (fun source => sourceScore (assessmentMap assessments) source = score) =
    sources.filter fun source => sourceScore (assessmentMap assessments) source = score
  scores : result.2.map (·.score) = result.1.map (sourceScore (assessmentMap assessments))
  descending : (result.2.map (·.score)).Pairwise fun a b => b ≤ a

/-- **The receipt tells the ranking** just when every source has an assessment. -/
theorem rankVettedSources_ranked_iff {policy : EvidencePackingPolicy} (hmode : policy.mode = .qualityRanked)
    (sources : List Source) (assessments : List (Json F)) :
    Ranked assessments sources (rankVettedSources policy sources assessments) ↔
      ∀ source ∈ sources, Assessed assessments source := by
  set byId := assessmentMap assessments with hbyId
  set ranked := Ranking.rank (fun source => -sourceScore byId source) sources with hranked
  have hresult : rankVettedSources policy sources assessments =
      (ranked, (ranked.zipIdx 1).map fun e => rankReceipt byId e.1 e.2) := by
    unfold rankVettedSources
    rw [hmode]
  have hperm : ranked.Perm sources := Ranking.rank_perm _ sources
  have hassessed : (∀ source ∈ ranked, has byId source.sourceId = true) ↔ ∀ source ∈ sources, Assessed assessments source := by
    constructor
    · intro h source hmem
      exact has_assessmentMap.mp (h source (hperm.mem_iff.mpr hmem))
    · intro h source hmem
      exact has_assessmentMap.mpr (h source (hperm.mem_iff.mp hmem))
  rw [hresult, ← hassessed]
  constructor
  · intro h
    exact (receipt_scores_iff 1).mp h.scores
  · intro h
    have hscores := (receipt_scores_iff 1).mpr h
    refine ⟨hperm, ?_, hscores, ?_⟩
    · intro score
      have hfilter := Ranking.filter_rank (fun source => -sourceScore byId source) sources (-score)
      simp only [neg_inj] at hfilter
      exact hfilter
    · rw [hscores, List.pairwise_map]
      exact (Ranking.rank_pairwise (fun source => -sourceScore byId source) sources).imp Int.neg_le_neg_iff.mp

end Ranking

namespace Sample

def ranking : EvidencePackingPolicy := { mode := .qualityRanked }

def collected : List Source := [{ sourceId := "S1" }, { sourceId := "S2" }]

def assessedFirst : Json WholeFloat :=
  .obj [("relevance", .str "low"), ("source_id", .str "S1"), ("time_match", .bool false)]

def assessedSecond : Json WholeFloat := .obj [("relevance", .str "high"), ("source_id", .str "S2")]

/-- Without an assessment the second source comes last, and the receipt gives it the higher score. -/
theorem rankVettedSources_misreported :
    ¬ ∀ (policy : EvidencePackingPolicy) (sources : List Source) (assessments : List (Json WholeFloat)),
      policy.mode = .qualityRanked → Ranked assessments sources (rankVettedSources policy sources assessments) := by
  intro h
  have hranked : Ranking.rank (fun source => -sourceScore (assessmentMap [assessedFirst]) source) collected = collected :=
    Ranking.rank_of_pairwise (by decide)
  have hdescending := (h ranking collected [assessedFirst] rfl).descending
  simp only [rankVettedSources, ranking, hranked] at hdescending
  exact absurd hdescending (by decide)

theorem rankVettedSources_ranked_collected :
    Ranked [assessedFirst, assessedSecond] collected (rankVettedSources ranking collected [assessedFirst, assessedSecond]) := by
  refine (rankVettedSources_ranked_iff (show ranking.mode = .qualityRanked from rfl) collected
    [assessedFirst, assessedSecond]).mpr ?_
  intro source hsource
  rcases List.mem_cons.mp hsource with rfl | hsource
  · exact ⟨by decide, assessedFirst, by simp, rfl, by decide⟩
  · rw [List.mem_singleton.mp hsource]
    exact ⟨by decide, assessedSecond, by simp, rfl, by decide⟩

end Sample

/-! ## The hard pack -/

theorem prefixOf_length (n : Nat) (text : String) : (prefixOf n text).length = min n text.length := by
  rw [prefixOf, String.length_ofList, List.length_take, String.length_toList]

theorem prefixOf_all (text : String) : prefixOf text.length text = text := by
  rw [prefixOf, ← String.length_toList, List.take_length, String.ofList_toList]

/-- Nothing of a source is supplied. -/
structure Skipped (remaining : Int) (separatorCost : Nat) (source : Source) (duplicateOf : Option String)
    (fitted : Fitted) : Prop where
  chunk : fitted.chunk = ""
  included : fitted.includedTextChars = 0
  partial_ : fitted.bodyFullySupplied = false
  reason : fitted.skipReason ≠ none
  duplicate : fitted.skipReason = some .exactBodyDuplicate → duplicateOf.isSome = true
  budget : fitted.skipReason.any (·.isBudget) = true → remaining < separatorCost + source.header.length + 1

/-- A source is supplied: its whole header, a part of its text that is not empty, and a line break only where the text
is whole. -/
structure Supplied (source : Source) (chunk : String) (included : Nat) (fully : Bool) : Prop where
  positive : 0 < included
  bounded : included ≤ source.extractedText.length
  whole : fully = decide (included = source.extractedText.length)
  chunk : ∃ suffix, (suffix = "" ∨ suffix = "\n" ∧ fully = true) ∧
    chunk = source.header ++ prefixOf included source.extractedText ++ suffix

theorem fit_cases (remaining : Int) (separatorCost : Nat) (source : Source) (duplicateOf : Option String) :
    Skipped remaining separatorCost source duplicateOf (fit remaining separatorCost source duplicateOf) ∨
      ∃ fitted, fit remaining separatorCost source duplicateOf = fitted ∧ fitted.skipReason = none ∧
        Supplied source fitted.chunk fitted.includedTextChars fitted.bodyFullySupplied ∧
        (separatorCost + fitted.chunk.length : Int) ≤ remaining := by
  unfold fit
  dsimp only
  by_cases htext : source.extractedText = ""
  · rw [if_pos htext]
    exact .inl ⟨rfl, rfl, rfl, by simp, by simp, by simp [SkipReason.isBudget]⟩
  rw [if_neg htext]
  by_cases hduplicate : duplicateOf.isSome = true
  · rw [if_pos hduplicate]
    exact .inl ⟨rfl, rfl, rfl, by simp, fun _ => hduplicate, by simp [SkipReason.isBudget]⟩
  rw [if_neg hduplicate]
  by_cases hfits : remaining < separatorCost + source.header.length + 1
  · rw [if_pos hfits]
    exact .inl ⟨rfl, rfl, rfl, by simp, by simp, fun _ => hfits⟩
  rw [if_neg hfits]
  right
  have hlength : 0 < source.extractedText.length := by
    rw [Nat.pos_iff_ne_zero, Ne, String.length_eq_zero_iff]
    exact htext
  by_cases hwhole : (source.extractedText.length : Int) + 1 ≤ remaining - separatorCost - source.header.length
  · simp only [decide_eq_true hwhole, if_true, if_neg hlength.ne']
    refine ⟨_, rfl, rfl, ⟨hlength, le_rfl, by simp, "\n", .inr ⟨rfl, by simp⟩, by rw [prefixOf_all]⟩, ?_⟩
    have hbreak : ("\n" : String).length = 1 := rfl
    simp only [String.length_append, hbreak]
    omega
  · set available := (remaining - separatorCost - source.header.length).toNat with havailable
    have hcast : (available : Int) = remaining - separatorCost - source.header.length := by omega
    have hbody := prefixOf_length available source.extractedText
    have hmin : min available source.extractedText.length = available := by omega
    simp only [decide_eq_false hwhole, Bool.false_eq_true, if_false, hbody, hmin]
    rw [if_neg (by omega)]
    refine ⟨_, rfl, rfl, ⟨by dsimp only; omega, by dsimp only; omega, rfl, "", .inl rfl, rfl⟩, ?_⟩
    have hempty : ("" : String).length = 0 := rfl
    simp only [String.length_append, hbody, hmin, hempty]
    omega

/-! ### Rows -/

/-- A source, its entry in the receipt, and its chunk. -/
structure Row where
  source : Source
  receipt : SourceReceipt
  chunk : String

/-- What a row says is what was done with the source. -/
structure Row.Sound (row : Row) : Prop where
  sourceId : row.receipt.sourceId = row.source.sourceId
  vetted : row.receipt.vettedTextChars = row.source.extractedText.length
  preserved : row.receipt.provenanceHeaderPreserved = row.receipt.supplied
  suppressed : row.receipt.exactBodyDuplicateSuppressed = true ↔ row.receipt.skipReason = some .exactBodyDuplicate
  placed : (row.receipt.supplied = false ∧ row.receipt.suppliedTextChars = 0 ∧ row.chunk = "" ∧
      row.receipt.bodyFullySupplied = false ∧ row.receipt.skipReason ≠ none) ∨
    (row.receipt.supplied = true ∧ row.receipt.skipReason = none ∧
      Supplied row.source row.chunk row.receipt.suppliedTextChars row.receipt.bodyFullySupplied)

def chunks (rows : List Row) : List String := (rows.map (·.chunk)).filter (· ≠ "")

/-- What rows are rendered as. -/
def rendering (rows : List Row) : String := separator.intercalate (chunks rows)

/-- What a separator costs after rows. -/
def separatorAfter (rows : List Row) : Nat := if chunks rows = [] then 0 else separator.length

/-- A source is skipped for the budget only if its separator, its header and a character do not fit into what the
sources before it left. -/
def SkippedForBudget (budgetChars : Int) (before : List Row) (row : Row) : Prop :=
  row.receipt.skipReason.any (·.isBudget) = true →
    budgetChars - (rendering before).length < separatorAfter before + row.source.header.length + 1

/-- A suppressed body has the digest of a body that an earlier source supplied in full, which the entry names. -/
def SuppressedAs (same : String → String → Prop) (before : List Row) (row : Row) : Prop :=
  row.receipt.exactBodyDuplicateSuppressed = true →
    ∃ earlier ∈ before, row.receipt.duplicateOfSourceId = some earlier.source.sourceId ∧
      earlier.receipt.bodyFullySupplied = true ∧ same earlier.source.extractedText row.source.extractedText

/-! ### The loop -/

theorem length_intercalate (separator : String) (parts : List String) :
    (separator.intercalate parts).length = (parts.map String.length).sum + (parts.length - 1) * separator.length := by
  match parts with
  | [] => rw [String.intercalate_nil]; simp
  | [part] => rw [String.intercalate_singleton]; simp
  | part :: part' :: parts =>
    have hrest := length_intercalate separator (part' :: parts)
    rw [String.intercalate_cons_cons]
    simp only [String.length_append, hrest, List.map_cons, List.sum_cons, List.length_cons, Nat.add_sub_cancel]
    rw [Nat.add_mul, Nat.one_mul]
    omega

variable {bodySha256 : String → String} {policy : EvidencePackingPolicy}

/-- The invariant of the loop, over the rows of the sources that it has gone through. -/
structure Loop (bodySha256 : String → String) (policy : EvidencePackingPolicy) (rows : List Row) (st : Packing) :
    Prop where
  blocks : st.blocks = chunks rows
  receipts : st.sourceReceipts = rows.map (·.receipt)
  vetted : st.vettedTextChars = (st.sourceReceipts.map (·.vettedTextChars)).sum
  supplied : st.suppliedTextChars = (st.sourceReceipts.map (·.suppliedTextChars)).sum
  sources : st.suppliedSources = st.sourceReceipts.countP (·.supplied)
  skips : st.headerBudgetSkips = st.sourceReceipts.countP fun r => r.skipReason.any (·.isBudget)
  packed : st.packedChunkChars = (st.blocks.map String.length).sum
  duplicates : st.duplicateBodiesSuppressed = st.sourceReceipts.countP (·.exactBodyDuplicateSuppressed)
  saved : st.duplicateTextCharsSaved =
    ((st.sourceReceipts.filter (·.exactBodyDuplicateSuppressed)).map (·.vettedTextChars)).sum
  sound : ∀ row ∈ rows, row.Sound
  budget : Throughout (SkippedForBudget policy.budgetChars) rows
  suppressed : Throughout (SuppressedAs fun text text' => bodySha256 text = bodySha256 text') rows
  bodies : ∀ digest id, get? st.fullySuppliedBodySources digest = some id → ∃ row ∈ rows,
    row.source.sourceId = id ∧ row.receipt.bodyFullySupplied = true ∧ bodySha256 row.source.extractedText = digest
  within : ((rendering rows).length : Int) ≤ policy.budgetChars

theorem Loop.init (h : 0 ≤ policy.budgetChars) : Loop bodySha256 policy [] {} where
  blocks := rfl
  receipts := rfl
  vetted := rfl
  supplied := rfl
  sources := rfl
  skips := rfl
  packed := rfl
  duplicates := rfl
  saved := rfl
  sound := by simp
  budget := .nil
  suppressed := .nil
  bodies := by simp
  within := by
    rw [rendering, chunks, List.map_nil, List.filter_nil, String.intercalate_nil]
    exact h

theorem Loop.remaining_eq {rows : List Row} {st : Packing} (h : Loop bodySha256 policy rows st) :
    remaining policy st = policy.budgetChars - (rendering rows).length := by
  rw [remaining, rendering, length_intercalate, ← h.blocks, h.packed]

theorem Loop.separatorCost_eq {rows : List Row} {st : Packing} (h : Loop bodySha256 policy rows st) :
    separatorCost st = separatorAfter rows := by
  rw [separatorCost, separatorAfter, h.blocks]

def nextRow (bodySha256 : String → String) (policy : EvidencePackingPolicy) (st : Packing) (source : Source) (rank : Nat) :
    Row :=
  ⟨source, sourceReceipt bodySha256 policy st source rank, (fitted bodySha256 policy st source).chunk⟩

theorem header_ne (source : Source) (text : String) : source.header ++ text ≠ "" := by
  intro h
  have hlength := congrArg String.length h
  have hbracket : ("[" : String).length = 1 := rfl
  have hempty : ("" : String).length = 0 := rfl
  simp only [Source.header, String.length_append, hbracket, hempty] at hlength
  omega

theorem Supplied.chunk_ne {chunk : String} {included : Nat} {fully : Bool}
    (h : Supplied source chunk included fully) : chunk ≠ "" := by
  obtain ⟨suffix, -, rfl⟩ := h.chunk
  rw [String.append_assoc]
  exact header_ne source _

theorem nextRow_sound (st : Packing) (source : Source) (rank : Nat) :
    (nextRow bodySha256 policy st source rank).Sound := by
  refine ⟨rfl, rfl, rfl, by simp [nextRow, sourceReceipt], ?_⟩
  rcases fit_cases (remaining policy st) (separatorCost st) source (duplicateOf bodySha256 policy st source) with
    h | ⟨f, hf, hreason, hsupplied, -⟩
  · left
    refine ⟨?_, h.included, h.chunk, h.partial_, h.reason⟩
    exact decide_eq_false (by rw [fitted, h.included]; exact lt_irrefl 0)
  · right
    subst hf
    exact ⟨decide_eq_true hsupplied.positive, hreason, hsupplied⟩

theorem rendered_iff (st : Packing) (source : Source) :
    (fitted bodySha256 policy st source).chunk ≠ "" ↔ 0 < (fitted bodySha256 policy st source).includedTextChars := by
  rcases fit_cases (remaining policy st) (separatorCost st) source (duplicateOf bodySha256 policy st source) with
    h | ⟨f, hf, -, hsupplied, -⟩
  · rw [fitted, h.chunk, h.included]
    simp
  · rw [fitted, hf]
    exact ⟨fun _ => hsupplied.positive, fun _ => hsupplied.chunk_ne⟩

theorem chunks_snoc (rows : List Row) (row : Row) :
    chunks (rows ++ [row]) = if row.chunk ≠ "" then chunks rows ++ [row.chunk] else chunks rows := by
  by_cases h : row.chunk = "" <;> simp [chunks, h]

theorem rendering_snoc (rows : List Row) (row : Row) :
    (rendering (rows ++ [row])).length =
      (rendering rows).length + if row.chunk ≠ "" then separatorAfter rows + row.chunk.length else 0 := by
  rw [rendering, rendering, length_intercalate, length_intercalate, chunks_snoc, separatorAfter]
  by_cases h : row.chunk = ""
  · simp [h]
  · rw [if_pos h, if_pos h, List.map_append, List.sum_append, List.length_append]
    simp only [List.map_cons, List.map_nil, List.sum_cons, List.sum_nil, List.length_cons, List.length_nil]
    by_cases hfirst : chunks rows = []
    · simp [hfirst]
    · have hlength : 0 < (chunks rows).length := List.length_pos_iff.mpr hfirst
      obtain ⟨n, hn⟩ : ∃ n, (chunks rows).length = n + 1 := ⟨_, (Nat.succ_pred_eq_of_pos hlength).symm⟩
      rw [if_neg hfirst]
      simp only [hn, Nat.add_sub_cancel, Nat.add_zero, Nat.zero_add, Nat.add_mul, Nat.one_mul]
      omega

section Step

variable {rows : List Row} {st : Packing} (source : Source) (rank : Nat)

section

variable (h : Loop bodySha256 policy rows st)
include h

theorem Loop.budget_next :
    SkippedForBudget policy.budgetChars rows (nextRow bodySha256 policy st source rank) := by
  intro hreason
  rw [← h.remaining_eq, ← h.separatorCost_eq]
  rcases fit_cases (remaining policy st) (separatorCost st) source (duplicateOf bodySha256 policy st source) with
    hskipped | ⟨f, hf, hnone, -, -⟩
  · exact hskipped.budget hreason
  · have hreason' : f.skipReason.any (·.isBudget) = true := hf ▸ hreason
    rw [hnone] at hreason'
    cases hreason'

theorem Loop.suppressed_next :
    SuppressedAs (fun text text' => bodySha256 text = bodySha256 text') rows
      (nextRow bodySha256 policy st source rank) := by
  intro hsuppressed
  have hreason : (fitted bodySha256 policy st source).skipReason = some .exactBodyDuplicate := of_decide_eq_true hsuppressed
  have hsome : (duplicateOf bodySha256 policy st source).isSome = true := by
    rcases fit_cases (remaining policy st) (separatorCost st) source (duplicateOf bodySha256 policy st source) with
      hskipped | ⟨f, hf, hnone, -, -⟩
    · exact hskipped.duplicate hreason
    · rw [fitted, hf, hnone] at hreason
      cases hreason
  obtain ⟨id, hid⟩ := Option.isSome_iff_exists.mp hsome
  obtain ⟨digest, hdigest, hget⟩ := Option.bind_eq_some_iff.mp hid
  obtain ⟨earlier, hmem, hname, hfully, hsame⟩ := h.bodies digest id hget
  refine ⟨earlier, hmem, ?_, hfully, ?_⟩
  · rw [hname]
    exact hid
  · rw [digestOf] at hdigest
    split at hdigest
    · rw [Option.some_inj] at hdigest
      exact hsame.trans hdigest.symm
    · cases hdigest

theorem Loop.bodies_next {digest id : String}
    (hget : get? (suppliedBodies bodySha256 policy st source) digest = some id) :
    ∃ row ∈ rows ++ [nextRow bodySha256 policy st source rank], row.source.sourceId = id ∧
      row.receipt.bodyFullySupplied = true ∧ bodySha256 row.source.extractedText = digest := by
  have hold : get? st.fullySuppliedBodySources digest = some id →
      ∃ row ∈ rows ++ [nextRow bodySha256 policy st source rank], row.source.sourceId = id ∧
        row.receipt.bodyFullySupplied = true ∧ bodySha256 row.source.extractedText = digest := by
    intro hget
    obtain ⟨row, hmem, hrow⟩ := h.bodies digest id hget
    exact ⟨row, List.mem_append_left _ hmem, hrow⟩
  unfold suppliedBodies at hget
  dsimp only at hget
  cases hdigest : digestOf bodySha256 policy source with
  | none =>
    rw [hdigest] at hget
    exact hold hget
  | some digest' =>
    rw [hdigest] at hget
    dsimp only at hget
    split at hget
    · rename_i hnew
      rw [get?_set] at hget
      split at hget
      · rename_i hsame
        rw [Option.some_inj] at hget
        refine ⟨_, List.mem_append_right _ (List.mem_singleton_self _), hget, hnew.2.1, ?_⟩
        rw [digestOf] at hdigest
        split at hdigest
        · rw [Option.some_inj] at hdigest
          exact hdigest.trans hsame
        · cases hdigest
      · exact hold hget
    · exact hold hget

theorem Loop.within_next :
    ((rendering (rows ++ [nextRow bodySha256 policy st source rank])).length : Int) ≤ policy.budgetChars := by
  have hwithin := h.within
  have hremaining := h.remaining_eq
  have hcost := h.separatorCost_eq
  rw [rendering_snoc]
  show ((_ + if (fitted bodySha256 policy st source).chunk ≠ "" then
    separatorAfter rows + (fitted bodySha256 policy st source).chunk.length else 0 : Nat) : Int) ≤ _
  rcases fit_cases (remaining policy st) (separatorCost st) source (duplicateOf bodySha256 policy st source) with
    hskipped | ⟨f, hf, -, hsupplied, hfits⟩
  · rw [if_neg (by rw [fitted, hskipped.chunk]; simp)]
    simpa using hwithin
  · rw [fitted, hf, if_pos hsupplied.chunk_ne]
    push_cast
    omega

theorem Loop.step :
    Loop bodySha256 policy (rows ++ [nextRow bodySha256 policy st source rank])
      (packSource bodySha256 policy st source rank) := by
  have hrendered := @rendered_iff bodySha256 policy st source
  have hreceipts : (packSource bodySha256 policy st source rank).sourceReceipts =
      st.sourceReceipts ++ [sourceReceipt bodySha256 policy st source rank] := rfl
  have hzero : (fitted bodySha256 policy st source).chunk = "" →
      (fitted bodySha256 policy st source).includedTextChars = 0 := fun hchunk =>
    Nat.eq_zero_of_not_pos fun hpos => hrendered.mpr hpos hchunk
  refine ⟨?_, ?_, ?_, ?_, ?_, ?_, ?_, ?_, ?_, ?_, h.budget.snoc (h.budget_next source rank),
    h.suppressed.snoc (h.suppressed_next source rank), fun _ _ => h.bodies_next source rank,
    h.within_next source rank⟩
  · rw [chunks_snoc, ← h.blocks]
    rfl
  · rw [hreceipts, List.map_append, ← h.receipts]
    rfl
  · rw [hreceipts, List.map_append, List.sum_append, ← h.vetted]
    simp [packSource, sourceReceipt]
  · rw [hreceipts, List.map_append, List.sum_append, ← h.supplied]
    by_cases hchunk : (fitted bodySha256 policy st source).chunk = ""
    · simp [packSource, sourceReceipt, hchunk, hzero hchunk]
    · simp [packSource, sourceReceipt, hchunk]
  · rw [hreceipts, List.countP_append, ← h.sources]
    by_cases hchunk : (fitted bodySha256 policy st source).chunk = ""
    · simp [packSource, sourceReceipt, hchunk, hzero hchunk]
    · simp [packSource, sourceReceipt, hchunk, hrendered.mp hchunk]
  · rw [hreceipts, List.countP_append, ← h.skips]
    simp [packSource, sourceReceipt, List.countP_cons, apply_ite]
  · by_cases hchunk : (fitted bodySha256 policy st source).chunk = ""
    · simp [packSource, hchunk, h.packed]
    · simp [packSource, hchunk, h.packed]
  · rw [hreceipts, List.countP_append, ← h.duplicates]
    simp [packSource, sourceReceipt, List.countP_cons, apply_ite]
  · rw [hreceipts, List.filter_append, List.map_append, List.sum_append, ← h.saved]
    by_cases hsuppressed : (fitted bodySha256 policy st source).skipReason = some .exactBodyDuplicate <;>
      simp [packSource, sourceReceipt, hsuppressed]
  · intro row hrow
    rcases List.mem_append.mp hrow with hrow | hrow
    · exact h.sound row hrow
    · rw [List.mem_singleton.mp hrow]
      exact nextRow_sound st source rank

end

end Step

theorem packLoop_rows (h : 0 ≤ policy.budgetChars) (sources : List Source) :
    ∃ rows, rows.map (·.source) = sources ∧ Loop bodySha256 policy rows (packLoop bodySha256 policy sources) := by
  induction sources using List.reverseRecOn with
  | nil => exact ⟨[], rfl, .init h⟩
  | append_singleton sources source ih =>
    obtain ⟨rows, hsources, hloop⟩ := ih
    refine ⟨rows ++ [nextRow bodySha256 policy (packLoop bodySha256 policy sources) source (1 + sources.length)], ?_, ?_⟩
    · rw [List.map_append, hsources]
      rfl
    · have hsnoc : packLoop bodySha256 policy (sources ++ [source]) =
          packSource bodySha256 policy (packLoop bodySha256 policy sources) source (1 + sources.length) := by
        rw [packLoop, List.zipIdx_append, List.foldl_append]
        rfl
      rw [hsnoc]
      exact hloop.step source _

/-- The totals of a receipt are the sums of its entries. -/
structure Totals (receipt : PackingReceipt) : Prop where
  sourceCount : receipt.sourceCount = receipt.sources.length
  supplied : receipt.suppliedSourceCount = receipt.sources.countP (·.supplied)
  vettedChars : receipt.vettedSourceTextChars = (receipt.sources.map (·.vettedTextChars)).sum
  suppliedChars : receipt.suppliedSourceTextChars = (receipt.sources.map (·.suppliedTextChars)).sum
  suppressed : receipt.exactDuplicateBodiesSuppressed = receipt.sources.countP (·.exactBodyDuplicateSuppressed)
  saved : receipt.exactDuplicateTextCharsSaved =
    ((receipt.sources.filter (·.exactBodyDuplicateSuppressed)).map (·.vettedTextChars)).sum
  skipped : receipt.sourcesSkippedForHeaderBudget = receipt.sources.countP fun r => r.skipReason.any (·.isBudget)

/-- **The hard pack.** It never overruns a positive budget; what it renders are the whole headers with parts of the
texts, row by row; and the receipt says what was done and why. -/
theorem packEvidenceSources_ok (bodySha256 : String → String) {policy : EvidencePackingPolicy}
    (hbudget : 0 < policy.budgetChars) (sources : List Source) :
    ∃ rendered receipt rows, packEvidenceSources bodySha256 policy sources = .ok (rendered, receipt) ∧
      rows.map Row.source = sources ∧ receipt.sources = rows.map Row.receipt ∧ rendered = rendering rows ∧
      (rendered.length : Int) ≤ policy.budgetChars ∧ (∀ row ∈ rows, row.Sound) ∧
      Throughout (SkippedForBudget policy.budgetChars) rows ∧ Totals receipt ∧
      receipt.packedChunkChars = ((chunks rows).map String.length).sum ∧
      receipt.packedOutputChars = rendered.length ∧
      receipt.packedOutputChars = receipt.packedChunkChars + receipt.separatorChars ∧
      (Function.Injective bodySha256 → Throughout (SuppressedAs fun text text' => text = text') rows) := by
  obtain ⟨rows, hsources, hloop⟩ := @packLoop_rows bodySha256 policy hbudget.le sources
  have hrendered : separator.intercalate (packLoop bodySha256 policy sources).blocks = rendering rows := by
    rw [hloop.blocks]
    rfl
  have hrun := hloop.within
  rw [← hrendered] at hrun
  have hok : packEvidenceSources bodySha256 policy sources =
      .ok (separator.intercalate (packLoop bodySha256 policy sources).blocks,
        packingReceipt policy (packLoop bodySha256 policy sources)
          (separator.intercalate (packLoop bodySha256 policy sources).blocks)) := by
    unfold packEvidenceSources
    dsimp only
    rw [require, if_pos hrun]
    rfl
  refine ⟨_, _, rows, hok, hsources, hloop.receipts, hrendered, hrun, hloop.sound, hloop.budget, ?_, ?_, rfl, ?_, ?_⟩
  · exact ⟨rfl, hloop.sources, hloop.vetted, hloop.supplied, hloop.duplicates, hloop.saved, hloop.skips⟩
  · rw [← hloop.blocks]
    exact hloop.packed
  · show (separator.intercalate (packLoop bodySha256 policy sources).blocks).length =
      (packLoop bodySha256 policy sources).packedChunkChars +
        ((packLoop bodySha256 policy sources).blocks.length - 1) * separator.length
    rw [length_intercalate, hloop.packed]
  · intro hinjective before row after hsplit hsuppressed
    obtain ⟨earlier, hmem, hname, hfully, hsame⟩ := hloop.suppressed before row after hsplit hsuppressed
    exact ⟨earlier, hmem, hname, hfully, hinjective hsame⟩

namespace Sample

/-- Room for a header and ten characters more. -/
def narrow : EvidencePackingPolicy := { budgetChars := 50, exactBodyDedupe := true }

theorem packEvidenceSources_ok_narrow :
    ∃ rendered receipt, packEvidenceSources id narrow [{ sourceId := "S1", extractedText := "one" },
      { sourceId := "S2", extractedText := "two" }] = .ok (rendered, receipt) ∧ (rendered.length : Int) ≤ 50 ∧
      Totals receipt := by
  obtain ⟨rendered, receipt, -, hok, -, -, -, hbudget, -, -, htotals, -⟩ :=
    packEvidenceSources_ok id (show 0 < narrow.budgetChars by decide) [{ sourceId := "S1", extractedText := "one" },
      { sourceId := "S2", extractedText := "two" }]
  exact ⟨rendered, receipt, hok, hbudget, htotals⟩

end Sample

end ThreeAgent.EvidencePacking
