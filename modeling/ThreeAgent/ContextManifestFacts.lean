/-
Which compiled contexts can be recorded. The compiler checks the name of a
section as a line of text and bounds the references of each candidate; the
manifest wants a compact id, and bounds the references of a section, where
those of its items are merged.
-/
import ThreeAgent.ContextCompilerFacts
import ThreeAgent.Lib.Grouping
import ThreeAgent.Lib.JsonDict
import ThreeAgent.Lib.WholeFloat

namespace ThreeAgent

namespace Manifest

open Outcome PyJson PyText

variable {inputs : List ContextSectionInput} {input : ContextSectionInput} {sectionType : String}

variable {F : Type} [PyRuntime F]

/-- Valid arguments of the builder for a context of so many tokens. -/
structure BuildArguments.Valid (F : Type) [PyRuntime F] (now : String) (args : BuildArguments) (compiled : Int) : Prop where
  contextManifestId : compactId args.contextManifestId "context_manifest_id" = .ok ⟨⟩
  projectId : compactId args.projectId "project_id" = .ok ⟨⟩
  conversationId : compactId args.conversationId "conversation_id" = .ok ⟨⟩
  taskId : compactId args.taskId "task_id" = .ok ⟨⟩
  modelId : singleLine args.modelId "model_id" 256 = .ok ⟨⟩
  budget : TokenBudget.validate ⟨args.maxInput, args.reservedOutput, compiled⟩ = .ok ⟨⟩
  authority : sha256 args.authorityFingerprint "authority_fingerprint" = .ok ⟨⟩
  created : timestamp F (args.created now) "created_at" = .ok ⟨⟩

/-- The manifest that `build` checks. -/
def manifestOf (now : String) (args : BuildArguments) (sections : List ContextManifestSection) (state : CompactionState) :
    ContextManifest where
  contextManifestId := args.contextManifestId
  projectId := args.projectId
  conversationId := args.conversationId
  taskId := args.taskId
  modelId := args.modelId
  tokenBudget := ⟨args.maxInput, args.reservedOutput, sectionTokens sections⟩
  sections := sections
  compaction := state
  authorityFingerprint := args.authorityFingerprint
  createdAt := args.created now

theorem sections_ok {sections : List ContextManifestSection} :
    inputs.mapM (fun input => do
      input.validate
      return manifestSection input) = .ok sections ↔
      (∀ input ∈ inputs, input.validate = .ok ⟨⟩) ∧ sections = inputs.map manifestSection := by
  induction inputs generalizing sections with
  | nil =>
    rw [List.mapM_nil, pure_ok]
    simp [eq_comm]
  | cons input inputs ih =>
    simp only [List.mapM_cons, bind_ok, ih, pure_ok, List.forall_mem_cons, List.map_cons]
    constructor
    · intro h
      obtain ⟨_, ⟨_, hinput, rfl⟩, _, ⟨hinputs, rfl⟩, rfl⟩ := h
      exact ⟨⟨hinput, hinputs⟩, rfl⟩
    · intro h
      obtain ⟨⟨hinput, hinputs⟩, rfl⟩ := h
      exact ⟨_, ⟨_, hinput, rfl⟩, _, ⟨hinputs, rfl⟩, rfl⟩

theorem build_iff {now : String} {args : BuildArguments} {state : CompactionState}
    (hargs : args.Valid F now (inputs.map (·.tokenCount)).sum) (hstate : state.validate = .ok ⟨⟩) :
    (∃ manifest, build F now args inputs (some state) = .ok manifest) ↔ inputs ≠ [] ∧
      (∀ input ∈ inputs, input.validate = .ok ⟨⟩) ∧ ∀ input ∈ inputs, (manifestSection input).validate = .ok ⟨⟩ := by
  have htokens : sectionTokens (inputs.map manifestSection) = (inputs.map (·.tokenCount)).sum := by
    rw [sectionTokens, List.map_map]
    rfl
  have hvalidate : (manifestOf now args (inputs.map manifestSection) state).validate F = .ok ⟨⟩ ↔
      inputs ≠ [] ∧ ∀ input ∈ inputs, (manifestSection input).validate = .ok ⟨⟩ := by
    simp only [ContextManifest.validate, manifestOf, bind_unit_ok, require_ok, forM_ok, htokens, hargs.contextManifestId,
      hargs.projectId, hargs.conversationId, hargs.taskId, hargs.modelId, hargs.budget, hargs.authority, hargs.created, hstate,
      List.forall_mem_map, ne_eq, List.map_eq_nil_iff, true_and, and_true]
  constructor
  · intro h
    obtain ⟨manifest, hbuild⟩ := h
    rw [build, bind_unit_ok, require_ok, bind_ok] at hbuild
    obtain ⟨hne, sections, hsections, hbuild⟩ := hbuild
    obtain ⟨hinputs, rfl⟩ := sections_ok.mp hsections
    exact ⟨hne, hinputs, (hvalidate.mp (bind_unit_ok.mp hbuild).1).2⟩
  · intro h
    obtain ⟨hne, hinputs, hsections⟩ := h
    rw [build]
    exact ⟨_, bind_unit_ok.mpr ⟨require_ok.mpr hne, bind_ok.mpr ⟨_, sections_ok.mpr ⟨hinputs, rfl⟩,
      bind_unit_ok.mpr ⟨hvalidate.mpr ⟨hne, hsections⟩, rfl⟩⟩⟩⟩

theorem manifestSection_valid (h : input.validate = .ok ⟨⟩) :
    (manifestSection input).validate = .ok ⟨⟩ ↔ (input.sourceRefs.map hashText).Nodup := by
  simp only [ContextSectionInput.validate, bind_unit_ok, require_ok] at h
  obtain ⟨hname, hcount, hpos, htokens, hhash, -⟩ := h
  have hhashes : ∀ hash ∈ input.sourceRefs.map hashText, sha256 hash "source_ref_hash" = .ok ⟨⟩ := by
    intro hash hmem
    obtain ⟨ref, -, rfl⟩ := List.mem_map.mp hmem
    rw [sha256, checkSha256, require_ok]
    exact sha256Re_hashText ref
  simp only [ContextManifestSection.validate, bind_unit_ok, require_ok, forM_ok]
  exact ⟨fun hvalid => hvalid.2.2.2.2.2.2, fun hnodup => ⟨hname, hcount, hpos, htokens, hhash, hhashes, hnodup⟩⟩

end Manifest

namespace ContextCompiler

open CompiledContext Manifest Outcome PyDict PyJson PyText

variable {c : ContextCandidate} {members : List ContextCandidate} {input : ContextSectionInput} {sectionType : String}

/-! ## The sections of items -/

/-- The items of a section. -/
def membersOf (items : List ContextCandidate) (sectionType : String) : List ContextCandidate :=
  Grouping.itemsOf (·.sectionType) items sectionType

theorem mem_membersOf {items : List ContextCandidate} :
    c ∈ membersOf items sectionType ↔ c ∈ items ∧ c.sectionType = sectionType := by
  rw [membersOf, Grouping.itemsOf, List.mem_filter, decide_eq_true_eq]

theorem groupStep_eq (groups : Dict (List ContextCandidate)) (item : ContextCandidate) :
    groupStep ⟨groups, keys groups⟩ item =
      ⟨Grouping.addTo (·.sectionType) groups item, keys (Grouping.addTo (·.sectionType) groups item)⟩ := by
  unfold groupStep Grouping.addTo
  dsimp only
  by_cases hhas : has groups item.sectionType = true
  · obtain ⟨members, hget⟩ := has_iff.mp hhas
    rw [if_pos hhas, keys_set_of_present hget]
  · rw [if_neg hhas]
    rw [Bool.not_eq_true] at hhas
    rw [set_of_absent hhas, has_eq_false.mp hhas, ← set_of_absent hhas, get?_set_self, set_set, keys_set_of_absent hhas]
    rfl

theorem foldl_groupStep (items : List ContextCandidate) (groups : Dict (List ContextCandidate)) :
    items.foldl groupStep ⟨groups, keys groups⟩ =
      ⟨items.foldl (Grouping.addTo (·.sectionType)) groups, keys (items.foldl (Grouping.addTo (·.sectionType)) groups)⟩ := by
  induction items generalizing groups with
  | nil => rfl
  | cons item items ih => rw [List.foldl_cons, List.foldl_cons, groupStep_eq, ih]

/-- The references of items, each once. -/
def refsOf (members : List ContextCandidate) : List String := dedup (members.flatMap (·.sourceRefs))

theorem mem_refsOf {ref : String} :
    ref ∈ refsOf members ↔ ∃ c ∈ members, ref ∈ c.sourceRefs := by
  rw [refsOf, mem_dedup, List.mem_flatMap]

theorem foldl_collect {refs : List String} (hnodup : refs.Nodup) (more : List String) :
    more.foldl (fun refs ref => if ref ∈ refs then refs else refs ++ [ref]) refs = dedup (refs ++ more) := by
  induction more generalizing refs with
  | nil => rw [List.append_nil, dedup_of_nodup hnodup, List.foldl_nil]
  | cons ref more ih =>
    rw [List.foldl_cons]
    by_cases hmem : ref ∈ refs
    · rw [if_pos hmem, ih hnodup, dedup_append, dedup_append, dedup, List.filter_cons_of_neg (by simpa using hmem),
        List.filter_filter]
      refine congrArg _ (List.filter_congr ?_)
      intro x _
      by_cases hx : x = ref
      · simp [hx, hmem]
      · simp [hx]
    · rw [if_neg hmem, ih, List.append_assoc, List.singleton_append]
      refine List.nodup_append.mpr ⟨hnodup, List.nodup_singleton _, ?_⟩
      intro x hx y hy heq
      rw [List.mem_singleton.mp hy] at heq
      exact hmem (heq ▸ hx)

theorem foldl_mergeRefs {refs : List String} (hnodup : refs.Nodup) (members : List ContextCandidate) :
    members.foldl (fun refs member =>
      member.sourceRefs.foldl (fun refs ref => if ref ∈ refs then refs else refs ++ [ref]) refs) refs =
      dedup (refs ++ members.flatMap (·.sourceRefs)) := by
  induction members generalizing refs with
  | nil => rw [List.flatMap_nil, List.append_nil, dedup_of_nodup hnodup, List.foldl_nil]
  | cons member members ih =>
    rw [List.foldl_cons, foldl_collect hnodup, ih (dedup_nodup _), List.flatMap_cons, dedup_append,
      dedup_of_nodup (dedup_nodup _),
      ← List.append_assoc, dedup_append (refs ++ member.sourceRefs)]
    refine congrArg _ (List.filter_congr ?_)
    intro x _
    simp only [mem_dedup]

theorem mergeRefs_eq (members : List ContextCandidate) : mergeRefs members = refsOf members :=
  foldl_mergeRefs List.nodup_nil members

/-! ## Valid items -/

theorem validate_candidate : c.validate = .ok ⟨⟩ ↔
    singleLine c.itemId "item_id" 128 = .ok ⟨⟩ ∧ singleLine c.sectionType "section_type" 128 = .ok ⟨⟩ ∧
      strip c.content ≠ "" ∧ 0 ≤ c.tokenCount ∧ 0 < c.tokenCount ∧ 0 ≤ c.priority ∧ c.priority ≤ 100 ∧
      c.sourceRefs ≠ [] ∧ c.sourceRefs.length ≤ 512 ∧ (∀ ref ∈ c.sourceRefs, singleLine ref "source_ref" 2048 = .ok ⟨⟩) ∧
      c.sourceRefs.Nodup ∧ ¬ (c.critical = true ∧ c.obsolete = true) ∧ c.checkKey = .ok ⟨⟩ ∧ c.checkExtract = .ok ⟨⟩ := by
  simp only [ContextCandidate.validate, nonnegativeInt, bind_unit_ok, require_ok, forM_ok]

theorem sectionType_of_valid (h : c.validate = .ok ⟨⟩) :
    c.sectionType ≠ "" ∧ c.sectionType = strip c.sectionType := by
  obtain ⟨-, htype, -⟩ := validate_candidate.mp h
  simp only [singleLine, checkSingleLine, bind_unit_ok, require_ok] at htype
  exact htype.1

theorem refs_of_valid (h : c.validate = .ok ⟨⟩) :
    ∀ ref ∈ c.sourceRefs, Manifest.singleLine ref "source_ref" 2048 = .ok ⟨⟩ := by
  obtain ⟨-, -, -, -, -, -, -, -, -, hrefs, -⟩ := validate_candidate.mp h
  intro ref href
  have hline := hrefs ref href
  simp only [singleLine, Manifest.singleLine, checkSingleLine, bind_unit_ok, require_ok] at hline ⊢
  exact hline

theorem projection_valid (h : c.validate = .ok ⟨⟩) : c.extractiveProjection.validate = .ok ⟨⟩ := by
  unfold ContextCandidate.extractiveProjection ContextCandidate.extract?
  split
  · rename_i content count hcontent hcount
    split
    · exact h
    · rw [validate_candidate] at h
      obtain ⟨hid, htype, -, -, -, hpriority, hrange, hsome, hmany, hrefs, hnodup, hobsolete, hkey, hextract⟩ := h
      simp only [ContextCandidate.checkExtract, hcontent, hcount, nonnegativeInt, bind_unit_ok, require_ok] at hextract
      obtain ⟨-, htext, hnonneg, hpos, -⟩ := hextract
      exact validate_candidate.mpr ⟨hid, htype, htext, hnonneg, hpos, hpriority, hrange, hsome, hmany, hrefs, hnodup,
        hobsolete, hkey, rfl⟩
  · exact h

/-! ## The sections as they are given -/

/-- The token count of an item is short enough to be written. -/
def Writable (c : ContextCandidate) : Prop := c.tokenCount.natAbs < 10 ^ maxStrDigits

instance (c : ContextCandidate) : Decidable (Writable c) := inferInstanceAs (Decidable (_ < _))

theorem memberJson_ok (h : c.validate = .ok ⟨⟩) : memberJson c =
    .ok (.dict [("item_id", .str c.itemId), ("content_hash", .str (hashText c.content)), ("tokens", .int c.tokenCount)]) := by
  rw [memberJson, ContextCandidate.contentHash, h]
  rfl

theorem dumpable_members (members : List ContextCandidate) :
    dumpable (Json.arr (F := Unit) (members.map fun c => .dict [("item_id", .str c.itemId),
      ("content_hash", .str (hashText c.content)), ("tokens", .int c.tokenCount)])) = true ↔ ∀ c ∈ members, Writable c := by
  rw [dumpable]
  induction members with
  | nil => simp [elemsDumpable]
  | cons c members ih =>
    rw [List.map_cons, elemsDumpable, Bool.and_eq_true, ih, List.forall_mem_cons]
    refine and_congr_left' ?_
    constructor
    · intro hdict
      simpa [dumpable, Writable] using dumpable_of_dict (by simp) hdict ("tokens", .int c.tokenCount) (by simp)
    · intro hwritable
      exact dumpable_dict (by simpa [dumpable, Writable] using hwritable)

/-- A section as it is given, of its name and its items. -/
structure SectionOf (sectionType : String) (members : List ContextCandidate) (input : ContextSectionInput) : Prop where
  named : input.sectionType = sectionType
  count : input.itemCount = members.length
  tokenCount : input.tokenCount = tokens members
  hash : sha256Re input.sourceHash = true
  refs : input.sourceRefs = refsOf members

theorem sectionInput_returns
    (h : ∀ c ∈ members, c.validate = .ok ⟨⟩) :
    (∃ input, sectionInput sectionType members = .ok input) ↔ ∀ c ∈ members, Writable c := by
  have hmembers : members.mapM memberJson = .ok (members.map fun c => .dict [("item_id", .str c.itemId),
      ("content_hash", .str (hashText c.content)), ("tokens", .int c.tokenCount)]) := by
    rw [mapM_ok, List.forall₂_map_right_iff, List.forall₂_same]
    intro c hc
    exact memberJson_ok (h c hc)
  rw [← dumpable_members]
  constructor
  · intro hreturns
    obtain ⟨input, hinput⟩ := hreturns
    simp only [sectionInput, hmembers, bind_ok, digestOf_ok, Except.ok.injEq] at hinput
    obtain ⟨_, rfl, _, ⟨text, htext, -⟩, -⟩ := hinput
    exact dumpable_of_dumps htext
  · intro hdumpable
    obtain ⟨hash, hhash⟩ := digestOf_dumpable (e := fail "CONTEXT_COMPILER_NOT_CANONICAL_JSON") hdumpable
    rw [sectionInput, hmembers]
    exact ⟨_, bind_ok.mpr ⟨_, rfl, bind_ok.mpr ⟨hash, hhash, rfl⟩⟩⟩

theorem sectionInput_spec
    (h : sectionInput sectionType members = .ok input) : SectionOf sectionType members input := by
  simp only [sectionInput, bind_ok, pure_ok] at h
  obtain ⟨payload, -, hash, hhash, rfl⟩ := h
  exact ⟨rfl, rfl, rfl, sha256Re_digestOf hhash, mergeRefs_eq members⟩

/-- The names of the sections of items. -/
def sectionTypes (items : List ContextCandidate) : List String := dedup (items.map (·.sectionType))

theorem mem_sectionTypes {items : List ContextCandidate} :
    sectionType ∈ sectionTypes items ↔ ∃ c ∈ items, c.sectionType = sectionType := by
  rw [sectionTypes, mem_dedup, List.mem_map]

theorem tokens_sections (items : List ContextCandidate) :
    ((sectionTypes items).map fun sectionType => tokens (membersOf items sectionType)).sum = tokens items := by
  have hperm := Grouping.itemsOf_perm (·.sectionType) items (dedup_nodup (items.map (·.sectionType)))
    fun c hc => mem_dedup.mpr (List.mem_map_of_mem hc)
  rw [← tokens_perm hperm, sectionTypes]
  generalize dedup (items.map (·.sectionType)) = types
  induction types with
  | nil => rfl
  | cons sectionType types ih =>
    rw [List.map_cons, List.sum_cons, ih, List.flatMap_cons, tokens_append]
    rfl

theorem groups_eq (items : List ContextCandidate) : items.foldl groupStep {} =
    ⟨Grouping.table (sectionTypes items) (membersOf items), sectionTypes items⟩ := by
  have hgroup : items.foldl (Grouping.addTo fun c : ContextCandidate => c.sectionType) [] =
      Grouping.table (sectionTypes items) (membersOf items) := Grouping.group_eq (fun c : ContextCandidate => c.sectionType) items
  have hkeys : keys (Grouping.table (sectionTypes items) (membersOf items)) = sectionTypes items := by
    simp [keys, Grouping.table, Function.comp_def]
  have hloop := foldl_groupStep items []
  rw [hgroup, hkeys] at hloop
  exact hloop

theorem manifestSections_eq {result : CompiledContext} (h : result.validate = .ok ⟨⟩) : result.manifestSections =
    (sectionTypes result.items).mapM fun sectionType => sectionInput sectionType (membersOf result.items sectionType) := by
  rw [manifestSections, h]
  change (result.items.foldl groupStep {}).sectionOrder.mapM (fun sectionType => sectionInput sectionType
    ((get? (result.items.foldl groupStep {}).grouped sectionType).getD [])) = _
  rw [groups_eq]
  refine mapM_congr ?_
  intro sectionType hmem
  rw [Grouping.get?_table hmem]
  rfl

/-! ## Contexts that can be recorded -/

/-- Items whose sections have compact names, at most 512 references each, and references that their hashes tell
apart; and whose token counts can be written. -/
structure Recordable (items : List ContextCandidate) : Prop where
  nonempty : items ≠ []
  writable : ∀ c ∈ items, Writable c
  named : ∀ c ∈ items, idRe c.sectionType = true
  bounded : ∀ c ∈ items, (refsOf (membersOf items c.sectionType)).length ≤ 512
  hashed : ∀ a ∈ items, ∀ b ∈ items, a.sectionType = b.sectionType → ∀ ref ∈ a.sourceRefs, ∀ ref' ∈ b.sourceRefs,
    hashText ref = hashText ref' → ref = ref'

theorem SectionOf.input_valid
    (h : SectionOf sectionType members input) (hvalid : ∀ c ∈ members, c.validate = .ok ⟨⟩)
    (hnamed : ∃ c ∈ members, c.sectionType = sectionType) :
    input.validate = .ok ⟨⟩ ↔ idRe sectionType = true ∧ (refsOf members).length ≤ 512 := by
  obtain ⟨c, hc, rfl⟩ := hnamed
  have hname := sectionType_of_valid (hvalid c hc)
  have hcount : (0 : Int) < members.length := by
    have hlength := List.length_pos_of_mem hc
    omega
  have htokens : 0 ≤ tokens members := by
    refine List.sum_nonneg ?_
    intro count hmem
    obtain ⟨member, hmember, rfl⟩ := List.mem_map.mp hmem
    exact (validate_candidate.mp (hvalid member hmember)).2.2.2.1
  have hrefs : ∀ ref ∈ refsOf members, Manifest.singleLine ref "source_ref" 2048 = .ok ⟨⟩ := by
    intro ref href
    obtain ⟨member, hmember, href⟩ := mem_refsOf.mp href
    exact refs_of_valid (hvalid member hmember) ref href
  simp only [ContextSectionInput.validate, compactId, Manifest.nonnegativeInt, Manifest.sha256, checkSha256, bind_unit_ok,
    require_ok, forM_ok, h.named, h.count, h.tokenCount, h.hash, h.refs]
  constructor
  · intro hchecks
    exact ⟨hchecks.1.2, hchecks.2.2.2.2.2.1⟩
  · intro hconditions
    exact ⟨⟨hname, hconditions.1⟩, hcount.le, hcount, htokens, trivial, hconditions.2, hrefs, dedup_nodup _⟩

theorem hashes_nodup : ((refsOf members).map hashText).Nodup ↔
    ∀ a ∈ members, ∀ b ∈ members, ∀ ref ∈ a.sourceRefs, ∀ ref' ∈ b.sourceRefs, hashText ref = hashText ref' → ref = ref' := by
  have hnodup : (refsOf members).Nodup := dedup_nodup _
  rw [List.nodup_map_iff_inj_on hnodup]
  constructor
  · intro h a ha b hb ref href ref' href'
    exact h ref (mem_refsOf.mpr ⟨a, ha, href⟩) ref' (mem_refsOf.mpr ⟨b, hb, href'⟩)
  · intro h ref href ref' href'
    obtain ⟨a, ha, href⟩ := mem_refsOf.mp href
    obtain ⟨b, hb, href'⟩ := mem_refsOf.mp href'
    exact h a ha b hb ref href ref' href'

/-- A compiled context, given to the builder as its sections and its compaction. -/
def record (F : Type) [PyRuntime F] (now : String) (args : BuildArguments) (result : CompiledContext) :
    Except Raised ContextManifest := do
  let sections ← result.manifestSections
  let compaction ← result.compactionState
  build F now args sections (some compaction)

theorem compactionState_ok {result : CompiledContext} (h : result.validate = .ok ⟨⟩) :
    ∃ state, result.compactionState = .ok state ∧ state.validate = .ok ⟨⟩ := by
  have hmodes : result.compactionModes.Nodup := by
    simp only [CompiledContext.validate, bind_unit_ok, require_ok] at h
    exact h.2.2.2.2.2.2.2.2.2
  have hinjective : Function.Injective CompactionMode.text := by
    intro a b
    cases a <;> cases b <;> simp [CompactionMode.text]
  have hvalid : (CompactionState.validate
      { applied := !result.compactionModes.isEmpty, modes := result.compactionModes.map (·.text) }) = .ok ⟨⟩ := by
    simp only [CompactionState.validate, bind_unit_ok, require_ok, forM_ok]
    refine ⟨hmodes.map hinjective, ?_, ?_, ?_⟩
    · intro text htext
      obtain ⟨mode, -, rfl⟩ := List.mem_map.mp htext
      cases mode <;> decide
    · simp
    · simp
  exact ⟨_, bind_unit_ok.mpr ⟨hvalid, rfl⟩, hvalid⟩

variable {F : Type} [PyRuntime F] {now : String} {args : BuildArguments} {result : CompiledContext}

theorem sections_spec (h : result.validate = .ok ⟨⟩)
    (hinputs : result.manifestSections = .ok inputs) :
    List.Forall₂ (fun sectionType input => SectionOf sectionType (membersOf result.items sectionType) input)
      (sectionTypes result.items) inputs ∧ (inputs.map (·.tokenCount)).sum = tokens result.items := by
  rw [manifestSections_eq h, mapM_ok] at hinputs
  have hsections := hinputs.imp fun _ _ => sectionInput_spec
  refine ⟨hsections, ?_⟩
  rw [← tokens_sections]
  clear hinputs
  generalize sectionTypes result.items = types at hsections
  induction hsections with
  | nil => rfl
  | cons hsection _ ih =>
    rw [List.map_cons, List.map_cons, List.sum_cons, List.sum_cons, ih, hsection.tokenCount]

theorem record_iff (h : result.validate = .ok ⟨⟩) (hitems : ∀ c ∈ result.items, c.validate = .ok ⟨⟩)
    (hargs : args.Valid F now (tokens result.items)) :
    (∃ manifest, record F now args result = .ok manifest) ↔ Recordable result.items := by
  obtain ⟨state, hstate, hvalid⟩ := compactionState_ok h
  have hmembers : ∀ sectionType, ∀ c ∈ membersOf result.items sectionType, c.validate = .ok ⟨⟩ :=
    fun sectionType c hc => hitems c (mem_membersOf.mp hc).1
  have hnamed : ∀ sectionType ∈ sectionTypes result.items, ∃ c ∈ membersOf result.items sectionType,
      c.sectionType = sectionType := by
    intro sectionType hmem
    obtain ⟨c, hc, htype⟩ := mem_sectionTypes.mp hmem
    exact ⟨c, mem_membersOf.mpr ⟨hc, htype⟩, htype⟩
  constructor
  · intro hrecord
    obtain ⟨manifest, hmanifest⟩ := hrecord
    simp only [record, hstate, bind_ok, Except.ok.injEq] at hmanifest
    obtain ⟨inputs, hinputs, _, rfl, hbuild⟩ := hmanifest
    obtain ⟨hsections, htokens⟩ := sections_spec h hinputs
    rw [← htokens] at hargs
    obtain ⟨hne, hinputsValid, hparts⟩ := (build_iff hargs hvalid).mp ⟨manifest, hbuild⟩
    have hwritten : ∀ c ∈ result.items, Writable c := by
      intro c hc
      rw [manifestSections_eq h, mapM_ok] at hinputs
      obtain ⟨input, -, hinput⟩ := forall₂_mem_left hinputs (mem_sectionTypes.mpr ⟨c, hc, rfl⟩)
      exact (sectionInput_returns (hmembers _)).mp ⟨input, hinput⟩ c (mem_membersOf.mpr ⟨hc, rfl⟩)
    have hsection : ∀ c ∈ result.items, (idRe c.sectionType = true ∧
        (refsOf (membersOf result.items c.sectionType)).length ≤ 512) ∧
        ((refsOf (membersOf result.items c.sectionType)).map hashText).Nodup := by
      intro c hc
      have hmem := mem_sectionTypes.mpr ⟨c, hc, rfl⟩
      obtain ⟨input, hinput, hof⟩ := forall₂_mem_left hsections hmem
      refine ⟨(hof.input_valid (hmembers _) (hnamed _ hmem)).mp (hinputsValid input hinput), ?_⟩
      rw [← hof.refs]
      exact (manifestSection_valid (hinputsValid input hinput)).mp (hparts input hinput)
    refine ⟨?_, hwritten, fun c hc => (hsection c hc).1.1, fun c hc => (hsection c hc).1.2, ?_⟩
    · intro hnil
      rw [hnil] at hsections
      cases hsections
      exact hne rfl
    · intro a ha b hb hsame
      exact hashes_nodup.mp (hsection a ha).2 a (mem_membersOf.mpr ⟨ha, rfl⟩) b (mem_membersOf.mpr ⟨hb, hsame.symm⟩)
  · intro hrecordable
    have hreturns : ∃ inputs, result.manifestSections = .ok inputs := by
      rw [manifestSections_eq h]
      refine mapM_returns ?_
      intro sectionType _
      exact (sectionInput_returns (hmembers _)).mpr fun c hc => hrecordable.writable c (mem_membersOf.mp hc).1
    obtain ⟨inputs, hinputs⟩ := hreturns
    obtain ⟨hsections, htokens⟩ := sections_spec h hinputs
    rw [← htokens] at hargs
    have hinputsValid : ∀ input ∈ inputs, input.validate = .ok ⟨⟩ ∧ (manifestSection input).validate = .ok ⟨⟩ := by
      intro input hinput
      obtain ⟨sectionType, hmem, hof⟩ := forall₂_mem_right hsections hinput
      obtain ⟨c, hc, rfl⟩ := mem_sectionTypes.mp hmem
      have hvalid := (hof.input_valid (hmembers _) (hnamed _ hmem)).mpr ⟨hrecordable.named c hc, hrecordable.bounded c hc⟩
      refine ⟨hvalid, (manifestSection_valid hvalid).mpr ?_⟩
      rw [hof.refs, hashes_nodup]
      intro a ha b hb
      obtain ⟨ha, hatype⟩ := mem_membersOf.mp ha
      obtain ⟨hb, hbtype⟩ := mem_membersOf.mp hb
      exact hrecordable.hashed a ha b hb (hatype.trans hbtype.symm)
    have hne : inputs ≠ [] := by
      obtain ⟨c, hc⟩ := List.exists_mem_of_ne_nil _ hrecordable.nonempty
      obtain ⟨input, hinput, -⟩ := forall₂_mem_left hsections (mem_sectionTypes.mpr ⟨c, hc, rfl⟩)
      exact List.ne_nil_of_mem hinput
    obtain ⟨manifest, hbuild⟩ := (build_iff hargs hvalid).mpr
      ⟨hne, fun input hinput => (hinputsValid input hinput).1, fun input hinput => (hinputsValid input hinput).2⟩
    exact ⟨manifest, bind_ok.mpr ⟨inputs, hinputs, bind_ok.mpr ⟨state, hstate, hbuild⟩⟩⟩

variable {candidates : List ContextCandidate}

theorem valid_of_compile {policy : ContextCompilePolicy}
    (h : compile policy candidates = .ok result) : Valid policy candidates := by
  rw [compile] at h
  obtain ⟨hpolicy, h⟩ := bind_unit_ok.mp h
  obtain ⟨hne, h⟩ := bind_unit_ok.mp h
  obtain ⟨hcandidates, h⟩ := bind_unit_ok.mp h
  obtain ⟨hdistinct, -⟩ := bind_unit_ok.mp h
  exact ⟨hpolicy, require_ok.mp hne, forM_ok.mp hcandidates, require_ok.mp hdistinct⟩

theorem compile_checked {policy : ContextCompilePolicy} (h : compile policy candidates = .ok result) :
    result.validate = .ok ⟨⟩ ∧ (∀ c ∈ result.items, c.validate = .ok ⟨⟩) ∧ result.compiledTokens = tokens result.items := by
  have hvalid := valid_of_compile h
  have hcompile := compile_eq hvalid
  rw [h] at hcompile
  by_cases hfits : tokens (criticals candidates) ≤ policy.inputCapacity
  · rw [if_pos hfits] at hcompile
    obtain rfl := Except.ok.inj hcompile
    refine ⟨final_valid hvalid.distinct hfits, ?_, rfl⟩
    have hstaged : Staged candidates (finalStage policy candidates) := staged_final hvalid.distinct
    intro item hitem
    obtain ⟨c, hc, hitem⟩ := hstaged.extracts item hitem
    rcases hitem with rfl | rfl
    · exact hvalid.candidatesValid item hc
    · exact projection_valid (hvalid.candidatesValid c hc)
  · rw [if_neg hfits] at hcompile
    cases hcompile

/-- **The recording of a compiled context**, with valid arguments beside it, is accepted just when the items that the
compiler selected are recordable. -/
theorem record_compiled {policy : ContextCompilePolicy} {candidates : List ContextCandidate}
    (h : compile policy candidates = .ok result) (hargs : args.Valid F now result.compiledTokens) :
    (∃ manifest, record F now args result = .ok manifest) ↔ Recordable result.items := by
  obtain ⟨hchecked, hitems, htokens⟩ := compile_checked h
  rw [htokens] at hargs
  exact record_iff hchecked hitems hargs

namespace Sample

def arguments : BuildArguments where
  contextManifestId := "context-1"
  projectId := "project"
  conversationId := "conversation"
  taskId := "task-1"
  modelId := "local/model"
  maxInput := 100
  reservedOutput := 20
  authorityFingerprint := "sha256:aaaaaaaaaaaaaaaaaaaaaaaaaaaaaaaaaaaaaaaaaaaaaaaaaaaaaaaaaaaaaaaa"
  createdAt := some "2026-01-01T00:00:00Z"

theorem arguments_valid : arguments.Valid WholeFloat "" 40 :=
  ⟨by decide, by decide, by decide, by decide, by decide, by decide,
    by decide, by decide⟩

/-- What the compilation of one item comes to. -/
def whole (item : ContextCandidate) : CompiledContext := compiledContext samplePolicy [item] { working := [item] }

def items : List ContextCandidate :=
  [note "task" 20 90, { note "fact" 10 80 with sectionType := "facts" }, note "rest" 10 10]

theorem compile_items : compile samplePolicy items = .ok (compiledContext samplePolicy items { working := items }) := by
  decide +kernel

theorem record_compiled_items : ∃ manifest,
    record WholeFloat "" arguments (compiledContext samplePolicy items { working := items }) = .ok manifest := by
  refine (record_compiled compile_items arguments_valid).mpr ⟨by decide, by decide +kernel, by decide +kernel,
    by decide +kernel, ?_⟩
  -- the references of the items have different hashes
  have hhashed : ∀ a ∈ items.flatMap (·.sourceRefs), ∀ b ∈ items.flatMap (·.sourceRefs), hashText a = hashText b → a = b := by
    decide +kernel
  exact fun a ha b hb _ ref href ref' href' => hhashed ref (List.mem_flatMap.mpr ⟨a, ha, href⟩) ref'
    (List.mem_flatMap.mpr ⟨b, hb, href'⟩)

def spaced : ContextCandidate := { note "task" 40 90 with sectionType := "my section" }

theorem record_refused : ¬ ∀ policy candidates result now args, compile policy candidates = .ok result →
    args.Valid WholeFloat now result.compiledTokens → ∃ manifest, record WholeFloat now args result = .ok manifest := by
  intro h
  have hcompile : compile samplePolicy [spaced] = .ok (whole spaced) := by decide +kernel
  obtain ⟨hchecked, hitems, -⟩ := compile_checked hcompile
  have hrecordable := (record_iff hchecked hitems arguments_valid).mp (h _ _ _ _ _ hcompile arguments_valid)
  have hnamed := hrecordable.named spaced (List.mem_singleton.mpr rfl)
  exact absurd hnamed (by decide)

end Sample

end ContextCompiler

end ThreeAgent
