/-
Attenuation: a chain of derived authorities never allows a request that its
first authority would deny.

Two normalisations have to agree for this. `derive_child` compares the
normalised scopes of parent and child, while `authorize` normalises the raw
scopes again, one by one. They agree because `_safe_path` is idempotent: its
values are exactly the texts in normal form (`SafePath`), and those it
leaves alone. So the scopes of a derived child are read back as they were
compared, and the slash in the prefix test makes "lies under" transitive.
-/
import Mathlib.Logic.Relation
import ThreeAgent.Capability

namespace ThreeAgent

open PyText Outcome TaskCapabilityAuthority

variable {cs : List Char} {field s : String} {child parent : TaskCapabilityAuthority}

/-! ## Normal forms of paths -/

/-- A path in the form `_safe_path` returns: a compact text with no empty, `.` or `..` segment. -/
structure SafePath (cs : List Char) : Prop where
  compact : compactRe cs = true
  nil_not_mem : [] ∉ cs.splitOn '/'
  dot_not_mem : ['.'] ∉ cs.splitOn '/'
  dotdot_not_mem : ['.', '.'] ∉ cs.splitOn '/'

theorem compactRe_cons (h : compactRe cs = true) :
    ∃ c rest, cs = c :: rest ∧ isAsciiAlnum c = true ∧ (∀ d ∈ rest, isCompactChar d = true) ∧
      rest.length ≤ 255 := by
  match cs, h with
  | c :: rest, h =>
    simp only [compactRe, Bool.and_eq_true, List.all_eq_true, decide_eq_true_eq] at h
    exact ⟨c, rest, rfl, h.1.1, h.1.2, h.2⟩

variable {c : Char}

theorem isAsciiAlnum_range (h : isAsciiAlnum c = true) :
    48 ≤ c.toNat ∧ c.toNat ≤ 122 ∧ c ≠ '/' ∧ c ≠ '.' ∧ c ≠ '\\' := by
  have hr : (65 ≤ c.toNat ∧ c.toNat ≤ 90) ∨ (97 ≤ c.toNat ∧ c.toNat ≤ 122) ∨
      (48 ≤ c.toNat ∧ c.toNat ≤ 57) := by
    simpa [isAsciiAlnum, Char.le_def, UInt32.le_iff_toNat_le, or_assoc] using h
  refine ⟨by omega, by omega, ?_, ?_, ?_⟩ <;> rintro rfl <;> revert hr <;> decide

theorem isCompactChar_range (h : isCompactChar c = true) :
    43 ≤ c.toNat ∧ c.toNat ≤ 122 ∧ c ≠ '\\' := by
  simp only [isCompactChar, Bool.or_eq_true, decide_eq_true_eq] at h
  rcases h with h | h
  · have := isAsciiAlnum_range h
    exact ⟨by omega, by omega, this.2.2.2.2⟩
  · simp only [List.mem_cons, List.not_mem_nil, or_false] at h
    rcases h with rfl | rfl | rfl | rfl | rfl | rfl | rfl | rfl <;> decide

theorem compactRe_chars (h : compactRe cs = true) : ∀ c ∈ cs, isCompactChar c = true := by
  obtain ⟨c, rest, rfl, hc, hrest, -⟩ := compactRe_cons h
  intro d hd
  rcases List.mem_cons.mp hd with rfl | hd
  · simp [isCompactChar, hc]
  · exact hrest d hd

theorem compactRe_length (h : compactRe cs = true) : cs.length ≤ 256 := by
  obtain ⟨c, rest, rfl, -, -, hlen⟩ := compactRe_cons h
  rw [List.length_cons]
  omega

theorem not_isSpace_of_compact (h : isCompactChar c = true) : isSpace c = false := by
  have := isCompactChar_range h
  simp only [isSpace, Bool.or_eq_false_iff, Bool.and_eq_false_iff, decide_eq_false_iff_not, beq_eq_false_iff_ne]
  omega

variable {value text : String} {n : Nat}

theorem compact_ok (h : compact value field n = .ok text) :
    text = strip value ∧ text.toList.length ≤ n ∧ compactRe text.toList = true ∧
      contains text "://" = false := by
  simp only [compact, bind_ok, require_ok, pure_ok] at h
  obtain ⟨_, ⟨-, hlen, hre⟩, _, hurl, rfl⟩ := h
  exact ⟨rfl, hlen, hre, hurl⟩

theorem compact_self (hlen : text.toList.length ≤ n)
    (hre : compactRe text.toList = true) (hurl : contains text "://" = false) :
    compact text field n = .ok text := by
  have hstrip : strip text = text := by
    rw [strip, stripList_of_forall fun c hc => not_isSpace_of_compact (compactRe_chars hre c hc),
      String.ofList_toList]
  have hne : text ≠ "" := by
    rintro rfl
    simp [compactRe] at hre
  simp only [compact, bind_ok, require_ok, pure_ok, hstrip]
  exact ⟨⟨⟩, ⟨hne, hlen, hre⟩, ⟨⟩, hurl, trivial⟩

theorem SafePath.no_url (h : SafePath s.toList) : contains s "://" = false := by
  rw [← Bool.not_eq_true, contains_iff]
  intro hin
  refine h.nil_not_mem (nil_mem_splitOn_of_adjacent (List.IsInfix.trans ?_ hin))
  exact ⟨[':'], [], rfl⟩

theorem replaceChar_of_compact (h : compactRe s.toList = true) :
    replaceChar '\\' '/' s = s := by
  have : (s.toList.map fun c => if c = '\\' then '/' else c) = s.toList := by
    conv_rhs => rw [← List.map_id s.toList]
    refine List.map_congr_left fun c hc => ?_
    rw [if_neg (isCompactChar_range (compactRe_chars h c hc)).2.2, id]
  rw [replaceChar, this, String.ofList_toList]

theorem parse_root_of_compact (h : compactRe s.toList = true) :
    (PurePosixPath.parse s).root = "" := by
  obtain ⟨c, rest, hs, hc, -, -⟩ := compactRe_cons h
  have hc' : ¬ '/' = c := fun he => (isAsciiAlnum_range hc).2.2.1 he.symm
  have h1 : startsWith s "/" = false := by
    simp [startsWith, hs, List.isPrefixOf, hc']
  have h2 : startsWith s "//" = false := by
    simp [startsWith, hs, List.isPrefixOf, hc']
  simp [PurePosixPath.parse, h1, h2]

theorem parse_tail (s : String) :
    (PurePosixPath.parse s).tail =
      ((s.toList.splitOn '/').filter fun seg => seg ≠ [] ∧ seg ≠ ['.']).map String.ofList := by
  have hmap : ((fun part : String => decide (part ≠ "" ∧ part ≠ ".")) ∘ String.ofList) =
      fun seg => decide (seg ≠ [] ∧ seg ≠ ['.']) := by
    funext seg
    have h0 : String.ofList seg = "" ↔ seg = [] := by simp [String.ext_iff]
    have h1 : String.ofList seg = "." ↔ seg = ['.'] := by simp [String.ext_iff]
    simp only [Function.comp, ne_eq, h0, h1]
  simp only [PurePosixPath.parse, split, List.filter_map, hmap]

theorem join_ofList (segs : List (List Char)) :
    join '/' (segs.map String.ofList) = String.ofList (List.intercalate ['/'] segs) := by
  rw [join, List.map_map]
  simp [Function.comp_def]

/-- **`_safe_path` leaves a normal form alone.** -/
theorem safePath_self (h : SafePath s.toList) : safePath s field = .ok s := by
  have hre := h.compact
  have hcompact : compact s field 256 = .ok s := compact_self (compactRe_length hre) hre h.no_url
  have hseg : (s.toList.splitOn '/').filter (fun seg => decide (seg ≠ [] ∧ seg ≠ ['.'])) =
      s.toList.splitOn '/' := by
    rw [List.filter_eq_self]
    intro seg hseg
    simp only [decide_eq_true_eq]
    exact ⟨fun he => h.nil_not_mem (he ▸ hseg), fun he => h.dot_not_mem (he ▸ hseg)⟩
  have htail : (PurePosixPath.parse s).tail = (s.toList.splitOn '/').map String.ofList := by
    rw [parse_tail, hseg]
  have hroot := parse_root_of_compact hre
  have hne : (PurePosixPath.parse s).tail ≠ [] := by
    rw [htail]
    simp
  have hposix : (PurePosixPath.parse s).asPosix = s := by
    rw [PurePosixPath.asPosix, if_neg (fun hc => hne hc.2), hroot, htail, join_ofList,
      List.intercalate_splitOn, String.ofList_toList, String.empty_append]
  have hstrip : stripChar '/' s = s := by
    rw [stripChar, stripList_sep h.nil_not_mem, String.ofList_toList]
  have hdots : ".." ∉ (PurePosixPath.parse s).parts := by
    rw [PurePosixPath.parts, if_pos hroot, htail]
    intro hmem
    obtain ⟨seg, hseg, he⟩ := List.mem_map.mp hmem
    have : seg = ['.', '.'] := by simpa [String.ext_iff] using he
    exact h.dotdot_not_mem (this ▸ hseg)
  obtain ⟨c, rest, hs, hc, -, -⟩ := compactRe_cons hre
  have hs0 : s ≠ "" := by
    rintro rfl
    simp at hs
  have hs1 : s ≠ "." := by
    rintro rfl
    have : c = '.' ∧ rest = [] := by simpa using hs.symm
    exact (isAsciiAlnum_range hc).2.2.2.1 this.1
  simp only [safePath, bind_ok, require_ok, pure_ok]
  refine ⟨s, hcompact, ⟨⟩, ⟨?_, ?_⟩, ⟨⟩, ?_, ?_⟩
  · simp [PurePosixPath.isAbsolute, replaceChar_of_compact hre, hroot]
  · rw [replaceChar_of_compact hre]
    exact hdots
  · rw [replaceChar_of_compact hre, hposix, hstrip]
    exact ⟨hs0, hs1⟩
  · rw [replaceChar_of_compact hre, hposix, hstrip]

theorem keptSegments_cons (h : compactRe cs = true) :
    ∃ c seg segs, isAsciiAlnum c = true ∧
      (cs.splitOn '/').filter (fun seg => decide (seg ≠ [] ∧ seg ≠ ['.'])) = (c :: seg) :: segs := by
  obtain ⟨c, rest, rfl, hc, -, -⟩ := compactRe_cons h
  obtain ⟨-, -, hslash, hdot, -⟩ := isAsciiAlnum_range hc
  obtain ⟨seg, segs, hs⟩ := List.exists_cons_of_ne_nil (List.splitOn_ne_nil '/' rest)
  refine ⟨c, seg, segs.filter (fun seg => decide (seg ≠ [] ∧ seg ≠ ['.'])), hc, ?_⟩
  rw [List.splitOn_cons_eq_if_modifyHead, if_neg (by simpa using hslash), hs, List.modifyHead_cons,
    List.filter_cons_of_pos]
  simp [hdot]

/-- **Every value of `_safe_path` is in normal form.** -/
theorem safePath_ok (h : safePath value field = .ok s) : SafePath s.toList := by
  simp only [safePath, bind_ok, require_ok, pure_ok] at h
  obtain ⟨text, hcompact, _, ⟨-, hdots⟩, _, -, rfl⟩ := h
  obtain ⟨-, -, hre, -⟩ := compact_ok hcompact
  rw [replaceChar_of_compact hre] at hdots ⊢
  have hroot := parse_root_of_compact hre
  rw [PurePosixPath.parts, if_pos hroot, parse_tail] at hdots
  obtain ⟨c, seg, segs, hc, hkept⟩ := keptSegments_cons hre
  set kept := (text.toList.splitOn '/').filter fun seg => decide (seg ≠ [] ∧ seg ≠ ['.']) with hkdef
  have hmem : ∀ s ∈ kept, s ∈ text.toList.splitOn '/' ∧ s ≠ [] ∧ s ≠ ['.'] := by
    intro s hs
    simpa [hkdef] using hs
  -- the normalised text has exactly the kept segments
  have hsplit : (List.intercalate ['/'] kept).splitOn '/' = kept :=
    List.splitOn_intercalate '/' (fun s hs => splitOn_not_mem (hmem s hs).1) (by simp [hkept])
  have hposix : (PurePosixPath.parse text).asPosix = String.ofList (List.intercalate ['/'] kept) := by
    rw [PurePosixPath.asPosix, if_neg, hroot, parse_tail, join_ofList, String.empty_append]
    rw [parse_tail, ← hkdef, hkept]
    simp
  have hnil : [] ∉ kept := fun hn => (hmem _ hn).2.1 rfl
  have hstrip : stripList (· == '/') (List.intercalate ['/'] kept) = List.intercalate ['/'] kept :=
    stripList_sep (by rw [hsplit]; exact hnil)
  rw [hposix, stripChar, String.toList_ofList, String.toList_ofList, hstrip]
  refine ⟨?_, by rw [hsplit]; exact hnil, by rw [hsplit]; exact fun hd => (hmem _ hd).2.2 rfl, ?_⟩
  · have hlen : (List.intercalate ['/'] kept).length ≤ text.toList.length :=
      length_intercalate_filter_le fun seg => decide (seg ≠ [] ∧ seg ≠ ['.'])
    have hle := hlen.trans (compactRe_length hre)
    have hchars : ∀ d ∈ List.intercalate ['/'] kept, isCompactChar d = true := by
      intro d hd
      rcases mem_intercalate hd with rfl | ⟨s, hs, hds⟩
      · decide
      · exact compactRe_chars hre d (mem_of_mem_splitOn (hmem s hs).1 hds)
    obtain ⟨tail, htail⟩ : ∃ tail, List.intercalate ['/'] kept = c :: tail := by
      rw [hkept]
      cases segs with
      | nil => exact ⟨seg, by simp⟩
      | cons s segs => exact ⟨seg ++ '/' :: List.intercalate ['/'] (s :: segs), by simp [List.intercalate_cons_cons]⟩
    rw [htail] at hle hchars ⊢
    simp only [compactRe, Bool.and_eq_true, List.all_eq_true, decide_eq_true_eq, hc, true_and]
    rw [List.length_cons] at hle
    exact ⟨fun d hd => hchars d (by simp [hd]), by omega⟩
  · rw [hsplit]
    intro hd
    exact hdots (List.mem_map.mpr ⟨_, hd, rfl⟩)

/-! ## Scopes -/

theorem isWithin_trans {r p : String} (h : isWithin r s = true) (h' : isWithin s p = true) :
    isWithin r p = true := by
  simp only [isWithin, Bool.or_eq_true, beq_iff_eq] at *
  rcases h with rfl | h
  · exact h'
  · rcases h' with rfl | h'
    · exact .inr h
    · exact .inr (startsWith_trans h h')

variable {normal : WriteScope}

theorem normalizeWriteScope_ok {scope : WriteScope}
    (h : normalizeWriteScope scope field = .ok normal) :
    normal = .none ∨
      (scope ≠ .none ∧ ∀ p, p ∈ normal.entries ↔ ∃ raw ∈ scope.entries, safePath raw field = .ok p) := by
  cases scope with
  | text s =>
    simp only [normalizeWriteScope] at h
    split at h
    · simp only [pure_ok] at h
      exact .inl h.symm
    · rename_i hs
      simp only [bind_ok, pure_ok] at h
      obtain ⟨p, hp, rfl⟩ := h
      refine .inr ⟨by simpa [WriteScope.none] using hs, fun q => ?_⟩
      simp only [WriteScope.entries, List.mem_singleton, exists_eq_left, hp, Except.ok.injEq]
      exact eq_comm
  | paths ps =>
    simp only [normalizeWriteScope, bind_ok, pure_ok, mapM_ok] at h
    obtain ⟨_, -, normalized, hf, rfl⟩ := h
    refine .inr ⟨by simp [WriteScope.none], fun q => ?_⟩
    simp only [WriteScope.entries, mem_dedup]
    constructor
    · intro hq
      obtain ⟨raw, hraw, hr⟩ := forall₂_mem_right hf hq
      exact ⟨raw, hraw, hr⟩
    · rintro ⟨raw, hraw, hr⟩
      obtain ⟨q', hq', hr'⟩ := forall₂_mem_left hf hraw
      rw [hr] at hr'
      cases hr'
      exact hq'

variable {a : TaskCapabilityAuthority} {ref : String}

theorem writeAllowed_iff :
    a.writeAllowed ref = true ↔
      a.writeScope ≠ .none ∧ ∃ r, safePath ref "resource_ref" = .ok r ∧
        ∃ raw ∈ a.writeScope.entries, ∃ p, safePath raw "write_scope" = .ok p ∧ isWithin r p = true := by
  unfold writeAllowed
  by_cases hs : a.writeScope = .none
  · simp [hs]
  · rw [if_neg hs]
    cases hr : safePath ref "resource_ref" with
    | error e => simp
    | ok r =>
      simp only [List.any_eq_true, ne_eq, hs, not_false_eq_true, true_and, Except.ok.injEq,
        exists_eq_left']
      constructor
      · rintro ⟨raw, hraw, h⟩
        cases hp : safePath raw "write_scope" with
        | error e => simp [hp] at h
        | ok p => exact ⟨raw, hraw, p, hp, by simpa [hp] using h⟩
      · rintro ⟨raw, hraw, p, hp, h⟩
        exact ⟨raw, hraw, by simpa [hp] using h⟩

/-! ## Attenuation -/

/-- `child` may do no more than `parent`: fewer tools, the same sensitivity, the same network scope
or none, and no write the parent could not make. -/
structure Attenuates (child parent : TaskCapabilityAuthority) : Prop where
  tools : ∀ tool ∈ child.allowedTools, tool ∈ parent.allowedTools
  sensitivity : child.sensitivity = parent.sensitivity
  network : child.networkScope = parent.networkScope ∨ child.networkScope = "deny"
  writes : ∀ ref, child.writeAllowed ref = true → parent.writeAllowed ref = true

theorem Attenuates.refl (a : TaskCapabilityAuthority) : Attenuates a a :=
  ⟨fun _ h => h, rfl, .inl rfl, fun _ h => h⟩

theorem Attenuates.trans {b c : TaskCapabilityAuthority} (h : Attenuates a b) (h' : Attenuates b c) :
    Attenuates a c := by
  refine ⟨fun t ht => h'.tools t (h.tools t ht), h.sensitivity.trans h'.sensitivity, ?_,
    fun r hr => h'.writes r (h.writes r hr)⟩
  rcases h.network with hn | hn
  · rw [hn]
    exact h'.network
  · exact .inr hn

theorem deriveNames_subset {own names : List String} {requested : Option (List String)} {denied : String}
    (h : deriveNames own requested field n denied = .ok names) :
    ∀ name ∈ names, name ∈ own := by
  cases requested with
  | none =>
    simp only [deriveNames, pure_ok] at h
    subst h
    exact fun _ hn => hn
  | some req =>
    simp only [deriveNames, bind_ok, require_ok, pure_ok] at h
    obtain ⟨_, -, _, hsub, rfl⟩ := h
    exact hsub

variable {field' : String}

theorem safePath_field (h : safePath value field = .ok s) :
    safePath value field' = .ok s := by
  simp only [safePath, compact, bind_ok, require_ok, pure_ok] at h ⊢
  exact h

/-- **A write scope that passes the subset test permits no new path.** The child's entries are in
normal form, so `authorize` reads each of them back as the test saw it. -/
theorem writeAllowed_of_subset {requested : WriteScope}
    (hparent : normalizeWriteScope parent.writeScope field = .ok normal)
    (hchild : normalizeWriteScope requested field' = .ok child.writeScope)
    (hsub : writeScopeIsSubset child.writeScope normal = true)
    (h : child.writeAllowed ref = true) : parent.writeAllowed ref = true := by
  obtain ⟨hne, r, hr, raw, hraw, p, hp, hin⟩ := writeAllowed_iff.mp h
  rcases normalizeWriteScope_ok hchild with hnone | ⟨-, hentries⟩
  · exact absurd hnone hne
  obtain ⟨raw₀, -, hraw₀⟩ := (hentries raw).mp hraw
  rw [safePath_self (safePath_ok hraw₀)] at hp
  cases hp
  simp only [writeScopeIsSubset, if_neg hne] at hsub
  by_cases hn : normal = .none
  · simp [hn] at hsub
  rw [if_neg hn, List.all_eq_true] at hsub
  obtain ⟨q, hq, hwithin⟩ := List.any_eq_true.mp (hsub raw hraw)
  rcases normalizeWriteScope_ok hparent with hnone | ⟨hpne, hpentries⟩
  · exact absurd hnone hn
  obtain ⟨raw₁, hraw₁, hsafe⟩ := (hpentries q).mp hq
  exact writeAllowed_iff.mpr ⟨hpne, r, hr, raw₁, hraw₁, q, safePath_field hsafe, isWithin_trans hin hwithin⟩

theorem deriveChild_attenuates
    {req : TaskCapabilityAuthority.ChildRequest} (h : parent.deriveChild req = .ok child) :
    Attenuates child parent := by
  simp only [deriveChild, bind_ok, require_ok, pure_ok] at h
  obtain ⟨taskId, -, sources, -, childTools, htools, normal, hparent, scope, hchild, _, hsub,
    network, -, _, -, _, hnetwork, rfl⟩ := h
  exact ⟨deriveNames_subset htools, rfl, hnetwork,
    fun ref hw => writeAllowed_of_subset hparent hchild hsub hw⟩

variable {cap kind eff : String}

theorem Attenuates.networkDenial (h : Attenuates child parent) (hc : child.networkDenial cap kind eff = none) :
    parent.networkDenial cap kind eff = none := by
  unfold TaskCapabilityAuthority.networkDenial at hc ⊢
  rcases h.network with hn | hn
  · rwa [h.sensitivity, hn] at hc
  · by_cases hweb : cap = "web_gateway"
    · simp [hweb, hn] at hc
    · rw [if_neg hweb] at hc ⊢
      by_cases hint : cap ∈ internalNetworkTools
      · simp [hint, hn] at hc
      · rwa [if_neg hint] at hc ⊢

theorem Attenuates.denial (h : Attenuates child parent) (hc : child.denial cap kind ref eff = none) :
    parent.denial cap kind ref eff = none := by
  unfold TaskCapabilityAuthority.denial at hc ⊢
  by_cases h1 : cap ∉ ThreeAgent.tools
  · simp [h1] at hc
  rw [if_neg h1] at hc ⊢
  by_cases h2 : cap ∉ child.allowedTools
  · simp [h2] at hc
  rw [if_neg h2] at hc
  rw [if_neg fun hn => hn (h.tools cap (not_not.mp h2))]
  by_cases h3 : cap ∈ diagnosticStagedLocalReadTools ∧ cap ∉ wave1InvocableLocalReadTools
  · simp [h3] at hc
  rw [if_neg h3] at hc ⊢
  by_cases h4 : effects.lookup cap ≠ some eff
  · simp [h4] at hc
  rw [if_neg h4] at hc ⊢
  cases hpol : resourcePolicyDenial cap kind ref with
  | some reason => simp [hpol] at hc
  | none =>
    cases hnet : child.networkDenial cap kind eff with
    | some reason => simp [hpol, hnet] at hc
    | none =>
      simp only [hpol, hnet, h.networkDenial hnet] at hc ⊢
      by_cases hw : eff = "write" ∧ parent.writeAllowed ref = false
      · have hcw : child.writeAllowed ref = false := by
          rw [← Bool.not_eq_true]
          exact fun hcw => by simp [h.writes ref hcw] at hw
        simp [hw.1, hcw] at hc
      · rw [if_neg hw]

namespace TaskCapabilityAuthority

/-- `authorize` returns a decision that allows the request. -/
def Allows (a : TaskCapabilityAuthority) (capability resourceKind resourceRef effect : String) : Prop :=
  ∃ d, a.authorize capability resourceKind resourceRef effect = .ok d ∧ d.allowed = true

/-- `child` is the result of one successful `derive_child` call on `parent`. -/
def Derives (parent child : TaskCapabilityAuthority) : Prop := ∃ req, parent.deriveChild req = .ok child

end TaskCapabilityAuthority

theorem Attenuates.allows (h : Attenuates child parent) (hc : child.Allows cap kind ref eff) :
    parent.Allows cap kind ref eff := by
  obtain ⟨d, hd, hallowed⟩ := hc
  simp only [authorize, bind_ok] at hd
  obtain ⟨c, hc, k, hk, r, hr, e, he, hd⟩ := hd
  cases hden : child.denial c k r e with
  | some reason =>
    simp only [hden, pure_ok] at hd
    subst hd
    simp [decision] at hallowed
  | none =>
    refine ⟨parent.decision c k r e true "CAPABILITY_AUTHORIZED", ?_, rfl⟩
    simp only [authorize, bind_ok]
    refine ⟨c, hc, k, hk, r, hr, e, he, ?_⟩
    rw [h.denial hden]
    rfl

theorem chain_attenuates
    (h : Relation.ReflTransGen TaskCapabilityAuthority.Derives parent child) : Attenuates child parent := by
  induction h with
  | refl => exact Attenuates.refl parent
  | tail _ hstep ih =>
    obtain ⟨req, hreq⟩ := hstep
    exact (deriveChild_attenuates hreq).trans ih

/-- **Authority only narrows along a chain of delegations.** What the last child may do its first
ancestor may do, and every path the child may write lies under a write path of that ancestor. -/
theorem delegation_never_widens {parent child : TaskCapabilityAuthority}
    (h : Relation.ReflTransGen TaskCapabilityAuthority.Derives parent child) :
    (∀ capability resourceKind resourceRef effect,
      child.Allows capability resourceKind resourceRef effect →
        parent.Allows capability resourceKind resourceRef effect) ∧
    ∀ ref, child.writeAllowed ref = true →
      ∃ r, safePath ref "resource_ref" = .ok r ∧ parent.writeScope ≠ .none ∧
        ∃ raw ∈ parent.writeScope.entries, ∃ p, safePath raw "write_scope" = .ok p ∧ isWithin r p = true := by
  have hatt := chain_attenuates h
  refine ⟨fun _ _ _ _ => hatt.allows, fun ref hw => ?_⟩
  obtain ⟨hne, r, hr, hraw⟩ := writeAllowed_iff.mp (hatt.writes ref hw)
  exact ⟨r, hr, hne, hraw⟩

def patchTask : TaskCapabilityAuthority :=
  .build "task-1" "internal" ["repo"] ["apply_patch", "read_file"] (.paths ["src", "docs"]) "deny"

def patchRequest : TaskCapabilityAuthority.ChildRequest :=
  { taskId := "task-1:patch", allowedTools := some ["apply_patch"], writeScope := some (.text "src/./app/") }

def patchChild : TaskCapabilityAuthority :=
  .build "task-1:patch" "internal" ["repo"] ["apply_patch"] (.text "src/app") "deny"

theorem patchChild_allows : patchChild.Allows "apply_patch" "file" "src/app/main.py" "write" :=
  ⟨patchChild.decision "apply_patch" "file" "src/app/main.py" "write" true "CAPABILITY_AUTHORIZED", rfl, rfl⟩

theorem patchTask_allows_what_patchChild_does :
    patchChild.Allows "apply_patch" "file" "src/app/main.py" "write" ∧
      patchTask.Allows "apply_patch" "file" "src/app/main.py" "write" :=
  ⟨patchChild_allows,
    (delegation_never_widens (.single ⟨patchRequest, rfl⟩)).1 _ _ _ _ patchChild_allows⟩

end ThreeAgent
