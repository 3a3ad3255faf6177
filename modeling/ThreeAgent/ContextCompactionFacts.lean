/-
The structural compaction. The loop keeps, for each key, the best item so far
and where it stands; what it returns are the candidates that survive in their
order, where surviving is a property of an item among the candidates and not
of the loop.
-/
import Mathlib.Data.Prod.Lex
import ThreeAgent.ContextCompiler

namespace ThreeAgent.ContextCompiler

open PyDict

variable {key : String} {item : ContextCandidate}

namespace ContextCandidate

variable {a b c : ContextCandidate}

theorem rankLE_iff : a.rankLE b = true ↔ b.priority < a.priority ∨ a.priority = b.priority ∧
    (a.tokenCount < b.tokenCount ∨ a.tokenCount = b.tokenCount ∧ a.itemId ≤ b.itemId) := decide_eq_true_iff

theorem rankLE_refl (a : ContextCandidate) : a.rankLE a = true :=
  rankLE_iff.mpr (.inr ⟨rfl, .inr ⟨rfl, le_rfl⟩⟩)

theorem rankLE_iff_key : a.rankLE b = true ↔ toLex (OrderDual.toDual a.priority, toLex (a.tokenCount, a.itemId)) ≤
    toLex (OrderDual.toDual b.priority, toLex (b.tokenCount, b.itemId)) := by
  rw [rankLE_iff, Prod.Lex.toLex_le_toLex, Prod.Lex.toLex_le_toLex, OrderDual.toDual_lt_toDual, OrderDual.toDual_inj]

theorem rankLE_total (a b : ContextCandidate) : a.rankLE b = true ∨ b.rankLE a = true := by
  rw [rankLE_iff_key, rankLE_iff_key]
  exact le_total _ _

theorem rankLE_trans (hab : a.rankLE b = true) (hbc : b.rankLE c = true) : a.rankLE c = true := by
  rw [rankLE_iff_key] at hab hbc ⊢
  exact hab.trans hbc

theorem itemId_eq_of_rankLE (hab : a.rankLE b = true) (hba : b.rankLE a = true) : a.itemId = b.itemId := by
  rw [rankLE_iff_key] at hab hba
  exact congrArg (fun k => (ofLex (ofLex k).2).2) (hab.antisymm hba)

/-- An item that the structural stage drops at once. -/
def Stale (c : ContextCandidate) : Prop := c.derived = true ∧ c.obsolete = true ∧ ¬ c.critical = true

instance (c : ContextCandidate) : Decidable c.Stale := inferInstanceAs (Decidable (_ ∧ _))

/-- An item that the structural stage keeps whatever the others are. -/
def Plain (c : ContextCandidate) : Prop := ¬ c.Stale ∧ (c.critical = true ∨ c.structuralKey = none)

instance (c : ContextCandidate) : Decidable c.Plain := inferInstanceAs (Decidable (_ ∧ _))

/-- An item that contends for its key. -/
def Keyed (key : String) (c : ContextCandidate) : Prop :=
  ¬ c.Stale ∧ ¬ c.critical = true ∧ c.structuralKey = some key

instance (key : String) (c : ContextCandidate) : Decidable (c.Keyed key) := inferInstanceAs (Decidable (_ ∧ _ ∧ _))

theorem Keyed.not_plain (h : c.Keyed key) : ¬ c.Plain := by
  rintro ⟨-, hcritical | hnone⟩
  · exact h.2.1 hcritical
  · rw [h.2.2] at hnone
    cases hnone

theorem Keyed.key_eq {key' : String} (h : c.Keyed key) (h' : c.Keyed key') : key = key' :=
  Option.some.inj (h.2.2.symm.trans h'.2.2)

theorem kind (c : ContextCandidate) : c.Stale ∨ c.Plain ∨ ∃ key, c.Keyed key := by
  by_cases hstale : c.Stale
  · exact .inl hstale
  by_cases hcritical : c.critical = true
  · exact .inr (.inl ⟨hstale, .inl hcritical⟩)
  cases hkey : c.structuralKey with
  | none => exact .inr (.inl ⟨hstale, .inr hkey⟩)
  | some key => exact .inr (.inr ⟨key, hstale, hcritical, hkey⟩)

end ContextCandidate

open ContextCandidate

def Best (items : List ContextCandidate) (key : String) (c : ContextCandidate) : Prop :=
  c ∈ items ∧ c.Keyed key ∧ ∀ d ∈ items, d.Keyed key → c.rankLE d = true

/-- An item outlives the structural stage among the items. -/
def Survives (items : List ContextCandidate) (c : ContextCandidate) : Prop :=
  c.Plain ∨ ¬ c.Stale ∧ ∀ d ∈ items, ¬ d.Stale → ¬ d.critical = true → d.structuralKey = c.structuralKey →
    c.rankLE d = true

instance (items : List ContextCandidate) (c : ContextCandidate) : Decidable (Survives items c) :=
  inferInstanceAs (Decidable (_ ∨ _ ∧ _))

/-- No two items have one id. -/
def DistinctIds (items : List ContextCandidate) : Prop := (items.map (·.itemId)).Nodup

instance (items : List ContextCandidate) : Decidable (DistinctIds items) :=
  inferInstanceAs (Decidable (List.Nodup _))

variable {items : List ContextCandidate} {c : ContextCandidate} {st : Compacting}

theorem DistinctIds.eq (h : DistinctIds items) {a b : ContextCandidate} (ha : a ∈ items)
    (hb : b ∈ items) (hid : a.itemId = b.itemId) : a = b := List.inj_on_of_nodup_map h ha hb hid

theorem DistinctIds.nodup (h : DistinctIds items) : items.Nodup := List.Nodup.of_map _ h

theorem Best.eq (h : DistinctIds items) {a b : ContextCandidate}
    (ha : Best items key a) (hb : Best items key b) : a = b :=
  h.eq ha.1 hb.1 (itemId_eq_of_rankLE (ha.2.2 b hb.1 hb.2.1) (hb.2.2 a ha.1 ha.2.1))

theorem survives_iff (hc : c ∈ items) : Survives items c ↔ c.Plain ∨ ∃ key, Best items key c := by
  constructor
  · rintro (hplain | ⟨hstale, hbest⟩)
    · exact .inl hplain
    · rcases c.kind with h | h | ⟨key, h⟩
      · exact absurd h hstale
      · exact .inl h
      · refine .inr ⟨key, hc, h, ?_⟩
        intro d hd hkeyed
        exact hbest d hd hkeyed.1 hkeyed.2.1 (hkeyed.2.2.trans h.2.2.symm)
  · rintro (hplain | ⟨key, -, hkeyed, hbest⟩)
    · exact .inl hplain
    · refine .inr ⟨hkeyed.1, ?_⟩
      intro d hd hstale hcritical hkey
      exact hbest d hd ⟨hstale, hcritical, hkey.trans hkeyed.2.2⟩

/-! ## The loop -/

/-- The invariant of the loop, over the items that it has gone through. -/
structure Compacted (items : List ContextCandidate) (st : Compacting) : Prop where
  surviving : st.surviving = items.filter (·.Plain)
  keysNodup : (keys st.keyed).Nodup
  best : ∀ key c, get? st.keyed key = some c → Best items key c
  contended : ∀ key, ∀ c ∈ items, c.Keyed key → ∃ d, get? st.keyed key = some d
  index : ∀ key c, get? st.keyed key = some c → ∃ i, get? st.keyedIndex key = some i ∧ items[i]? = some c
  ids : (st.dropped ++ st.surviving.map (·.itemId) ++ st.keyed.map (·.2.itemId)).Perm (items.map (·.itemId))

theorem Best.snoc_other (h : Best items key c) (hitem : ¬ item.Keyed key) : Best (items ++ [item]) key c := by
  refine ⟨List.mem_append_left _ h.1, h.2.1, ?_⟩
  intro d hd hkeyed
  rcases List.mem_append.mp hd with hd | hd
  · exact h.2.2 d hd hkeyed
  · rw [List.mem_singleton.mp hd] at hkeyed
    exact absurd hkeyed hitem

theorem Best.snoc_le (h : Best items key c) (hle : c.rankLE item = true) : Best (items ++ [item]) key c := by
  refine ⟨List.mem_append_left _ h.1, h.2.1, ?_⟩
  intro d hd hkeyed
  rcases List.mem_append.mp hd with hd | hd
  · exact h.2.2 d hd hkeyed
  · rw [List.mem_singleton.mp hd]
    exact hle

variable {i : Nat}

theorem getElem?_snoc (h : items[i]? = some c) (item : ContextCandidate) : (items ++ [item])[i]? = some c := by
  rw [List.getElem?_append_left (List.getElem?_eq_some_iff.mp h).1]
  exact h

variable {dropped : List String}

theorem Compacted.other (h : Compacted items st) (hitem : ∀ key, ¬ item.Keyed key) {surviving : List ContextCandidate}
    (hsurviving : surviving = (items ++ [item]).filter (·.Plain))
    (hids : (dropped ++ surviving.map (·.itemId) ++ st.keyed.map (·.2.itemId)).Perm ((items ++ [item]).map (·.itemId))) :
    Compacted (items ++ [item]) { st with dropped := dropped, surviving := surviving } := by
  refine ⟨hsurviving, h.keysNodup, ?_, ?_, ?_, hids⟩
  · intro key c hget
    exact (h.best key c hget).snoc_other (hitem key)
  · intro key c hc hkeyed
    rcases List.mem_append.mp hc with hc | hc
    · exact h.contended key c hc hkeyed
    · rw [List.mem_singleton.mp hc] at hkeyed
      exact absurd hkeyed (hitem key)
  · intro key c hget
    obtain ⟨i, hi, hci⟩ := h.index key c hget
    exact ⟨i, hi, getElem?_snoc hci item⟩

variable {winner : ContextCandidate} {keyedIndex : Dict Nat}

section

variable (h : Compacted items st)
include h

theorem Compacted.stand (hitem : item.Keyed key)
    (hkeys : (keys (PyDict.set st.keyed key winner)).Nodup)
    (hwinner : Best (items ++ [item]) key winner)
    (hindex : ∃ i, get? keyedIndex key = some i ∧ (items ++ [item])[i]? = some winner)
    (hother : ∀ key', key ≠ key' → get? keyedIndex key' = get? st.keyedIndex key')
    (hids : (dropped ++ st.surviving.map (·.itemId) ++ (PyDict.set st.keyed key winner).map (·.2.itemId)).Perm
      ((items ++ [item]).map (·.itemId))) :
    Compacted (items ++ [item])
      { st with dropped := dropped, keyed := PyDict.set st.keyed key winner, keyedIndex := keyedIndex } := by
  refine ⟨?_, hkeys, ?_, ?_, ?_, hids⟩
  · rw [List.filter_append, ← h.surviving]
    simp [hitem.not_plain]
  · intro key' c hget
    rw [get?_set] at hget
    split at hget
    · rename_i hkey
      cases hget
      exact hkey ▸ hwinner
    · rename_i hkey
      exact (h.best key' c hget).snoc_other fun hkeyed => hkey (hitem.key_eq hkeyed)
  · intro key' c hc hkeyed
    show ∃ d, get? (PyDict.set st.keyed key winner) key' = some d
    rw [get?_set]
    by_cases hkey : key = key'
    · exact ⟨winner, if_pos hkey⟩
    · rw [if_neg hkey]
      rcases List.mem_append.mp hc with hc | hc
      · exact h.contended key' c hc hkeyed
      · rw [List.mem_singleton.mp hc] at hkeyed
        exact absurd (hitem.key_eq hkeyed) hkey
  · intro key' c hget
    show ∃ i, get? keyedIndex key' = some i ∧ _
    rw [get?_set] at hget
    split at hget
    · rename_i hkey
      cases hget
      exact hkey ▸ hindex
    · rename_i hkey
      obtain ⟨i, hi, hci⟩ := h.index key' c hget
      exact ⟨i, (hother key' hkey).trans hi, getElem?_snoc hci item⟩

theorem Compacted.first (hitem : item.Keyed key) (hget : get? st.keyed key = none) :
    Compacted (items ++ [item]) { st with
      keyed := PyDict.set st.keyed key item
      keyedIndex := PyDict.set st.keyedIndex key items.length } := by
  have hset : PyDict.set st.keyed key item = st.keyed ++ [(key, item)] := set_of_absent (has_eq_false.mpr hget)
  refine h.stand hitem ?_ ?_ ?_ ?_ ?_
  · exact nodup_set h.keysNodup (has_eq_false.mpr hget)
  · refine ⟨List.mem_append_right _ (List.mem_singleton_self item), hitem, ?_⟩
    intro d hd hkeyed
    rcases List.mem_append.mp hd with hd | hd
    · obtain ⟨e, he⟩ := h.contended key d hd hkeyed
      rw [hget] at he
      cases he
    · rw [List.mem_singleton.mp hd]
      exact rankLE_refl item
  · exact ⟨items.length, get?_set_self, by simp⟩
  · intro key' hne
    exact get?_set_ne hne
  · rw [hset, List.map_append, List.map_append, ← List.append_assoc]
    exact h.ids.append_right _

theorem Compacted.contend {previous loser : ContextCandidate} (hitem : item.Keyed key)
    (hget : get? st.keyed key = some previous)
    (hpair : [winner, loser].Perm [previous, item]) (hwinner : Best (items ++ [item]) key winner)
    (hindex : ∃ i, get? keyedIndex key = some i ∧ (items ++ [item])[i]? = some winner)
    (hother : ∀ key', key ≠ key' → get? keyedIndex key' = get? st.keyedIndex key') :
    Compacted (items ++ [item]) { st with
      dropped := st.dropped ++ [loser.itemId]
      keyed := PyDict.set st.keyed key winner
      keyedIndex := keyedIndex } := by
  refine h.stand hitem ?_ hwinner hindex hother ?_
  · rw [keys_set_of_present hget]
    exact h.keysNodup
  · obtain ⟨front, back, hkeyed, hset⟩ := set_split (v := winner) hget
    have hids := h.ids
    have hpair' := hpair.map (·.itemId)
    rw [hkeyed] at hids
    rw [hset]
    rw [List.perm_iff_count] at hids hpair' ⊢
    intro id
    have hids := hids id
    have hpair' := hpair' id
    simp only [List.map_append, List.map_cons, List.map_nil, List.count_append, List.count_cons, List.count_nil] at hids hpair' ⊢
    omega

theorem Compacted.step (item : ContextCandidate) :
    Compacted (items ++ [item]) (compactStep st items.length item) := by
  unfold compactStep
  by_cases hstale : item.derived = true ∧ item.obsolete = true ∧ ¬ item.critical = true
  · rw [if_pos hstale]
    have hplain : ¬ item.Plain := fun hplain => hplain.1 hstale
    refine h.other (fun key hkeyed => hkeyed.1 hstale) ?_ ?_
    · rw [List.filter_append, ← h.surviving]
      simp [hplain]
    · have hids := h.ids
      rw [List.perm_iff_count] at hids ⊢
      intro id
      have hids := hids id
      simp only [List.map_append, List.map_cons, List.map_nil, List.count_append] at hids ⊢
      omega
  rw [if_neg hstale]
  -- an item that is kept whatever the others are
  have hkept : item.Plain → (∀ key, ¬ item.Keyed key) →
      Compacted (items ++ [item]) { st with surviving := st.surviving ++ [item] } := by
    intro hplain hkeyed
    refine h.other hkeyed ?_ ?_
    · rw [List.filter_append, ← h.surviving]
      simp [hplain]
    · have hids := h.ids
      rw [List.perm_iff_count] at hids ⊢
      intro id
      have hids := hids id
      simp only [List.map_append, List.map_cons, List.map_nil, List.count_append] at hids ⊢
      omega
  cases hkey : item.structuralKey with
  | none =>
    refine hkept ⟨hstale, .inr hkey⟩ ?_
    intro key hkeyed
    rw [hkeyed.2.2] at hkey
    cases hkey
  | some key =>
    dsimp only
    by_cases hcritical : item.critical = true
    · rw [if_pos hcritical]
      exact hkept ⟨hstale, .inl hcritical⟩ fun _ hkeyed => hkeyed.2.1 hcritical
    rw [if_neg hcritical]
    have hitem : item.Keyed key := ⟨hstale, hcritical, hkey⟩
    cases hget : get? st.keyed key with
    | none => exact h.first hitem hget
    | some previous =>
      dsimp only
      have hprevious := h.best key previous hget
      by_cases hle : previous.rankLE item = true
      · rw [if_pos hle]
        obtain ⟨i, hi, hitems⟩ := h.index key previous hget
        exact h.contend hitem hget (List.Perm.refl _) (hprevious.snoc_le hle) ⟨i, hi, getElem?_snoc hitems item⟩
          fun _ _ => rfl
      · rw [if_neg hle]
        have hge : item.rankLE previous = true := (rankLE_total previous item).resolve_left hle
        refine h.contend hitem hget (List.Perm.swap _ _ _) ?_ ⟨items.length, get?_set_self, by simp⟩
          fun _ hne => get?_set_ne hne
        refine ⟨List.mem_append_right _ (List.mem_singleton_self item), hitem, ?_⟩
        intro d hd hkeyed
        rcases List.mem_append.mp hd with hd | hd
        · exact rankLE_trans hge (hprevious.2.2 d hd hkeyed)
        · rw [List.mem_singleton.mp hd]
          exact rankLE_refl item

end

theorem compacted_foldl (items : List ContextCandidate) :
    Compacted items (items.zipIdx.foldl (fun st e => compactStep st e.2 e.1) {}) := by
  induction items using List.reverseRecOn with
  | nil => exact ⟨rfl, List.nodup_nil, nofun, nofun, nofun, List.Perm.refl _⟩
  | append_singleton items item ih =>
    rw [List.zipIdx_append, List.foldl_append]
    have hstep := ih.step item
    simpa using hstep

/-! ## What the loop returns -/

theorem filter_zipIdx (p : ContextCandidate → Prop) [DecidablePred p] (items : List ContextCandidate) :
    (items.zipIdx.filter fun e => p e.1).map (·.1) = items.filter (p ·) := by
  have hmap := List.zipIdx_map_fst 0 items
  conv_rhs => rw [← hmap]
  rw [List.filter_map]
  rfl

theorem pairwise_zipIdx (items : List ContextCandidate) : items.zipIdx.Pairwise fun a b => a.2 < b.2 := by
  have hrange : (List.range' 0 items.length).Pairwise (· < ·) := List.pairwise_lt_range'
  rw [← List.zipIdx_map_snd, List.pairwise_map] at hrange
  exact hrange

def placed (items : List ContextCandidate) : List (Nat × ContextCandidate) :=
  (items.zipIdx.filter fun e => Survives items e.1).map fun e => (e.2, e.1)

theorem mem_placed : (i, c) ∈ placed items ↔ items[i]? = some c ∧ Survives items c := by
  constructor
  · intro h
    obtain ⟨e, he, heq⟩ := List.mem_map.mp h
    obtain ⟨hmem, hsurvives⟩ := List.mem_filter.mp he
    cases heq
    exact ⟨List.mem_zipIdx_iff_getElem?.mp hmem, of_decide_eq_true hsurvives⟩
  · intro h
    refine List.mem_map.mpr ⟨(c, i), List.mem_filter.mpr ⟨?_, decide_eq_true h.2⟩, rfl⟩
    exact List.mk_mem_zipIdx_iff_getElem?.mpr h.1

theorem pairwise_placed (items : List ContextCandidate) : (placed items).Pairwise fun a b => a.1 < b.1 := by
  rw [placed, List.pairwise_map]
  exact (pairwise_zipIdx items).filter _

variable {l : List (Nat × ContextCandidate)}

/-- The items that stand for the keys, with their places. -/
def standing (st : Compacting) : List (Nat × ContextCandidate) :=
  st.keyed.map fun e => ((get? st.keyedIndex e.1).getD 0, e.2)

/-- The plain items, with their places. -/
def kept (items : List ContextCandidate) (st : Compacting) : List (Nat × ContextCandidate) :=
  (items.zipIdx.filter fun e => e.1.itemId ∈ st.surviving.map (·.itemId)).map fun e => (e.2, e.1)

section

variable (h : Compacted items st)
include h

theorem mem_standing (hdistinct : DistinctIds items) :
    (i, c) ∈ standing st ↔ items[i]? = some c ∧ ∃ key, Best items key c := by
  constructor
  · intro hmem
    obtain ⟨⟨key, d⟩, hd, heq⟩ := List.mem_map.mp hmem
    have hget := get?_of_mem h.keysNodup hd
    obtain ⟨j, hj, hitem⟩ := h.index key d hget
    cases heq
    dsimp only
    rw [hj]
    exact ⟨hitem, key, h.best key d hget⟩
  · intro hbest
    obtain ⟨hitem, key, hbest⟩ := hbest
    obtain ⟨d, hget⟩ := h.contended key c hbest.1 hbest.2.1
    have hsame := (h.best key d hget).eq hdistinct hbest
    subst hsame
    obtain ⟨j, hj, hitem'⟩ := h.index key d hget
    have hij : j = i := by
      have hlt := (List.getElem?_eq_some_iff.mp hitem').1
      exact (List.getElem?_inj hlt hdistinct.nodup).mp (hitem'.trans hitem.symm)
    refine List.mem_map.mpr ⟨(key, d), mem_of_get? hget, ?_⟩
    dsimp only
    rw [hj, hij]
    rfl

theorem mem_surviving_ids (hdistinct : DistinctIds items) (hc : c ∈ items) :
    c.itemId ∈ st.surviving.map (·.itemId) ↔ c.Plain := by
  rw [h.surviving, List.mem_map]
  constructor
  · intro hid
    obtain ⟨d, hd, hid⟩ := hid
    obtain ⟨hmem, hplain⟩ := List.mem_filter.mp hd
    exact hdistinct.eq hmem hc hid ▸ of_decide_eq_true hplain
  · intro hplain
    exact ⟨c, List.mem_filter.mpr ⟨hc, decide_eq_true hplain⟩, rfl⟩

theorem mem_kept (hdistinct : DistinctIds items) :
    (i, c) ∈ kept items st ↔ items[i]? = some c ∧ c.Plain := by
  constructor
  · intro hmem
    obtain ⟨⟨d, j⟩, hd, heq⟩ := List.mem_map.mp hmem
    obtain ⟨hzip, hid⟩ := List.mem_filter.mp hd
    cases heq
    have hitem := List.mk_mem_zipIdx_iff_getElem?.mp hzip
    exact ⟨hitem, (mem_surviving_ids h hdistinct (List.mem_of_getElem? hitem)).mp (of_decide_eq_true hid)⟩
  · intro hplain
    refine List.mem_map.mpr ⟨(c, i), List.mem_filter.mpr ⟨List.mk_mem_zipIdx_iff_getElem?.mpr hplain.1, ?_⟩, rfl⟩
    exact decide_eq_true ((mem_surviving_ids h hdistinct (List.mem_of_getElem? hplain.1)).mpr hplain.2)

theorem nodup_standing : (standing st).Nodup := by
  refine List.Nodup.map_on ?_ (List.Nodup.of_map _ h.keysNodup)
  rintro ⟨key, c⟩ hc ⟨key', c'⟩ hc' heq
  have hsame : c = c' := congrArg Prod.snd heq
  subst hsame
  have hkeyed := (h.best key c (get?_of_mem h.keysNodup hc)).2.1
  have hkeyed' := (h.best key' c (get?_of_mem h.keysNodup hc')).2.1
  rw [hkeyed.key_eq hkeyed']

end

theorem nodup_of_places (h : l.Pairwise fun a b => a.1 < b.1) : l.Nodup := by
  refine h.imp ?_
  intro a b hlt heq
  rw [heq] at hlt
  exact Nat.lt_irrefl _ hlt

theorem perm_placed (h : Compacted items st) (hdistinct : DistinctIds items) :
    (kept items st ++ standing st).Perm (placed items) := by
  have hkept : (kept items st).Pairwise fun a b => a.1 < b.1 := by
    rw [kept, List.pairwise_map]
    exact (pairwise_zipIdx items).filter _
  have hnodup : (kept items st ++ standing st).Nodup := by
    refine List.nodup_append.mpr ⟨nodup_of_places hkept, nodup_standing h, ?_⟩
    intro e he e' he' heq
    subst heq
    obtain ⟨-, hplain⟩ := (mem_kept h hdistinct).mp he
    obtain ⟨-, key, hbest⟩ := (mem_standing h hdistinct).mp he'
    exact hbest.2.1.not_plain hplain
  rw [List.perm_ext_iff_of_nodup hnodup (nodup_of_places (pairwise_placed items))]
  intro e
  obtain ⟨i, c⟩ := e
  rw [List.mem_append, mem_kept h hdistinct, mem_standing h hdistinct, mem_placed, ← and_or_left]
  refine and_congr_right ?_
  intro hitem
  exact (survives_iff (List.mem_of_getElem? hitem)).symm

theorem indexLE_iff {a b : Nat × ContextCandidate} : indexLE a b = true ↔ a.1 ≤ b.1 := decide_eq_true_iff

instance : IsTrans (Nat × ContextCandidate) fun a b => indexLE a b = true :=
  ⟨fun _ _ _ hab hbc => indexLE_iff.mpr ((indexLE_iff.mp hab).trans (indexLE_iff.mp hbc))⟩

instance : Std.Total fun a b : Nat × ContextCandidate => indexLE a b = true :=
  ⟨fun a b => (Nat.le_total a.1 b.1).imp indexLE_iff.mpr indexLE_iff.mpr⟩

theorem sorted_placed (h : l.Perm (placed items)) : l.insertionSort (indexLE · ·) = placed items := by
  have hsorted := List.pairwise_insertionSort (fun a b : Nat × ContextCandidate => indexLE a b = true) l
  have hperm := (List.perm_insertionSort (fun a b : Nat × ContextCandidate => indexLE a b = true) l).trans h
  refine hperm.eq_of_pairwise ?_ hsorted ((pairwise_placed items).imp fun hlt => indexLE_iff.mpr hlt.le)
  intro a b ha hb hab hba
  have hplace : a.1 = b.1 := Nat.le_antisymm (indexLE_iff.mp hab) (indexLE_iff.mp hba)
  have ha' := (mem_placed.mp (hperm.mem_iff.mp ha)).1
  have hb' := (mem_placed.mp hb).1
  rw [hplace, hb', Option.some_inj] at ha'
  exact Prod.ext hplace ha'.symm

/-- **The structural compaction** keeps the survivors in their order. -/
theorem structuralCompact_survivors (h : DistinctIds items) :
    (structuralCompact items).1 = items.filter (Survives items ·) := by
  have hcompacted := compacted_foldl items
  have hperm := perm_placed hcompacted h
  have hstanding := List.perm_insertionSort (fun a b : Nat × ContextCandidate => indexLE a b = true)
    (standing (items.zipIdx.foldl (fun st e => compactStep st e.2 e.1) {}))
  have hsorted := sorted_placed ((hstanding.append_left _).trans hperm)
  show (List.map (·.2) (List.insertionSort _ (kept items _ ++ List.insertionSort _ (standing _)))) = _
  rw [hsorted, placed, List.map_map]
  exact filter_zipIdx (Survives items) items

theorem structuralCompact_ids (h : DistinctIds items) :
    ((structuralCompact items).1.map (·.itemId) ++ (structuralCompact items).2).Perm (items.map (·.itemId)) := by
  have hcompacted := compacted_foldl items
  set st := items.zipIdx.foldl (fun st e => compactStep st e.2 e.1) {} with hst
  have hkept : (kept items st).map (·.2) = st.surviving := by
    rw [kept, List.map_map]
    refine (filter_zipIdx (fun c => c.itemId ∈ st.surviving.map (·.itemId)) items).trans ?_
    refine Eq.trans ?_ hcompacted.surviving.symm
    refine List.filter_congr ?_
    intro c hc
    exact decide_eq_decide.mpr (mem_surviving_ids hcompacted h hc)
  have hplaced : (items.filter (Survives items ·)).map (·.itemId) = (placed items).map (·.2.itemId) := by
    rw [← filter_zipIdx, placed, List.map_map, List.map_map]
    rfl
  have hsurvivors : ((structuralCompact items).1.map (·.itemId)).Perm
      (st.surviving.map (·.itemId) ++ st.keyed.map (·.2.itemId)) := by
    rw [structuralCompact_survivors h, hplaced, ← hkept, List.map_map]
    refine ((perm_placed hcompacted h).symm.map (·.2.itemId)).trans ?_
    rw [List.map_append, standing, List.map_map]
    exact List.Perm.refl _
  have hids := hcompacted.ids
  have hdropped : (structuralCompact items).2 = st.dropped := rfl
  rw [hdropped]
  rw [List.perm_iff_count] at hsurvivors hids ⊢
  intro id
  have hsurvivors := hsurvivors id
  have hids := hids id
  simp only [List.count_append] at hsurvivors hids ⊢
  omega

end ThreeAgent.ContextCompiler
