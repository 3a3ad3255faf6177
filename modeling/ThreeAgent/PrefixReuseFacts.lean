/-
The counts of the report of repeated prefixes: each counter is a count over
what the lines are read to be, so the sums hold and the order of the lines
does not matter. The report is made unless a line raises what the loop does
not catch, or the average of the sizes overflows.
-/
import ThreeAgent.PrefixReuse

namespace ThreeAgent

variable {start stop now : Int} {content : Option String} {line : String} {d : Int × Int}

namespace PrefixReuse

open PyText Outcome PyJson PyDict Keyed Counters

variable {r : Reading}

/-! ## The counts under a name -/

/-- The rows hold, under each name of the events, how many there are and how many came before. -/
structure Rows (name : EventKey → String) (events : List EventKey) (rows : Dict Segment) : Prop where
  nodup : (PyDict.keys rows).Nodup
  row : ∀ n, get? rows n = if n ∈ events.map name then
    some ⟨events.countP fun k => name k = n, Tally.repeats (fun k => name k = n) events⟩ else none

namespace Rows

variable {name : EventKey → String} {events events' : List EventKey} {rows rows' : Dict Segment}

theorem nil : Rows name [] [] := ⟨List.nodup_nil, fun _ => rfl⟩

section
variable (h : Rows name events rows)
include h

theorem snoc (k : EventKey) :
    Rows name (events ++ [k]) (bumpSegment rows (name k) (decide (k ∈ events))) := by
  have hold : (get? rows (name k)).getD {} =
      ⟨events.countP fun e => name e = name k, Tally.repeats (fun e => name e = name k) events⟩ := by
    rw [h.row]
    split
    · rfl
    · rename_i hnone
      have hne : ∀ e ∈ events, ¬ name e = name k := fun e he heq => hnone (heq ▸ List.mem_map_of_mem he)
      have hzero : (events.countP fun e => name e = name k) = 0 := List.countP_eq_zero.mpr fun e he => by simp [hne e he]
      have hrepeats := Tally.repeats_add_dedup (fun e => decide (name e = name k)) events
      rw [hzero] at hrepeats ⊢
      rw [Nat.eq_zero_of_add_eq_zero_right hrepeats]
      rfl
  refine ⟨?_, ?_⟩
  · cases hget : get? rows (name k) with
    | none => exact nodup_set h.nodup (has_eq_false.mpr hget)
    | some old =>
      rw [bumpSegment, keys_set_of_present hget]
      exact h.nodup
  · intro n
    rw [bumpSegment, get?_set, hold, List.map_append, List.countP_append, Tally.repeats_snoc, h.row]
    by_cases hn : name k = n
    · subst hn
      simp
    · have hn' : ¬ n = name k := fun heq => hn heq.symm
      simp [hn, hn']

theorem mem_keys (n : String) : n ∈ PyDict.keys rows ↔ n ∈ events.map name := by
  rw [PyDict.mem_keys, has_iff, h.row]
  split
  · rename_i hn
    simp [hn]
  · rename_i hn
    simp [hn]

theorem rows_eq : rows = (PyDict.keys rows).map fun n =>
    (n, ⟨events.countP fun k => name k = n, Tally.repeats (fun k => name k = n) events⟩) := by
  rw [PyDict.keys, List.map_map]
  refine (List.map_id _).symm.trans (List.map_congr_left fun e he => ?_)
  have hget := get?_of_mem h.nodup (k := e.1) (v := e.2) he
  rw [h.row] at hget
  split at hget
  · exact Prod.ext rfl (Option.some.inj hget).symm
  · cases hget

theorem sum_events : (rows.map fun row => row.2.events).sum = events.length := by
  rw [h.rows_eq, List.map_map]
  exact Tally.sum_countP_name h.nodup h.mem_keys

theorem sum_repeated :
    (rows.map fun row => row.2.repeated).sum = Tally.repeats (fun _ => true) events := by
  rw [h.rows_eq, List.map_map]
  exact Tally.sum_repeats_name h.nodup h.mem_keys

theorem repeated_le {row : String × Segment} (hrow : row ∈ rows) :
    row.2.repeated ≤ row.2.events := by
  rw [h.rows_eq, List.mem_map] at hrow
  obtain ⟨n, _, rfl⟩ := hrow
  exact Nat.le.intro (Tally.repeats_add_dedup _ events)

theorem sorted_congr (h' : Rows name events' rows') (hperm : events'.Perm events) :
    sortedBy Prod.fst rows' = sortedBy Prod.fst rows := by
  have hget : ∀ n, get? rows' n = get? rows n := by
    intro n
    rw [h.row, h'.row, Tally.repeats_perm _ hperm, hperm.countP_eq]
    simp only [(hperm.map name).mem_iff]
  refine sortedBy_congr (keys_determine h'.nodup) (List.Nodup.of_map _ h'.nodup) (List.Nodup.of_map _ h.nodup) fun e => ?_
  refine ⟨?_, ?_⟩
  · intro he
    exact mem_of_get? ((hget e.1).symm.trans (get?_of_mem h'.nodup he))
  · intro he
    exact mem_of_get? ((hget e.1).trans (get?_of_mem h.nodup he))

end

end Rows

/-! ## The counters -/

namespace Reading

def key? : Reading → Option EventKey
  | .eligible key _ _ => some key
  | _ => none

def chars? : Reading → Option Int
  | .eligible _ chars _ => chars
  | _ => none

def durations? : Reading → Option (Int × Int)
  | .eligible _ _ durations => durations
  | _ => none

end Reading

/-- The keys of the eligible events. -/
def eventKeys (readings : List Reading) : List EventKey := readings.filterMap Reading.key?

/-- What the counters are, of the lines read. -/
structure Counted (readings : List Reading) (c : Counters) : Prop where
  totalLines : c.totalLines = readings.length
  malformedJson : c.malformedJson = readings.count .malformedJson
  invalidMetadata : c.invalidMetadata = readings.count .invalidMetadata
  invalidTimestamp : c.invalidTimestamp = readings.count .invalidTimestamp
  outOfWindow : c.outOfWindow = readings.count .outOfWindow
  futureEvents : c.futureEvents = readings.count .future
  eligibleEvents : c.eligibleEvents = (eventKeys readings).length
  repeatedEvents : c.repeatedEvents = Tally.repeats (fun _ => true) (eventKeys readings)
  nodup : c.distinctKeys.Nodup
  distinct : ∀ k, k ∈ c.distinctKeys ↔ k ∈ eventKeys readings
  keyCounts : c.keyCounts = Tally.tally (eventKeys readings)
  byTrust : Rows (fun k => opaqueDomain k.trustDomain) (eventKeys readings) c.byTrust
  byModel : Rows EventKey.model (eventKeys readings) c.byModel
  prefixChars : c.prefixChars = readings.filterMap Reading.chars?
  promptEvalNs : c.promptEvalNs = ((readings.filterMap Reading.durations?).map Prod.fst).sum
  measuredTotalNs : c.measuredTotalNs = ((readings.filterMap Reading.durations?).map Prod.snd).sum
  durationEvents : c.durationEvents = (readings.filterMap Reading.durations?).length

namespace Counted

variable {readings readings' : List Reading} {c c' : Counters}

theorem nil : Counted [] {} where
  totalLines := rfl
  malformedJson := rfl
  invalidMetadata := rfl
  invalidTimestamp := rfl
  outOfWindow := rfl
  futureEvents := rfl
  eligibleEvents := rfl
  repeatedEvents := rfl
  nodup := List.nodup_nil
  distinct := fun _ => Iff.rfl
  keyCounts := rfl
  byTrust := Rows.nil
  byModel := Rows.nil
  prefixChars := rfl
  promptEvalNs := rfl
  measuredTotalNs := rfl
  durationEvents := rfl

theorem snoc_other (h : Counted readings c) (hkey : r.key? = none) : Counted (readings ++ [r]) (c.count r) := by
  have hkeys : eventKeys (readings ++ [r]) = eventKeys readings := by
    simp [eventKeys, List.filterMap_append, hkey]
  have hchars : r.chars? = none := by
    cases r with
    | eligible => cases hkey
    | _ => rfl
  have hdurations : r.durations? = none := by
    cases r with
    | eligible => cases hkey
    | _ => rfl
  obtain ⟨h1, h2, h3, h4, h5, h6, h7, h8, h9, h10, h11, h12, h13, h14, h15, h16, h17⟩ := h
  cases r with
  | eligible => cases hkey
  | _ =>
    refine ⟨?_, ?_, ?_, ?_, ?_, ?_, ?_, ?_, h9, ?_, ?_, ?_, ?_, ?_, ?_, ?_, ?_⟩ <;>
      simp [count, List.filterMap_append, List.count_append, *]

theorem snoc_eligible (h : Counted readings c) (key : EventKey) (chars : Option Int) (durations : Option (Int × Int)) :
    Counted (readings ++ [.eligible key chars durations]) (c.count (.eligible key chars durations)) := by
  have hkeys : eventKeys (readings ++ [.eligible key chars durations]) = eventKeys readings ++ [key] := by
    simp [eventKeys, List.filterMap_append, Reading.key?]
  have hrepeated : decide (0 < Tally.get c.keyCounts key) = decide (key ∈ eventKeys readings) := by
    rw [h.keyCounts, Tally.get_tally, decide_eq_decide]
    exact List.count_pos_iff
  exact {
    totalLines := by simp [count, addEvent, h.totalLines]
    malformedJson := by simp [count, addEvent, h.malformedJson, List.count_append]
    invalidMetadata := by simp [count, addEvent, h.invalidMetadata, List.count_append]
    invalidTimestamp := by simp [count, addEvent, h.invalidTimestamp, List.count_append]
    outOfWindow := by simp [count, addEvent, h.outOfWindow, List.count_append]
    futureEvents := by simp [count, addEvent, h.futureEvents, List.count_append]
    eligibleEvents := by simp [count, addEvent, h.eligibleEvents, hkeys]
    repeatedEvents := by
      rw [hkeys, Tally.repeats_snoc, ← h.repeatedEvents]
      simp [count, addEvent, hrepeated]
    nodup := by
      dsimp only [count, addEvent]
      split
      · exact h.nodup
      · rename_i hnot
        rw [List.nodup_append]
        refine ⟨h.nodup, List.nodup_singleton key, fun a ha b hb => ?_⟩
        rw [List.mem_singleton.mp hb]
        exact fun heq => hnot (heq ▸ ha)
    distinct := by
      intro k
      rw [hkeys, List.mem_append, List.mem_singleton, ← h.distinct]
      dsimp only [count, addEvent]
      split
      · rename_i hmem
        refine ⟨Or.inl, ?_⟩
        intro hor
        rcases hor with hk | rfl
        · exact hk
        · exact hmem
      · rw [List.mem_append, List.mem_singleton]
    keyCounts := by
      rw [hkeys, Tally.tally_snoc, ← h.keyCounts]
      rfl
    byTrust := by
      rw [hkeys]
      dsimp only [count, addEvent]
      rw [hrepeated]
      exact h.byTrust.snoc key
    byModel := by
      rw [hkeys]
      dsimp only [count, addEvent]
      rw [hrepeated]
      exact h.byModel.snoc key
    prefixChars := by
      rw [List.filterMap_append, ← h.prefixChars]
      cases chars with
      | none => simp [count, addEvent, Reading.chars?]
      | some n => simp [count, addEvent, Reading.chars?]
    promptEvalNs := by
      rw [List.filterMap_append, List.map_append, List.sum_append, ← h.promptEvalNs]
      cases durations with
      | none => simp [count, addEvent, Reading.durations?, List.filterMap]
      | some d => simp [count, addEvent, Reading.durations?, List.filterMap]
    measuredTotalNs := by
      rw [List.filterMap_append, List.map_append, List.sum_append, ← h.measuredTotalNs]
      cases durations with
      | none => simp [count, addEvent, Reading.durations?, List.filterMap]
      | some d => simp [count, addEvent, Reading.durations?, List.filterMap]
    durationEvents := by
      rw [List.filterMap_append, List.length_append, ← h.durationEvents]
      cases durations with
      | none => simp [count, addEvent, Reading.durations?, List.filterMap]
      | some d => simp [count, addEvent, Reading.durations?, List.filterMap] }

theorem snoc (h : Counted readings c) (r : Reading) : Counted (readings ++ [r]) (c.count r) := by
  cases hkey : r.key? with
  | none => exact h.snoc_other hkey
  | some key =>
    cases r with
    | eligible key chars durations => exact h.snoc_eligible key chars durations
    | _ => cases hkey

theorem foldl (readings : List Reading) : Counted readings (readings.foldl count {}) := by
  induction readings using List.reverseRecOn with
  | nil => exact nil
  | append_singleton readings r ih =>
    rw [List.foldl_append]
    exact ih.snoc r

end Counted

/-! ## The report of the counters -/

theorem max?_perm {xs xs' : List Int} (h : xs'.Perm xs) : xs'.max? = xs.max? := by
  refine Option.ext fun a => ?_
  rw [List.max?_eq_some_iff, List.max?_eq_some_iff, h.mem_iff]
  refine and_congr_right fun _ => forall_congr' fun b => ?_
  rw [h.mem_iff]

namespace Counted

variable {F : Type} [PyReport F] {readings readings' : List Reading} {c c' : Counters}

theorem total_eq (h : Counted readings c) : c.totalLines =
    c.eligibleEvents + c.malformedJson + c.invalidMetadata + c.invalidTimestamp + c.outOfWindow + c.futureEvents := by
  rw [h.totalLines, h.eligibleEvents, h.malformedJson, h.invalidMetadata, h.invalidTimestamp, h.outOfWindow, h.futureEvents]
  clear h
  induction readings with
  | nil => rfl
  | cons r readings ih =>
    rw [eventKeys] at ih ⊢
    cases r <;> simp [Reading.key?, List.filterMap_cons] <;> omega

theorem length_distinct (h : Counted readings c) : c.distinctKeys.length = (eventKeys readings).dedup.length :=
  ((List.perm_ext_iff_of_nodup h.nodup (List.nodup_dedup _)).mpr fun k => (h.distinct k).trans List.mem_dedup.symm).length_eq

theorem repeated_add_distinct (h : Counted readings c) : c.repeatedEvents + c.distinctKeys.length = c.eligibleEvents := by
  have hsum := Tally.repeats_add_dedup (fun _ => true) (eventKeys readings)
  simp only [List.countP_true] at hsum
  rw [h.repeatedEvents, h.length_distinct, h.eligibleEvents, hsum]

theorem rate_returns {numerator denominator : Nat} (h : numerator ≤ denominator) :
    ∃ x : F, rate numerator denominator = .ok x := by
  unfold rate
  split
  · exact ⟨_, rfl⟩
  · rename_i hne
    obtain ⟨x, hx⟩ := PyReport.trueDiv_le (F := F) numerator denominator (by omega) (by omega) (by omega)
    rw [hx]
    exact ⟨_, rfl⟩

theorem segment_returns {name : EventKey → String} {events : List EventKey} {rows : Dict Segment} (h : Rows name events rows) :
    ∃ out : List (SegmentRow F), segment rows = .ok out := by
  refine mapM_returns fun row hrow => ?_
  obtain ⟨x, hx⟩ := rate_returns (F := F) (h.repeated_le (mem_sortedBy.mp hrow))
  rw [hx]
  exact ⟨_, rfl⟩

theorem promptEvalShare_returns (h : Counted readings c)
    (hpairs : ∀ d ∈ readings.filterMap Reading.durations?, 0 ≤ d.1 ∧ d.1 ≤ d.2) :
    ∃ share : Option F, promptEvalShare c.promptEvalNs c.measuredTotalNs = .ok share := by
  have hsum : ∀ ds : List (Int × Int), (∀ d ∈ ds, 0 ≤ d.1 ∧ d.1 ≤ d.2) →
      0 ≤ (ds.map Prod.fst).sum ∧ (ds.map Prod.fst).sum ≤ (ds.map Prod.snd).sum := by
    intro ds hds
    induction ds with
    | nil => exact ⟨le_refl _, le_refl _⟩
    | cons d ds ih =>
      obtain ⟨hd, hds⟩ := List.forall_mem_cons.mp hds
      have hrest := ih hds
      simp only [List.map_cons, List.sum_cons]
      omega
  have hle := hsum _ hpairs
  rw [← h.promptEvalNs, ← h.measuredTotalNs] at hle
  unfold promptEvalShare
  split
  · exact ⟨_, rfl⟩
  · obtain ⟨x, hx⟩ := PyReport.trueDiv_le (F := F) c.promptEvalNs c.measuredTotalNs hle.1 hle.2 (by omega)
    rw [hx]
    exact ⟨_, rfl⟩

theorem report_returns_iff (h : Counted readings c)
    (hpairs : ∀ d ∈ readings.filterMap Reading.durations?, 0 ≤ d.1 ∧ d.1 ≤ d.2) (policy : PrefixReusePolicy F)
    (start stop : Int) :
    (∃ r, report policy start stop c = .ok r) ↔
      ∃ average : Option F, averageChars (readings.filterMap Reading.chars?) = .ok average := by
  rw [← h.prefixChars]
  refine ⟨?_, ?_⟩
  · rintro ⟨r, hr⟩
    simp only [report, bind_ok] at hr
    obtain ⟨_, _, _, _, average, haverage, _⟩ := hr
    exact ⟨average, haverage⟩
  · rintro ⟨average, haverage⟩
    obtain ⟨reuseRate, hrate⟩ := rate_returns (F := F) (Nat.le.intro h.repeated_add_distinct)
    obtain ⟨share, hshare⟩ := h.promptEvalShare_returns (F := F) hpairs
    obtain ⟨byTrust, htrust⟩ := segment_returns (F := F) h.byTrust
    obtain ⟨byModel, hmodel⟩ := segment_returns (F := F) h.byModel
    simp only [report, bind_ok, pure_ok]
    exact ⟨_, reuseRate, hrate, share, hshare, average, haverage, byTrust, htrust, byModel, hmodel, rfl⟩

theorem report_congr (h : Counted readings c) (h' : Counted readings' c') (hperm : readings'.Perm readings)
    (policy : PrefixReusePolicy F) (start stop : Int) : report policy start stop c' = report policy start stop c := by
  have hkeys : (eventKeys readings').Perm (eventKeys readings) := hperm.filterMap _
  have hsizes : c'.prefixChars.Perm c.prefixChars := by
    rw [h.prefixChars, h'.prefixChars]
    exact hperm.filterMap _
  have hdurations := hperm.filterMap Reading.durations?
  have heligible : c'.eligibleEvents = c.eligibleEvents := by rw [h.eligibleEvents, h'.eligibleEvents, hkeys.length_eq]
  have hrepeated : c'.repeatedEvents = c.repeatedEvents := by rw [h.repeatedEvents, h'.repeatedEvents, Tally.repeats_perm _ hkeys]
  have hdistinct : c'.distinctKeys.length = c.distinctKeys.length := by
    rw [h.length_distinct, h'.length_distinct, hkeys.dedup.length_eq]
  have hrepeatedKeys : (c'.keyCounts.filter fun e => 2 ≤ e.2).length = (c.keyCounts.filter fun e => 2 ≤ e.2).length := by
    have hcount := (Tally.counts_perm hkeys).countP_eq fun n => decide (2 ≤ n)
    rw [← h.keyCounts, ← h'.keyCounts, List.countP_map, List.countP_map] at hcount
    rw [← List.countP_eq_length_filter, ← List.countP_eq_length_filter]
    exact hcount
  have hpromptEval : c'.promptEvalNs = c.promptEvalNs := by rw [h.promptEvalNs, h'.promptEvalNs, (hdurations.map Prod.fst).sum_eq]
  have hmeasured : c'.measuredTotalNs = c.measuredTotalNs := by
    rw [h.measuredTotalNs, h'.measuredTotalNs, (hdurations.map Prod.snd).sum_eq]
  have hcounts : c'.totalLines = c.totalLines ∧ c'.malformedJson = c.malformedJson ∧ c'.invalidMetadata = c.invalidMetadata ∧
      c'.invalidTimestamp = c.invalidTimestamp ∧ c'.outOfWindow = c.outOfWindow ∧ c'.futureEvents = c.futureEvents := by
    refine ⟨?_, ?_, ?_, ?_, ?_, ?_⟩
    · rw [h.totalLines, h'.totalLines, hperm.length_eq]
    · rw [h.malformedJson, h'.malformedJson, hperm.count_eq]
    · rw [h.invalidMetadata, h'.invalidMetadata, hperm.count_eq]
    · rw [h.invalidTimestamp, h'.invalidTimestamp, hperm.count_eq]
    · rw [h.outOfWindow, h'.outOfWindow, hperm.count_eq]
    · rw [h.futureEvents, h'.futureEvents, hperm.count_eq]
  have hdurationEvents : c'.durationEvents = c.durationEvents := by
    rw [h.durationEvents, h'.durationEvents, hdurations.length_eq]
  have haverage : averageChars (F := F) c'.prefixChars = averageChars c.prefixChars := by
    simp only [averageChars, hsizes.length_eq, hsizes.sum_eq, ← List.length_eq_zero_iff]
  have hordered : c'.prefixChars.insertionSort (· ≤ ·) = c.prefixChars.insertionSort (· ≤ ·) :=
    ((List.perm_insertionSort _ _).trans (hsizes.trans (List.perm_insertionSort _ _).symm)).eq_of_pairwise
      (fun _ _ _ _ hab hba => le_antisymm hab hba) (List.pairwise_insertionSort _ _) (List.pairwise_insertionSort _ _)
  have hpercentile : ∀ n, percentile F c'.prefixChars n = percentile F c.prefixChars n := by
    intro n
    simp only [percentile, hordered, hsizes.length_eq]
  have hmax : c'.prefixChars.max? = c.prefixChars.max? := max?_perm hsizes
  obtain ⟨h1, h2, h3, h4, h5, h6⟩ := hcounts
  simp only [report, segment, heligible, hrepeated, hdistinct, hrepeatedKeys, hpromptEval, hmeasured, h1, h2, h3, h4, h5, h6,
    hdurationEvents, haverage, hpercentile, hmax, hsizes.length_eq, h.byTrust.sorted_congr h'.byTrust hkeys,
    h.byModel.sorted_congr h'.byModel hkeys]

end Counted

/-! ## The lines of the file -/

section Lines

variable {F : Type} [PyReport F]

/-- The lines that are counted, without the blanks around them. -/
def nonEmptyLines (content : Option String) : List String := ((fileLines content).map strip).filter fun line => line ≠ ""

def windowStart (policy : PrefixReusePolicy F) (now : Int) : Int := now - policy.windowDays * 86400000000

/-- The window of the report is in the range of a `datetime`. -/
def InRange (policy : PrefixReusePolicy F) (now : Int) : Prop := minInstant ≤ windowStart policy now

theorem countLines_ok : ∀ {raws : List String} {c c' : Counters},
    raws.foldlM (countLine F start stop) c = .ok c' ↔
      ∃ readings, ((raws.map strip).filter fun line => line ≠ "").mapM (readLine F start stop) = .ok readings ∧
        c' = readings.foldl count c
  | [], c, c' => by
    simp only [List.foldlM_nil, List.map_nil, List.filter_nil, List.mapM_nil, pure_ok]
    refine ⟨?_, ?_⟩
    · intro h
      exact ⟨[], rfl, h.symm⟩
    · rintro ⟨readings, hnil, h⟩
      rw [h, ← hnil]
      rfl
  | raw :: raws, c, c' => by
    rw [List.foldlM_cons, List.map_cons, bind_ok]
    by_cases hraw : strip raw = ""
    · rw [List.filter_cons_of_neg (by simp [hraw]), ← countLines_ok]
      simp [countLine, hraw]
    · rw [List.filter_cons_of_pos (by simp [hraw])]
      simp only [countLine, if_neg hraw, List.mapM_cons, bind_ok, pure_ok, countLines_ok]
      refine ⟨?_, ?_⟩
      · rintro ⟨_, ⟨reading, hreading, hc⟩, readings, hreadings, h⟩
        refine ⟨reading :: readings, ⟨reading, hreading, readings, hreadings, rfl⟩, ?_⟩
        rw [h, ← hc]
        rfl
      · rintro ⟨_, ⟨reading, hreading, readings, hreadings, hcons⟩, h⟩
        rw [← hcons] at h
        exact ⟨_, ⟨reading, hreading, rfl⟩, readings, hreadings, h⟩

/-- What the policy is to be. -/
structure Policy (policy : PrefixReusePolicy F) : Prop where
  days : 1 ≤ policy.windowDays ∧ policy.windowDays ≤ 365
  events : 1 ≤ policy.minEvents ∧ policy.minEvents ≤ 1000000
  threshold : PyReport.le PyReport.zero policy.reuseThreshold = true ∧ PyReport.le policy.reuseThreshold PyReport.one = true

variable {policy : PrefixReusePolicy F}

theorem validate_ok {policy' : PrefixReusePolicy F} : policy.validate = .ok policy' ↔ Policy policy ∧ policy = policy' := by
  simp only [PrefixReusePolicy.validate, bind_ok, require_ok, pure_ok, exists_const]
  refine ⟨?_, ?_⟩
  · rintro ⟨hdays, hevents, hthreshold, h⟩
    exact ⟨⟨hdays, hevents, hthreshold⟩, h⟩
  · rintro ⟨⟨hdays, hevents, hthreshold⟩, h⟩
    exact ⟨hdays, hevents, hthreshold, h⟩

theorem snapshot_ok {r : ReuseSnapshot F} :
    snapshot content policy now = .ok r ↔ Policy policy ∧ InRange policy now ∧
      ∃ readings, (nonEmptyLines content).mapM (readLine F (windowStart policy now) now) = .ok readings ∧
        report policy (windowStart policy now) now (readings.foldl count {}) = .ok r := by
  simp only [snapshot, bind_ok, require_ok, exists_const, validate_ok, countLines_ok]
  refine ⟨?_, ?_⟩
  · rintro ⟨_, ⟨hpolicy, rfl⟩, hrange, _, ⟨readings, hreadings, rfl⟩, hr⟩
    exact ⟨hpolicy, hrange, readings, hreadings, hr⟩
  · rintro ⟨hpolicy, hrange, readings, hreadings, hr⟩
    exact ⟨policy, ⟨hpolicy, rfl⟩, hrange, _, ⟨readings, hreadings, rfl⟩, hr⟩

/-! ## The lines that are read -/

theorem toUtc_returns {wall offset : Int} :
    (∃ utc, toUtc wall offset = .ok utc) ↔ minInstant ≤ wall - offset ∧ wall - offset ≤ maxInstant := by
  simp only [toUtc, bind_ok, require_ok, pure_ok, exists_const, exists_and_left, exists_eq', and_true]

/-- What a line is to be, so that it can be read: `json.loads` raises at most a `JSONDecodeError`; a time with an offset is,
in UTC, in the range of a `datetime`; and the trust domain of an event in the window is text that can be encoded. -/
structure Readable (F : Type) [PyReport F] (start stop : Int) (line : String) : Prop where
  loads : PyReport.loadsRaises F line = none
  instant : ∀ fields text wall offset, parsed F line = some (.obj fields) →
    (Json.obj fields : Json F).get? "timestamp" = some (.str text) → strip text ≠ "" →
    PyRuntime.fromIso F (replace (strip text) "Z" "+00:00") = some ⟨wall, some offset⟩ →
    minInstant ≤ wall - offset ∧ wall - offset ≤ maxInstant
  domain : ∀ fields time key, parsed F line = some (.obj fields) →
    timestamp ((Json.obj fields : Json F).get? "timestamp") = .ok (some time) → start ≤ time → time ≤ stop →
    eventKey (Json.obj fields : Json F) = some key → PyReport.encodeRaises F key.trustDomain = none

theorem timestamp_returns {value : Option (Json F)} : (∃ time, timestamp value = .ok time) ↔
    ∀ text wall offset, value = some (.str text) → strip text ≠ "" →
      PyRuntime.fromIso F (replace (strip text) "Z" "+00:00") = some ⟨wall, some offset⟩ →
      minInstant ≤ wall - offset ∧ wall - offset ≤ maxInstant := by
  refine ⟨?_, ?_⟩
  · rintro ⟨time, h⟩ text wall offset rfl hne hiso
    simp only [timestamp, if_neg hne, hiso, bind_ok] at h
    obtain ⟨utc, hutc, _⟩ := h
    exact toUtc_returns.mp ⟨utc, hutc⟩
  · intro h
    unfold timestamp
    split
    · rename_i text
      split
      · exact ⟨_, rfl⟩
      · rename_i hne
        split
        · rename_i wall offset hiso
          obtain ⟨utc, hutc⟩ := toUtc_returns.mpr (h text wall offset rfl hne hiso)
          rw [hutc]
          exact ⟨_, rfl⟩
        · exact ⟨_, rfl⟩
    · exact ⟨_, rfl⟩

theorem eligible_returns {event : Json F} {key : EventKey} :
    (∃ r, eligible F event key = .ok r) ↔ PyReport.encodeRaises F key.trustDomain = none := by
  unfold eligible
  split
  · rename_i raised hraised
    simp [hraised]
  · rename_i hnone
    simp only [hnone, pure_ok, exists_eq']

theorem readLine_returns :
    (∃ r, readLine F start stop line = .ok r) ↔ Readable F start stop line := by
  refine ⟨?_, ?_⟩
  · intro ⟨r, h⟩
    unfold readLine at h
    split at h
    · cases h
    · rename_i hloads
      refine ⟨hloads, ?_, ?_⟩
      · intro fields text wall offset hparsed htime hne hiso
        simp only [hparsed, bind_ok] at h
        obtain ⟨time, hread, _⟩ := h
        exact timestamp_returns.mp ⟨time, hread⟩ text wall offset htime hne hiso
      · intro fields time key hparsed htime hstart hstop hkey
        simp only [hparsed, htime, bind_ok, Except.ok.injEq, exists_eq_left', if_neg (Int.not_lt.mpr hstop),
          if_neg (Int.not_lt.mpr hstart), hkey] at h
        exact eligible_returns.mp ⟨r, h⟩
  · intro h
    unfold readLine
    rw [h.loads]
    dsimp only
    split
    · exact ⟨_, rfl⟩
    · rename_i fields hparsed
      obtain ⟨time, htime⟩ := timestamp_returns.mpr fun text wall offset => h.instant fields text wall offset hparsed
      rw [htime]
      simp only [bind_ok, Except.ok.injEq, exists_eq_left']
      split
      · exact ⟨_, rfl⟩
      · rename_i time
        split
        · exact ⟨_, rfl⟩
        · rename_i hstop
          split
          · exact ⟨_, rfl⟩
          · rename_i hstart
            split
            · exact ⟨_, rfl⟩
            · rename_i key hkey
              exact eligible_returns.mpr (h.domain fields _ key hparsed htime (Int.not_lt.mp hstart) (Int.not_lt.mp hstop) hkey)
    · exact ⟨_, rfl⟩

end Lines

/-! ## When the report is made -/

section Sound

variable {F : Type} [PyReport F]

/-- What the lines are read to be. -/
def readings (content : Option String) (policy : PrefixReusePolicy F) (now : Int) : List Reading :=
  (nonEmptyLines content).filterMap fun line => (readLine F (windowStart policy now) now line).toOption

/-- The sums that the counts of a report obey, and that it does not depend on the order of the lines. -/
structure Sound (content : Option String) (policy : PrefixReusePolicy F) (now : Int) (r : ReuseSnapshot F) : Prop where
  lines : r.totalNonemptyLines = (nonEmptyLines content).length
  total : r.totalNonemptyLines = r.eligibleEvents + r.malformedJsonLines + r.invalidMetadataEvents + r.invalidTimestampEvents +
    r.outOfWindowEvents + r.futureEvents
  eligible : r.eligibleEvents = (eventKeys (readings content policy now)).length
  distinct : r.distinctPrefixKeys = (eventKeys (readings content policy now)).dedup.length
  repeated : r.repeatedPrefixEvents + r.distinctPrefixKeys = r.eligibleEvents
  repeatedSum : r.repeatedPrefixEvents =
    ((eventKeys (readings content policy now)).dedup.map fun key => (eventKeys (readings content policy now)).count key - 1).sum
  modelEvents : (r.byModel.map SegmentRow.events).sum = r.eligibleEvents
  modelRepeated : (r.byModel.map SegmentRow.repeated).sum = r.repeatedPrefixEvents
  trustEvents : (r.byTrustDomainFingerprint.map SegmentRow.events).sum = r.eligibleEvents
  trustRepeated : (r.byTrustDomainFingerprint.map SegmentRow.repeated).sum = r.repeatedPrefixEvents
  permuted : ∀ content', (nonEmptyLines content').Perm (nonEmptyLines content) → snapshot content' policy now = .ok r

/-- What the policy and the lines are to be: each line can be read, and the average of the sizes is not too large for a
float. -/
structure Accepted (content : Option String) (policy : PrefixReusePolicy F) (now : Int) : Prop where
  valid : Policy policy
  range : InRange policy now
  lines : ∀ line ∈ nonEmptyLines content, Readable F (windowStart policy now) now line
  average : ∀ sizes, (readings content policy now).filterMap Reading.chars? = sizes → sizes ≠ [] →
    (PyReport.trueDiv sizes.sum sizes.length : Option F).isSome

variable {policy : PrefixReusePolicy F}

theorem mapM_readings {rs : List Reading}
    (h : (nonEmptyLines content).mapM (readLine F (windowStart policy now) now) = .ok rs) : readings content policy now = rs := by
  rw [mapM_ok] at h
  unfold readings
  generalize nonEmptyLines content = lines at h ⊢
  induction h with
  | nil => rfl
  | cons hread _ ih => rw [List.filterMap_cons, hread, Except.toOption, ih]

omit [PyReport F] in
theorem durationPair_le {event : Json F} (h : durationPair event = some d) : 0 ≤ d.1 ∧ d.1 ≤ d.2 := by
  have hnonneg : ∀ {value : Option (Json F)} {n : Int}, nonNegativeInt value = some n → 0 ≤ n := by
    intro value n hn
    unfold nonNegativeInt at hn
    split at hn
    · split at hn
      · rename_i hle
        exact Option.some.inj hn ▸ hle
      · cases hn
    · cases hn
  unfold durationPair at h
  split at h
  · dsimp only at h
    split at h
    · rename_i promptEval total hpromptEval _
      split at h
      · cases h
      · rename_i hle
        cases h
        refine ⟨hnonneg hpromptEval, ?_⟩
        dsimp only
        omega
    · cases h
  · cases h

theorem readLine_durations (h : readLine F start stop line = .ok r) (hd : r.durations? = some d) : 0 ≤ d.1 ∧ d.1 ≤ d.2 := by
  have heligible : ∀ {event : Json F} {key : EventKey}, eligible F event key = .ok r → 0 ≤ d.1 ∧ d.1 ≤ d.2 := by
    intro event key he
    unfold eligible at he
    split at he
    · cases he
    · rw [pure_ok] at he
      rw [← he] at hd
      exact durationPair_le hd
  unfold readLine at h
  split at h
  · cases h
  · split at h
    · cases h
      cases hd
    · rw [bind_ok] at h
      obtain ⟨time, _, h⟩ := h
      split at h
      · cases h
        cases hd
      · split at h
        · cases h
          cases hd
        · split at h
          · cases h
            cases hd
          · split at h
            · cases h
              cases hd
            · exact heligible h
    · cases h
      cases hd

theorem averageChars_returns {sizes : List Int} : (∃ average : Option F, averageChars sizes = .ok average) ↔
    (sizes ≠ [] → (PyReport.trueDiv sizes.sum sizes.length : Option F).isSome) := by
  unfold averageChars
  split
  · rename_i hnil
    simp [hnil]
  · rename_i hne
    simp only [bind_ok, orRaise_ok, pure_ok, ne_eq, hne, not_false_eq_true, forall_const, Option.isSome_iff_exists]
    refine ⟨?_, ?_⟩
    · rintro ⟨_, x, hx, _⟩
      exact ⟨x, hx⟩
    · rintro ⟨x, hx⟩
      exact ⟨_, x, hx, rfl⟩

theorem sum_segment {rows : Dict Segment} {out : List (SegmentRow F)} (h : segment rows = .ok out) :
    (out.map SegmentRow.events).sum = (rows.map fun row => row.2.events).sum ∧
      (out.map SegmentRow.repeated).sum = (rows.map fun row => row.2.repeated).sum := by
  have hrows : out.map SegmentRow.events = (sortedBy Prod.fst rows).map (fun row => row.2.events) ∧
      out.map SegmentRow.repeated = (sortedBy Prod.fst rows).map (fun row => row.2.repeated) := by
    unfold segment at h
    rw [mapM_ok] at h
    generalize sortedBy Prod.fst rows = sorted at h ⊢
    induction h with
    | nil => exact ⟨rfl, rfl⟩
    | cons hrow _ ih =>
      simp only [bind_ok, pure_ok] at hrow
      obtain ⟨x, _, rfl⟩ := hrow
      exact ⟨congrArg _ ih.1, congrArg _ ih.2⟩
  rw [hrows.1, hrows.2]
  exact ⟨(sortedBy_perm.map _).sum_eq, (sortedBy_perm.map _).sum_eq⟩

theorem sound {r : ReuseSnapshot F}
    (h : snapshot content policy now = .ok r) : Sound content policy now r := by
  obtain ⟨hpolicy, hrange, rs, hrs, hr⟩ := snapshot_ok.mp h
  have hreadings := mapM_readings hrs
  have hcounted := Counted.foldl rs
  have hlength := (mapM_ok.mp hrs).length_eq
  have hpermuted : ∀ content', (nonEmptyLines content').Perm (nonEmptyLines content) → snapshot content' policy now = .ok r := by
    intro content' hperm
    obtain ⟨rs', hrs', hperm'⟩ := mapM_perm hrs hperm
    refine snapshot_ok.mpr ⟨hpolicy, hrange, rs', hrs', ?_⟩
    rw [hcounted.report_congr (Counted.foldl rs') hperm']
    exact hr
  simp only [report, bind_ok, pure_ok] at hr
  obtain ⟨reuseRate, _, share, _, average, _, byTrust, htrust, byModel, hmodel, rfl⟩ := hr
  have hmodels := sum_segment hmodel
  have htrusts := sum_segment htrust
  exact {
    lines := hcounted.totalLines.trans hlength.symm
    total := hcounted.total_eq
    eligible := hreadings ▸ hcounted.eligibleEvents
    distinct := hreadings ▸ hcounted.length_distinct
    repeated := hcounted.repeated_add_distinct
    repeatedSum := hreadings ▸ hcounted.repeatedEvents.trans (Tally.repeats_eq_sum _)
    modelEvents := hmodels.1.trans (hcounted.byModel.sum_events.trans hcounted.eligibleEvents.symm)
    modelRepeated := hmodels.2.trans (hcounted.byModel.sum_repeated.trans hcounted.repeatedEvents.symm)
    trustEvents := htrusts.1.trans (hcounted.byTrust.sum_events.trans hcounted.eligibleEvents.symm)
    trustRepeated := htrusts.2.trans (hcounted.byTrust.sum_repeated.trans hcounted.repeatedEvents.symm)
    permuted := hpermuted }

/-- A report is made, and sound, just where each line can be read and the average is not too large. -/
theorem reported_iff (content : Option String) (policy : PrefixReusePolicy F) (now : Int) :
    (∃ r, snapshot content policy now = .ok r ∧ Sound content policy now r) ↔ Accepted content policy now := by
  have hdurations : ∀ {rs : List Reading}, (nonEmptyLines content).mapM (readLine F (windowStart policy now) now) = .ok rs →
      ∀ d ∈ rs.filterMap Reading.durations?, 0 ≤ d.1 ∧ d.1 ≤ d.2 := by
    intro rs hrs d hd
    obtain ⟨reading, hreading, hd⟩ := List.mem_filterMap.mp hd
    obtain ⟨line, _, hline⟩ := forall₂_mem_right (mapM_ok.mp hrs) hreading
    exact readLine_durations hline hd
  refine ⟨?_, ?_⟩
  · intro ⟨r, h, _⟩
    obtain ⟨hpolicy, hrange, rs, hrs, hr⟩ := snapshot_ok.mp h
    refine ⟨hpolicy, hrange, ?_, ?_⟩
    · intro line hline
      obtain ⟨reading, _, hreading⟩ := forall₂_mem_left (mapM_ok.mp hrs) hline
      exact readLine_returns.mp ⟨reading, hreading⟩
    · intro sizes hsizes
      rw [mapM_readings hrs] at hsizes
      have haverage := ((Counted.foldl rs).report_returns_iff (hdurations hrs) policy _ _).mp ⟨r, hr⟩
      rw [hsizes] at haverage
      exact averageChars_returns.mp haverage
  · intro h
    obtain ⟨rs, hrs⟩ := mapM_returns fun line hline => readLine_returns.mpr (h.lines line hline)
    have haverage := averageChars_returns.mpr (h.average _ rfl)
    rw [mapM_readings hrs] at haverage
    obtain ⟨r, hr⟩ := ((Counted.foldl rs).report_returns_iff (hdurations hrs) policy _ _).mpr haverage
    have hok := snapshot_ok.mpr ⟨h.valid, h.range, rs, hrs, hr⟩
    exact ⟨r, hok, sound hok⟩

end Sound

/-! ## A line that breaks the report -/

/-- The first hour of the calendar, in a zone ahead of UTC. -/
local instance (priority := 2000) : PyRuntime WholeFloat where
  containerText _ := ""
  truncate x := some x.value
  fromIso text :=
    if text = "0001-01-01T00:00:00+01:00" then some ⟨-62135596800000000, some 3600000000⟩ else WholeFloat.fromIso text
  realColumn x := x

/-- Floats counted in millionths. -/
local instance : PyReport WholeFloat where
  loadsRaises _ := none
  loadsUnpaired _ := none
  encodeRaises _ := none
  trueDiv n d := if d = 0 then none else some ⟨n * 1000000 / d⟩
  round x _ := x
  le x y := decide (x.value ≤ y.value)
  zero := ⟨0⟩
  half := ⟨500000⟩
  one := ⟨1000000⟩
  percentileIndex n percent := (((n - 1) * percent + 99) / 100 : Nat)
  isoformat t := String.ofList (intText t)
  trueDiv_le n d _ _ hd := ⟨_, if_neg (by omega)⟩

def sampleReusePolicy : PrefixReusePolicy WholeFloat := { reuseThreshold := ⟨300000⟩ }

def earlyLine : String := "\x7b\"timestamp\": \"0001-01-01T00:00:00+01:00\"\x7d"

/-- Without the line there is a report; with it there is none. -/
theorem early_line_raises :
    (∃ r, snapshot (some "{}") sampleReusePolicy 1767225600000000 = .ok r) ∧
      ¬ ∃ r, snapshot (some ("{}\n" ++ earlyLine)) sampleReusePolicy 1767225600000000 = .ok r := by
  have hfails : (snapshot (some ("{}\n" ++ earlyLine)) sampleReusePolicy 1767225600000000).toBool = false := by decide +kernel
  refine ⟨?_, ?_⟩
  · exact ok_of_toBool (by decide +kernel)
  · intro ⟨r, hr⟩
    rw [hr] at hfails
    cases hfails

end PrefixReuse

end ThreeAgent
