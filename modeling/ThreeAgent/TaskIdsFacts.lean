/-
For how many tasks of a day the store has a name (`store.py`).

`Numbered` is the invariant: the ids in the table are the numbers from one up of
each day. Up to 9999 the greatest of them as texts is the greatest number
(`lastId_few`), so the next one is new. The ten thousandth id is longer than
those before it and smaller as a text, so that the id after it is taken
(`lastId_full`).
-/
import ThreeAgent.Lib.Padded
import ThreeAgent.TaskIds

namespace ThreeAgent.TaskIds

open PyText PyJson Outcome Clock Padded

/-! ## Ids -/

/-- What an id of a day begins with. -/
def dayHead (d : CalendarDay) : String := "TASK-" ++ String.ofList d.stamp ++ "-"

/-- The id of a day's task with a number. -/
def idText (d : CalendarDay) (k : Nat) : String := dayHead d ++ fourDigits k

variable {d d' : CalendarDay} {k m : Nat}

theorem toList_dayHead (d : CalendarDay) : (dayHead d).toList = "TASK-".toList ++ d.stamp ++ ['-'] := by
  simp [dayHead]

theorem toList_idText (d : CalendarDay) (k : Nat) :
    (idText d k).toList = "TASK-".toList ++ d.stamp ++ ['-'] ++ padded 4 (k : Int) := by
  rw [idText, String.toList_append, toList_dayHead, fourDigits, if_pos (by omega)]
  exact congrArg _ String.toList_ofList

theorem isDigit_stamp : ∀ c ∈ d.stamp, isDigit c = true := by
  intro c hc
  rw [CalendarDay.stamp, List.mem_append, List.mem_append] at hc
  rcases hc with (hc | hc) | hc <;> exact isDigit_padded c hc

theorem length_stamp : d.stamp.length = 8 := by
  obtain ⟨-, hyear, -, hmonth, -, hday⟩ := d.valid
  rw [CalendarDay.stamp, List.length_append, List.length_append, length_padded (by decide) (by omega),
    length_padded (by decide) (by omega), length_padded (by decide) (by omega)]

theorem stamp_inj (h : d.stamp = d'.stamp) : d = d' := by
  obtain ⟨-, hyear, -, hmonth, -, hday⟩ := d.valid
  obtain ⟨-, hyear', -, hmonth', -, hday'⟩ := d'.valid
  have hlen : (padded 4 (d.year : Int) ++ padded 2 (d.month : Int)).length =
      (padded 4 (d'.year : Int) ++ padded 2 (d'.month : Int)).length := by
    simp only [List.length_append]
    rw [length_padded (by decide) (by omega), length_padded (by decide) (by omega), length_padded (by decide) (by omega),
      length_padded (by decide) (by omega)]
  obtain ⟨h1, hday⟩ := List.append_inj h hlen
  obtain ⟨hyear, hmonth⟩ := List.append_inj h1 (by
    rw [length_padded (by decide) (by omega), length_padded (by decide) (by omega)])
  cases d
  cases d'
  simp only [CalendarDay.mk.injEq]
  exact ⟨padded_inj hyear, padded_inj hmonth, padded_inj hday⟩

theorem idText_inj (h : idText d k = idText d' m) : d = d' ∧ k = m := by
  have hlist := congrArg String.toList h
  rw [toList_idText, toList_idText] at hlist
  obtain ⟨hhead, hnumber⟩ := List.append_inj hlist (by simp [length_stamp])
  obtain ⟨hstamp, -⟩ := List.append_inj hhead (by simp [length_stamp])
  exact ⟨stamp_inj (List.append_cancel_left hstamp), padded_inj hnumber⟩

theorem likeFold_digit {c : Char} (h : isDigit c = true) : likeFold c = c := by
  rcases isDigit_cases h with rfl | rfl | rfl | rfl | rfl | rfl | rfl | rfl | rfl | rfl <;> decide

theorem map_likeFold {cs : List Char} (h : ∀ c ∈ cs, isDigit c = true) : cs.map likeFold = cs :=
  (List.map_congr_left fun c hc => likeFold_digit (h c hc)).trans (List.map_id _)

theorem isLike_idText : isLike (dayHead d) (idText d' k) = true ↔ d = d' := by
  rw [isLike, List.isPrefixOf_iff_prefix, toList_dayHead, toList_idText]
  simp only [List.map_append, map_likeFold isDigit_stamp, map_likeFold isDigit_padded]
  constructor
  · intro h
    rw [List.append_assoc, List.append_assoc, List.append_assoc, List.prefix_append_right_inj] at h
    have htake := List.prefix_iff_eq_take.mp ((List.prefix_append _ _).trans h)
    rw [length_stamp, List.take_append_of_le_length (by rw [length_stamp]),
      List.take_of_length_le (by rw [length_stamp])] at htake
    exact stamp_inj htake
  · rintro rfl
    exact List.prefix_append _ _

theorem split_idText (d : CalendarDay) (k : Nat) :
    (split '-' (idText d k)).getLastD "" = String.ofList (padded 4 (k : Int)) := by
  have hdash : ∀ {cs : List Char}, (∀ c ∈ cs, isDigit c = true) → '-' ∉ cs := by
    intro cs hcs hmem
    cases hcs _ hmem
  have hsplit : (idText d k).toList.splitOn '-' = ["TASK".toList, d.stamp, padded 4 (k : Int)] := by
    have hjoin : (idText d k).toList = ['-'].intercalate ["TASK".toList, d.stamp, padded 4 (k : Int)] := by
      rw [toList_idText]
      simp [List.intercalate]
    rw [hjoin]
    refine List.splitOn_intercalate '-' ?_ (by simp)
    intro l hl
    simp only [List.mem_cons, List.not_mem_nil, or_false] at hl
    rcases hl with rfl | rfl | rfl
    · decide
    · exact hdash isDigit_stamp
    · exact hdash isDigit_padded
  rw [split, hsplit]
  rfl

/-! ## The greatest id -/

theorem idText_lt_idText (h : padded 4 (k : Int) < padded 4 (m : Int)) : idText d k < idText d m := by
  rw [String.lt_iff_toList_lt, toList_idText, toList_idText]
  exact List.append_left_lt h

theorem idText_le (hkm : k ≤ m) (hm : m ≤ 9999) : idText d k ≤ idText d m := by
  rcases Nat.lt_or_eq_of_le hkm with hlt | rfl
  · exact le_of_lt (idText_lt_idText (lt_of_lt (by decide) (by omega) hlt))
  · exact le_refl _

theorem idText_full_lt : idText d 10000 < idText d 9999 := idText_lt_idText (by decide)

theorem getLast?_sorted {ids : List String} {id : String} (hmem : id ∈ ids) (hmax : ∀ x ∈ ids, x ≤ id) :
    (sorted ids).getLast? = some id := by
  have hne : sorted ids ≠ [] := List.ne_nil_of_mem (mem_sorted.mpr hmem)
  rw [List.getLast?_eq_some_getLast hne, Option.some.injEq]
  refine le_antisymm (hmax _ (mem_sorted.mp (List.getLast_mem hne))) ?_
  have hsorted : (sorted ids).Pairwise (· ≤ ·) := List.pairwise_insertionSort _ _
  obtain ⟨i, hi, hget⟩ := List.getElem_of_mem (mem_sorted.mpr hmem)
  rw [List.getLast_eq_getElem, ← hget]
  rcases Nat.lt_or_ge i ((sorted ids).length - 1) with hlt | hge
  · exact List.pairwise_iff_getElem.mp hsorted i _ hi (by omega) hlt
  · have heq : i = (sorted ids).length - 1 := by omega
    simp only [heq, le_refl]

/-! ## The ids of a run -/

/-- The ids are numbered from one up on each day, and no two are the same. -/
structure Numbered (days : List CalendarDay) (ids : List String) : Prop where
  mem : ∀ id, id ∈ ids ↔ ∃ d k, 1 ≤ k ∧ k ≤ days.count d ∧ id = idText d k
  distinct : ids.Nodup

variable {zone : StoreZone} {s s' : TaskTables} {days : List CalendarDay} {ids : List String} {now : Int}

theorem numbered_nil : Numbered [] [] := ⟨by simp, .nil⟩

section
variable (h : Numbered days ids)
include h

theorem Numbered.mem_idText : idText d k ∈ ids ↔ 1 ≤ k ∧ k ≤ days.count d := by
  rw [h.mem]
  constructor
  · rintro ⟨d', k', h1, hk, heq⟩
    obtain ⟨rfl, rfl⟩ := idText_inj heq
    exact ⟨h1, hk⟩
  · rintro ⟨h1, hk⟩
    exact ⟨d, k, h1, hk, rfl⟩

theorem Numbered.mem_select {id : String} :
    id ∈ ids.filter (isLike (dayHead d)) ↔ ∃ k, 1 ≤ k ∧ k ≤ days.count d ∧ id = idText d k := by
  rw [List.mem_filter]
  constructor
  · rintro ⟨hid, hlike⟩
    obtain ⟨d', k, h1, hk, rfl⟩ := (h.mem id).mp hid
    rw [isLike_idText] at hlike
    subst hlike
    exact ⟨k, h1, hk, rfl⟩
  · rintro ⟨k, h1, hk, rfl⟩
    exact ⟨h.mem_idText.mpr ⟨h1, hk⟩, isLike_idText.mpr rfl⟩

theorem Numbered.snoc (d : CalendarDay) :
    Numbered (days ++ [d]) (ids ++ [idText d (days.count d + 1)]) := by
  constructor
  · intro id
    rw [List.mem_append, List.mem_singleton, h.mem]
    constructor
    · rintro (⟨d', k, h1, hk, rfl⟩ | rfl)
      · exact ⟨d', k, h1, by rw [List.count_append]; omega, rfl⟩
      · exact ⟨d, _, by omega, by rw [List.count_append, List.count_singleton_self], rfl⟩
    · rintro ⟨d', k, h1, hk, rfl⟩
      rw [List.count_append] at hk
      by_cases hle : k ≤ days.count d'
      · exact .inl ⟨d', k, h1, hle, rfl⟩
      · have hone : [d].count d' ≤ 1 := List.count_le_length
        have hd : d' = d := by
          by_contra hne
          rw [List.count_singleton, if_neg (by simpa using fun h => hne h.symm)] at hk
          omega
        subst hd
        rw [show k = days.count d' + 1 by omega]
        exact .inr rfl
  · rw [List.nodup_append]
    refine ⟨h.distinct, List.nodup_singleton _, ?_⟩
    intro id hid id' hid'
    rw [List.mem_singleton.mp hid']
    rintro rfl
    have := (h.mem_idText.mp hid).2
    omega

theorem Numbered.lastId_few (hpos : 1 ≤ days.count d) (hfew : days.count d ≤ 9999) :
    (sorted (ids.filter (isLike (dayHead d)))).getLast? = some (idText d (days.count d)) := by
  refine getLast?_sorted (h.mem_select.mpr ⟨_, hpos, le_refl _, rfl⟩) ?_
  intro id hid
  obtain ⟨k, -, hk, rfl⟩ := h.mem_select.mp hid
  exact idText_le hk hfew

theorem Numbered.lastId_full (hfull : days.count d = 10000) :
    (sorted (ids.filter (isLike (dayHead d)))).getLast? = some (idText d 9999) := by
  refine getLast?_sorted (h.mem_select.mpr ⟨_, by omega, by omega, rfl⟩) ?_
  intro id hid
  obtain ⟨k, -, hk, rfl⟩ := h.mem_select.mp hid
  rcases Nat.lt_or_eq_of_le (hk.trans_eq hfull) with hlt | rfl
  · exact idText_le (by omega) (by omega)
  · exact le_of_lt idText_full_lt

end

theorem int?_fourDigits (hk : k < 10 ^ 4) : int? (String.ofList (padded 4 (k : Int))) = some (k : Int) := by
  refine int?_padded ?_
  rw [length_padded (by decide) hk]
  unfold maxStrDigits
  decide

theorem nextTaskId_last (hk : k < 10 ^ 4)
    (h : (sorted (s.ids.filter (isLike (dayHead (zone.day now))))).getLast? = some (idText (zone.day now) k)) :
    nextTaskId zone s now = .ok (idText (zone.day now) (k + 1)) := by
  unfold dayHead at h
  simp only [nextTaskId, h, split_idText, int?_fourDigits hk, orRaise, bind, Except.bind, pure, Except.pure]
  rfl

section

variable (h : Numbered days s.ids)
include h

theorem Numbered.nextTaskId_few (hfew : days.count (zone.day now) ≤ 9999) :
    nextTaskId zone s now = .ok (idText (zone.day now) (days.count (zone.day now) + 1)) := by
  by_cases hpos : 1 ≤ days.count (zone.day now)
  · exact nextTaskId_last (by omega) (h.lastId_few hpos hfew)
  · have hzero : days.count (zone.day now) = 0 := by omega
    have hnone : s.ids.filter (isLike (dayHead (zone.day now))) = [] := by
      rw [List.eq_nil_iff_forall_not_mem]
      intro id hid
      obtain ⟨k, h1, hk, -⟩ := h.mem_select.mp hid
      omega
    unfold dayHead at hnone
    simp only [nextTaskId, hnone, hzero]
    rfl

theorem Numbered.nextTaskId_full (hfull : days.count (zone.day now) = 10000) :
    nextTaskId zone s now = .ok (idText (zone.day now) 10000) :=
  nextTaskId_last (by decide) (h.lastId_full hfull)

theorem Numbered.createTask_few {c : CreateCall}
    (hfew : days.count (zone.day c.namedAt) ≤ 9999) : ∃ task s', createTask zone s c = .ok (task, s') ∧
      s'.ids = s.ids ++ [task.taskId] ∧ Numbered (days ++ [zone.day c.namedAt]) s'.ids := by
  have hnew : idText (zone.day c.namedAt) (days.count (zone.day c.namedAt) + 1) ∉ s.ids := fun hmem => by
    have := (h.mem_idText.mp hmem).2
    omega
  have hids : ∀ (task : TaskRow) (a : List ActivityRow), (⟨s.tasks ++ [task], a⟩ : TaskTables).ids = s.ids ++ [task.taskId] := by
    intro task a
    rw [TaskTables.ids, List.map_append]
    rfl
  simp only [createTask, h.nextTaskId_few hfew, require, if_pos hnew, bind, Except.bind, pure, Except.pure]
  refine ⟨_, _, rfl, hids _ _, ?_⟩
  rw [hids]
  exact h.snoc _

theorem Numbered.createTask_full {c : CreateCall}
    (hfull : days.count (zone.day c.namedAt) = 10000) :
    createTask zone s c = .error ⟨.integrityError, "UNIQUE constraint failed: tasks.task_id"⟩ := by
  have htaken : ¬ idText (zone.day c.namedAt) 10000 ∉ s.ids :=
    not_not.mpr (h.mem_idText.mpr ⟨by decide, by omega⟩)
  simp only [createTask, h.nextTaskId_full hfull, require, if_neg htaken, bind, Except.bind]

end

/-! ## Runs -/

def daysOf (zone : StoreZone) (calls : List CreateCall) : List CalendarDay := calls.map fun c => zone.day c.namedAt

/-- Every call of the run returns an id, and no two return the same. -/
def AllNamed (results : List (Except Raised String)) : Prop :=
  ∃ ids : List String, results = ids.map Except.ok ∧ ids.Nodup

theorem Numbered.run_few (h : Numbered days s.ids) {calls : List CreateCall}
    (hfew : ∀ d, (days ++ daysOf zone calls).count d ≤ 10000) :
    ∃ ids : List String, run zone s calls = ids.map Except.ok ∧ (s.ids ++ ids).Nodup := by
  induction calls generalizing s days with
  | nil => exact ⟨[], rfl, by rw [List.append_nil]; exact h.distinct⟩
  | cons c calls ih =>
    have hc : days.count (zone.day c.namedAt) ≤ 9999 := by
      have := hfew (zone.day c.namedAt)
      rw [daysOf, List.map_cons, List.count_append, List.count_cons_self] at this
      omega
    obtain ⟨task, s', hok, hids, hs'⟩ := h.createTask_few hc
    have hrest : ∀ d, (days ++ [zone.day c.namedAt] ++ daysOf zone calls).count d ≤ 10000 := by
      intro d
      rw [List.append_assoc]
      exact hfew d
    obtain ⟨ids, hrun, hnodup⟩ := ih hs' hrest
    refine ⟨task.taskId :: ids, ?_, ?_⟩
    · rw [run, hok, List.map_cons, ← hrun]
    · rw [hids, List.append_assoc] at hnodup
      exact hnodup

theorem Numbered.run_many (h : Numbered days s.ids) {calls : List CreateCall} (hdays : ∀ d, days.count d ≤ 10000)
    (hmany : ∃ d, 10000 < (days ++ daysOf zone calls).count d) : ∃ e, .error e ∈ run zone s calls := by
  induction calls generalizing s days with
  | nil =>
    obtain ⟨d, hd⟩ := hmany
    have := hdays d
    rw [daysOf, List.map_nil, List.append_nil] at hd
    omega
  | cons c calls ih =>
    by_cases hc : days.count (zone.day c.namedAt) ≤ 9999
    · obtain ⟨task, s', hok, -, hs'⟩ := h.createTask_few hc
      obtain ⟨d, hd⟩ := hmany
      obtain ⟨e, he⟩ := ih hs' (fun d' => by
        have := hdays d'
        rw [List.count_append, List.count_singleton]
        split
        · rename_i heq
          rw [← eq_of_beq heq]
          omega
        · omega) ⟨d, by rw [List.append_assoc]; exact hd⟩
      rw [run, hok]
      exact ⟨e, List.mem_cons_of_mem _ he⟩
    · have hfull : days.count (zone.day c.namedAt) = 10000 := by
        have := hdays (zone.day c.namedAt)
        omega
      rw [run, h.createTask_full hfull]
      exact ⟨_, List.mem_cons_self ..⟩

/-- **When every task gets a name of its own**: when no day has more than ten thousand tasks. -/
theorem allNamed_iff (zone : StoreZone) (calls : List CreateCall) :
    AllNamed (run zone {} calls) ↔ ∀ d, (daysOf zone calls).count d ≤ 10000 := by
  constructor
  · rintro ⟨ids, hrun, -⟩ d
    by_contra hmany
    obtain ⟨e, he⟩ : ∃ e, .error e ∈ run zone {} calls :=
      Numbered.run_many (s := {}) numbered_nil (by simp) ⟨d, by simpa using hmany⟩
    rw [hrun, List.mem_map] at he
    obtain ⟨id, -, hid⟩ := he
    cases hid
  · intro hfew
    obtain ⟨ids, hrun, hnodup⟩ : ∃ ids : List String, run zone {} calls = ids.map Except.ok ∧ ([] ++ ids).Nodup :=
      Numbered.run_few (s := {}) numbered_nil (by simpa using hfew)
    exact ⟨ids, hrun, hnodup⟩

/-- The clock does not go back between two places where it is read. -/
def ClockForward (calls : List CreateCall) : Prop :=
  (calls.flatMap fun c => [c.createdAt, c.namedAt, c.recordedAt]).Pairwise (· ≤ ·)

namespace Sample

def newYear : CalendarDay := ⟨2026, 1, 1, by decide⟩

def oneDay : StoreZone := ⟨fun _ => newYear, fun _ => "2026-01-01T09:00:00+09:00"⟩

def busyDay : List CreateCall := List.replicate 10001 ⟨"title", "request", 0, 0, 0⟩

theorem busyDay_forward : ClockForward busyDay := by
  have hall : ∀ t ∈ busyDay.flatMap fun c => [c.createdAt, c.namedAt, c.recordedAt], t = 0 := by
    intro t ht
    obtain ⟨c, hc, ht⟩ := List.mem_flatMap.mp ht
    rw [List.eq_of_mem_replicate hc] at ht
    simpa using ht
  refine List.pairwise_of_forall_mem_list fun a ha b hb => ?_
  rw [hall a ha, hall b hb]

theorem daysOf_busyDay : daysOf oneDay busyDay = List.replicate 10001 newYear := by
  rw [daysOf, busyDay, List.map_replicate]
  rfl

/-- The ten thousand and first task of a day has no name. -/
theorem busyDay_not_named : ¬ ∀ (zone : StoreZone) (calls : List CreateCall), ClockForward calls →
    AllNamed (run zone {} calls) := by
  intro h
  obtain ⟨ids, hrun, -⟩ := h oneDay busyDay busyDay_forward
  obtain ⟨e, he⟩ : ∃ e, .error e ∈ run oneDay {} busyDay := by
    refine Numbered.run_many (s := {}) numbered_nil (by simp) ⟨newYear, ?_⟩
    rw [daysOf_busyDay, List.nil_append, List.count_replicate_self]
    decide
  rw [hrun, List.mem_map] at he
  obtain ⟨id, -, hid⟩ := he
  cases hid

end Sample

end ThreeAgent.TaskIds
