/-
Reservation accounting. Entry adds a reservation for a model that is not
loaded, but exit takes one away by the model's name, whoever recorded it. The
counts are exact in every state of a run if and only if no call that recorded
nothing exits while the file holds a reservation for its model.
-/
import ThreeAgent.ResourceBudget

namespace ThreeAgent.ResourceBudget

open PyDict Interleaving

/-- The reservations that the file counts for a model. -/
def count (file : Dict Reservation) (model : String) : Int :=
  match get? file model with
  | some r => r.count
  | none => 0

/-- A call in the body of its `with` statement that recorded a reservation for the model. -/
def recordedFor (model : String) (a : Admit) : Bool := decide (a.model = model ∧ a.phase = .live true)

/-- The calls that hold a reservation for the model. -/
def liveRecorded (calls : List Admit) (model : String) : Nat := calls.countP (recordedFor model)

abbrev State := World (Dict Reservation) Admit

/-- The counts are exact. -/
def Accounts (w : State) : Prop := ∀ model, count w.shared model = liveRecorded w.calls model

section Machine

variable {S : Type}

/-- No reservation has reached its time to live where the call that moves reads the file. -/
def Fresh (w : State) (e : Event (Config × String) (Moment S)) : Prop :=
  ∀ i moment a, e = .move i moment → w.calls[i]? = some a →
    ∀ r ∈ w.shared, moment.now - r.2.createdAt ≤ 1000000 * max 30 a.config.reservationTtlSeconds

/-- A call that recorded no reservation exits only while the file holds none for its model. -/
def Owned (w : State) (e : Event (Config × String) (Moment S)) : Prop :=
  ∀ i moment a, e = .move i moment → w.calls[i]? = some a → a.config.enabled = true →
    (a.phase = .live false ∨ ∃ err, a.phase = .failing err) → get? w.shared a.model = none

instance (w : State) (e : Event (Config × String) (Moment S)) : Decidable (Fresh w e) :=
  decidable_of_iff (e.OnCall (fun _ moment a =>
    ∀ r ∈ w.shared, moment.now - r.2.createdAt ≤ 1000000 * max 30 a.config.reservationTtlSeconds) w.calls)
    Event.onCall_iff

instance (phase : Phase) : Decidable (∃ err, phase = .failing err) :=
  match phase with
  | .failing err => isTrue ⟨err, rfl⟩
  | .waiting | .decided _ _ | .live _ | .done => isFalse fun ⟨_, h⟩ => by cases h

instance (w : State) (e : Event (Config × String) (Moment S)) : Decidable (Owned w e) :=
  decidable_of_iff (e.OnCall (fun _ _ a => a.config.enabled = true →
    (a.phase = .live false ∨ ∃ err, a.phase = .failing err) → get? w.shared a.model = none) w.calls)
    Event.onCall_iff

/-- What every reachable state has besides: the entries are positive, and only an enabled manager
records reservations. -/
structure Inv (w : State) : Prop where
  positive : ∀ e ∈ w.shared, 0 < e.2.bytes ∧ 0 < e.2.count
  enabled : ∀ a ∈ w.calls, (a.phase = .live true ∨ ∃ d l, a.phase = .decided d l) → a.config.enabled = true

/-! ## The two blocks -/

theorem readReservations_eq {config : Config} {now : Int} {file : Dict Reservation}
    (hpos : ∀ e ∈ file, 0 < e.2.bytes ∧ 0 < e.2.count)
    (hfresh : ∀ r ∈ file, now - r.2.createdAt ≤ 1000000 * max 30 config.reservationTtlSeconds) :
    readReservations config now file = file := by
  unfold readReservations
  rw [List.filter_eq_self]
  intro e he
  obtain ⟨hbytes, hcount⟩ := hpos e he
  exact decide_eq_true ⟨hbytes, hcount, hfresh e he⟩

theorem count_set (file : Dict Reservation) (model model' : String) (r : Reservation) :
    count (set file model r) model' = if model = model' then r.count else count file model' := by
  unfold count
  rw [get?_set]
  by_cases h : model = model'
  · simp only [if_pos h]
  · simp only [if_neg h]

theorem count_pop (file : Dict Reservation) (model model' : String) :
    count (pop file model) model' = if model = model' then 0 else count file model' := by
  unfold count
  rw [get?_pop]
  by_cases h : model = model'
  · simp only [if_pos h]
  · simp only [if_neg h]

section Blocks

variable {config : Config} {now : Int} {file : Dict Reservation}

section
variable (hread : readReservations config now file = file)
include hread

theorem count_enter (model : String) (decision : AdmissionDecision)
    (loaded : List String) (model' : String) :
    count (enter config now model decision loaded file) model' =
      count file model' + if model ∉ loaded ∧ model = model' then 1 else 0 := by
  unfold enter
  by_cases hl : model ∈ loaded
  · simp [hl]
  · rw [if_neg hl, hread]
    cases hget : get? file model with
    | none =>
      simp only [hget]
      rw [count_set]
      by_cases hm : model = model'
      · subst hm
        simp [hl, count, hget]
      · simp [hm]
    | some r =>
      simp only [hget]
      rw [count_set]
      by_cases hm : model = model'
      · subst hm
        simp [hl, count, hget]
      · simp [hm]

section

variable (hpos : ∀ e ∈ file, 0 < e.2.bytes ∧ 0 < e.2.count)
include hpos

theorem count_leave
    (model model' : String) :
    count (leave config now model file) model' =
      count file model' - if (get? file model).isSome ∧ model = model' then 1 else 0 := by
  unfold leave
  rw [hread]
  cases hget : get? file model with
  | none => simp [hget]
  | some r =>
    have hr : 0 < r.count := (hpos _ (mem_of_get? hget)).2
    have hcount : count file model = r.count := by simp [count, hget]
    simp only [hget]
    by_cases hle : r.count - 1 ≤ 0
    · rw [if_pos hle, count_pop]
      by_cases hm : model = model'
      · subst hm
        simp only [if_true, Option.isSome_some, and_self, hcount]
        omega
      · simp [hm]
    · rw [if_neg hle, count_set]
      by_cases hm : model = model'
      · subst hm
        simp [hcount]
      · simp [hm]

theorem positive_enter
    (model : String) (decision : AdmissionDecision)
    (loaded : List String) : ∀ e ∈ enter config now model decision loaded file, 0 < e.2.bytes ∧ 0 < e.2.count := by
  intro e he
  unfold enter at he
  by_cases hl : model ∈ loaded
  · rw [if_pos hl] at he
    exact hpos e he
  · rw [if_neg hl, hread] at he
    cases hget : get? file model with
    | none =>
      simp only [hget] at he
      rcases mem_set he with rfl | he
      · exact ⟨Int.lt_of_lt_of_le Int.one_pos (Int.le_max_left 1 _), Int.one_pos⟩
      · exact hpos e he
    | some r =>
      simp only [hget] at he
      rcases mem_set he with rfl | he
      · have hr := hpos _ (mem_of_get? hget)
        exact ⟨hr.1, Int.lt_add_one_of_le (Int.le_of_lt hr.2)⟩
      · exact hpos e he

theorem positive_leave
    (model : String) :
    ∀ e ∈ leave config now model file, 0 < e.2.bytes ∧ 0 < e.2.count := by
  intro e he
  unfold leave at he
  rw [hread] at he
  cases hget : get? file model with
  | none =>
    simp only [hget] at he
    exact hpos e he
  | some r =>
    simp only [hget] at he
    by_cases hle : r.count - 1 ≤ 0
    · rw [if_pos hle] at he
      exact hpos e (List.mem_filter.mp he).1
    · rw [if_neg hle] at he
      rcases mem_set he with rfl | he
      · exact ⟨(hpos _ (mem_of_get? hget)).1, Int.not_le.mp hle⟩
      · exact hpos e he

end

end

end Blocks

/-! ## One step -/

theorem poll_not_live (machine : Machine S) (moment : Moment S) (a : Admit) (file : Dict Reservation) (r : Bool) :
    poll machine moment a file ≠ .live r := by
  unfold poll
  cases moment.raises with
  | some e => simp
  | none =>
    simp only
    cases machine.decision a.model moment.snapshot (readReservations a.config moment.now file) with
    | error e => simp
    | ok d =>
      simp only
      split
      · simp
      · split
        · simp
        · split <;> simp

theorem liveRecorded_set {calls : List Admit} {i : Nat} {a a' : Admit} (h : calls[i]? = some a) (model : String) :
    (liveRecorded (calls.set i a') model : Int) = liveRecorded calls model -
      (if recordedFor model a then 1 else 0) + (if recordedFor model a' then 1 else 0) := by
  obtain ⟨hlt, hget⟩ := List.getElem?_eq_some_iff.mp h
  unfold liveRecorded
  rw [List.countP_set hlt, hget]
  by_cases ha : recordedFor model a = true
  · have hpos : 0 < calls.countP (recordedFor model) := by
      rw [List.countP_pos_iff]
      exact ⟨a, List.mem_of_getElem? h, ha⟩
    rw [if_pos ha, if_pos ha]
    split <;> omega
  · rw [if_neg ha, if_neg ha]
    split <;> omega

theorem accounts_set {w : State} (h : Accounts w) {i : Nat} {a a' : Admit} (hget : w.calls[i]? = some a)
    (ha : ∀ model, recordedFor model a = false) (ha' : ∀ model, recordedFor model a' = false) :
    Accounts ⟨w.shared, w.calls.set i a'⟩ := by
  intro model
  show count w.shared model = (liveRecorded (w.calls.set i a') model : Int)
  rw [liveRecorded_set hget, ha, ha', h model]
  simp

theorem recordedFor_eq_false {a : Admit} (h : a.phase ≠ .live true) (model : String) : recordedFor model a = false := by
  simp [recordedFor, h]

section Step

variable {machine : Machine S} {w : State} {i : Nat} {moment : Moment S} {a : Admit}

theorem accounts_leave_iff (hinv : Inv w) (h : Accounts w) (hget : w.calls[i]? = some a)
    (hread : readReservations a.config moment.now w.shared = w.shared) (hphase : a.phase ≠ .live true) :
    Accounts ⟨leave a.config moment.now a.model w.shared, w.calls.set i { a with phase := .done }⟩ ↔
      get? w.shared a.model = none := by
  have hlive : ∀ model, (liveRecorded (w.calls.set i { a with phase := .done }) model : Int) =
      liveRecorded w.calls model := by
    intro model
    rw [liveRecorded_set hget, recordedFor_eq_false hphase, recordedFor_eq_false (by simp)]
    simp
  constructor
  · intro hafter
    have hmodel : count (leave a.config moment.now a.model w.shared) a.model =
        liveRecorded (w.calls.set i { a with phase := .done }) a.model := hafter a.model
    rw [count_leave hread hinv.positive, hlive, h a.model] at hmodel
    cases hg : get? w.shared a.model with
    | none => rfl
    | some r =>
      simp only [hg, Option.isSome_some, and_self, if_true] at hmodel
      omega
  · intro hnone model
    show count (leave a.config moment.now a.model w.shared) model =
      liveRecorded (w.calls.set i { a with phase := .done }) model
    rw [count_leave hread hinv.positive, hlive, h model, hnone]
    simp

theorem accounts_leave_live (hinv : Inv w) (h : Accounts w) (hget : w.calls[i]? = some a)
    (hread : readReservations a.config moment.now w.shared = w.shared) (hphase : a.phase = .live true) :
    Accounts ⟨leave a.config moment.now a.model w.shared, w.calls.set i { a with phase := .done }⟩ := by
  have hrec : ∀ model, recordedFor model a = decide (a.model = model) := by
    intro model
    simp [recordedFor, hphase]
  have hpos : 0 < liveRecorded w.calls a.model := by
    unfold liveRecorded
    rw [List.countP_pos_iff]
    exact ⟨a, List.mem_of_getElem? hget, by simp [hrec]⟩
  have hsome : (get? w.shared a.model).isSome = true := by
    have hcount := h a.model
    unfold count at hcount
    cases hg : get? w.shared a.model with
    | none =>
      simp only [hg] at hcount
      omega
    | some r => rfl
  intro model
  show count (leave a.config moment.now a.model w.shared) model =
    (liveRecorded (w.calls.set i { a with phase := .done }) model : Int)
  rw [count_leave hread hinv.positive, liveRecorded_set hget, hrec, recordedFor_eq_false (by simp), h model]
  by_cases hm : a.model = model
  · rw [if_pos ⟨hsome, hm⟩]
    simp [hm]
  · simp [hm]

theorem accounts_enter (h : Accounts w) (hget : w.calls[i]? = some a)
    (hread : readReservations a.config moment.now w.shared = w.shared) {decision : AdmissionDecision}
    {loaded : List String} (hphase : a.phase = .decided decision loaded) :
    Accounts ⟨enter a.config moment.now a.model decision loaded w.shared,
      w.calls.set i { a with phase := .live (decide (a.model ∉ loaded)) }⟩ := by
  intro model
  show count (enter a.config moment.now a.model decision loaded w.shared) model =
    (liveRecorded (w.calls.set i { a with phase := .live (decide (a.model ∉ loaded)) }) model : Int)
  rw [count_enter hread, liveRecorded_set hget, recordedFor_eq_false (by simp [hphase]), h model]
  by_cases hm : a.model = model
  · by_cases hl : a.model ∈ loaded
    · simp [recordedFor, hl]
    · simp [recordedFor, hm, hm ▸ hl]
  · simp [recordedFor, hm]

end Step

theorem accounts_after_iff (machine : Machine S) {w : State} (hinv : Inv w) (h : Accounts w)
    {e : Event (Config × String) (Moment S)} (hfresh : Fresh w e) :
    Accounts ((program machine).after w e) ↔ Owned w e := by
  rcases (program machine).after_cases w e with ⟨b, rfl, hafter⟩ | ⟨i, moment, a, rfl, hget, hafter⟩ |
      ⟨i, moment, rfl, hnone, hafter⟩
  · rw [hafter]
    have howned : Owned w (.start b : Event (Config × String) (Moment S)) := by
      intro i moment a he
      cases he
    refine ⟨fun _ => howned, ?_⟩
    intro _ model
    have hlive : liveRecorded (w.calls ++ [(program machine).init b]) model = liveRecorded w.calls model := by
      simp [liveRecorded, recordedFor, program]
    show count w.shared model = (liveRecorded (w.calls ++ [(program machine).init b]) model : Int)
    rw [hlive]
    exact h model
  · have hread : readReservations a.config moment.now w.shared = w.shared :=
      readReservations_eq hinv.positive (hfresh i moment a rfl hget)
    have howned : Owned w (.move i moment) ↔ (a.config.enabled = true →
        (a.phase = .live false ∨ ∃ err, a.phase = .failing err) → get? w.shared a.model = none) := by
      constructor
      · intro ho
        exact ho i moment a rfl hget
      · intro ho i' moment' a' heq hget'
        cases heq
        rw [hget] at hget'
        cases hget'
        exact ho
    rw [hafter, howned]
    show Accounts ⟨(act machine moment w.shared a).1, w.calls.set i (act machine moment w.shared a).2⟩ ↔ _
    unfold act
    cases hphase : a.phase with
    | waiting =>
      have hno : ∀ model, recordedFor model a = false := recordedFor_eq_false (by simp [hphase])
      simp only
      split
      · refine ⟨fun _ => by simp, fun _ => accounts_set h hget hno (recordedFor_eq_false ?_)⟩
        exact poll_not_live machine moment a w.shared true
      · exact ⟨fun _ => by simp, fun _ => accounts_set h hget hno (recordedFor_eq_false (by simp))⟩
    | decided decision loaded => exact ⟨fun _ => by simp, fun _ => accounts_enter h hget hread hphase⟩
    | done =>
      have hno : ∀ model, recordedFor model a = false := recordedFor_eq_false (by simp [hphase])
      exact ⟨fun _ => by simp, fun _ => accounts_set h hget hno hno⟩
    | failing err =>
      have hno : ∀ model, recordedFor model a = false := recordedFor_eq_false (by simp [hphase])
      simp only
      split
      · rename_i hen
        rw [accounts_leave_iff hinv h hget hread (by simp [hphase])]
        simp [hen]
      · rename_i hdis
        exact ⟨fun _ => by simp [hdis], fun _ => accounts_set h hget hno (recordedFor_eq_false (by simp))⟩
    | live recorded =>
      simp only
      cases recorded with
      | true =>
        have hen := hinv.enabled a (List.mem_of_getElem? hget) (.inl hphase)
        rw [if_pos hen]
        exact ⟨fun _ => by simp, fun _ => accounts_leave_live hinv h hget hread hphase⟩
      | false =>
        have hno : ∀ model, recordedFor model a = false := recordedFor_eq_false (by simp [hphase])
        split
        · rename_i hen
          rw [accounts_leave_iff hinv h hget hread (by simp [hphase])]
          simp [hen]
        · rename_i hdis
          exact ⟨fun _ => by simp [hdis], fun _ => accounts_set h hget hno (recordedFor_eq_false (by simp))⟩
  · rw [hafter]
    refine ⟨?_, fun _ => h⟩
    intro _ i' moment' a he hget
    cases he
    rw [hnone] at hget
    cases hget

theorem Inv.after (machine : Machine S) {w : State} (hinv : Inv w) {e : Event (Config × String) (Moment S)}
    (hfresh : Fresh w e) : Inv ((program machine).after w e) := by
  rcases (program machine).after_cases w e with ⟨b, rfl, hafter⟩ | ⟨i, moment, a, rfl, hget, hafter⟩ |
      ⟨i, moment, rfl, hnone, hafter⟩
  · rw [hafter]
    refine ⟨hinv.positive, ?_⟩
    intro a ha hphase
    rcases List.mem_append.mp ha with ha | ha
    · exact hinv.enabled a ha hphase
    · rw [List.mem_singleton.mp ha] at hphase
      rcases hphase with hphase | ⟨d, l, hphase⟩ <;> cases hphase
  · have hread : readReservations a.config moment.now w.shared = w.shared :=
      readReservations_eq hinv.positive (hfresh i moment a rfl hget)
    have hamem := List.mem_of_getElem? hget
    rw [hafter]
    show Inv ⟨(act machine moment w.shared a).1, w.calls.set i (act machine moment w.shared a).2⟩
    -- the moved call is enabled where it holds a decision or a reservation; the others are as they were
    have hcalls : ∀ a' : Admit, ((a'.phase = .live true ∨ ∃ d l, a'.phase = .decided d l) → a'.config.enabled = true) →
        ∀ c ∈ w.calls.set i a', (c.phase = .live true ∨ ∃ d l, c.phase = .decided d l) → c.config.enabled = true := by
      intro a' ha' c hc
      rcases List.mem_or_eq_of_mem_set hc with hc | rfl
      · exact hinv.enabled c hc
      · exact ha'
    unfold act
    cases hphase : a.phase with
    | waiting =>
      simp only
      split
      · rename_i hen
        exact ⟨hinv.positive, hcalls _ fun _ => hen⟩
      · exact ⟨hinv.positive, hcalls _ (by simp)⟩
    | decided decision loaded =>
      have hen := hinv.enabled a hamem (.inr ⟨decision, loaded, hphase⟩)
      exact ⟨positive_enter hread hinv.positive _ _ _, hcalls _ fun _ => hen⟩
    | done => exact ⟨hinv.positive, hcalls _ (hinv.enabled a hamem)⟩
    | failing err =>
      simp only
      split
      · exact ⟨positive_leave hread hinv.positive _, hcalls _ (by simp)⟩
      · exact ⟨hinv.positive, hcalls _ (by simp)⟩
    | live recorded =>
      simp only
      split
      · exact ⟨positive_leave hread hinv.positive _, hcalls _ (by simp)⟩
      · exact ⟨hinv.positive, hcalls _ (by simp)⟩
  · rw [hafter]
    exact hinv

/-! ## Runs -/

theorem accounts_run_iff (machine : Machine S) {w : State} (hinv : Inv w) (h : Accounts w)
    {events : List (Event (Config × String) (Moment S))} (hfresh : (program machine).Each Fresh w events) :
    (program machine).Always Accounts w events ↔ (program machine).Each Owned w events := by
  induction events generalizing w with
  | nil => exact ⟨fun _ => trivial, fun _ => h⟩
  | cons e events ih =>
    have hstep := accounts_after_iff machine hinv h hfresh.1
    have hinv' := hinv.after machine hfresh.1
    constructor
    · intro halways
      have hafter : Accounts ((program machine).after w e) := halways.2.head
      exact ⟨hstep.mp hafter, (ih hinv' hafter hfresh.2).mp halways.2⟩
    · intro heach
      have hafter := hstep.mpr heach.1
      exact ⟨h, (ih hinv' hafter hfresh.2).mpr heach.2⟩

/-- From an empty state file, in a run in which no reservation reaches its time to live: the reservation
counts are the numbers of live calls that recorded them, in every state reached, if and only if no call
that recorded nothing exits while the file holds a reservation for its model. -/
theorem reservations_account_iff (machine : Machine S) (events : List (Event (Config × String) (Moment S)))
    (hfresh : (program machine).Each Fresh ⟨[], []⟩ events) :
    (program machine).Always Accounts ⟨[], []⟩ events ↔ (program machine).Each Owned ⟨[], []⟩ events :=
  accounts_run_iff machine ⟨by simp, by simp⟩ (fun _ => rfl) hfresh

end Machine

/-! ### A loaded model's exit takes another call's reservation -/

def roomyMachine : Machine (List String) where
  loadedModels loaded := loaded
  decision model loaded reservations :=
    .ok { allowed := true, estimatedModelBytes := if model ∈ loaded ∨ has reservations model then 0 else 1000 }

/-- The first call reserves the model; the second finds it loaded and exits first. -/
def overlapEvents : List (Event (Config × String) (Moment (List String))) :=
  [.start ({}, "m"), .move 0 ⟨0, [], false, none⟩, .move 0 ⟨0, [], false, none⟩,
   .start ({}, "m"), .move 1 ⟨0, ["m"], false, none⟩, .move 1 ⟨0, ["m"], false, none⟩,
   .move 1 ⟨0, ["m"], false, none⟩]

/-- The first call is still live and recorded a reservation, but the file holds none any more. -/
theorem reservation_taken_by_loaded_call :
    let w := (program roomyMachine).run ⟨[], []⟩ overlapEvents
    w.calls.map Admit.phase = [.live true, .done] ∧ count w.shared "m" = 0 ∧ ¬ Accounts w := by
  refine ⟨by decide, by decide, ?_⟩
  intro h
  exact absurd (h "m") (by decide)

/-- Both calls reserve the model, the second while the first is live, and give their reservations back. -/
def sharedEvents : List (Event (Config × String) (Moment (List String))) :=
  [.start ({}, "m"), .start ({}, "m"), .move 0 ⟨0, [], false, none⟩, .move 1 ⟨0, [], false, none⟩,
   .move 0 ⟨0, [], false, none⟩, .move 1 ⟨0, [], false, none⟩, .move 0 ⟨0, [], false, none⟩,
   .move 1 ⟨0, [], false, none⟩]

theorem sharedEvents_account :
    count ((program roomyMachine).run ⟨[], []⟩ (sharedEvents.take 6)).shared "m" = 2 ∧
      (program roomyMachine).Each Fresh ⟨[], []⟩ sharedEvents ∧
      (program roomyMachine).Always Accounts ⟨[], []⟩ sharedEvents :=
  ⟨by decide, by decide, (reservations_account_iff roomyMachine sharedEvents (by decide)).mpr (by decide)⟩

end ThreeAgent.ResourceBudget
