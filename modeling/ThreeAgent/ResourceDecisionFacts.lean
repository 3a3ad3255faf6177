/-
Overcommitment of the resource budget. A decision and the recording of its
reservation are two blocks, and a recording in between makes the decision
stale; so the reservations stay within the limits in the runs in which
nobody records while another call stands between the two blocks. The second thing to
be sure of is a byte of the RAM: the overheads of the parts are rounded down
one by one.
-/
import ThreeAgent.ResourceBudgetFacts
import ThreeAgent.ResourceDecision
import ThreeAgent.ResourceProjectionFacts

namespace ThreeAgent.ResourceBudget

open PyDict Interleaving Outcome

variable {model : String} {d : AdmissionDecision}

/-! ## The bytes of the reservations -/

def recordedBytes (file : Dict Reservation) : Int := (file.map fun e => e.2.bytes).sum

variable {file : Dict Reservation}

theorem recordedBytes_nonneg (hpos : ∀ e ∈ file, 0 < e.2.bytes ∧ 0 < e.2.count) : 0 ≤ recordedBytes file := by
  apply List.sum_nonneg
  intro x hx
  obtain ⟨e, he, rfl⟩ := List.mem_map.mp hx
  exact (hpos e he).1.le

theorem reservedBytes_eq {snapshot : ResourceSnapshot}
    (h : ∀ e ∈ file, e.1 ∉ snapshot.loadedModels) : reservedBytes snapshot file = recordedBytes file := by
  have hall : (file.filter fun e => e.1 ∉ snapshot.loadedModels) = file := by
    rw [List.filter_eq_self]
    intro e he
    exact decide_eq_true (h e he)
  rw [reservedBytes, hall, recordedBytes]

theorem recordedBytes_pop_le (hpos : ∀ e ∈ file, 0 < e.2.bytes ∧ 0 < e.2.count)
    (model : String) : recordedBytes (pop file model) ≤ recordedBytes file := by
  apply List.Sublist.sum_le_sum (List.Sublist.map _ List.filter_sublist)
  intro x hx
  obtain ⟨e, he, rfl⟩ := List.mem_map.mp hx
  exact (hpos e he).1.le

theorem recordedBytes_set {r r' : Reservation} (hget : get? file model = some r) (hbytes : r'.bytes = r.bytes) :
    recordedBytes (PyDict.set file model r') = recordedBytes file := by
  induction file with
  | nil => cases hget
  | cons e file ih =>
    obtain ⟨k, v⟩ := e
    rw [get?_cons] at hget
    by_cases hk : k = model
    · rw [if_pos hk, Option.some_inj] at hget
      rw [PyDict.set, if_pos hk]
      simp only [recordedBytes, List.map_cons, List.sum_cons, hbytes, hget]
    · rw [if_neg hk] at hget
      have hrest := ih hget
      rw [PyDict.set, if_neg hk]
      simp only [recordedBytes, List.map_cons, List.sum_cons] at hrest ⊢
      rw [hrest]

variable {config : Config} {now : Int}

section

variable (hread : readReservations config now file = file)
include hread

theorem leave_cases (model : String) :
    leave config now model file = file ∨ leave config now model file = pop file model ∨
      ∃ r r', get? file model = some r ∧ r'.bytes = r.bytes ∧ leave config now model file = PyDict.set file model r' := by
  unfold leave
  rw [hread]
  dsimp only
  cases hget : get? file model with
  | none => exact .inl rfl
  | some r =>
    dsimp only
    split
    · exact .inr (.inl rfl)
    · exact .inr (.inr ⟨r, { r with count := r.count - 1, createdAt := now }, rfl, rfl, rfl⟩)

theorem recordedBytes_leave_le
    (hpos : ∀ e ∈ file, 0 < e.2.bytes ∧ 0 < e.2.count)
    (model : String) : recordedBytes (leave config now model file) ≤ recordedBytes file := by
  rcases leave_cases hread model with hleave | hleave | ⟨r, r', hget, hbytes, hleave⟩
  · rw [hleave]
  · rw [hleave]
    exact recordedBytes_pop_le hpos model
  · rw [hleave, recordedBytes_set hget hbytes]

theorem has_of_leave {model' : String}
    (h : has (leave config now model file) model' = true) : has file model' = true := by
  rcases leave_cases hread model with hleave | hleave | ⟨r, r', hget, -, hleave⟩
  · rwa [hleave] at h
  · rw [hleave, has_pop, Bool.and_eq_true] at h
    exact h.2
  · rw [hleave, has_set, Bool.or_eq_true, decide_eq_true_eq] at h
    rcases h with rfl | h
    · exact has_iff.mpr ⟨r, hget⟩
    · exact h

theorem enter_new {decision : AdmissionDecision}
    {loaded : List String} (hloaded : model ∉ loaded) (hget : get? file model = none) :
    enter config now model decision loaded file =
      file ++ [(model, ⟨max 1 decision.estimatedModelBytes, 1, now⟩)] := by
  unfold enter
  rw [if_neg hloaded, hread]
  dsimp only
  rw [hget]
  exact set_of_absent (has_eq_false.mpr hget)

end

/-! ## The decision -/

section Decision

variable {config : BudgetLimits} {sizes : ModelSizes} {snapshot : ResourceSnapshot}

theorem one_le_estimateModelBytes {n : Int} (h : estimateModelBytes config sizes model = .ok n) :
    1 ≤ n := by
  unfold estimateModelBytes at h
  split at h
  · obtain ⟨size, -, rfl⟩ := map_ok.mp h
    exact le_max_left 1 size
  · split at h
    · cases h
    · split at h
      · rename_i t hfind
        cases h
        have hfound := List.find?_some hfind
        have hsize : 0 < t.size := (of_decide_eq_true hfound).2
        rw [Int.le_floor, Int.cast_one]
        calc (1 : ℚ) = 1 * 1 := (one_mul 1).symm
          _ ≤ t.size * max 1 config.modelSizeSafetyFactor :=
            mul_le_mul (by exact_mod_cast hsize) (le_max_left _ _) zero_le_one (by exact_mod_cast hsize.le)
      · cases h

/-- What an allowed decision found: the bytes fit onto the healthy GPUs, and their overhead into the RAM. -/
structure Admits (config : BudgetLimits) (snapshot : ResourceSnapshot) (reserved candidate : Int) : Prop where
  vram : candidate + reserved ≤ freeCapacity (healthy config snapshot) (vramLimit config)
  ram : ramPercent snapshot (snapshot.ramUsedBytes + ramOverheadBytes config reserved +
    ramOverheadBytes config candidate) ≤ ramLimit config

theorem decisionFor_allowed {candidate reserved : Int} (hne : healthy config snapshot ≠ [])
    (h : (decisionFor config model snapshot candidate reserved).allowed = true) :
    Admits config snapshot reserved candidate := by
  unfold decisionFor at h
  dsimp only at h
  split at h
  · cases h
  · rename_i hram
    cases hprojection : balancedProjection config (healthy config snapshot) candidate reserved with
    | none =>
      rw [hprojection] at h
      cases h
    | some projection => exact ⟨(balancedProjection_isSome_iff hne).mp (by rw [hprojection]; rfl), not_lt.mp hram⟩

theorem decisionFor_estimate (model : String) (candidate reserved : Int) :
    (decisionFor config model snapshot candidate reserved).estimatedModelBytes = candidate := by
  unfold decisionFor
  dsimp only
  split
  · rfl
  · split <;> rfl

theorem decision_allowed {reservations : Dict Reservation}
    (h : (budgetMachine config sizes).decision model snapshot reservations = .ok d) (hallowed : d.allowed = true)
    (hloaded : model ∉ snapshot.loadedModels) (hget : get? reservations model = none) :
    1 ≤ d.estimatedModelBytes ∧ Admits config snapshot (reservedBytes snapshot reservations) d.estimatedModelBytes := by
  obtain ⟨full, hfull, rfl⟩ := map_ok.mp h
  unfold decision at hfull
  by_cases hne : healthy config snapshot = []
  · rw [if_pos hne] at hfull
    cases hfull
    cases hallowed
  · rw [if_neg hne] at hfull
    obtain ⟨candidate, hcandidate, rfl⟩ := map_ok.mp hfull
    have hnone : ¬ (model ∈ snapshot.loadedModels ∨ has reservations model = true) := by
      rw [has_eq_false.mpr hget]
      simpa using hloaded
    rw [candidateBytes, if_neg hnone] at hcandidate
    rw [decisionFor_estimate]
    exact ⟨one_le_estimateModelBytes hcandidate, decisionFor_allowed hne hallowed⟩

end Decision

/-! ## The limits -/

section Limits

variable {config : BudgetLimits} {snapshot : ResourceSnapshot}

theorem ramOverheadBytes_mono (config : BudgetLimits) {a b : Int} (h : a ≤ b) :
    ramOverheadBytes config a ≤ ramOverheadBytes config b := by
  apply Int.floor_le_floor
  apply mul_le_mul_of_nonneg_right _ (le_max_left _ _)
  exact_mod_cast max_le_max le_rfl h

theorem ramOverheadBytes_add_le (config : BudgetLimits) {a b : Int} (ha : 0 ≤ a) (hb : 0 ≤ b) :
    ramOverheadBytes config (a + b) ≤ ramOverheadBytes config a + ramOverheadBytes config b + 1 := by
  have hfloor := Int.le_floor_add_floor ((a : ℚ) * max 0 (min 1 config.modelRamOverheadFactor))
    ((b : ℚ) * max 0 (min 1 config.modelRamOverheadFactor))
  simp only [ramOverheadBytes, max_eq_right ha, max_eq_right hb, max_eq_right (add_nonneg ha hb), Int.cast_add, add_mul]
  linarith

theorem ramPercent_mono {a b : Int} (h : a ≤ b) : ramPercent snapshot a ≤ ramPercent snapshot b := by
  have hpos : 0 < max 1 snapshot.ramTotalBytes := lt_max_of_lt_left one_pos
  apply mul_le_mul_of_nonneg_right _ (by norm_num)
  exact div_le_div_of_nonneg_right (by exact_mod_cast h) (by exact_mod_cast hpos.le)

theorem Admits.mono {reserved reserved' candidate : Int} (h : Admits config snapshot reserved candidate)
    (hle : reserved' ≤ reserved) : Admits config snapshot reserved' candidate where
  vram := (Int.add_le_add_left hle _).trans h.vram
  ram := (ramPercent_mono (by linarith [ramOverheadBytes_mono config hle])).trans h.ram

/-- The recorded reservations are within the limits; with none recorded there is nothing to project. -/
structure Within (config : BudgetLimits) (snapshot : ResourceSnapshot) (file : Dict Reservation) : Prop where
  vram : recordedBytes file ≤ freeCapacity (healthy config snapshot) (vramLimit config)
  ram : file ≠ [] →
    ramPercent snapshot (snapshot.ramUsedBytes + ramOverheadBytes config (recordedBytes file)) ≤ ramLimit config

theorem Within.nil : Within config snapshot [] where
  vram := freeCapacity_nonneg _ _
  ram h := absurd rfl h

theorem Within.mono {file file' : Dict Reservation} (h : Within config snapshot file)
    (hle : recordedBytes file' ≤ recordedBytes file) (hne : file' ≠ [] → file ≠ []) : Within config snapshot file' where
  vram := hle.trans h.vram
  ram hfile := (ramPercent_mono (Int.add_le_add_left (ramOverheadBytes_mono config hle) _)).trans (h.ram (hne hfile))

instance (config : BudgetLimits) (snapshot : ResourceSnapshot) (file : Dict Reservation) :
    Decidable (Within config snapshot file) :=
  decidable_of_iff (recordedBytes file ≤ freeCapacity (healthy config snapshot) (vramLimit config) ∧
    (file ≠ [] → ramPercent snapshot (snapshot.ramUsedBytes + ramOverheadBytes config (recordedBytes file)) ≤
      ramLimit config)) ⟨fun h => ⟨h.1, h.2⟩, fun h => ⟨h.vram, h.ram⟩⟩

/-- The overheads add up, or the RAM has room for the byte by which they may be short. -/
def RoomForByte (config : BudgetLimits) (snapshot : ResourceSnapshot) (reserved candidate : Int) : Prop :=
  ramOverheadBytes config (reserved + candidate) = ramOverheadBytes config reserved + ramOverheadBytes config candidate ∨
    ramPercent snapshot (snapshot.ramUsedBytes + ramOverheadBytes config reserved +
      ramOverheadBytes config candidate + 1) ≤ ramLimit config

instance (config : BudgetLimits) (snapshot : ResourceSnapshot) (reserved candidate : Int) :
    Decidable (RoomForByte config snapshot reserved candidate) := inferInstanceAs (Decidable (_ ∨ _))

theorem Admits.within {r : Reservation} (h : Admits config snapshot (recordedBytes file) r.bytes)
    (hroom : RoomForByte config snapshot (recordedBytes file) r.bytes) (hfile : 0 ≤ recordedBytes file)
    (hr : 0 ≤ r.bytes) : Within config snapshot (file ++ [(model, r)]) := by
  have hsum : recordedBytes (file ++ [(model, r)]) = recordedBytes file + r.bytes := by
    simp [recordedBytes]
  refine ⟨?_, fun _ => ?_⟩
  · rw [hsum, Int.add_comm]
    exact h.vram
  · rw [hsum]
    rcases hroom with hexact | hbyte
    · rw [hexact, ← Int.add_assoc]
      exact h.ram
    · exact (ramPercent_mono (by linarith [ramOverheadBytes_add_le config hfile hr])).trans hbyte

end Limits

/-! ## A run -/

def startedModels (events : List (Event (Config × String) (Moment ResourceSnapshot))) : List String :=
  events.filterMap fun e =>
    match e with
    | .start b => some b.2
    | .move _ _ => none

/-- A call stands between its decision and its recording. -/
def Admit.Decided (a : Admit) : Prop := ∃ d l, a.phase = .decided d l

/-- The decision that a call has yet to record. -/
def Admit.decision? (a : Admit) : Option AdmissionDecision :=
  match a.phase with
  | .decided d _ => some d
  | _ => none

theorem Admit.decision?_eq_some {a : Admit} :
    a.decision? = some d ↔ ∃ l, a.phase = .decided d l := by
  unfold decision?
  split
  · rename_i d' l hphase
    simp [hphase]
  · rename_i hno
    simp only [reduceCtorEq, false_iff, not_exists]
    exact fun l hphase => hno d l hphase

/-- Nobody records a reservation while another call stands between its decision and its recording. -/
def Alone (w : State) (e : Event (Config × String) (Moment ResourceSnapshot)) : Prop :=
  ∀ i moment a, e = .move i moment → w.calls[i]? = some a → a.Decided →
    ∀ j b, j ≠ i → w.calls[j]? = some b → ¬ b.Decided

/-- Where a reservation is recorded, rounding the overheads takes the RAM over its limit by no byte. -/
def Rounded (config : BudgetLimits) (snapshot : ResourceSnapshot) (w : State)
    (e : Event (Config × String) (Moment ResourceSnapshot)) : Prop :=
  ∀ i moment a d l, e = .move i moment → w.calls[i]? = some a → a.phase = .decided d l →
    RoomForByte config snapshot (recordedBytes w.shared) d.estimatedModelBytes

instance (a : Admit) : Decidable a.Decided :=
  decidable_of_iff (a.decision?.isSome = true) (by simp only [Option.isSome_iff_exists, Admit.decision?_eq_some]; rfl)

instance (w : State) (e : Event (Config × String) (Moment ResourceSnapshot)) : Decidable (Alone w e) :=
  decidable_of_iff (e.OnCall (fun i _ a => a.Decided →
    ∀ j < w.calls.length, j ≠ i → ∀ b ∈ w.calls[j]?, ¬ b.Decided) w.calls) <| by
    rw [Event.onCall_iff]
    constructor
    · intro h i moment a he hget hdecided j b hj hb
      exact h i moment a he hget hdecided j (List.getElem?_eq_some_iff.mp hb).1 hj b hb
    · intro h i moment a he hget hdecided j _ hj b hb
      exact h i moment a he hget hdecided j b hj hb

instance (config : BudgetLimits) (snapshot : ResourceSnapshot) (w : State)
    (e : Event (Config × String) (Moment ResourceSnapshot)) : Decidable (Rounded config snapshot w e) :=
  decidable_of_iff (e.OnCall (fun _ _ a => ∀ d ∈ a.decision?,
    RoomForByte config snapshot (recordedBytes w.shared) d.estimatedModelBytes) w.calls) <| by
    rw [Event.onCall_iff]
    constructor
    · intro h i moment a d l he hget hphase
      refine h i moment a he hget d ?_
      rw [Admit.decision?, hphase]
      rfl
    · intro h i moment a he hget d hd
      obtain ⟨l, hphase⟩ := Admit.decision?_eq_some.mp hd
      exact h i moment a d l he hget hphase

section Run

variable {config : BudgetLimits} {sizes : ModelSizes} {snapshot : ResourceSnapshot}

/-- What holds of the state file. -/
structure Sound (config : BudgetLimits) (snapshot : ResourceSnapshot) (file : Dict Reservation) : Prop where
  positive : ∀ e ∈ file, 0 < e.2.bytes ∧ 0 < e.2.count
  within : Within config snapshot file

/-- What holds of a call: before it records, its model has no reservation, and its decision still stands. -/
structure Standing (config : BudgetLimits) (snapshot : ResourceSnapshot) (file : Dict Reservation) (a : Admit) : Prop where
  absent : a.phase = .waiting ∨ a.Decided → get? file a.model = none
  loaded : ∀ d l, a.phase = .decided d l → l = snapshot.loadedModels
  positive : ∀ d l, a.phase = .decided d l → 1 ≤ d.estimatedModelBytes
  admits : ∀ d l, a.phase = .decided d l → Admits config snapshot (recordedBytes file) d.estimatedModelBytes

/-- The invariant, with the models of the calls to come. -/
structure Safe (config : BudgetLimits) (snapshot : ResourceSnapshot) (later : List String) (w : State) : Prop where
  holds : Program.Holds (Sound config snapshot) (Standing config snapshot) w
  keys : ∀ model, has w.shared model = true → model ∈ w.calls.map (·.model)
  models : (w.calls.map (·.model) ++ later).Nodup
  unloaded : ∀ model ∈ w.calls.map (·.model) ++ later, model ∉ snapshot.loadedModels

theorem Standing.of_phase {file : Dict Reservation} {a : Admit} (hwaiting : a.phase ≠ .waiting) (hdecided : ¬ a.Decided) :
    Standing config snapshot file a where
  absent h := (h.elim hwaiting hdecided).elim
  loaded d l h := (hdecided ⟨d, l, h⟩).elim
  positive d l h := (hdecided ⟨d, l, h⟩).elim
  admits d l h := (hdecided ⟨d, l, h⟩).elim

theorem Standing.of_waiting {file : Dict Reservation} {a : Admit} (hphase : a.phase = .waiting)
    (habsent : get? file a.model = none) : Standing config snapshot file a where
  absent _ := habsent
  loaded d l h := by
    rw [hphase] at h
    cases h
  positive d l h := by
    rw [hphase] at h
    cases h
  admits d l h := by
    rw [hphase] at h
    cases h

theorem poll_cases {S : Type} (machine : Machine S) (moment : Moment S) (a : Admit) (file : Dict Reservation) :
    poll machine moment a file = .waiting ∨ (∃ e, poll machine moment a file = .failing e) ∨
      ∃ d, poll machine moment a file = .decided d (machine.loadedModels moment.snapshot) ∧ d.allowed = true ∧
        machine.decision a.model moment.snapshot (readReservations a.config moment.now file) = .ok d := by
  unfold poll
  cases moment.raises with
  | some e => exact .inr (.inl ⟨e, rfl⟩)
  | none =>
    dsimp only
    cases hdecision : machine.decision a.model moment.snapshot (readReservations a.config moment.now file) with
    | error e => exact .inr (.inl ⟨e, rfl⟩)
    | ok d =>
      dsimp only
      by_cases hallowed : d.allowed = true
      · rw [if_pos hallowed]
        exact .inr (.inr ⟨d, rfl, hallowed, rfl⟩)
      · rw [if_neg hallowed]
        split
        · exact .inr (.inl ⟨_, rfl⟩)
        · split
          · exact .inr (.inl ⟨_, rfl⟩)
          · exact .inl rfl

/-! ### One step -/

theorem models_set {calls : List Admit} {i : Nat} {a a' : Admit} (hget : calls[i]? = some a) (hmodel : a'.model = a.model) :
    (calls.set i a').map (·.model) = calls.map (·.model) := by
  obtain ⟨hlt, rfl⟩ := List.getElem?_eq_some_iff.mp hget
  rw [List.map_set, hmodel]
  apply List.ext_getElem?
  intro j
  rw [List.getElem?_set]
  split
  · rename_i heq
    subst heq
    rw [if_pos (by simpa using hlt), List.getElem?_map, hget]
    rfl
  · rfl

section Step

variable {later : List String} {w : State} {i : Nat} {moment : Moment ResourceSnapshot} {a : Admit}

section
variable (h : Safe config snapshot later w)
include h

theorem Safe.of_step (hget : w.calls[i]? = some a) {a' : Admit}
    (hact : act (budgetMachine config sizes) moment w.shared a = (file, a')) (hmodel : a'.model = a.model)
    (hshared : Sound config snapshot file) (hcall : Standing config snapshot file a')
    (hframe : ∀ j b, j ≠ i → w.calls[j]? = some b → b.model ≠ a.model → Standing config snapshot w.shared b →
      Standing config snapshot file b)
    (hkeys : ∀ model, has file model = true → has w.shared model = true ∨ model = a.model) :
    Safe config snapshot later ((program (budgetMachine config sizes)).after w (.move i moment)) := by
  have hprogram : (program (budgetMachine config sizes)).act moment w.shared a = (file, a') := hact
  have hmodels : (((program (budgetMachine config sizes)).after w (.move i moment)).calls).map (·.model) =
      w.calls.map (·.model) := by
    rw [Program.after_move hget, hprogram]
    exact models_set hget hmodel
  refine ⟨Program.Holds.of_step hget ?_ ?_ ?_, ?_, ?_, ?_⟩
  · rw [hprogram]
    exact hshared
  · rw [hprogram]
    exact hcall
  · intro j b hj hb
    rw [hprogram]
    refine hframe j b hj hb ?_ (h.holds.calls b (List.mem_of_getElem? hb))
    intro hsame
    have hnodup : (w.calls.map (·.model)).Nodup := (List.nodup_append.mp h.models).1
    have hlt : i < (w.calls.map (·.model)).length := by
      rw [List.length_map]
      exact (List.getElem?_eq_some_iff.mp hget).1
    refine hj ((List.getElem?_inj hlt hnodup).mp ?_).symm
    rw [List.getElem?_map, List.getElem?_map, hget, hb, Option.map_some, Option.map_some, hsame]
  · intro model hhas
    rw [hmodels]
    rw [Program.after_move hget, hprogram] at hhas
    rcases hkeys model hhas with hold | rfl
    · exact h.keys model hold
    · exact List.mem_map_of_mem (List.mem_of_getElem? hget)
  · rw [hmodels]
    exact h.models
  · rw [hmodels]
    exact h.unloaded

theorem Safe.of_step_same (hget : w.calls[i]? = some a) {a' : Admit}
    (hact : act (budgetMachine config sizes) moment w.shared a = (w.shared, a')) (hmodel : a'.model = a.model)
    (hcall : Standing config snapshot w.shared a') :
    Safe config snapshot later ((program (budgetMachine config sizes)).after w (.move i moment)) :=
  h.of_step hget hact hmodel h.holds.shared hcall (fun _ _ _ _ _ hb => hb) fun _ hhas => .inl hhas

theorem Safe.model_unloaded (hget : w.calls[i]? = some a) :
    a.model ∉ snapshot.loadedModels :=
  h.unloaded _ (List.mem_append_left _ (List.mem_map_of_mem (List.mem_of_getElem? hget)))

theorem Safe.reservedBytes_eq :
    reservedBytes snapshot w.shared = recordedBytes w.shared := by
  apply ResourceBudget.reservedBytes_eq
  intro e he
  exact h.unloaded _ (List.mem_append_left _ (h.keys _ (has_of_mem he)))

theorem Safe.poll (hget : w.calls[i]? = some a) (hphase : a.phase = .waiting)
    (hsnapshot : moment.snapshot = snapshot)
    (hread : readReservations a.config moment.now w.shared = w.shared) :
    Safe config snapshot later ((program (budgetMachine config sizes)).after w (.move i moment)) := by
  have habsent := (h.holds.calls a (List.mem_of_getElem? hget)).absent (.inl hphase)
  by_cases henabled : a.config.enabled = true
  · have hact : act (budgetMachine config sizes) moment w.shared a =
        (w.shared, { a with phase := ResourceBudget.poll (budgetMachine config sizes) moment a w.shared }) := by
      unfold act
      rw [hphase]
      dsimp only
      rw [if_pos henabled]
    refine h.of_step_same hget hact rfl ?_
    rcases poll_cases (budgetMachine config sizes) moment a w.shared with hpoll | ⟨e, hpoll⟩ | ⟨d, hpoll, hallowed, hd⟩
    · rw [hpoll]
      exact .of_waiting rfl habsent
    · rw [hpoll]
      exact .of_phase (by simp) (by rintro ⟨_, _, h⟩; cases h)
    · rw [hpoll]
      rw [hread, hsnapshot] at hd
      obtain ⟨hone, hadmits⟩ := decision_allowed hd hallowed (h.model_unloaded hget) habsent
      rw [h.reservedBytes_eq] at hadmits
      refine ⟨fun _ => habsent, ?_, ?_, ?_⟩
      · rintro _ _ ⟨⟩
        rw [hsnapshot]
        rfl
      · rintro _ _ ⟨⟩
        exact hone
      · rintro _ _ ⟨⟩
        exact hadmits
  · have hact : act (budgetMachine config sizes) moment w.shared a = (w.shared, { a with phase := .live false }) := by
      unfold act
      rw [hphase]
      dsimp only
      rw [if_neg henabled]
    exact h.of_step_same hget hact rfl (.of_phase (by simp) (by rintro ⟨_, _, h⟩; cases h))

theorem Safe.record (hget : w.calls[i]? = some a)
    {l : List String} (hphase : a.phase = .decided d l) (hread : readReservations a.config moment.now w.shared = w.shared)
    (halone : ∀ j b, j ≠ i → w.calls[j]? = some b → ¬ b.Decided)
    (hroom : RoomForByte config snapshot (recordedBytes w.shared) d.estimatedModelBytes) :
    Safe config snapshot later ((program (budgetMachine config sizes)).after w (.move i moment)) := by
  have hcall := h.holds.calls a (List.mem_of_getElem? hget)
  have hunloaded : a.model ∉ l := hcall.loaded d l hphase ▸ h.model_unloaded hget
  have habsent := hcall.absent (.inr ⟨d, l, hphase⟩)
  have hone := hcall.positive d l hphase
  have hact : act (budgetMachine config sizes) moment w.shared a =
      (w.shared ++ [(a.model, ⟨d.estimatedModelBytes, 1, moment.now⟩)],
        { a with phase := .live (decide (a.model ∉ l)) }) := by
    unfold act
    rw [hphase]
    dsimp only
    rw [enter_new hread hunloaded habsent, max_eq_right hone]
  have hpositive := h.holds.shared.positive
  refine h.of_step hget hact rfl ⟨?_, ?_⟩ (.of_phase (by simp) (by rintro ⟨_, _, h⟩; cases h)) ?_ ?_
  · intro e he
    rcases List.mem_append.mp he with he | he
    · exact hpositive e he
    · rw [List.mem_singleton.mp he]
      exact ⟨by dsimp only; omega, Int.one_pos⟩
  · exact (hcall.admits d l hphase).within hroom (recordedBytes_nonneg hpositive) (by dsimp only; omega)
  · intro j b hj hb hne hstanding
    have hundecided := halone j b hj hb
    refine ⟨?_, fun d l h => (hundecided ⟨d, l, h⟩).elim, fun d l h => (hundecided ⟨d, l, h⟩).elim,
      fun d l h => (hundecided ⟨d, l, h⟩).elim⟩
    intro hb'
    rw [← set_of_absent (has_eq_false.mpr habsent), get?_set_ne hne.symm]
    exact hstanding.absent hb'
  · intro model hhas
    rw [← set_of_absent (has_eq_false.mpr habsent), has_set, Bool.or_eq_true, decide_eq_true_eq] at hhas
    rcases hhas with hmodel | hold
    · exact .inr hmodel.symm
    · exact .inl hold

theorem Safe.leave (hget : w.calls[i]? = some a)
    (hphase : (∃ r, a.phase = .live r) ∨ ∃ e, a.phase = .failing e)
    (hread : readReservations a.config moment.now w.shared = w.shared) :
    Safe config snapshot later ((program (budgetMachine config sizes)).after w (.move i moment)) := by
  have hdone : ∀ file, Standing config snapshot file { a with phase := .done } := by
    intro file
    exact .of_phase (by simp) (by rintro ⟨_, _, h⟩; cases h)
  have hpositive := h.holds.shared.positive
  by_cases henabled : a.config.enabled = true
  · have hact : act (budgetMachine config sizes) moment w.shared a =
        (ResourceBudget.leave a.config moment.now a.model w.shared, { a with phase := .done }) := by
      unfold act
      rcases hphase with ⟨r, hphase⟩ | ⟨e, hphase⟩ <;>
      · rw [hphase]
        dsimp only
        rw [if_pos henabled]
    have hless := recordedBytes_leave_le hread hpositive a.model
    have hkeys : ∀ model, has (ResourceBudget.leave a.config moment.now a.model w.shared) model = true →
        has w.shared model = true := fun _ hhas => has_of_leave hread hhas
    refine h.of_step hget hact rfl ⟨positive_leave hread hpositive a.model, ?_⟩ (hdone _) ?_ fun _ hhas => .inl (hkeys _ hhas)
    · refine h.holds.shared.within.mono hless ?_
      intro hne hnil
      obtain ⟨e, he⟩ := List.exists_mem_of_ne_nil _ hne
      have hhas := hkeys e.1 (has_of_mem he)
      rw [hnil] at hhas
      cases hhas
    · intro j b _ _ _ hstanding
      refine ⟨?_, hstanding.loaded, hstanding.positive, fun d l hd => (hstanding.admits d l hd).mono hless⟩
      intro hb
      rw [← has_eq_false, ← Bool.not_eq_true]
      intro hhas
      have hold := hkeys b.model hhas
      rw [has_eq_false.mpr (hstanding.absent hb)] at hold
      cases hold
  · have hact : act (budgetMachine config sizes) moment w.shared a = (w.shared, { a with phase := .done }) := by
      unfold act
      rcases hphase with ⟨r, hphase⟩ | ⟨e, hphase⟩ <;>
      · rw [hphase]
        dsimp only
        rw [if_neg henabled]
    exact h.of_step_same hget hact rfl (hdone _)

end

end Step

theorem Safe.after {later : List String} {w : State} {e : Event (Config × String) (Moment ResourceSnapshot)}
    (h : Safe config snapshot (startedModels [e] ++ later) w)
    (hsnapshot : ∀ i moment, e = .move i moment → moment.snapshot = snapshot) (hfresh : Fresh w e) (halone : Alone w e)
    (hrounded : Rounded config snapshot w e) :
    Safe config snapshot later ((program (budgetMachine config sizes)).after w e) := by
  cases e with
  | start b =>
    have hmodels : (w.calls ++ [(program (budgetMachine config sizes)).init b]).map (·.model) ++ later =
        w.calls.map (·.model) ++ (startedModels [.start b] ++ later) := by
      simp [startedModels, program]
    have hnew : b.2 ∉ w.calls.map (·.model) := by
      intro hmem
      exact (List.nodup_append.mp h.models).2.2 _ hmem b.2 (by simp [startedModels]) rfl
    have habsent : get? w.shared b.2 = none := by
      rw [← has_eq_false, ← Bool.not_eq_true]
      exact fun hhas => hnew (h.keys _ hhas)
    refine ⟨h.holds.after_start b ?_, ?_, hmodels ▸ h.models, hmodels ▸ h.unloaded⟩
    · exact .of_waiting rfl habsent
    · intro model hhas
      show model ∈ (w.calls ++ [(program (budgetMachine config sizes)).init b]).map (·.model)
      rw [List.map_append]
      exact List.mem_append_left _ (h.keys model hhas)
  | move i moment =>
    replace h : Safe config snapshot later w := h
    cases hget : w.calls[i]? with
    | none =>
      rw [Program.after_move_none hget]
      exact h
    | some a =>
      have hread : readReservations a.config moment.now w.shared = w.shared :=
        readReservations_eq h.holds.shared.positive (hfresh i moment a rfl hget)
      cases hphase : a.phase with
      | waiting => exact h.poll hget hphase (hsnapshot i moment rfl) hread
      | decided d l =>
        exact h.record hget hphase hread (halone i moment a rfl hget ⟨d, l, hphase⟩)
          (hrounded i moment a d l rfl hget hphase)
      | live r => exact h.leave hget (.inl ⟨r, hphase⟩) hread
      | failing e => exact h.leave hget (.inr ⟨e, hphase⟩) hread
      | done =>
        have hact : act (budgetMachine config sizes) moment w.shared a = (w.shared, a) := by
          unfold act
          rw [hphase]
        exact h.of_step_same hget hact rfl (h.holds.calls a (List.mem_of_getElem? hget))

/-! ### Whole runs -/

theorem within_run {w : State} {events : List (Event (Config × String) (Moment ResourceSnapshot))}
    (h : Safe config snapshot (startedModels events) w)
    (hsnapshot : ∀ i moment, Event.move i moment ∈ events → moment.snapshot = snapshot)
    (hfresh : (program (budgetMachine config sizes)).Each Fresh w events)
    (halone : (program (budgetMachine config sizes)).Each Alone w events)
    (hrounded : (program (budgetMachine config sizes)).Each (Rounded config snapshot) w events) :
    (program (budgetMachine config sizes)).Always (fun w => Within config snapshot w.shared) w events := by
  induction events generalizing w with
  | nil => exact h.holds.shared.within
  | cons e events ih =>
    refine ⟨h.holds.shared.within, ih ?_ ?_ hfresh.2 halone.2 hrounded.2⟩
    · refine Safe.after ?_ ?_ hfresh.1 halone.1 hrounded.1
      · rw [show startedModels [e] ++ startedModels events = startedModels (e :: events) from
          (List.filterMap_append).symm]
        exact h
      · rintro i moment rfl
        exact hsnapshot i moment List.mem_cons_self
    · intro i moment hmem
      exact hsnapshot i moment (List.mem_cons_of_mem _ hmem)

end Run

/-- **Admission without overcommitment.** Calls for different models that are not loaded, under one snapshot, with no
reservation at its time to live: if nobody records while another call stands between its decision and its recording,
and rounding costs no byte, then the reservations are within the limits in every state. -/
theorem admissions_within (config : BudgetLimits) (sizes : ModelSizes) (snapshot : ResourceSnapshot)
    (events : List (Event (Config × String) (Moment ResourceSnapshot))) (hmodels : (startedModels events).Nodup)
    (hunloaded : ∀ model ∈ startedModels events, model ∉ snapshot.loadedModels)
    (hsnapshot : ∀ i moment, Event.move i moment ∈ events → moment.snapshot = snapshot)
    (hfresh : (program (budgetMachine config sizes)).Each Fresh ⟨[], []⟩ events)
    (halone : (program (budgetMachine config sizes)).Each Alone ⟨[], []⟩ events)
    (hrounded : (program (budgetMachine config sizes)).Each (Rounded config snapshot) ⟨[], []⟩ events) :
    (program (budgetMachine config sizes)).Always (fun w => Within config snapshot w.shared) ⟨[], []⟩ events := by
  apply within_run _ hsnapshot hfresh halone hrounded
  refine ⟨.init ⟨by simp, Within.nil⟩, ?_, hmodels, hunloaded⟩
  intro model hhas
  cases hhas

/-! ### Two calls decide before either records -/

namespace Sample

def oneCard : ResourceSnapshot :=
  { ramTotalBytes := 1000, ramUsedBytes := 100, loadedModels := [], gpus := [⟨0, 1000, 800, 5, 40, 50⟩] }

def sixtyBytes : ModelSizes := { modelSizeProbe := some fun _ => .ok 60 }

def oneCardMoment : Moment ResourceSnapshot := ⟨0, oneCard, false, none⟩

/-- Both calls decide on the empty file, and then both record. -/
def staleEvents : List (Event (Config × String) (Moment ResourceSnapshot)) :=
  [.start ({}, "a"), .start ({}, "b"), .move 0 oneCardMoment, .move 1 oneCardMoment, .move 0 oneCardMoment,
    .move 1 oneCardMoment]

theorem staleEvents_moment : ∀ i moment, Event.move i moment ∈ staleEvents → moment.snapshot = oneCard := by
  intro i moment hmem
  simp only [staleEvents, List.mem_cons, Event.move.injEq, reduceCtorEq, List.not_mem_nil, or_false, false_or] at hmem
  rcases hmem with ⟨-, rfl⟩ | ⟨-, rfl⟩ | ⟨-, rfl⟩ | ⟨-, rfl⟩ <;> rfl

/-- The first call has left the file before the second one decides. -/
def serialEvents : List (Event (Config × String) (Moment ResourceSnapshot)) :=
  [.start ({}, "a"), .start ({}, "b"), .move 0 oneCardMoment, .move 0 oneCardMoment, .move 0 oneCardMoment,
    .move 1 oneCardMoment, .move 1 oneCardMoment]

theorem serialEvents_moment : ∀ i moment, Event.move i moment ∈ serialEvents → moment.snapshot = oneCard := by
  intro i moment hmem
  simp only [serialEvents, List.mem_cons, Event.move.injEq, reduceCtorEq, List.not_mem_nil, or_false, false_or] at hmem
  rcases hmem with ⟨-, rfl⟩ | ⟨-, rfl⟩ | ⟨-, rfl⟩ | ⟨-, rfl⟩ | ⟨-, rfl⟩ <;> rfl

/-- The card has room for 100 bytes, and 120 are recorded. -/
theorem admissions_overcommit :
    ¬ ∀ (config : BudgetLimits) (sizes : ModelSizes) (snapshot : ResourceSnapshot)
      (events : List (Event (Config × String) (Moment ResourceSnapshot))), (startedModels events).Nodup →
      (∀ model ∈ startedModels events, model ∉ snapshot.loadedModels) →
      (∀ i moment, Event.move i moment ∈ events → moment.snapshot = snapshot) →
      (program (budgetMachine config sizes)).Each Fresh ⟨[], []⟩ events →
      (program (budgetMachine config sizes)).Always (fun w => Within config snapshot w.shared) ⟨[], []⟩ events := by
  intro h
  have halways := h {} sixtyBytes oneCard staleEvents (by decide) (by decide) staleEvents_moment (by decide +kernel)
  exact absurd halways.last (by decide +kernel)

/-- Ten bytes take one of the RAM, and twenty take three: 900 are the limit, 898 are used. -/
def tightMoment : Moment ResourceSnapshot :=
  ⟨0, { ramTotalBytes := 1000, ramUsedBytes := 898, loadedModels := [], gpus := [⟨0, 1000, 100, 5, 40, 50⟩] }, false, none⟩

def tightEvents : List (Event (Config × String) (Moment ResourceSnapshot)) :=
  [.start ({}, "a"), .start ({}, "b"), .move 0 tightMoment, .move 0 tightMoment, .move 1 tightMoment,
    .move 1 tightMoment]

/-- Each call decides and records before the other one decides; the two overheads together are a byte more than they
were apart. -/
theorem rounding_overcommits :
    let run := program (budgetMachine {} { modelSizeProbe := some fun _ => .ok 10 })
    run.Each Alone ⟨[], []⟩ tightEvents ∧
      ¬ run.Always (fun w => Within {} tightMoment.snapshot w.shared) ⟨[], []⟩ tightEvents :=
  ⟨by decide +kernel, fun halways => absurd halways.last (by decide +kernel)⟩

theorem admissions_within_serial :
    (program (budgetMachine {} sixtyBytes)).Always (fun w => Within {} oneCard w.shared) ⟨[], []⟩ serialEvents :=
  admissions_within {} sixtyBytes oneCard serialEvents (by decide) (by decide) serialEvents_moment (by decide +kernel)
    (by decide +kernel) (by decide +kernel)

end Sample
end ThreeAgent.ResourceBudget
