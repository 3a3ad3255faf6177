/-
Which tasks a tick reaches. Every task that is processed counts against the
item limit, those too whose reflection is found complete; so a tick that stops
at the limit has reached the first tasks of its window only, and leaves the
others to a tick that will begin with the same ones.
-/
import ThreeAgent.LearningScheduler

namespace ThreeAgent.LearningScheduler

open Action Outcome PyDict PyText

/-! ## The configured tasks -/

variable {entries : List ScheduledTaskDomain}

theorem nodup_of_checkDomains {seen : List String}
    (h : AdaptiveLearningSchedulerConfig.checkDomains seen entries = .ok ⟨⟩) :
    (entries.map (·.taskId)).Nodup ∧ ∀ entry ∈ entries, entry.taskId ∉ seen := by
  induction entries generalizing seen with
  | nil => exact ⟨List.nodup_nil, List.forall_mem_nil _⟩
  | cons entry entries ih =>
    rw [AdaptiveLearningSchedulerConfig.checkDomains] at h
    obtain ⟨-, h⟩ := bind_unit_ok.mp h
    obtain ⟨hnew, h⟩ := bind_unit_ok.mp h
    obtain ⟨hnodup, hunseen⟩ := ih h
    rw [require_ok] at hnew
    constructor
    · rw [List.map_cons, List.nodup_cons]
      refine ⟨?_, hnodup⟩
      intro hmem
      obtain ⟨other, hother, hid⟩ := List.mem_map.mp hmem
      exact hunseen other hother (hid ▸ List.mem_cons_self)
    · rw [List.forall_mem_cons]
      exact ⟨hnew, fun other hother hmem => hunseen other hother (List.mem_cons_of_mem _ hmem)⟩

/-- The bindings as a dictionary. -/
def bindings (entries : List ScheduledTaskDomain) : Dict String := entries.map fun entry => (entry.taskId, entry.domain)

theorem foldl_bindings {d : Dict String} (hnodup : (entries.map (·.taskId)).Nodup)
    (hnew : ∀ entry ∈ entries, has d entry.taskId = false) :
    entries.foldl (fun d entry => PyDict.set d entry.taskId entry.domain) d = d ++ bindings entries := by
  induction entries generalizing d with
  | nil => simp [bindings]
  | cons entry entries ih =>
    rw [List.map_cons, List.nodup_cons] at hnodup
    obtain ⟨hentry, hnodup⟩ := hnodup
    rw [List.forall_mem_cons] at hnew
    rw [List.foldl_cons, set_of_absent hnew.1, ih hnodup, bindings, bindings, List.map_cons, List.append_assoc]
    · rfl
    · intro other hother
      rw [← set_of_absent hnew.1, has_set, hnew.2 other hother, Bool.or_false, decide_eq_false_iff_not]
      intro hid
      exact hentry (List.mem_map.mpr ⟨other, hother, hid.symm⟩)

variable {c : AdaptiveLearningSchedulerConfig}

theorem validate_config (h : c.validate = .ok ⟨⟩) : 1 ≤ c.maxItems ∧
    (1 ≤ c.maxScanItems ∧ c.maxScanItems ≤ maxScanLimit) ∧ c.taskDomains.length ≤ maxConfiguredTasks ∧
      (c.taskDomains.map (·.taskId)).Nodup := by
  simp only [AdaptiveLearningSchedulerConfig.validate, AdaptiveLearningSchedulerConfig.checkLimit, bind_unit_ok,
    require_ok] at h
  obtain ⟨hitems, hscan, -, -, -, -, -, hlength, hdomains⟩ := h
  exact ⟨hitems.1, hscan, hlength, (nodup_of_checkDomains hdomains).1⟩

theorem domainMap_eq (h : c.validate = .ok ⟨⟩) :
    c.domainMap = .ok (bindings c.taskDomains) := by
  have hfold := foldl_bindings (d := []) (validate_config h).2.2.2 fun _ _ => rfl
  rw [AdaptiveLearningSchedulerConfig.domainMap, h, hfold]
  rfl

/-- The handles that a discovery over the bindings finds. -/
def discovered (c : AdaptiveLearningSchedulerConfig) (db : Tables) : List LearningSourceHandle :=
  let rows := db.tasks.filter fun t => t.status = "DONE" ∧ t.taskId ∈ keys (bindings c.taskDomains)
  ((rows.insertionSort (newestLE · ·)).take c.maxScanItems.toNat).map fun t =>
    { taskId := t.taskId, manifestRecordPath := manifestRecord db.artifacts t.taskId }

theorem discoverDone_eq (h : c.validate = .ok ⟨⟩) (db : Tables) :
    discoverDone db (keys (bindings c.taskDomains)) c.maxScanItems = .ok (discovered c db) := by
  obtain ⟨-, hscan, hlength, -⟩ := validate_config h
  have hkeys : (keys (bindings c.taskDomains)).length = c.taskDomains.length := by
    simp [keys, bindings]
  rw [discoverDone]
  by_cases hnil : keys (bindings c.taskDomains) = []
  · rw [if_pos hnil, discovered, hnil]
    simp [pure, Except.pure]
  · rw [if_neg hnil, require, if_pos hscan, require, if_pos (hkeys ▸ hlength)]
    rfl

theorem discovered_configured {db : Tables} {handle : LearningSourceHandle}
    (h : handle ∈ discovered c db) : ∃ domain, get? (bindings c.taskDomains) handle.taskId = some domain := by
  obtain ⟨t, ht, rfl⟩ := List.mem_map.mp h
  have hmem := List.mem_of_mem_take ht
  rw [List.mem_insertionSort, List.mem_filter, decide_eq_true_eq] at hmem
  exact has_iff.mp (mem_keys.mp hmem.2.2)

/-! ## The loop -/

theorem stops_resource {item : SchedulerItemOutcome} {reason : StopReason} (h : item.stops = some reason) :
    reason ≠ .complete ∧ reason ≠ .maxItems := by
  obtain ⟨code, -, hcode⟩ := Option.bind_eq_some_iff.mp h
  have hmem := mem_of_get? hcode
  have hall : ∀ e ∈ resourceStopReasons, e.2 ≠ StopReason.complete ∧ e.2 ≠ StopReason.maxItems := by decide
  exact hall _ hmem

namespace AdaptiveLearningScheduler

variable {σ τ β ε : Type} (s : AdaptiveLearningScheduler σ τ β ε)

/-- The outcomes of tasks that are processed in turn, none where the deadline or a resource reason comes first. -/
def passes (domainMap : Dict String) (deadline : τ) : List LearningSourceHandle → σ → Option (List SchedulerItemOutcome × σ)
  | [], w => some ([], w)
  | handle :: handles, w =>
    let (now, w) := s.clock.read w
    if s.clock.reached now deadline then none
    else
      match get? domainMap handle.taskId with
      | none => passes domainMap deadline handles w
      | some domain =>
        let (item, w) := s.process handle domain w
        if item.stops.isSome then none
        else (passes domainMap deadline handles w).map fun rest => (item :: rest.1, rest.2)

variable {s} {domainMap : Dict String} {deadline : τ}

/-- **The loop** processes the tasks that the item limit leaves room for, and goes by them in one of two ways: to the
limit or the end, or to a stop that is neither. -/
theorem loop_spec {handles : List LearningSourceHandle}
    (hconfigured : ∀ h ∈ handles, ∃ domain, get? domainMap h.taskId = some domain)
    {outcomes : List SchedulerItemOutcome} {room : Nat} (hroom : s.config.maxItems = outcomes.length + room) (w : σ) :
    (∃ items w', s.passes domainMap deadline (handles.take room) w = some (items, w') ∧
      items.length = (handles.take room).length ∧
      s.loop domainMap deadline handles outcomes w =
        ((outcomes ++ items, if handles.length ≤ room then .complete else .maxItems), w')) ∨
    s.passes domainMap deadline (handles.take room) w = none ∧
      (s.loop domainMap deadline handles outcomes w).1.2 ≠ .complete ∧
      (s.loop domainMap deadline handles outcomes w).1.2 ≠ .maxItems := by
  induction handles generalizing outcomes room w with
  | nil =>
    left
    exact ⟨[], w, by rw [List.take_nil]; rfl, by rw [List.take_nil]; rfl, by rw [loop, List.append_nil]; rfl⟩
  | cons handle handles ih =>
    rw [List.forall_mem_cons] at hconfigured
    obtain ⟨⟨domain, hdomain⟩, hconfigured⟩ := hconfigured
    rw [loop]
    cases room with
    | zero =>
      left
      have hfull : s.config.maxItems ≤ outcomes.length := by omega
      rw [if_pos hfull]
      exact ⟨[], w, rfl, rfl, by rw [List.append_nil]; rfl⟩
    | succ room =>
      have hfull : ¬ s.config.maxItems ≤ outcomes.length := by omega
      rw [if_neg hfull, List.take_succ_cons, passes]
      dsimp only
      by_cases hreached : s.clock.reached (s.clock.read w).1 deadline = true
      · right
        rw [if_pos hreached, if_pos hreached]
        exact ⟨rfl, by simp, by simp⟩
      · rw [if_neg hreached, if_neg hreached, hdomain]
        dsimp only
        cases hstops : (s.process handle domain (s.clock.read w).2).1.stops with
        | some reason =>
          right
          obtain ⟨hcomplete, hmax⟩ := stops_resource hstops
          exact ⟨rfl, hcomplete, hmax⟩
        | none =>
          have hroom' : s.config.maxItems =
              (outcomes ++ [(s.process handle domain (s.clock.read w).2).1]).length + room := by
            rw [List.length_append, List.length_singleton]
            omega
          dsimp only
          rcases ih hconfigured hroom' (s.process handle domain (s.clock.read w).2).2 with hgoes | ⟨hnone, hstop⟩
          · left
            obtain ⟨items, w', hpasses, hlength, hloop⟩ := hgoes
            refine ⟨(s.process handle domain (s.clock.read w).2).1 :: items, w', ?_, ?_, ?_⟩
            · rw [hpasses]
              rfl
            · rw [List.length_cons, List.length_cons, hlength]
            · rw [hloop, List.append_assoc, List.singleton_append, List.length_cons]
              simp only [Nat.add_le_add_iff_right]
          · right
            rw [hnone]
            exact ⟨rfl, hstop⟩

/-! ## A tick -/

/-- The reflection of a task in a world: its receipt says that it is completed. -/
def Reflected (s : AdaptiveLearningScheduler σ τ β ε) (w : σ) (handle : LearningSourceHandle) : Prop :=
  ∃ domain envelope receipt w' w'', get? (bindings s.config.taskDomains) handle.taskId = some domain ∧
    s.admitSource handle w = (.ok envelope, w') ∧
    s.parts.readReceipt envelope.admissionId domain w' = (.ok (some receipt), w'') ∧ receipt.status = "completed"

/-- An outcome that skips a task because its reflection is complete. -/
def alreadyCompleted (item : SchedulerItemOutcome) : Prop :=
  item.result = .skipped ∧ item.reasonCode = some "REFLECTION_ALREADY_COMPLETED"

instance (item : SchedulerItemOutcome) : Decidable (alreadyCompleted item) := inferInstanceAs (Decidable (_ ∧ _))

/-- The scan window of a tick that begins in a world: what it discovers once it has read the clock. -/
def window (s : AdaptiveLearningScheduler σ τ β ε) (w : σ) : List LearningSourceHandle :=
  discovered s.config (s.parts.tables (s.clock.read w).2)

/-- The tick ends at the item limit or at the end of its window. -/
def Unhindered (receipt : SchedulerRunReceipt) : Prop := receipt.stopReason = .maxItems ∨ receipt.stopReason = .complete

/-- **No starvation.** The outcomes of a tick are those of the first tasks of its window; when fewer than the item limit
were processed for more than a look at their receipts, the others are reflected already. In particular so when
there was nothing but such looks. -/
structure NoStarvation (s : AdaptiveLearningScheduler σ τ β ε) (w : σ) (receipt : SchedulerRunReceipt) : Prop where
  reached : Unhindered receipt → (receipt.outcomes.countP (¬ alreadyCompleted ·) : Int) < s.config.maxItems →
    ∀ handle ∈ (s.window w).drop receipt.outcomes.length, s.Reflected (s.clock.read w).2 handle
  idle : Unhindered receipt → (∀ item ∈ receipt.outcomes, alreadyCompleted item) →
    ∀ handle ∈ (s.window w).drop receipt.outcomes.length, s.Reflected (s.clock.read w).2 handle

/-- The tasks that fill the item limit pass without a stop, one of them is skipped because its reflection is complete,
and a later task of the window is not reflected. -/
def Starved (s : AdaptiveLearningScheduler σ τ β ε) (w : σ) : Prop :=
  s.config.enabled = true ∧
    (∃ items w', s.passes (bindings s.config.taskDomains) (s.clock.later (s.clock.read w).1 s.config.maxWallTimeSeconds)
      ((s.window w).take s.config.maxItems.toNat) (s.clock.read w).2 = some (items, w') ∧ ∃ item ∈ items, alreadyCompleted item) ∧
    ∃ handle ∈ (s.window w).drop s.config.maxItems.toNat, ¬ s.Reflected (s.clock.read w).2 handle

theorem runOnce_eq (s : AdaptiveLearningScheduler σ τ β ε) (henabled : s.config.enabled = true) (w : σ) :
    ∃ receipt w', s.runOnce w = (.ok receipt, w') ∧ (receipt.outcomes, receipt.stopReason) =
      (s.loop (bindings s.config.taskDomains) (s.clock.later (s.clock.read w).1 s.config.maxWallTimeSeconds) (s.window w) []
        (s.clock.read w).2).1 := by
  rw [runOnce]
  dsimp only
  rw [henabled, if_neg (by decide), domainMap_eq s.valid]
  dsimp only
  rw [discoverDone_eq s.valid]
  exact ⟨_, _, rfl, rfl⟩

theorem countP_lt_iff {items : List SchedulerItemOutcome} :
    items.countP (¬ alreadyCompleted ·) < items.length ↔ ∃ item ∈ items, alreadyCompleted item := by
  have hle := List.countP_le_length (p := fun item => decide (¬ alreadyCompleted item)) (l := items)
  have heq : items.countP (¬ alreadyCompleted ·) = items.length ↔ ∀ item ∈ items, ¬ alreadyCompleted item := by
    rw [List.countP_eq_length]
    simp only [decide_eq_true_eq]
  constructor
  · intro hlt
    by_contra hnone
    push Not at hnone
    exact absurd (heq.mpr hnone) (by omega)
  · intro hsome
    obtain ⟨item, hitem, hcompleted⟩ := hsome
    have hne : items.countP (¬ alreadyCompleted ·) ≠ items.length := fun h => heq.mp h item hitem hcompleted
    omega

/-- **A tick** returns, and starves no task exactly when no completed skip takes up the room of an unreflected one. -/
theorem runOnce_noStarvation_iff (s : AdaptiveLearningScheduler σ τ β ε) (w : σ) :
    ∃ receipt w', s.runOnce w = (.ok receipt, w') ∧ (s.NoStarvation w receipt ↔ ¬ s.Starved w) := by
  cases henabled : s.config.enabled with
  | false =>
    refine ⟨disabledReceipt, (s.clock.read w).2, ?_, ?_⟩
    · rw [runOnce]
      dsimp only
      rw [if_pos henabled]
    · have hhindered : ¬ Unhindered disabledReceipt := by
        rintro (h | h) <;> cases h
      refine iff_of_true ⟨fun h => absurd h hhindered, fun h => absurd h hhindered⟩ ?_
      intro hstarved
      exact Bool.false_ne_true (henabled.symm.trans hstarved.1)
  | true =>
    obtain ⟨receipt, w', hrun, hloop⟩ := s.runOnce_eq henabled w
    refine ⟨receipt, w', hrun, ?_⟩
    have hitems := (validate_config s.valid).1
    have hroom : s.config.maxItems = (([] : List SchedulerItemOutcome).length : Int) + s.config.maxItems.toNat := by
      rw [List.length_nil]
      omega
    have hconfigured : ∀ handle ∈ s.window w, ∃ domain, get? (bindings s.config.taskDomains) handle.taskId = some domain :=
      fun handle hmem => discovered_configured hmem
    rcases @loop_spec σ τ β ε s (bindings s.config.taskDomains) (s.clock.later (s.clock.read w).1 s.config.maxWallTimeSeconds)
      (s.window w) hconfigured [] _ hroom (s.clock.read w).2 with ⟨items, w'', hpasses, hlength, hends⟩ | ⟨hnone, hcomplete, hmax⟩
    · rw [hends, List.nil_append] at hloop
      obtain ⟨houtcomes, hstop⟩ := Prod.mk.inj hloop
      have hunhindered : Unhindered receipt := by
        rw [Unhindered, hstop]
        split
        · exact .inr rfl
        · exact .inl rfl
      have hdrop : (s.window w).drop receipt.outcomes.length = (s.window w).drop s.config.maxItems.toNat := by
        rw [houtcomes, hlength, List.length_take]
        by_cases hshort : (s.window w).length ≤ s.config.maxItems.toNat
        · rw [Nat.min_eq_right hshort, List.drop_of_length_le hshort, List.drop_length]
        · rw [Nat.min_eq_left (by omega)]
      constructor
      · intro hfair hstarved
        obtain ⟨-, ⟨items', w''', hpasses', hskip⟩, handle, hmem, hunreflected⟩ := hstarved
        obtain ⟨rfl, -⟩ := Prod.mk.inj (Option.some.inj (hpasses.symm.trans hpasses'))
        have hfew := countP_lt_iff.mpr hskip
        rw [List.length_take] at hlength
        refine hunreflected (hfair.reached hunhindered ?_ handle (hdrop ▸ hmem))
        rw [houtcomes]
        omega
      · intro hfair
        have hreached : (receipt.outcomes.countP (¬ alreadyCompleted ·) : Int) < s.config.maxItems →
            ∀ handle ∈ (s.window w).drop receipt.outcomes.length, s.Reflected (s.clock.read w).2 handle := by
          intro hfew handle hmem
          rw [hdrop] at hmem
          by_contra hunreflected
          have hlong : s.config.maxItems.toNat < (s.window w).length := by
            have hpos := List.length_pos_of_mem hmem
            rw [List.length_drop] at hpos
            omega
          rw [List.length_take] at hlength
          rw [houtcomes] at hfew
          exact hfair ⟨henabled, ⟨items, w'', hpasses, countP_lt_iff.mp (by omega)⟩, handle, hmem, hunreflected⟩
        refine ⟨fun _ => hreached, ?_⟩
        intro _ hskips
        have hzero : receipt.outcomes.countP (¬ alreadyCompleted ·) = 0 := by
          rw [List.countP_eq_zero]
          intro item hitem
          simpa using hskips item hitem
        refine hreached ?_
        omega
    · have hhindered : ¬ Unhindered receipt := by
        have hstop := (Prod.mk.inj hloop).2
        rw [Unhindered, hstop]
        exact not_or.mpr ⟨hmax, hcomplete⟩
      refine iff_of_true ⟨fun h => absurd h hhindered, fun h => absurd h hhindered⟩ ?_
      intro hstarved
      obtain ⟨-, ⟨items, w'', hpasses, -⟩, -⟩ := hstarved
      exact Option.some_ne_none _ (hpasses.symm.trans hnone)

namespace Sample

def tables : Tables where
  tasks := [⟨"TASK-A", "DONE", "2026-09-02T00:00:00Z"⟩, ⟨"TASK-B", "DONE", "2026-09-01T00:00:00Z"⟩]
  artifacts := [⟨1, "TASK-A", "workflow_manifest_json", "a.json"⟩, ⟨2, "TASK-B", "workflow_manifest_json", "b.json"⟩]

def parts : Collaborators Unit Unit Unit where
  tables _ := tables
  trustedPath path w := (.ok path, w)
  admitManifest taskId _ w := (.ok ⟨"admission:" ++ taskId, taskId, "internal", []⟩, w)
  bindDomain _ _ _ _ := .ok ()
  readReceipt admissionId _ w := (.ok (if admissionId = "admission:TASK-A" then some ⟨"completed", none⟩ else none), w)
  loadEvidence _ _ w := (.ok (), w)
  reflectAndStage _ _ _ w := (.ok ⟨.staged, none, none⟩, w)

def config : AdaptiveLearningSchedulerConfig where
  enabled := true
  maxItems := 1
  maxScanItems := 2
  taskDomains := [⟨"TASK-A", "network"⟩, ⟨"TASK-B", "network"⟩]

def scheduler : AdaptiveLearningScheduler Unit Nat Unit Unit where
  config := config
  parts := parts
  resourcePolicy := some ⟨id⟩
  clock := ⟨fun w => (0, w), fun t seconds => t + seconds.toNat, fun t deadline => decide (deadline ≤ t), fun _ _ => 0⟩
  valid := by decide
  governed _ := rfl

theorem runOnce_starves : ¬ ∀ (s : AdaptiveLearningScheduler Unit Nat Unit Unit) (w : Unit) receipt w',
    s.runOnce w = (.ok receipt, w') → s.NoStarvation w receipt := by
  intro h
  have hrun : scheduler.runOnce () = (.ok (runReceipt [{
      taskId := "TASK-A", result := .skipped, reasonCode := some "REFLECTION_ALREADY_COMPLETED", domain := some "network"
      admissionId := some "admission:TASK-A" }] .maxItems 0), ()) := by rfl
  have hfair := (h scheduler () _ _ hrun).idle (.inl rfl) (by decide) ⟨"TASK-B", "b.json"⟩ (by decide)
  obtain ⟨domain, envelope, receipt, w', w'', -, hadmit, hread, -⟩ := hfair
  cases hadmit
  cases hread

end Sample

end AdaptiveLearningScheduler

end ThreeAgent.LearningScheduler
