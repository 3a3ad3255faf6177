/-
No model is unloaded under a lease, and the counts of leases are exact.

Three counts over the calls are tied to the shared state: the calls that have
the shared lock of a file are its readers, those that have its exclusive lock
are its writer, and those that were counted by a manager and not yet
released are its active leases. A step changes the phase of one call, so it
is enough that each step changes a count and the state by the same amount.
The shared lock is taken before a lease is counted and given back after it is
released; so under the exclusive lock no lease of the model is counted, and
the entry that is dropped after an unload counts none.
-/
import ThreeAgent.ModelResidency

namespace ThreeAgent.ModelResidency

open PyText Outcome PyDict Interleaving ResidencyPhase

variable {model : String} {failure : Option Raised}

/-! ## What a phase has -/

namespace ResidencyPhase

def lease? : ResidencyPhase → Option String
  | .locked model | .held model _ | .unlocking model _ => some model
  | .surveying lease _ _ _ => lease
  | .choosing loop | .guarded loop _ | .unloading loop _ | .dropping loop _ | .unguarding loop _ _ => loop.lease
  | .ready | .unmanaged | .done _ => none

def counted? : ResidencyPhase → Option String
  | .locked _ | .unlocking _ _ => none
  | phase => phase.lease?

def guard? : ResidencyPhase → Option String
  | .guarded _ model | .unloading _ model | .dropping _ model | .unguarding _ model _ => some model
  | _ => none

theorem lease?_of_counted? {phase : ResidencyPhase} (h : phase.counted? = some model) :
    phase.lease? = some model := by
  cases phase with
  | locked model => cases h
  | unlocking model failure => cases h
  | _ => exact h

end ResidencyPhase

variable {ι : Type} [DecidableEq ι]

/-- The call has the shared lock of the file. -/
def reads (scope path : String) (c : ResidencyCall ι) : Bool := decide (c.phase.lease?.map (leasePath scope) = some path)

/-- The call has the exclusive lock of the file. -/
def guards (scope path : String) (c : ResidencyCall ι) : Bool := decide (c.phase.guard?.map (leasePath scope) = some path)

/-- The call holds a lease on the model through the manager. -/
def leases (k : ι) (model : String) (c : ResidencyCall ι) : Bool :=
  decide (c.manager = k ∧ c.phase.counted? = some model)

/-! ## Counting -/

theorem countP_set_add {α : Type} (p : α → Bool) {l : List α} {i : Nat} {a b : α} (h : l[i]? = some a) :
    (l.set i b).countP p + (p a).toNat = l.countP p + (p b).toNat := by
  obtain ⟨hi, rfl⟩ := List.getElem?_eq_some_iff.mp h
  have hle := List.boole_getElem_le_countP (p := p) hi
  rw [List.countP_set hi]
  cases hold : p l[i] <;> cases hnew : p b <;>
    simp only [hold, Bool.toNat_true, Bool.toNat_false, if_true, Bool.false_eq_true, if_false] at hle ⊢ <;> omega

/-- The counts are those of the shared state. -/
structure Exact (scope : String) (w : World (ResidencyState ι) (ResidencyCall ι)) : Prop where
  readers : ∀ path, (w.shared.locks path).readers = w.calls.countP (reads scope path)
  writer : ∀ path, (w.shared.locks path).writer.toNat = w.calls.countP (guards scope path)
  exclusive : ∀ path, (w.shared.locks path).writer = true → (w.shared.locks path).readers = 0
  active : ∀ k model, (w.shared.managers k).activeLeases model = w.calls.countP (leases k model)

/-- What a step of a call does to the state, beside what it does to the phase of the call. -/
structure Balanced (scope : String) (s : ResidencyState ι) (c : ResidencyCall ι)
    (next : ResidencyState ι × ResidencyCall ι) : Prop where
  readers : ∀ path, (next.1.locks path).readers + (reads scope path c).toNat =
    (s.locks path).readers + (reads scope path next.2).toNat
  writer : ∀ path, (next.1.locks path).writer.toNat + (guards scope path c).toNat =
    (s.locks path).writer.toNat + (guards scope path next.2).toNat
  exclusive : ∀ path, (next.1.locks path).writer = true → (next.1.locks path).readers = 0
  active : ∀ k model, (next.1.managers k).activeLeases model + (leases k model c).toNat =
    (s.managers k).activeLeases model + (leases k model next.2).toNat

theorem Exact.step {scope : String} {w : World (ResidencyState ι) (ResidencyCall ι)} (h : Exact scope w) {i : Nat}
    {c : ResidencyCall ι} (hget : w.calls[i]? = some c) {moment : ResidencyMoment}
    (hbal : Balanced scope w.shared c (residencyAct scope moment w.shared c)) :
    Exact scope ((residencyProgram scope).after w (.move i moment)) := by
  rw [Program.after_move hget]
  constructor
  · intro path
    have hset := countP_set_add (reads scope path) (b := (residencyAct scope moment w.shared c).2) hget
    have := hbal.readers path
    have := h.readers path
    show ((residencyAct scope moment w.shared c).1.locks path).readers =
      (w.calls.set i (residencyAct scope moment w.shared c).2).countP (reads scope path)
    omega
  · intro path
    have hset := countP_set_add (guards scope path) (b := (residencyAct scope moment w.shared c).2) hget
    have := hbal.writer path
    have := h.writer path
    show ((residencyAct scope moment w.shared c).1.locks path).writer.toNat =
      (w.calls.set i (residencyAct scope moment w.shared c).2).countP (guards scope path)
    omega
  · exact hbal.exclusive
  · intro k model
    have hset := countP_set_add (leases k model) (b := (residencyAct scope moment w.shared c).2) hget
    have := hbal.active k model
    have := h.active k model
    show ((residencyAct scope moment w.shared c).1.managers k).activeLeases model =
      (w.calls.set i (residencyAct scope moment w.shared c).2).countP (leases k model)
    omega

/-! ## The blocks of a manager -/

namespace Manager

theorem activeLeases_set (mgr : Manager) {mgr' : Manager} {state : ModelState}
    (h : mgr'.states = set mgr.states model state) (model' : String) :
    mgr'.activeLeases model' = if model = model' then state.activeLeases else mgr.activeLeases model' := by
  simp only [activeLeases, h, get?_set]
  split <;> rfl

theorem stateOr_activeLeases (mgr : Manager) (model : String) (now : Int) :
    (mgr.stateOr model now).activeLeases = mgr.activeLeases model := by
  simp only [stateOr, activeLeases]
  cases get? mgr.states model <;> rfl

theorem activeLeases_acquire (mgr : Manager) (model : String) (now : Int) (residents : List String) (model' : String) :
    (mgr.acquire model now residents).activeLeases model' =
      mgr.activeLeases model' + (decide (model = model')).toNat := by
  rw [activeLeases_set mgr rfl, stateOr_activeLeases]
  by_cases h : model = model'
  · simp [h]
  · simp [h]

theorem activeLeases_release (mgr : Manager) (model : String) (now : Int) (model' : String) :
    (mgr.release model now).activeLeases model' = mgr.activeLeases model' - (decide (model = model')).toNat := by
  rw [activeLeases_set mgr rfl, stateOr_activeLeases]
  by_cases h : model = model'
  · simp [h]
  · simp [h]

theorem activeLeases_drop (mgr : Manager) (model model' : String) :
    (mgr.drop model).activeLeases model' = if model = model' then 0 else mgr.activeLeases model' := by
  simp only [activeLeases, drop, get?_pop]
  split <;> rfl

theorem activeLeases_consider {exclude external : List String} {honorTtl : Bool} {now : Int}
    (acc : Manager × List (Int × String)) (model model' : String) :
    (consider exclude external honorTtl now acc model).1.activeLeases model' = acc.1.activeLeases model' := by
  obtain ⟨mgr, found⟩ := acc
  simp only [consider]
  split
  · rfl
  · cases hstate : get? mgr.states model with
    | none =>
      simp only
      rw [activeLeases_set mgr rfl]
      by_cases h : model = model'
      · subst h
        simp [activeLeases, hstate]
      · simp [h]
    | some state =>
      simp only
      split
      · rfl
      · split
        · rfl
        · rfl

theorem activeLeases_candidates (mgr : Manager) (exclude external residents : List String) (honorTtl : Bool) (now : Int)
    (model : String) :
    (mgr.candidates exclude external residents honorTtl now).1.activeLeases model = mgr.activeLeases model := by
  have hfold : ∀ (models : List String) (acc : Manager × List (Int × String)),
      (models.foldl (consider exclude external honorTtl now) acc).1.activeLeases model = acc.1.activeLeases model := by
    intro models
    induction models with
    | nil =>
      intro acc
      rfl
    | cons m models ih =>
      intro acc
      rw [List.foldl_cons, ih, activeLeases_consider]
  simp only [candidates]
  split
  · rfl
  · exact hfold _ _

end Manager

/-! ## The steps of a call -/

section Steps

variable {scope : String} {s : ResidencyState ι} {c : ResidencyCall ι} {phase : ResidencyPhase}

section
variable (hexcl : ∀ path, (s.locks path).writer = true → (s.locks path).readers = 0)
include hexcl

theorem Balanced.quiet
    (hlease : phase.lease? = c.phase.lease?) (hguard : phase.guard? = c.phase.guard?)
    (hcounted : phase.counted? = c.phase.counted?) : Balanced scope s c (s, c.to phase) := by
  refine ⟨?_, ?_, hexcl, ?_⟩
  · intro path
    simp only [reads, ResidencyCall.to, hlease]
  · intro path
    simp only [guards, ResidencyCall.to, hguard]
  · intro k model
    simp only [leases, ResidencyCall.to, hcounted]

theorem Balanced.manager {mgr : Manager}
    (hlease : phase.lease? = c.phase.lease?) (hguard : phase.guard? = c.phase.guard?)
    (hactive : ∀ model, mgr.activeLeases model + (decide (c.phase.counted? = some model)).toNat =
      (s.managers c.manager).activeLeases model + (decide (phase.counted? = some model)).toNat) :
    Balanced scope s c (s.setManager c.manager mgr, c.to phase) := by
  refine ⟨?_, ?_, hexcl, ?_⟩
  · intro path
    simp only [reads, ResidencyCall.to, hlease, ResidencyState.setManager]
  · intro path
    simp only [guards, ResidencyCall.to, hguard, ResidencyState.setManager]
  · intro k model
    by_cases hk : k = c.manager
    · subst hk
      simp only [leases, ResidencyCall.to, ResidencyState.setManager, Function.update_self, true_and]
      exact hactive model
    · have hne : c.manager ≠ k := fun heq => hk heq.symm
      simp only [leases, ResidencyCall.to, ResidencyState.setManager, Function.update_of_ne hk, hne, false_and]

theorem Balanced.lock {path₀ : String} {lock : FileLock}
    (hlock : lock.writer = true → lock.readers = 0) (hcounted : phase.counted? = c.phase.counted?)
    (hreads : ∀ path, (if path = path₀ then lock.readers else (s.locks path).readers) + (reads scope path c).toNat =
      (s.locks path).readers + (reads scope path (c.to phase)).toNat)
    (hguards : ∀ path, (if path = path₀ then lock.writer else (s.locks path).writer).toNat + (guards scope path c).toNat =
      (s.locks path).writer.toNat + (guards scope path (c.to phase)).toNat) :
    Balanced scope s c (s.setLock path₀ lock, c.to phase) := by
  have hupdate : ∀ path, (s.setLock path₀ lock).locks path = if path = path₀ then lock else s.locks path := by
    intro path
    by_cases h : path = path₀
    · subst h
      simp [ResidencyState.setLock]
    · simp [ResidencyState.setLock, h]
  refine ⟨?_, ?_, ?_, ?_⟩
  · intro path
    rw [hupdate, ← hreads path]
    split <;> rfl
  · intro path
    rw [hupdate, ← hguards path]
    split <;> rfl
  · intro path
    rw [hupdate]
    split
    · exact hlock
    · exact hexcl path
  · intro k model
    simp only [leases, ResidencyCall.to, hcounted, ResidencyState.setLock]

end

end Steps

section Exact

variable {scope : String} {w : World (ResidencyState ι) (ResidencyCall ι)}

variable {c : ResidencyCall ι}

section

variable (h : Exact scope w)
include h

theorem Exact.reader (hc : c ∈ w.calls) {path : String}
    (hreads : reads scope path c = true) : 0 < (w.shared.locks path).readers := by
  rw [h.readers path]
  exact List.countP_pos_iff.mpr ⟨c, hc, hreads⟩

theorem Exact.guard (hc : c ∈ w.calls) {path : String}
    (hguards : guards scope path c = true) : (w.shared.locks path).writer = true := by
  have hpos : 0 < (w.shared.locks path).writer.toNat := by
    rw [h.writer path]
    exact List.countP_pos_iff.mpr ⟨c, hc, hguards⟩
  cases hwriter : (w.shared.locks path).writer with
  | true => rfl
  | false =>
    rw [hwriter] at hpos
    exact absurd hpos (by decide)

theorem Exact.no_lease {c' : ResidencyCall ι} (hc : c ∈ w.calls) (hc' : c' ∈ w.calls)
    (hguard : c.phase.guard? = some model) : c'.phase.lease? ≠ some model := by
  intro hlease
  have hwriter : (w.shared.locks (leasePath scope model)).writer = true := h.guard hc (by simp [guards, hguard])
  have hreader : 0 < (w.shared.locks (leasePath scope model)).readers := h.reader hc' (by simp [reads, hlease])
  have := h.exclusive _ hwriter
  omega

theorem Exact.no_active (hc : c ∈ w.calls)
    (hguard : c.phase.guard? = some model) (k : ι) : (w.shared.managers k).activeLeases model = 0 := by
  rw [h.active k model, List.countP_eq_zero]
  intro c' hc' hleases
  have hcounted : c'.manager = k ∧ c'.phase.counted? = some model := of_decide_eq_true hleases
  exact h.no_lease hc hc' hguard (lease?_of_counted? hcounted.2)

theorem Exact.counted (hc : c ∈ w.calls)
    (hcounted : c.phase.counted? = some model) : 0 < (w.shared.managers c.manager).activeLeases model := by
  rw [h.active]
  exact List.countP_pos_iff.mpr ⟨c, hc, by simp [leases, hcounted]⟩

end

variable {request : ResidencyRequest} {k : ι} {i : Nat}

theorem balanced_ready (h : Exact scope w) (moment : ResidencyMoment) :
    Balanced scope w.shared ⟨k, request, .ready⟩ (residencyAct scope moment w.shared ⟨k, request, .ready⟩) := by
  cases request with
  | evictIdle exclude => exact .quiet h.exclusive rfl rfl rfl
  | evictInactive exclude limit => exact .quiet h.exclusive rfl rfl rfl
  | lease model =>
    simp only [residencyAct, enterLease]
    split
    · exact .quiet h.exclusive rfl rfl rfl
    · split
      · exact .quiet h.exclusive rfl rfl rfl
      · split
        · show Balanced scope w.shared _ (w.shared, ResidencyCall.to ⟨k, .lease model, .ready⟩ .ready)
          exact .quiet h.exclusive rfl rfl rfl
        · rename_i hwriter
          refine .lock h.exclusive (fun htrue => absurd htrue hwriter) rfl ?_ ?_
          · intro path
            simp only [reads, ResidencyCall.to, lease?]
            split
            · rename_i heq
              subst heq
              simp
            · rename_i hne
              have hne' : leasePath scope (strip model) ≠ path := fun heq => hne heq.symm
              simp [hne']
          · intro path
            simp only [guards, ResidencyCall.to, guard?]
            split
            · rename_i heq
              subst heq
              simp
            · simp

theorem EvictLoop.finish_has (loop : EvictLoop) (failure : Option Raised) :
    (loop.finish failure).lease? = loop.lease ∧ (loop.finish failure).guard? = none ∧
      (loop.finish failure).counted? = loop.lease := by
  obtain ⟨lease, limit, rest, evicted⟩ := loop
  cases lease <;> cases failure <;> exact ⟨rfl, rfl, rfl⟩

section

variable (h : Exact scope w)
include h

variable {loop : EvictLoop}

theorem balanced_choosing (moment : ResidencyMoment) : Balanced scope w.shared ⟨k, request, .choosing loop⟩
      (residencyAct scope moment w.shared ⟨k, request, .choosing loop⟩) := by
  obtain ⟨hlease, hguard, hcounted⟩ := loop.finish_has none
  simp only [residencyAct, nextCandidate]
  split
  · exact .quiet h.exclusive hlease hguard hcounted
  · rename_i model rest hrest
    split
    · exact .quiet h.exclusive hlease hguard hcounted
    · split
      · rename_i hfree
        refine .lock h.exclusive (fun _ => hfree.2) rfl ?_ ?_
        · intro path
          simp only [reads, ResidencyCall.to, lease?]
          split
          · rename_i heq
            subst heq
            rfl
          · rfl
        · intro path
          simp only [guards, ResidencyCall.to, guard?]
          split
          · rename_i heq
            subst heq
            simp [hfree.1]
          · rename_i hne
            have hne' : leasePath scope model ≠ path := fun heq => hne heq.symm
            simp [hne']
      · exact .quiet h.exclusive rfl rfl rfl

theorem Balanced.unguard {next : ResidencyPhase} (hwriter : (w.shared.locks (leasePath scope model)).writer = true)
    (hlease : next.lease? = loop.lease) (hguard : next.guard? = none) (hcounted : next.counted? = loop.lease) :
    Balanced scope w.shared ⟨k, request, .unguarding loop model failure⟩
      (w.shared.setLock (leasePath scope model) { w.shared.locks (leasePath scope model) with writer := false },
        ResidencyCall.to ⟨k, request, .unguarding loop model failure⟩ next) := by
  refine .lock h.exclusive (fun htrue => by cases htrue) hcounted ?_ ?_
  · intro path
    simp only [reads, ResidencyCall.to, hlease]
    split
    · rename_i heq
      subst heq
      rfl
    · rfl
  · intro path
    simp only [guards, ResidencyCall.to, hguard]
    split
    · rename_i heq
      subst heq
      simp [hwriter, guard?]
    · rename_i hne
      have hne' : leasePath scope model ≠ path := fun heq => hne heq.symm
      simp [hne', guard?]

theorem balanced_unguarding
    (hget : w.calls[i]? = some ⟨k, request, .unguarding loop model failure⟩) (moment : ResidencyMoment) :
    Balanced scope w.shared ⟨k, request, .unguarding loop model failure⟩
      (residencyAct scope moment w.shared ⟨k, request, .unguarding loop model failure⟩) := by
  have hwriter : (w.shared.locks (leasePath scope model)).writer = true :=
    h.guard (List.mem_of_getElem? hget) (by simp [guards, guard?])
  cases failure with
  | none => exact .unguard h hwriter rfl rfl rfl
  | some e =>
    obtain ⟨hlease, hguard, hcounted⟩ := loop.finish_has (some e)
    exact .unguard h hwriter hlease hguard hcounted

theorem balanced_unlocking
    (hget : w.calls[i]? = some ⟨k, request, .unlocking model failure⟩) (moment : ResidencyMoment) :
    Balanced scope w.shared ⟨k, request, .unlocking model failure⟩
      (residencyAct scope moment w.shared ⟨k, request, .unlocking model failure⟩) := by
  have hreader : 0 < (w.shared.locks (leasePath scope model)).readers :=
    h.reader (List.mem_of_getElem? hget) (by simp [reads, lease?])
  refine .lock h.exclusive ?_ rfl ?_ ?_
  · intro hwriter
    have := h.exclusive _ hwriter
    omega
  · intro path
    simp only [reads, ResidencyCall.to, lease?]
    split
    · rename_i heq
      subst heq
      simp
      omega
    · rename_i hne
      have hne' : leasePath scope model ≠ path := fun heq => hne heq.symm
      simp [hne']
  · intro path
    simp only [guards, ResidencyCall.to, guard?]
    split
    · rename_i heq
      subst heq
      simp
    · simp

theorem residencyAct_balanced (hget : w.calls[i]? = some c)
    (moment : ResidencyMoment) : Balanced scope w.shared c (residencyAct scope moment w.shared c) := by
  have hmem := List.mem_of_getElem? hget
  obtain ⟨k, request, phase⟩ := c
  cases phase with
  | ready => exact balanced_ready h moment
  | unmanaged => exact .quiet h.exclusive rfl rfl rfl
  | locked model =>
    refine .manager h.exclusive rfl rfl ?_
    intro model'
    rw [Manager.activeLeases_acquire]
    simp [counted?, lease?]
  | surveying lease exclude honorTtl limit =>
    obtain ⟨mgr, candidates, hcandidates⟩ : ∃ mgr candidates, (w.shared.managers k).candidates exclude moment.external
        moment.residents honorTtl moment.now = (mgr, candidates) := ⟨_, _, rfl⟩
    have hsame : ∀ model, mgr.activeLeases model = (w.shared.managers k).activeLeases model := by
      intro model
      rw [← Manager.activeLeases_candidates (w.shared.managers k) exclude moment.external moment.residents honorTtl
        moment.now model, hcandidates]
    simp only [residencyAct, hcandidates]
    refine .manager h.exclusive rfl rfl ?_
    intro model'
    rw [hsame model']
    rfl
  | choosing loop => exact balanced_choosing h moment
  | guarded loop model =>
    simp only [residencyAct]
    split
    · exact .quiet h.exclusive rfl rfl rfl
    · exact .quiet h.exclusive rfl rfl rfl
  | unloading loop model =>
    simp only [residencyAct]
    split
    · exact .quiet h.exclusive rfl rfl rfl
    · exact .quiet h.exclusive rfl rfl rfl
    · exact .quiet h.exclusive rfl rfl rfl
  | dropping loop model =>
    refine .manager h.exclusive rfl rfl ?_
    intro model'
    -- the entry that is dropped counts no lease
    have hnone : (w.shared.managers k).activeLeases model = 0 := h.no_active hmem rfl k
    rw [Manager.activeLeases_drop]
    split
    · rename_i heq
      subst heq
      show _ = (w.shared.managers k).activeLeases model + _
      rw [hnone]
      rfl
    · rfl
  | unguarding loop model failure => exact balanced_unguarding h hget moment
  | held model failure =>
    refine .manager h.exclusive rfl rfl ?_
    intro model'
    have hpos : 0 < (w.shared.managers k).activeLeases model := h.counted hmem rfl
    rw [Manager.activeLeases_release]
    by_cases heq : model = model'
    · subst heq
      simp [counted?, lease?]
      omega
    · simp [counted?, lease?, heq]
  | unlocking model failure => exact balanced_unlocking h hget moment
  | done result =>
    show Balanced scope w.shared _ (w.shared, ResidencyCall.to ⟨k, request, .done result⟩ (.done result))
    exact .quiet h.exclusive rfl rfl rfl

end

/-! ## Runs -/

theorem Exact.after (h : Exact scope w) (e : Event (ι × ResidencyRequest) ResidencyMoment) :
    Exact scope ((residencyProgram scope).after w e) := by
  rcases (residencyProgram scope).after_cases w e with ⟨r, -, hafter⟩ | ⟨i, moment, c, rfl, hget, -⟩ | ⟨i, m, -, -, hafter⟩
  · rw [hafter]
    have hnew : ∀ p : ResidencyCall ι → Bool, p ((residencyProgram scope).init r) = false →
        (w.calls ++ [(residencyProgram scope).init r]).countP p = w.calls.countP p := by
      intro p hp
      rw [List.countP_append, List.countP_singleton, hp]
      rfl
    refine ⟨?_, ?_, h.exclusive, ?_⟩
    · intro path
      rw [h.readers, hnew _ rfl]
    · intro path
      rw [h.writer, hnew _ rfl]
    · intro k model
      rw [h.active, hnew]
      simp [leases, residencyProgram, counted?, lease?]
  · exact h.step hget (residencyAct_balanced h hget moment)
  · rw [hafter]
    exact h

end Exact

/-- The managers as they are built, over lock files that nobody has locked. -/
structure Initial (s : ResidencyState ι) : Prop where
  states : ∀ k, (s.managers k).states = []
  locks : ∀ path, s.locks path = {}

theorem Initial.exact {scope : String} {s : ResidencyState ι} (h : Initial s) : Exact scope ⟨s, []⟩ := by
  refine ⟨?_, ?_, ?_, ?_⟩
  · intro path
    rw [h.locks]
    rfl
  · intro path
    rw [h.locks]
    rfl
  · intro path hwriter
    rw [h.locks] at hwriter
    cases hwriter
  · intro k model
    simp [Manager.activeLeases, h.states]

/-- In every state of every interleaving: while a call is at `backend.unload` of a model, from before the call until
its lock is given back, no call has a lease on the model; and what a manager counts for a model is the number of its
leases on it. -/
theorem leases_over_runs (scope : String) (s : ResidencyState ι) (hs : Initial s)
    (events : List (Event (ι × ResidencyRequest) ResidencyMoment)) :
    (residencyProgram scope).Always (fun w =>
      (∀ c ∈ w.calls, ∀ loop model, c.phase = .unloading loop model → ∀ c' ∈ w.calls, c'.phase.lease? ≠ some model) ∧
      ∀ k model, (w.shared.managers k).activeLeases model =
        w.calls.countP fun c => decide (c.manager = k ∧ c.phase.counted? = some model)) ⟨s, []⟩ events := by
  have halways : (residencyProgram scope).Always (Exact scope) ⟨s, []⟩ events := by
    have hstep : ∀ (w : World (ResidencyState ι) (ResidencyCall ι)) (e : Event (ι × ResidencyRequest) ResidencyMoment),
        Exact scope w → (Exact scope ((residencyProgram scope).after w e) ↔ True) :=
      fun w e hw => iff_true_intro (hw.after e)
    refine (Program.always_iff_each (Q := fun _ _ => True) hstep hs.exact).mpr ?_
    generalize (⟨s, []⟩ : World (ResidencyState ι) (ResidencyCall ι)) = w
    induction events generalizing w with
    | nil => trivial
    | cons e events ih => exact ⟨trivial, ih _⟩
  refine halways.mono ?_
  intro w hw
  refine ⟨?_, hw.active⟩
  intro c hc loop model hphase c' hc'
  refine hw.no_lease hc hc' ?_
  rw [hphase]
  rfl

/-- Two processes: the second tries to evict a model while the first has a lease on it. -/
theorem leases_over_two_processes :
    (residencyProgram (ι := Bool) "default").Always (fun w =>
      (∀ c ∈ w.calls, ∀ loop model, c.phase = .unloading loop model → ∀ c' ∈ w.calls, c'.phase.lease? ≠ some model) ∧
      ∀ k model, (w.shared.managers k).activeLeases model =
        w.calls.countP fun c => decide (c.manager = k ∧ c.phase.counted? = some model))
      ⟨⟨fun _ => {}, fun _ => {}⟩, []⟩
      [.start (false, .lease "qwen"), .move 0 ⟨0, [], [], .ok true⟩, .start (true, .evictInactive [] none),
        .move 1 ⟨1, ["qwen"], [], .ok true⟩, .move 1 ⟨2, ["qwen"], [], .ok true⟩, .move 0 ⟨3, [], [], .ok true⟩] :=
  leases_over_runs "default" ⟨fun _ => {}, fun _ => {}⟩ ⟨fun _ => rfl, fun _ => rfl⟩ _

end ThreeAgent.ModelResidency
