/-
Leases on local models and their eviction (`model_residency.py`): the lease,
`evict_idle` and `evict_inactive` of `ModelResidencyManager`, for any number
of threads and of processes with a manager each.

An atomic step is a block under the lock of a manager, one `flock` call or
one call of the backend. `flock` is a reader and writer lock for each lock
file: a handle waits for the shared lock while another has the exclusive one,
and the exclusive lock is tried without waiting. All managers have one lock
directory and one backend. What the clock, the backend and the probe of
outside activity answer is the environment's; the clock is in ticks. A
manager that is not enabled takes no lease and evicts nothing.
-/
import ThreeAgent.Checks
import ThreeAgent.Lib.Dict
import ThreeAgent.Lib.Interleaving

namespace ThreeAgent.ModelResidency

open PyText Outcome PyDict Interleaving

/-- `_ModelState`. -/
structure ModelState where
  activeLeases : Nat := 0
  lastUsedAt : Int := 0
  deriving DecidableEq, Repr

/-- `ModelResidencyManager`, with what it uses of its config. -/
structure Manager where
  enabled : Bool := true
  idleTtl : Int := 120
  states : Dict ModelState := []
  acquisitions : Nat := 0
  reuseHits : Nat := 0
  evictions : Nat := 0
  deriving DecidableEq, Repr

/-- The lock of a file: how many handles have it shared, and whether one has it exclusively. -/
structure FileLock where
  readers : Nat := 0
  writer : Bool := false
  deriving DecidableEq, Repr

/-- The managers of the processes `ι`, and the lock files. -/
structure ResidencyState (ι : Type) where
  managers : ι → Manager
  locks : String → FileLock

/-- `_lease_path`, the name of the file. -/
def leasePath (scope model : String) : String :=
  digestPrefix (hashText scope) 16 ++ "-" ++ digestPrefix (hashText model) 24 ++ ".lock"

namespace Manager

/-- `self._states.setdefault(model, _ModelState(last_used_at=now))`. -/
def stateOr (mgr : Manager) (model : String) (now : Int) : ModelState := (get? mgr.states model).getD ⟨0, now⟩

/-- `active_leases`. -/
def activeLeases (mgr : Manager) (model : String) : Nat := ((get? mgr.states model).map ModelState.activeLeases).getD 0

/-- The block of `acquire`. -/
def acquire (mgr : Manager) (model : String) (now : Int) (residents : List String) : Manager :=
  { mgr with
    states := set mgr.states model ⟨(mgr.stateOr model now).activeLeases + 1, now⟩
    acquisitions := mgr.acquisitions + 1
    reuseHits := if model ∈ residents then mgr.reuseHits + 1 else mgr.reuseHits }

/-- The block of `release`. -/
def release (mgr : Manager) (model : String) (now : Int) : Manager :=
  { mgr with states := set mgr.states model ⟨(mgr.stateOr model now).activeLeases - 1, now⟩ }

/-- One resident model in `_candidates`: an unknown one is noted, one that is in use is passed over. -/
def consider (exclude external : List String) (honorTtl : Bool) (now : Int)
    (acc : Manager × List (Int × String)) (model : String) : Manager × List (Int × String) :=
  let (mgr, candidates) := acc
  if model ∈ exclude ∨ model ∈ external then acc
  else
    match get? mgr.states model with
    | none => ({ mgr with states := set mgr.states model ⟨0, now⟩ }, candidates)
    | some state =>
      if 0 < state.activeLeases then acc
      else if honorTtl = true ∧ max 0 (now - state.lastUsedAt) < mgr.idleTtl then acc
      else (mgr, candidates ++ [(state.lastUsedAt, model)])

/-- `_candidates`: the order is by the time of the last use, then by the name. -/
def candidates (mgr : Manager) (exclude external residents : List String) (honorTtl : Bool) (now : Int) :
    Manager × List String :=
  if mgr.enabled = false then (mgr, [])
  else
    let (mgr', found) := (sorted (dedup residents)).foldl (consider exclude external honorTtl now) (mgr, [])
    (mgr', (found.insertionSort fun a b => a.1 < b.1 ∨ (a.1 = b.1 ∧ a.2 ≤ b.2)).map Prod.snd)

/-- The block after an unload. -/
def drop (mgr : Manager) (model : String) : Manager :=
  { mgr with states := pop mgr.states model, evictions := mgr.evictions + 1 }

end Manager

/-! ## Calls -/

inductive ResidencyRequest where
  | lease (model : String)
  | evictIdle (exclude : List String)
  | evictInactive (exclude : List String) (limit : Option Int)
  deriving DecidableEq, Repr

/-- The loop of `_evict`: the lease it runs in, its limit, the candidates to come and the models evicted. -/
structure EvictLoop where
  lease : Option String
  limit : Option Int
  rest : List String
  evicted : List String
  deriving DecidableEq, Repr

inductive ResidencyPhase where
  | ready
  /-- The body of a lease of a manager that is not enabled. -/
  | unmanaged
  /-- The shared lock is taken. -/
  | locked (model : String)
  | surveying (lease : Option String) (exclude : List String) (honorTtl : Bool) (limit : Option Int)
  | choosing (loop : EvictLoop)
  /-- The exclusive lock of the model is taken. -/
  | guarded (loop : EvictLoop) (model : String)
  | unloading (loop : EvictLoop) (model : String)
  | dropping (loop : EvictLoop) (model : String)
  | unguarding (loop : EvictLoop) (model : String) (failure : Option Raised)
  /-- The body of a lease, which ends with its next step. -/
  | held (model : String) (failure : Option Raised)
  | unlocking (model : String) (failure : Option Raised)
  | done (result : Except Raised (List String))
  deriving DecidableEq

structure ResidencyCall (ι : Type) where
  manager : ι
  request : ResidencyRequest
  phase : ResidencyPhase

/-- What a step takes from its environment: the clock, the resident models, the models active outside, and the answer
of `backend.unload`. -/
structure ResidencyMoment where
  now : Int
  residents : List String
  external : List String
  unloaded : Except Raised Bool

/-- The loop is over: the lease goes on, or the call ends. -/
def EvictLoop.finish (loop : EvictLoop) (failure : Option Raised) : ResidencyPhase :=
  match loop.lease, failure with
  | some model, failure => .held model failure
  | none, some e => .done (.error e)
  | none, none => .done (.ok loop.evicted)

/-- `limit is not None and len(evicted) >= max(0, limit)`. -/
def EvictLoop.full (loop : EvictLoop) : Bool :=
  match loop.limit with
  | none => false
  | some limit => decide (max 0 limit ≤ loop.evicted.length)

section Program

variable {ι : Type} [DecidableEq ι]

namespace ResidencyState

def setManager (s : ResidencyState ι) (k : ι) (mgr : Manager) : ResidencyState ι :=
  { s with managers := Function.update s.managers k mgr }

def setLock (s : ResidencyState ι) (path : String) (lock : FileLock) : ResidencyState ι :=
  { s with locks := Function.update s.locks path lock }

end ResidencyState

def ResidencyCall.to (c : ResidencyCall ι) (phase : ResidencyPhase) : ResidencyCall ι := { c with phase := phase }

/-- The entry of a lease: `flock(LOCK_SH)` waits while the exclusive lock is held. -/
def enterLease (scope : String) (s : ResidencyState ι) (c : ResidencyCall ι) (model : String) :
    ResidencyState ι × ResidencyCall ι :=
  if (s.managers c.manager).enabled = false then (s, c.to .unmanaged)
  else if strip model = "" then
    (s, c.to (.done (.error ⟨.valueError, "model lease requires a non-empty model name"⟩)))
  else
    let path := leasePath scope (strip model)
    if (s.locks path).writer then (s, c)
    else (s.setLock path { s.locks path with readers := (s.locks path).readers + 1 }, c.to (.locked (strip model)))

/-- The head of the loop of `_evict`: the exclusive lock of the next candidate is tried. -/
def nextCandidate (scope : String) (s : ResidencyState ι) (c : ResidencyCall ι) (loop : EvictLoop) :
    ResidencyState ι × ResidencyCall ι :=
  match loop.rest with
  | [] => (s, c.to (loop.finish none))
  | model :: rest =>
    if loop.full then (s, c.to (loop.finish none))
    else
      let path := leasePath scope model
      let lock := s.locks path
      if lock.writer = false ∧ lock.readers = 0 then
        (s.setLock path { lock with writer := true }, c.to (.guarded { loop with rest := rest } model))
      else (s, c.to (.choosing { loop with rest := rest }))

/-- The next atomic step of a call. -/
def residencyAct (scope : String) (moment : ResidencyMoment) (s : ResidencyState ι) (c : ResidencyCall ι) :
    ResidencyState ι × ResidencyCall ι :=
  let mgr := s.managers c.manager
  match c.phase with
  | .ready =>
    match c.request with
    | .lease model => enterLease scope s c model
    | .evictIdle exclude => (s, c.to (.surveying none exclude true none))
    | .evictInactive exclude limit => (s, c.to (.surveying none exclude false limit))
  | .unmanaged => (s, c.to (.done (.ok [])))
  | .locked model =>
    (s.setManager c.manager (mgr.acquire model moment.now moment.residents),
      c.to (.surveying (some model) [model] true none))
  | .surveying lease exclude honorTtl limit =>
    let (mgr', candidates) := mgr.candidates exclude moment.external moment.residents honorTtl moment.now
    (s.setManager c.manager mgr', c.to (.choosing ⟨lease, limit, candidates, []⟩))
  | .choosing loop => nextCandidate scope s c loop
  | .guarded loop model =>
    if 0 < mgr.activeLeases model then (s, c.to (.unguarding loop model none))
    else (s, c.to (.unloading loop model))
  | .unloading loop model =>
    match moment.unloaded with
    | .ok true => (s, c.to (.dropping loop model))
    | .ok false => (s, c.to (.unguarding loop model none))
    | .error e => (s, c.to (.unguarding loop model (some e)))
  | .dropping loop model =>
    (s.setManager c.manager (mgr.drop model),
      c.to (.unguarding { loop with evicted := loop.evicted ++ [model] } model none))
  | .unguarding loop model failure =>
    let path := leasePath scope model
    (s.setLock path { s.locks path with writer := false },
      c.to (match failure with
        | none => .choosing loop
        | some e => loop.finish (some e)))
  | .held model failure =>
    (s.setManager c.manager (mgr.release model moment.now), c.to (.unlocking model failure))
  | .unlocking model failure =>
    let path := leasePath scope model
    (s.setLock path { s.locks path with readers := (s.locks path).readers - 1 },
      c.to (.done (match failure with
        | none => .ok []
        | some e => .error e)))
  | .done _ => (s, c)

/-- The calls of the threads of all processes. -/
def residencyProgram (scope : String) :
    Program (ResidencyState ι) (ResidencyCall ι) (ι × ResidencyRequest) ResidencyMoment where
  init call := ⟨call.1, call.2, .ready⟩
  act := residencyAct scope

end Program

end ThreeAgent.ModelResidency
