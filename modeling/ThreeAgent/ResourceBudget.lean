/-
Admission to the model resources (`resource_budget.py`): the reservations in
the shared state file and the blocks of `admit` that a file lock makes
atomic, with `serialize_generation` off.

What a snapshot of the machine looks like and how `_decision` judges it is a
parameter: the accounting reads of it only the models that are loaded and the
decision. Times are in microseconds.
-/
import ThreeAgent.Errors
import ThreeAgent.Lib.Dict
import ThreeAgent.Lib.Interleaving

namespace ThreeAgent.ResourceBudget

open PyDict Interleaving

/-- An entry of the state file. -/
structure Reservation where
  bytes : Int
  count : Int
  createdAt : Int
  deriving DecidableEq, Repr

/-- The part of `ResourceBudgetConfig` that `admit` and the state file read. -/
structure Config where
  enabled : Bool := true
  reservationTtlSeconds : Int := 900
  deriving DecidableEq, Repr

structure AdmissionDecision where
  allowed : Bool
  estimatedModelBytes : Int
  reason : String := ""
  busy : Bool := false
  deriving DecidableEq, Repr

/-- Whether `_read_reservations` keeps an entry. -/
def Reservation.Current (config : Config) (now : Int) (r : Reservation) : Prop :=
  0 < r.bytes ∧ 0 < r.count ∧ now - r.createdAt ≤ 1000000 * max 30 config.reservationTtlSeconds

instance (config : Config) (now : Int) (r : Reservation) : Decidable (r.Current config now) :=
  inferInstanceAs (Decidable (_ ∧ _))

/-- `_read_reservations`. -/
def readReservations (config : Config) (now : Int) (file : Dict Reservation) : Dict Reservation :=
  file.filter fun e => e.2.Current config now

/-- The block that records a reservation: a model that is loaded gets none. -/
def enter (config : Config) (now : Int) (model : String) (decision : AdmissionDecision) (loaded : List String)
    (file : Dict Reservation) : Dict Reservation :=
  if model ∈ loaded then file
  else
    let reservations := readReservations config now file
    match get? reservations model with
    | some existing => set reservations model { existing with count := existing.count + 1, createdAt := now }
    | none => set reservations model ⟨max 1 decision.estimatedModelBytes, 1, now⟩

/-- The block in the `finally` clause: it goes by the model's name. -/
def leave (config : Config) (now : Int) (model : String) (file : Dict Reservation) : Dict Reservation :=
  let reservations := readReservations config now file
  match get? reservations model with
  | none => file
  | some existing =>
    if existing.count - 1 ≤ 0 then pop reservations model
    else set reservations model { existing with count := existing.count - 1, createdAt := now }

/-! ## One `admit` -/

/-- How far a call of `admit` has come. -/
inductive Phase where
  /-- in `_wait_for_decision` -/
  | waiting
  /-- the decision was taken under a snapshot with these models loaded -/
  | decided (decision : AdmissionDecision) (loaded : List String)
  /-- the body of the `with` statement runs -/
  | live (recorded : Bool)
  /-- an exception is on its way through the `finally` clause -/
  | failing (e : Raised)
  | done
  deriving DecidableEq, Repr

structure Admit where
  config : Config
  model : String
  phase : Phase
  deriving DecidableEq, Repr

/-- The machine as `snapshot` and `_decision` see it. -/
structure Machine (S : Type) where
  loadedModels : S → List String
  decision : String → S → Dict Reservation → Except Raised AdmissionDecision

/-- What a step takes from outside: the time, the snapshot, whether the deadline of the queue has
passed, and whether the body or the snapshot raises. -/
structure Moment (S : Type) where
  now : Int
  snapshot : S
  deadline : Bool := false
  raises : Option Raised := none

section Machine

variable {S : Type} (machine : Machine S)

/-- One round of `_wait_for_decision`. -/
def poll (moment : Moment S) (a : Admit) (file : Dict Reservation) : Phase :=
  match moment.raises with
  | some e => .failing e
  | none =>
    match machine.decision a.model moment.snapshot (readReservations a.config moment.now file) with
    | .error e => .failing e
    | .ok decision =>
      if decision.allowed then .decided decision (machine.loadedModels moment.snapshot)
      else if !decision.busy then
        .failing ⟨.resourceAdmissionError, "Resource admission denied for " ++ a.model ++ ": " ++ decision.reason⟩
      else if moment.deadline then
        .failing ⟨.resourceBusyError,
          "Resource admission timed out waiting for " ++ a.model ++ ": " ++ decision.reason⟩
      else .waiting

/-- The next atomic block of a call. A disabled manager admits at once and touches no file. -/
def act (moment : Moment S) (file : Dict Reservation) (a : Admit) : Dict Reservation × Admit :=
  match a.phase with
  | .waiting =>
    if a.config.enabled then (file, { a with phase := poll machine moment a file })
    else (file, { a with phase := .live false })
  | .decided decision loaded =>
    (enter a.config moment.now a.model decision loaded file,
      { a with phase := .live (decide (a.model ∉ loaded)) })
  | .live _ | .failing _ =>
    if a.config.enabled then (leave a.config moment.now a.model file, { a with phase := .done })
    else (file, { a with phase := .done })
  | .done => (file, a)

/-- The managers that share one state file. -/
def program : Program (Dict Reservation) Admit (Config × String) (Moment S) where
  init a := ⟨a.1, a.2, .waiting⟩
  act := act machine

end Machine

end ThreeAgent.ResourceBudget
