/-
Any number of workflows on one audit journal, in any interleaving.

A step of `execute_step` goes through the same points in every process: it
passes its checks, passes the replay check, records the request, calls the
invoker, and records how that ended. Seen from one step of one session, the
records and the calls of all processes together are safe when they follow the
phases below; the replay check is what makes a new request wait for the free
phase. It is made before the request is recorded, in a step of its own, so it
protects only a process whose request is recorded while it still holds.
-/
import Mathlib.Logic.Function.Basic
import ThreeAgent.SecurityWorkflow

namespace ThreeAgent.SecurityWorkflow

open PyText Outcome PyJson

variable {r : AuditRecord} {now : String} {j : Journal}
  {call : StepCall} {plan : OperationPlan}

/-! ## Processes -/

/-- A step of a session. -/
abbrev Key := String × String

variable {k : Key}

def StepCall.key (call : StepCall) : Key := (call.session.sessionId, call.state.stepId)

/-- Where a process is in `execute_step`. -/
inductive Proc where
  | idle
  /-- The checks have passed. -/
  | admitted (call : StepCall)
  /-- The replay check has passed. -/
  | cleared (call : StepCall)
  /-- `STEP_REQUESTED` is recorded. -/
  | requested (call : StepCall)
  /-- The invoker is called. -/
  | invoking (call : StepCall)
  /-- The invoker raised an exception that is caught. -/
  | failing (call : StepCall) (reason : String)
  /-- The invoker returned. -/
  | returned (call : StepCall) (receipt : Except Raised Receipt)

variable {proc : Proc}

/-- What happens, in its order: records in the journal, calls of the invoker, and their ends. -/
inductive LogEntry where
  | appended (record : AuditRecord)
  | invoked (key : Key)
  | ended (key : Key) (succeeded : Bool)
  deriving DecidableEq

variable {e : LogEntry}

/-- The journal, the processes, and what has happened so far. -/
structure World (P : Type) where
  journal : Journal
  procs : P → Proc
  log : List LogEntry

def World.start (P : Type) : World P := ⟨[], fun _ => .idle, []⟩

inductive Move (P : Type) where
  | prepare (p : P) (now : String) (routing : RoutingDecision) (plan : OperationPlan) (binding : PlanBinding)
  | begin (p : P) (prepared : Prepared) (stepId : String) (request : Except Raised String)
  | check (p : P)
  | request (p : P) (now : String)
  | invoke (p : P)
  | catches (p : P) (reasonCode : Option String) (message : String)
  /-- An exception that `execute_step` does not catch. -/
  | escapes (p : P)
  | recordFailure (p : P) (now : String)
  | returns (p : P) (receipt : Except Raised Receipt)
  | complete (p : P) (now : String)
  /-- The process stops, or the call it is in raises. -/
  | stop (p : P)

section Steps

variable {P : Type} [DecidableEq P] (utc : String → Except Raised String) (workflows : P → Workflow)

/-- The world after a process has moved on, with what it did. -/
def World.moved (w : World P) (p : P) (proc : Proc) (entries : List LogEntry) : World P :=
  ⟨w.journal, Function.update w.procs p proc, w.log ++ entries⟩

/-- The world after a process has appended a record. -/
def World.appended (w : World P) (p : P) (proc : Proc) (result : Except Raised (Journal × AuditRecord)) :
    Option (World P) :=
  match result with
  | .ok (j, record) => some ⟨j, Function.update w.procs p proc, w.log ++ [.appended record]⟩
  | .error _ => none

/-- A step, `none` when it is not one that the process can make. -/
def World.step (w : World P) : Move P → Option (World P)
  | .prepare p now routing plan binding =>
    match w.procs p with
    | .idle =>
      w.appended p .idle ((SecurityWorkflow.prepare utc (workflows p) now routing plan binding w.journal).map
        fun r => (r.1, r.2.2))
    | _ => none
  | .begin p prepared stepId request =>
    match w.procs p, beginStep utc (workflows p) prepared stepId request w.journal with
    | .idle, .ok call => some (w.moved p (.admitted call) [])
    | _, _ => none
  | .check p =>
    match w.procs p with
    | .admitted call =>
      match requireAuditReplaySafe utc call.session.sessionId call.state.stepId w.journal with
      | .ok _ => some (w.moved p (.cleared call) [])
      | .error _ => none
    | _ => none
  | .request p now =>
    match w.procs p with
    | .cleared call => w.appended p (.requested call) (appendRequested utc now call w.journal)
    | _ => none
  | .invoke p =>
    match w.procs p with
    | .requested call => some (w.moved p (.invoking call) [.invoked call.key])
    | _ => none
  | .catches p reasonCode message =>
    match w.procs p with
    | .invoking call => some (w.moved p (.failing call (failureReason reasonCode message)) [.ended call.key false])
    | _ => none
  | .escapes p =>
    match w.procs p with
    | .invoking call => some (w.moved p .idle [.ended call.key false])
    | _ => none
  | .recordFailure p now =>
    match w.procs p with
    | .failing call reason => w.appended p .idle (appendFailed utc now call reason w.journal)
    | _ => none
  | .returns p receipt =>
    match w.procs p with
    | .invoking call => some (w.moved p (.returned call receipt) [.ended call.key true])
    | _ => none
  | .complete p now =>
    match w.procs p with
    | .returned call receipt => w.appended p .idle (appendCompleted utc now call receipt w.journal)
    | _ => none
  | .stop p => some (w.moved p .idle [])

/-- The replay check still holds of the journal when a request is recorded. -/
def Guarded (w : World P) : Move P → Prop
  | .request p _ => ∀ call, w.procs p = .cleared call →
    requireAuditReplaySafe utc call.session.sessionId call.state.stepId w.journal = .ok ⟨⟩
  | _ => True

/-- The worlds that steps satisfying a condition lead to. -/
inductive Reached (ok : World P → Move P → Prop) : World P → Prop where
  | start : Reached ok (World.start P)
  | step {w w' : World P} (m : Move P) : Reached ok w → ok w m → w.step utc workflows m = some w' → Reached ok w'

end Steps

/-! ## The phases of a step of a session -/

inductive Phase where
  /-- Nobody has it. -/
  | free
  | requested
  | invoked
  | failed
  | succeeded
  | completed
  deriving DecidableEq

variable {ph ph' : Phase}

def AuditRecord.isOf (k : Key) (r : AuditRecord) : Prop := r.sessionId = k.1 ∧ r.stepId = some k.2

instance (k : Key) (r : AuditRecord) : Decidable (r.isOf k) := inferInstanceAs (Decidable (_ ∧ _))

/-- The phase after a record of the step. -/
def Phase.record : Phase → EventType → Option Phase
  | .free, .stepRequested => some .requested
  | .failed, .stepFailed => some .free
  | .succeeded, .stepCompleted => some .completed
  | _, _ => none

/-- The phase after an event, `none` for one that does not belong in it. -/
def Phase.next (k : Key) (ph : Phase) : LogEntry → Option Phase
  | .appended r => if r.isOf k then ph.record r.eventType else some ph
  | .invoked k' => if k' = k then (if ph = .requested then some .invoked else none) else some ph
  | .ended k' ok =>
    if k' = k then (if ph = .invoked then some (if ok then .succeeded else .failed) else none) else some ph

/-- The phase after what has happened so far. -/
def phaseOf (k : Key) (log : List LogEntry) : Option Phase := log.foldlM (Phase.next k) .free

/-- What a safe history of a step is: after a call that succeeded there is no other, at most one call is out at
any time, and between two calls a failure is recorded. -/
structure Safe (k : Key) (log : List LogEntry) : Prop where
  succeeded_once : ∀ l₁ l₂, log = l₁ ++ .ended k true :: l₂ → .invoked k ∉ l₂
  one_outstanding : ∀ l₁ l₂, log = l₁ ++ l₂ →
    l₁.count (.invoked k) ≤ l₁.count (.ended k true) + l₁.count (.ended k false) + 1
  failed_between : ∀ l₁ l₂ l₃, log = l₁ ++ .invoked k :: (l₂ ++ .invoked k :: l₃) →
    ∃ r, .appended r ∈ l₂ ∧ r.isOf k ∧ r.eventType = .stepFailed

theorem foldlM_keeps {S : Phase → Prop} {Q : LogEntry → Prop}
    (hkeep : ∀ ph e ph', S ph → Q e → Phase.next k ph e = some ph' → S ph') :
    ∀ {l : List LogEntry} {ph ph' : Phase}, S ph → (∀ e ∈ l, Q e) → l.foldlM (Phase.next k) ph = some ph' → S ph'
  | [], ph, ph', hS, _, h => by
    simp only [List.foldlM_nil, Option.pure_def, Option.some.injEq] at h
    exact h ▸ hS
  | e :: l, ph, ph', hS, hQ, h => by
    simp only [List.foldlM_cons, Option.bind_eq_bind, Option.bind_eq_some_iff] at h
    obtain ⟨ph₁, h₁, h⟩ := h
    exact foldlM_keeps hkeep (hkeep ph e ph₁ hS (hQ e (by simp)) h₁) (fun e' he' => hQ e' (by simp [he'])) h

theorem phaseOf_append {l₁ l₂ : List LogEntry} (h : phaseOf k (l₁ ++ l₂) = some ph) :
    ∃ ph₁, phaseOf k l₁ = some ph₁ ∧ l₂.foldlM (Phase.next k) ph₁ = some ph := by
  simpa [phaseOf, List.foldlM_append, Option.bind_eq_some_iff] using h

theorem foldlM_cons_some {l : List LogEntry}
    (h : (e :: l).foldlM (Phase.next k) ph = some ph') :
    ∃ ph₁, Phase.next k ph e = some ph₁ ∧ l.foldlM (Phase.next k) ph₁ = some ph' := by
  simpa [List.foldlM_cons, Option.bind_eq_some_iff] using h

theorem next_invoked (h : Phase.next k ph (.invoked k) = some ph') :
    ph = .requested ∧ ph' = .invoked := by
  simp only [Phase.next, if_true] at h
  split at h
  · rename_i hph
    cases h
    exact ⟨hph, rfl⟩
  · cases h

theorem next_ended {b : Bool} (h : Phase.next k ph (.ended k b) = some ph') :
    ph = .invoked ∧ ph' = if b then .succeeded else .failed := by
  simp only [Phase.next, if_true] at h
  split at h
  · rename_i hph
    cases h
    exact ⟨hph, rfl⟩
  · cases h

def LogEntry.isOf (k : Key) : LogEntry → Prop
  | .appended r => r.isOf k
  | .invoked k' => k' = k
  | .ended k' _ => k' = k

section

variable (h : Phase.next k ph e = some ph')
include h

theorem next_cases :
    (ph = ph' ∧ ¬ e.isOf k) ∨
    (∃ r, e = .appended r ∧ r.isOf k ∧ (r.eventType = .stepRequested ∧ ph = .free ∧ ph' = .requested ∨
      r.eventType = .stepFailed ∧ ph = .failed ∧ ph' = .free ∨
      r.eventType = .stepCompleted ∧ ph = .succeeded ∧ ph' = .completed)) ∨
    (e = .invoked k ∧ ph = .requested ∧ ph' = .invoked) ∨
    ∃ b, e = .ended k b ∧ ph = .invoked ∧ ph' = if b then .succeeded else .failed := by
  cases e with
  | appended r =>
    simp only [Phase.next] at h
    split at h
    · rename_i hof
      refine .inr (.inl ⟨r, rfl, hof, ?_⟩)
      cases ph <;> cases hr : r.eventType <;> simp_all [Phase.record]
    · rename_i hof
      exact .inl ⟨Option.some.inj h, hof⟩
  | invoked k' =>
    by_cases hk : k' = k
    · subst hk
      exact .inr (.inr (.inl ⟨rfl, next_invoked h⟩))
    · simp only [Phase.next, if_neg hk, Option.some.injEq] at h
      exact .inl ⟨h, hk⟩
  | ended k' b =>
    by_cases hk : k' = k
    · subst hk
      exact .inr (.inr (.inr ⟨b, rfl, next_ended h⟩))
    · simp only [Phase.next, if_neg hk, Option.some.injEq] at h
      exact .inl ⟨h, hk⟩

theorem next_not_free
    (hph : ph ≠ .free ∧ ph ≠ .requested)
    (he : ∀ r, e = .appended r → r.isOf k → r.eventType ≠ .stepFailed) : ph' ≠ .free ∧ ph' ≠ .requested := by
  rcases next_cases h with ⟨rfl, -⟩ | ⟨r, hr, hof, hcase⟩ | ⟨-, -, rfl⟩ | ⟨b, -, -, rfl⟩
  · exact hph
  · rcases hcase with ⟨-, hfree, -⟩ | ⟨hfailed, -, -⟩ | ⟨-, -, rfl⟩
    · exact absurd hfree hph.1
    · exact absurd hfailed (he r hr hof)
    · decide
  · decide
  · cases b <;> decide

theorem next_done
    (hph : ph = .succeeded ∨ ph = .completed) : ph' = .succeeded ∨ ph' = .completed := by
  rcases next_cases h with ⟨rfl, -⟩ | ⟨r, -, -, hcase⟩ | ⟨-, rfl, -⟩ | ⟨b, -, rfl, -⟩
  · exact hph
  · rcases hcase with ⟨-, rfl, -⟩ | ⟨-, rfl, -⟩ | ⟨-, -, rfl⟩
    · simp at hph
    · simp at hph
    · exact .inr rfl
  · simp at hph
  · simp at hph

end

variable {log : List LogEntry}

theorem outstanding_of_phase (h : phaseOf k log = some ph) :
    log.count (.invoked k) = log.count (.ended k true) + log.count (.ended k false) +
      if ph = .invoked then 1 else 0 := by
  induction log using List.reverseRecOn generalizing ph with
  | nil =>
    simp only [phaseOf, List.foldlM_nil, Option.pure_def, Option.some.injEq] at h
    subst h
    rfl
  | append_singleton log e ih =>
    obtain ⟨ph₁, h₁, h⟩ := phaseOf_append h
    have hih := ih h₁
    obtain ⟨ph₂, hnext, h⟩ := foldlM_cons_some h
    simp only [List.foldlM_nil, Option.pure_def, Option.some.injEq] at h
    subst h
    simp only [List.count_append, List.count_singleton, beq_iff_eq]
    rcases next_cases hnext with ⟨rfl, hof⟩ | ⟨r, rfl, -, hcase⟩ | ⟨rfl, rfl, rfl⟩ | ⟨b, rfl, rfl, rfl⟩
    · have h1 : e ≠ .invoked k := fun he => hof (he ▸ rfl)
      have h2 : ∀ b, e ≠ .ended k b := fun b he => hof (he ▸ rfl)
      simp only [h1, h2, if_false, add_zero]
      exact hih
    · have hkeep : ¬ ph₁ = .invoked ∧ ¬ ph₂ = .invoked := by
        rcases hcase with ⟨-, rfl, rfl⟩ | ⟨-, rfl, rfl⟩ | ⟨-, rfl, rfl⟩ <;> decide
      simp only [reduceCtorEq, if_false, add_zero, hkeep.1, hkeep.2] at hih ⊢
      exact hih
    · simp only [reduceCtorEq, if_false, if_true, add_zero] at hih ⊢
      omega
    · cases b <;> simp at hih ⊢ <;> omega

theorem safe_of_phase (h : phaseOf k log = some ph) : Safe k log where
  succeeded_once := by
    rintro l₁ l₂ rfl hin
    obtain ⟨a, b, rfl⟩ := List.append_of_mem hin
    obtain ⟨ph₁, -, h⟩ := phaseOf_append h
    obtain ⟨ph₂, hend, h⟩ := foldlM_cons_some h
    obtain ⟨-, rfl⟩ := next_ended hend
    rw [List.foldlM_append, Option.bind_eq_bind, Option.bind_eq_some_iff] at h
    obtain ⟨ph₃, ha, h⟩ := h
    obtain ⟨ph₄, hinv, -⟩ := foldlM_cons_some h
    have hkeep : ph₃ = .succeeded ∨ ph₃ = .completed := by
      refine foldlM_keeps (S := fun ph => ph = .succeeded ∨ ph = .completed) (Q := fun _ => True) ?_ (.inl rfl)
        (fun _ _ => trivial) ha
      intro ph e ph' hph _ hnext
      exact next_done hnext hph
    obtain ⟨rfl, -⟩ := next_invoked hinv
    simp at hkeep
  one_outstanding := by
    rintro l₁ l₂ rfl
    obtain ⟨ph₁, h₁, -⟩ := phaseOf_append h
    have := outstanding_of_phase h₁
    split at this <;> omega
  failed_between := by
    rintro l₁ l₂ l₃ rfl
    by_contra hnone
    obtain ⟨ph₁, -, h⟩ := phaseOf_append h
    obtain ⟨ph₂, hinv, h⟩ := foldlM_cons_some h
    obtain ⟨-, rfl⟩ := next_invoked hinv
    rw [List.foldlM_append, Option.bind_eq_bind, Option.bind_eq_some_iff] at h
    obtain ⟨ph₃, ha, h⟩ := h
    obtain ⟨ph₄, hinv', -⟩ := foldlM_cons_some h
    obtain ⟨rfl, -⟩ := next_invoked hinv'
    have hkeep : Phase.requested ≠ .free ∧ Phase.requested ≠ .requested := by
      refine foldlM_keeps (S := fun ph => ph ≠ .free ∧ ph ≠ .requested)
        (Q := fun e => ∀ r, e = .appended r → r.isOf k → r.eventType ≠ .stepFailed) ?_ (by decide) ?_ ha
      · intro ph e ph' hph he hnext
        exact next_not_free hnext hph he
      · intro e he r hr hof hfailed
        exact hnone ⟨r, hr ▸ he, hof, hfailed⟩
    exact hkeep.2 rfl

/-! ## What the journal says of a step -/

def AuditRecord.view (r : AuditRecord) : EventType × String × Option String := (r.eventType, r.sessionId, r.stepId)

variable {r' : AuditRecord} {j' : Journal}

section Journal

variable {utc : String → Except Raised String}

theorem validate_view (h : r.validate utc = .ok r') : r'.view = r.view := by
  simp only [AuditRecord.validate, bind_ok, require_ok, pure_ok] at h
  obtain ⟨_, -, _, -, _, -, _, -, _, -, _, -, _, -, _, -, _, -, _, -, _, -, _, -, _, -, _, -, _, -, rfl⟩ := h
  rfl

theorem readFrom_view : ∀ {j rs : List AuditRecord} {line : Nat} {previous : Option String},
    Journal.readFrom utc line previous j = .ok rs → rs.map AuditRecord.view = j.map AuditRecord.view
  | [], rs, line, previous, h => by
    simp only [Journal.readFrom, pure_ok] at h
    subst h
    rfl
  | r :: j, rs, line, previous, h => by
    simp only [Journal.readFrom, bind_ok, require_ok, pure_ok] at h
    obtain ⟨r', hr, _, -, _, -, rest, hrest, rfl⟩ := h
    rw [List.map_cons, List.map_cons, validate_view hr, readFrom_view hrest]

theorem append_ok {e : Journal.Entry} {record : AuditRecord}
    (h : Journal.append utc now e j = .ok (j', record)) :
    j ++ [record] = j' ∧ record.view = (e.eventType, e.sessionId, e.stepId) := by
  simp only [Journal.append, AuditRecord.build, bind_ok, pure_ok, Prod.mk.injEq] at h
  obtain ⟨rs, -, r, ⟨_, -, _, -, hvalid⟩, hj, hr⟩ := h
  refine ⟨hr ▸ hj, ?_⟩
  rw [← hr, validate_view hvalid]
  rfl

end Journal

/-- The types of the events of a step, in their order. -/
def trail (k : Key) (j : List AuditRecord) : List EventType := (relevant k.1 k.2 j).map (·.eventType)

theorem trail_congr {j rs : List AuditRecord} (h : rs.map AuditRecord.view = j.map AuditRecord.view) :
    trail k rs = trail k j := by
  have hview : ∀ l : List AuditRecord, trail k l =
      ((l.map AuditRecord.view).filter fun v => v.2.1 = k.1 ∧ v.2.2 = some k.2).map Prod.fst := by
    intro l
    rw [List.filter_map, List.map_map]
    rfl
  rw [hview, hview, h]

theorem trail_snoc (k : Key) (j : List AuditRecord) (r : AuditRecord) :
    trail k (j ++ [r]) = trail k j ++ (if r.isOf k then [r.eventType] else []) := by
  by_cases h : r.isOf k
  · have hr : decide (r.sessionId = k.1 ∧ r.stepId = some k.2) = true := by simpa [AuditRecord.isOf] using h
    simp only [trail, relevant, List.filter_append, List.filter_singleton, hr, cond_true, h, if_true,
      List.map_append, List.map_cons, List.map_nil]
  · have hr : decide (r.sessionId = k.1 ∧ r.stepId = some k.2) = false := by simpa [AuditRecord.isOf] using h
    simp only [trail, relevant, List.filter_append, List.filter_singleton, hr, cond_false, h, if_false,
      List.append_nil]

/-- The replay check refuses the step. -/
def Blocked (k : Key) (j : List AuditRecord) : Prop :=
  .stepCompleted ∈ trail k j ∨ (trail k j).getLast? = some .stepRequested

variable {utc : String → Except Raised String}

theorem not_blocked_of_replaySafe (h : requireAuditReplaySafe utc k.1 k.2 j = .ok ⟨⟩) : ¬ Blocked k j := by
  simp only [requireAuditReplaySafe, bind_ok, require_ok] at h
  obtain ⟨rs, hrs, _, hcompleted, hlast⟩ := h
  have htrail : trail k j = (relevant k.1 k.2 rs).map (·.eventType) := (trail_congr (readFrom_view hrs)).symm
  rintro (hin | hreq)
  · rw [htrail, List.mem_map] at hin
    obtain ⟨r, hr, heq⟩ := hin
    exact hcompleted r hr heq
  · rw [htrail, List.getLast?_map, Option.map_eq_some_iff] at hreq
    obtain ⟨r, hr, heq⟩ := hreq
    exact hlast r hr heq

/-! ## The invariant -/

def Proc.call? : Proc → Option StepCall
  | .idle => none
  | .admitted call | .cleared call | .requested call | .invoking call | .failing call _ | .returned call _ => some call

/-- The phase that a process has put the step into, if it has it. -/
def Proc.holds (k : Key) : Proc → Option Phase
  | .requested call => if call.key = k then some .requested else none
  | .invoking call => if call.key = k then some .invoked else none
  | .failing call _ => if call.key = k then some .failed else none
  | .returned call _ => if call.key = k then some .succeeded else none
  | _ => none

/-- The session of a call has the id of its lineage. -/
def StepCall.Lineage (call : StepCall) : Prop :=
  call.session.sessionId =
    sessionIdOf call.session.requestSha256 call.session.planFingerprint call.session.bindingFingerprint

variable {es : List LogEntry} {wf : Workflow}

section Invariant

variable {P : Type}

/-- A step is in a phase: the log leads there, whoever has it agrees, nobody else has it, and the replay check
refuses it unless it is free. -/
structure InPhase (w : World P) (k : Key) (ph : Phase) : Prop where
  log : phaseOf k w.log = some ph
  holders : ∀ p, ∀ ph' ∈ (w.procs p).holds k, ph' = ph
  alone : ∀ p q, (w.procs p).holds k ≠ none → (w.procs q).holds k ≠ none → p = q
  blocked : ph ≠ .free → Blocked k w.journal

structure Inv (w : World P) : Prop where
  phases : ∀ k, ∃ ph, InPhase w k ph
  lineage : ∀ p, ∀ call ∈ (w.procs p).call?, call.Lineage

theorem inv_start : Inv (World.start P) where
  phases k := ⟨.free, rfl, by simp [World.start, Proc.holds], by simp [World.start, Proc.holds], by simp⟩
  lineage := by simp [World.start, Proc.call?]

variable [DecidableEq P]

variable {w : World P} {p : P}

theorem InPhase.moved (h : InPhase w k ph) (hlog : es.foldlM (Phase.next k) ph = some ph')
    (hproc : ∀ x ∈ proc.holds k, x = ph')
    (hothers : (ph' = ph ∧ (proc.holds k ≠ none → (w.procs p).holds k ≠ none)) ∨
      ∀ q, q ≠ p → (w.procs q).holds k = none)
    (hblocked : ph' ≠ .free → Blocked k j) :
    InPhase ⟨j, Function.update w.procs p proc, w.log ++ es⟩ k ph' where
  log := by
    rw [phaseOf, List.foldlM_append]
    have hstart : w.log.foldlM (Phase.next k) .free = some ph := h.log
    rw [hstart]
    exact hlog
  holders := by
    intro q x hx
    by_cases hq : q = p
    · subst hq
      simp only [Function.update_self] at hx
      exact hproc x hx
    · simp only [Function.update_of_ne hq] at hx
      rcases hothers with ⟨rfl, -⟩ | hnone
      · exact h.holders q x hx
      · rw [hnone q hq] at hx
        cases hx
  alone := by
    have hone : ∀ q, q ≠ p → proc.holds k ≠ none → (w.procs q).holds k ≠ none → False := by
      intro q hq hp hheld
      rcases hothers with ⟨-, hkept⟩ | hnone
      · exact hq (h.alone q p hheld (hkept hp))
      · exact hheld (hnone q hq)
    intro q q' hq hq'
    by_cases h1 : q = p <;> by_cases h2 : q' = p
    · rw [h1, h2]
    · subst h1
      simp only [Function.update_self] at hq
      simp only [Function.update_of_ne h2] at hq'
      exact absurd hq' (fun hn => hone q' h2 hq hn)
    · subst h2
      simp only [Function.update_of_ne h1] at hq
      simp only [Function.update_self] at hq'
      exact absurd hq (fun hn => hone q h1 hq' hn)
    · simp only [Function.update_of_ne h1] at hq
      simp only [Function.update_of_ne h2] at hq'
      exact h.alone q q' hq hq'
  blocked := hblocked

omit [DecidableEq P] in
theorem InPhase.others {x : Phase} (h : InPhase w k ph)
    (hp : (w.procs p).holds k = some x) : ∀ q, q ≠ p → (w.procs q).holds k = none := by
  intro q hq
  by_contra hheld
  exact hq (h.alone q p hheld (by simp [hp]))

theorem next_of_not_isOf (h : ¬ e.isOf k) (ph : Phase) : Phase.next k ph e = some ph := by
  cases e with
  | appended r => exact if_neg h
  | invoked k' => exact if_neg h
  | ended k' b => exact if_neg h

theorem holds_ne_free : proc.holds k ≠ some .free := by
  cases proc with
  | idle | admitted | cleared => simp [Proc.holds]
  | requested | invoking | failing | returned =>
    simp only [Proc.holds]
    split <;> simp

theorem blocked_snoc (hr : ¬ r.isOf k) (h : Blocked k j) :
    Blocked k (j ++ [r]) := by
  rw [Blocked, trail_snoc, if_neg hr, List.append_nil]
  exact h

theorem Inv.quiet (h : Inv w)
    (hes : ∀ k, ∀ e ∈ es, ¬ e.isOf k) (hproc : ∀ k, proc.holds k = none) (hcall : ∀ c ∈ proc.call?, c.Lineage)
    (hj : ∀ k, Blocked k w.journal → Blocked k j) :
    Inv ⟨j, Function.update w.procs p proc, w.log ++ es⟩ where
  phases k := by
    obtain ⟨ph, hph⟩ := h.phases k
    refine ⟨ph, hph.moved ?_ (by simp [hproc k]) (.inl ⟨rfl, by simp [hproc k]⟩) fun hne => hj k (hph.blocked hne)⟩
    induction es with
    | nil => rfl
    | cons e es ih =>
      rw [List.foldlM_cons, next_of_not_isOf (hes k e (by simp))]
      exact ih fun k e he => hes k e (by simp [he])
  lineage := by
    intro q c hc
    by_cases hq : q = p
    · subst hq
      simp only [Function.update_self] at hc
      exact hcall c hc
    · simp only [Function.update_of_ne hq] at hc
      exact h.lineage q c hc

theorem Inv.advance (h : Inv w) {a b : Phase}
    (hphase : ∀ ph, InPhase w call.key ph → ph = a ∧ ∀ q, q ≠ p → (w.procs q).holds call.key = none)
    (hnext : Phase.next call.key a e = some b) (hof : ∀ k, k ≠ call.key → ¬ e.isOf k)
    (hproc : ∀ k, ∀ x ∈ proc.holds k, k = call.key ∧ x = b) (hcall : ∀ c ∈ proc.call?, c.Lineage)
    (hj : ∀ k, k ≠ call.key → Blocked k w.journal → Blocked k j) (hb : b ≠ .free → Blocked call.key j) :
    Inv ⟨j, Function.update w.procs p proc, w.log ++ [e]⟩ where
  phases k := by
    obtain ⟨ph, hph⟩ := h.phases k
    by_cases hk : k = call.key
    · subst hk
      obtain ⟨rfl, hothers⟩ := hphase ph hph
      refine ⟨b, hph.moved ?_ (fun x hx => (hproc _ x hx).2) (.inr hothers) hb⟩
      rw [List.foldlM_cons, hnext]
      rfl
    · have hnone : proc.holds k = none := by
        rw [Option.eq_none_iff_forall_not_mem]
        intro x hx
        exact hk (hproc k x hx).1
      refine ⟨ph, hph.moved ?_ (by simp [hnone]) (.inl ⟨rfl, by simp [hnone]⟩) fun hne => hj k hk (hph.blocked hne)⟩
      rw [List.foldlM_cons, next_of_not_isOf (hof k hk)]
      rfl
  lineage := by
    intro q c hc
    by_cases hq : q = p
    · subst hq
      simp only [Function.update_self] at hc
      exact hcall c hc
    · simp only [Function.update_of_ne hq] at hc
      exact h.lineage q c hc

omit [DecidableEq P] in
theorem InPhase.held {a : Phase} (hph : InPhase w k ph)
    (hp : (w.procs p).holds k = some a) : ph = a ∧ ∀ q, q ≠ p → (w.procs q).holds k = none :=
  ⟨(hph.holders p a hp).symm, hph.others hp⟩

omit [DecidableEq P] in
theorem InPhase.unheld (hph : InPhase w k ph)
    (hsafe : ¬ Blocked k w.journal) : ph = .free ∧ ∀ q, q ≠ p → (w.procs q).holds k = none := by
  have hfree : ph = .free := by
    by_contra hne
    exact hsafe (hph.blocked hne)
  refine ⟨hfree, ?_⟩
  intro q _
  cases hq : (w.procs q).holds k with
  | none => rfl
  | some x =>
    have hx := hph.holders q x hq
    rw [hx, hfree] at hq
    exact absurd hq holds_ne_free

theorem appended_isOf {e : Journal.Entry} (h : Journal.append utc now e j = .ok (j', r))
    (hs : e.sessionId = call.session.sessionId) (ht : e.stepId = some call.state.stepId) :
    j ++ [r] = j' ∧ r.eventType = e.eventType ∧ r.isOf call.key ∧
      ∀ k, k ≠ call.key → ¬ (LogEntry.appended r).isOf k := by
  obtain ⟨hj, hview⟩ := append_ok h
  simp only [AuditRecord.view, Prod.mk.injEq] at hview
  obtain ⟨hty, hsid, hstep⟩ := hview
  refine ⟨hj, hty, ⟨hsid.trans hs, hstep.trans ht⟩, ?_⟩
  rintro ⟨a, b⟩ hne ⟨ha, hb⟩
  simp only at ha hb
  have ha' : call.session.sessionId = a := by rw [← hs, ← hsid, ha]
  have hb' : some call.state.stepId = some b := by rw [← ht, ← hstep, hb]
  cases ha'
  cases hb'
  exact hne rfl

theorem beginStep_lineage {prepared : Prepared} {stepId : String} {request : Except Raised String}
    (h : beginStep utc wf prepared stepId request j = .ok call) : call.Lineage := by
  simp only [beginStep, bind_ok, require_ok, pure_ok] at h
  obtain ⟨_, -, _, hvalid, _, -, _, -, _, -, _, -, _, -, _, -, _, -, rfl⟩ := h
  simp only [Session.validate, bind_ok, require_ok] at hvalid
  obtain ⟨_, -, _, -, _, -, _, -, _, -, _, -, _, -, _, -, _, -, _, -, _, -, _, -, _, -, _, -, _, -, _, -, _, hid, -⟩ :=
    hvalid
  exact hid

theorem prepare_ok {routing : RoutingDecision} {binding : PlanBinding}
    (h : (prepare utc wf now routing plan binding j).map (fun x => (x.1, x.2.2)) = .ok (j', r)) :
    j ++ [r] = j' ∧ r.stepId = none := by
  cases hp : prepare utc wf now routing plan binding j with
  | error e =>
    rw [hp] at h
    cases h
  | ok result =>
    rw [hp] at h
    cases h
    simp only [prepare, bind_ok, pure_ok] at hp
    obtain ⟨steps, -, session, -, ⟨j₁, r₁⟩, happ, rfl⟩ := hp
    obtain ⟨hj, hview⟩ := append_ok happ
    exact ⟨hj, congrArg (fun v => v.2.2) hview⟩

theorem completeStep_sessionId {receipt : Receipt} {session : Session}
    (h : completeStep call receipt = .ok session) (hl : call.Lineage) : session.sessionId = call.session.sessionId := by
  simp only [completeStep, Session.build, bind_ok, pure_ok] at h
  obtain ⟨_, -, _, -, _, -, _, -, _, -, _, -, _, -, _, -, _, -, rfl⟩ := h
  exact hl.symm

variable {w' : World P}

theorem appended_some {result : Except Raised (Journal × AuditRecord)}
    (h : w.appended p proc result = some w') : ∃ j r, result = .ok (j, r) ∧
      ⟨j, Function.update w.procs p proc, w.log ++ [.appended r]⟩ = w' := by
  cases result with
  | error e => cases h
  | ok pair =>
    obtain ⟨j, r⟩ := pair
    exact ⟨j, r, rfl, Option.some.inj h⟩

theorem blocked_requested (hr : r.isOf k)
    (ht : r.eventType = .stepRequested) : Blocked k (j ++ [r]) := by
  refine .inr ?_
  rw [trail_snoc, if_pos hr, ht, List.getLast?_concat]

theorem blocked_completed (hr : r.isOf k)
    (ht : r.eventType = .stepCompleted) : Blocked k (j ++ [r]) := by
  refine .inl ?_
  rw [trail_snoc, if_pos hr, ht]
  simp

variable {utc : String → Except Raised String} {workflows : P → Workflow}

theorem Inv.request (h : Inv w)
    (hguard : Guarded utc w (.request p now)) (hstep : w.step utc workflows (.request p now) = some w') : Inv w' := by
  simp only [World.step] at hstep
  split at hstep
  · rename_i call hp
    obtain ⟨j, r, hr, rfl⟩ := appended_some hstep
    obtain ⟨rfl, hty, hof, hnot⟩ := appended_isOf hr rfl rfl
    have hsafe : ¬ Blocked call.key w.journal := not_blocked_of_replaySafe (hguard call hp)
    have hnext : Phase.next call.key .free (.appended r) = some .requested := by
      simp only [Phase.next, if_pos hof, hty]
      rfl
    refine h.advance (fun ph hph => hph.unheld hsafe) hnext hnot ?_ ?_ ?_ ?_
    · intro k x hx
      simp only [Proc.holds] at hx
      split at hx
      · rename_i hk
        cases hx
        exact ⟨hk.symm, rfl⟩
      · cases hx
    · intro c hc
      cases hc
      exact h.lineage p call (by simp [hp, Proc.call?])
    · intro k hk hb
      exact blocked_snoc (hnot k hk) hb
    · intro _
      exact blocked_requested hof hty
  · cases hstep

theorem Inv.record (h : Inv w) {e : Journal.Entry} (a b : Phase) (hheld : (w.procs p).holds call.key = some a)
    (hr : Journal.append utc now e w.journal = .ok (j, r)) (hs : e.sessionId = call.session.sessionId)
    (ht : e.stepId = some call.state.stepId) (hab : a.record e.eventType = some b)
    (hb : b ≠ .free → e.eventType = .stepCompleted) :
    Inv ⟨j, Function.update w.procs p .idle, w.log ++ [.appended r]⟩ := by
  obtain ⟨rfl, hty, hof, hnot⟩ := appended_isOf hr hs ht
  have hnext : Phase.next call.key a (.appended r) = some b := by
    simp only [Phase.next, if_pos hof, hty]
    exact hab
  refine h.advance (fun ph hph => hph.held hheld) hnext hnot (by simp [Proc.holds]) (by simp [Proc.call?]) ?_ ?_
  · intro k hk hblocked
    exact blocked_snoc (hnot k hk) hblocked
  · intro hne
    exact blocked_completed hof (hty.trans (hb hne))

theorem Inv.invoker (h : Inv w) (call : StepCall) (a b : Phase)
    (hcall : (w.procs p).call? = some call) (hheld : (w.procs p).holds call.key = some a)
    (hnext : Phase.next call.key a e = some b) (hof : ∀ k, e.isOf k → call.key = k) (ha : a ≠ .free)
    (hproc : ∀ k, ∀ x ∈ proc.holds k, k = call.key ∧ x = b) (hsame : ∀ c ∈ proc.call?, c = call) :
    Inv (w.moved p proc [e]) := by
  obtain ⟨ph, hph⟩ := h.phases call.key
  refine h.advance (fun ph hph => hph.held hheld) hnext (fun k hk he => hk (hof k he).symm) hproc ?_ (fun _ _ hb => hb) ?_
  · intro c hc
    rw [hsame c hc]
    exact h.lineage p call hcall
  · intro _
    exact hph.blocked ((hph.held hheld).1 ▸ ha)

theorem holds_self {x y : Phase} (h : x ∈ (if call.key = k then some y else none)) :
    k = call.key ∧ x = y := by
  split at h
  · rename_i hk
    cases h
    exact ⟨hk.symm, rfl⟩
  · cases h

theorem Inv.step (h : Inv w) {m : Move P} (hguard : Guarded utc w m)
    (hstep : w.step utc workflows m = some w') : Inv w' := by
  cases m with
  | prepare p now routing plan binding =>
    simp only [World.step] at hstep
    split at hstep
    · obtain ⟨j, r, hr, rfl⟩ := appended_some hstep
      obtain ⟨rfl, hnone⟩ := prepare_ok hr
      have hnot : ∀ k, ¬ r.isOf k := by
        intro k hof
        rw [AuditRecord.isOf, hnone] at hof
        cases hof.2
      refine h.quiet ?_ (by simp [Proc.holds]) (by simp [Proc.call?]) (fun k hb => blocked_snoc (hnot k) hb)
      intro k e he
      rw [List.mem_singleton.mp he]
      exact hnot k
    · cases hstep
  | begin p prepared stepId request =>
    simp only [World.step] at hstep
    split at hstep
    · rename_i call hp hcall
      cases hstep
      refine h.quiet (by simp) (by simp [Proc.holds]) ?_ (fun _ hb => hb)
      intro c hc
      cases hc
      exact beginStep_lineage hcall
    · cases hstep
  | check p =>
    simp only [World.step] at hstep
    split at hstep
    · rename_i call hp
      split at hstep
      · cases hstep
        refine h.quiet (by simp) (by simp [Proc.holds]) ?_ (fun _ hb => hb)
        intro c hc
        cases hc
        exact h.lineage p call (by simp [hp, Proc.call?])
      · cases hstep
    · cases hstep
  | request p now => exact h.request hguard hstep
  | invoke p =>
    simp only [World.step] at hstep
    split at hstep
    · rename_i call hp
      cases hstep
      refine h.invoker call .requested .invoked (by simp [hp, Proc.call?])
        (by simp [hp, Proc.holds]) ?_ (fun _ he => he) (by decide) (fun k x hx => holds_self hx) ?_
      · simp [Phase.next]
      · intro c hc
        exact (Option.some.inj hc).symm
    · cases hstep
  | catches p reasonCode message =>
    simp only [World.step] at hstep
    split at hstep
    · rename_i call hp
      cases hstep
      refine h.invoker call .invoked .failed (by simp [hp, Proc.call?])
        (by simp [hp, Proc.holds]) ?_ (fun _ he => he) (by decide) (fun k x hx => holds_self hx) ?_
      · simp [Phase.next]
      · intro c hc
        exact (Option.some.inj hc).symm
    · cases hstep
  | escapes p =>
    simp only [World.step] at hstep
    split at hstep
    · rename_i call hp
      cases hstep
      refine h.invoker call .invoked .failed (by simp [hp, Proc.call?])
        (by simp [hp, Proc.holds]) ?_ (fun _ he => he) (by decide) (by simp [Proc.holds]) (by simp [Proc.call?])
      · simp [Phase.next]
    · cases hstep
  | recordFailure p now =>
    simp only [World.step] at hstep
    split at hstep
    · rename_i call reason hp
      obtain ⟨j, r, hr, rfl⟩ := appended_some hstep
      exact h.record .failed .free (by simp [hp, Proc.holds]) hr rfl rfl rfl (fun hne => absurd rfl hne)
    · cases hstep
  | returns p receipt =>
    simp only [World.step] at hstep
    split at hstep
    · rename_i call hp
      cases hstep
      refine h.invoker call .invoked .succeeded (by simp [hp, Proc.call?])
        (by simp [hp, Proc.holds]) ?_ (fun _ he => he) (by decide) (fun k x hx => holds_self hx) ?_
      · simp [Phase.next]
      · intro c hc
        exact (Option.some.inj hc).symm
    · cases hstep
  | complete p now =>
    simp only [World.step] at hstep
    split at hstep
    · rename_i call receipt hp
      obtain ⟨j, r, hr, rfl⟩ := appended_some hstep
      simp only [appendCompleted, bind_ok] at hr
      obtain ⟨receipt', -, updated, hupdated, hr⟩ := hr
      have hid := completeStep_sessionId hupdated (h.lineage p call (by simp [hp, Proc.call?]))
      exact h.record .succeeded .completed (by simp [hp, Proc.holds]) hr hid rfl rfl (fun _ => rfl)
    · cases hstep
  | stop p =>
    simp only [World.step, Option.some.injEq] at hstep
    subst hstep
    exact h.quiet (by simp) (by simp [Proc.holds]) (by simp [Proc.call?]) (fun _ hb => hb)

/-- **The steps of shared sessions, in any interleaving.** When every request is recorded while the replay check
still holds of the journal, the invoker is not called again for a step after a call for it has succeeded, at most
one call for it is out at any time, and between two calls for it a failure is recorded. -/
theorem guarded_runs_safe {w : World P} (hrun : Reached utc workflows (Guarded utc) w) (k : Key) : Safe k w.log := by
  have hinv : Inv w := by
    induction hrun with
    | start => exact inv_start
    | step m _ hok hstep ih => exact ih.step hok hstep
  obtain ⟨ph, hph⟩ := hinv.phases k
  exact safe_of_phase hph.log

end Invariant

/-! ## Records that are accepted -/

theorem checkSha_hashText (cls : ErrorClass) (t field : String) : checkSha cls (hashText t) field = .ok ⟨⟩ := by
  rw [checkSha, require_ok, strip_hashText]
  exact sha256Re_hashText t

theorem hexIdRe_append {lead x : String} (hlen : x.toList.length = 24) (hx : ∀ c ∈ x.toList, Sha256.isHexDigit c = true) :
    hexIdRe lead (lead ++ x) = true := by
  have hdrop : (lead ++ x).toList.drop lead.toList.length = x.toList := by
    rw [String.toList_append, List.drop_left]
  have hstart : startsWith (lead ++ x) lead = true := by
    rw [startsWith_iff, String.toList_append]
    exact List.prefix_append _ _
  simp only [hexIdRe, hdrop, hstart, Bool.true_and, Bool.and_eq_true, decide_eq_true_eq, List.all_eq_true]
  exact ⟨hlen, hx⟩

theorem stepRe_stepIdOf (request : String) (n : Nat) (capability operation : String) :
    stepRe (OperationPlan.stepIdOf request n capability operation) = true := by
  refine hexIdRe_append ?_ ?_
  · rw [String.toList_ofList, List.length_take, Sha256.hexdigest_length]
    rfl
  · intro c hc
    rw [String.toList_ofList] at hc
    exact Sha256.hexdigest_isHexDigit _ c (List.mem_of_mem_take hc)

theorem sessionRe_sessionIdOf (request plan binding : String) : sessionRe (sessionIdOf request plan binding) = true := by
  have hdigits := digestPrefix_hashText (String.ofList (text (Json.dict
    [("request_sha256", .str request), ("plan_fingerprint", .str plan), ("binding_fingerprint", .str binding)] :
      Json Unit))) (n := 24) (by decide)
  exact hexIdRe_append hdigits.1 hdigits.2

/-- A time that is in its normal form already. -/
def inUtc (text : String) : Except Raised String := .ok text

/-- An event that the journal takes. -/
structure Accepted (e : Journal.Entry) : Prop where
  session : sessionRe e.sessionId = true
  request : ∃ t, e.requestSha256 = hashText t
  plan : ∃ t, e.planFingerprint = hashText t
  binding : ∃ t, e.bindingFingerprint = hashText t
  workflow : ∃ t, e.workflowFingerprint = hashText t
  reasons : reasons e.reasonCodes = .ok e.reasonCodes
  step : ∀ s ∈ e.stepId, stepRe s = true
  input : ∀ i ∈ e.inputFingerprint, ∃ t, i = hashText t
  invocation : e.invocationId = none
  fields : ∀ r : AuditRecord, r.eventType = e.eventType → r.stepId = e.stepId →
    r.inputFingerprint = e.inputFingerprint → r.invocationId = none → r.checkFields = .ok ⟨⟩

variable {cls : ErrorClass} {field : String}

theorem checkSha_of_hash {value : String} (h : ∃ t, value = hashText t) :
    checkSha cls value field = .ok ⟨⟩ := by
  obtain ⟨t, rfl⟩ := h
  exact checkSha_hashText cls t field

theorem checkOptionalSha_of_hash {value : Option String}
    (h : ∀ v ∈ value, ∃ t, v = hashText t) : checkOptionalSha cls value field = .ok ⟨⟩ := by
  cases value with
  | none => rfl
  | some v => exact checkSha_of_hash (h v rfl)

def recordOf (now : String) (e : Journal.Entry) (j : Journal) : AuditRecord :=
  let base : AuditRecord :=
    { recordIndex := j.length + 1, eventType := e.eventType, sessionId := e.sessionId, occurredAt := now,
      requestSha256 := e.requestSha256, planFingerprint := e.planFingerprint,
      bindingFingerprint := e.bindingFingerprint, workflowFingerprint := e.workflowFingerprint,
      previousRecordSha256 := j.getLast?.map (·.recordSha256), reasonCodes := e.reasonCodes,
      stepId := e.stepId, inputFingerprint := e.inputFingerprint, invocationId := e.invocationId }
  { base with recordSha256 := sha256Fingerprint base.identityPayload }

/-- The journal reads back as it is. -/
def Readable (j : Journal) : Prop := Journal.records inUtc j = .ok j

theorem readFrom_self {line : Nat} {previous : Option String} :
    Journal.readFrom inUtc line previous (r :: j) = .ok (r :: j) ↔ r.validate inUtc = .ok r ∧ r.recordIndex = line ∧
      r.previousRecordSha256 = previous ∧ Journal.readFrom inUtc (line + 1) (some r.recordSha256) j = .ok j := by
  simp only [Journal.readFrom, bind_ok, require_ok, pure_ok, List.cons.injEq]
  constructor
  · rintro ⟨r', hr, _, hline, _, hprev, rest, hrest, rfl, rfl⟩
    exact ⟨hr, hline, hprev, hrest⟩
  · rintro ⟨hr, hline, hprev, hrest⟩
    exact ⟨r, hr, ⟨⟩, hline, ⟨⟩, hprev, j, hrest, rfl, rfl⟩

theorem readFrom_snoc (hr : r.validate inUtc = .ok r) :
    ∀ {j : Journal} {line : Nat} {previous : Option String}, Journal.readFrom inUtc line previous j = .ok j →
      r.recordIndex = line + j.length →
      r.previousRecordSha256 = (match j.getLast? with | none => previous | some l => some l.recordSha256) →
      Journal.readFrom inUtc line previous (j ++ [r]) = .ok (j ++ [r])
  | [], line, previous, hj, hline, hprev => readFrom_self.mpr ⟨hr, hline, hprev, rfl⟩
  | r₀ :: j, line, previous, hj, hline, hprev => by
    obtain ⟨h0, hline0, hprev0, hrest⟩ := readFrom_self.mp hj
    refine readFrom_self.mpr ⟨h0, hline0, hprev0, readFrom_snoc hr hrest ?_ ?_⟩
    · rw [hline, List.length_cons]
      omega
    · cases j with
      | nil => exact hprev
      | cons r₁ j => exact hprev

theorem validate_sha (h : r.validate inUtc = .ok r') : ∃ t, r'.recordSha256 = hashText t := by
  simp only [AuditRecord.validate, bind_ok, require_ok, pure_ok] at h
  obtain ⟨_, -, _, -, _, -, _, -, _, -, _, -, _, -, _, -, _, -, _, -, _, -, _, -, _, -, _, -, _, hsha, rfl⟩ := h
  exact ⟨_, hsha⟩

theorem readFrom_sha : ∀ {j : Journal} {line : Nat} {previous : Option String},
    Journal.readFrom inUtc line previous j = .ok j → ∀ r ∈ j, ∃ t, r.recordSha256 = hashText t
  | [], _, _, _, r, hr => by cases hr
  | r₀ :: j, _, _, hj, r, hr => by
    obtain ⟨h0, -, -, hrest⟩ := readFrom_self.mp hj
    rcases List.mem_cons.mp hr with rfl | hr
    · exact validate_sha h0
    · exact readFrom_sha hrest r hr

theorem append_accepted {e : Journal.Entry} (he : Accepted e) (hj : Readable j) (now : String) :
    Journal.append inUtc now e j = .ok (j ++ [recordOf now e j], recordOf now e j) ∧
      Readable (j ++ [recordOf now e j]) := by
  have hprev : ∀ v ∈ j.getLast?.map (·.recordSha256), ∃ t, v = hashText t := by
    intro v hv
    obtain ⟨r, hr, rfl⟩ := Option.map_eq_some_iff.mp hv
    exact readFrom_sha hj r (List.mem_of_mem_getLast? hr)
  have hvalid : (recordOf now e j).validate inUtc = .ok (recordOf now e j) := by
    simp only [AuditRecord.validate, bind_ok, require_ok, pure_ok]
    exact ⟨⟨⟩, Nat.le_add_left 1 _, ⟨⟩, he.session, now, rfl, ⟨⟩, checkSha_of_hash he.request, ⟨⟩,
      checkSha_of_hash he.plan, ⟨⟩, checkSha_of_hash he.binding, ⟨⟩, checkSha_of_hash he.workflow, ⟨⟩,
      checkOptionalSha_of_hash hprev, e.reasonCodes, he.reasons, ⟨⟩, he.step, ⟨⟩, checkOptionalSha_of_hash he.input, ⟨⟩,
      by simp [recordOf, he.invocation], ⟨⟩, rfl, ⟨⟩, he.fields _ rfl rfl rfl he.invocation, ⟨⟩, rfl, rfl⟩
  constructor
  · simp only [Journal.append, AuditRecord.build, bind_ok, pure_ok]
    exact ⟨j, hj, recordOf now e j, ⟨now, rfl, e.reasonCodes, he.reasons, hvalid⟩, rfl⟩
  · refine readFrom_snoc hvalid hj ?_ ?_
    · show j.length + 1 = 1 + j.length
      omega
    · show j.getLast?.map (·.recordSha256) = _
      cases j.getLast? <;> rfl

/-! ## Two processes at once -/

def dnsRequest : String := hashText "analyze dns evidence"

def dnsWorkflow : Workflow := ⟨hashText "registry", hashText "bindings", hashText "runtime"⟩

def dnsRouting : RoutingDecision where
  requestSha256 := dnsRequest
  status := .routed
  selections := [("network.dns.analyze", "analyze_dns_evidence")]
  reasonCodes := ["ROUTE_DNS_ANALYSIS"]

def dnsStepId : String := OperationPlan.stepIdOf dnsRequest 1 "network.dns.analyze" "analyze_dns_evidence"

def dnsStep : OperationStep where
  stepId := dnsStepId
  sequence := 1
  taxonomyId := "network.dns"
  capabilityId := "network.dns.analyze"
  operationId := "analyze_dns_evidence"
  authorityLevel := "L1"
  authorityDomain := "internal"
  backendCapability := none
  effect := "compute"
  evidenceRequired := true
  preflightState := "ready_internal"

theorem dnsStep_valid : dnsStep.validate = .ok ⟨⟩ := by
  simp only [OperationStep.validate, OperationStep.checkDomain, bind_ok, require_ok]
  exact ⟨⟨⟩, stepRe_stepIdOf _ _ _ _, ⟨⟩, by decide, ⟨⟩, by decide, ⟨⟩, by decide, ⟨⟩, by decide, by
    rw [if_pos (show dnsStep.authorityDomain = "internal" from rfl)]
    simp only [bind_ok, require_ok]
    exact ⟨⟨⟩, rfl, rfl, rfl⟩⟩

theorem dnsStep_json : ∃ json, dnsStep.publicDict = .ok json := by
  simp only [OperationStep.publicDict, bind_ok, pure_ok]
  exact ⟨_, ⟨⟩, dnsStep_valid, rfl⟩

theorem dnsPlan_exists : ∃ plan : OperationPlan, plan.validate = .ok ⟨⟩ ∧ plan.requestSha256 = dnsRequest ∧
    plan.status = .planned ∧ plan.steps = [dnsStep] ∧ (∃ t, plan.planFingerprint = hashText t) ∧
    plan.reasonCodes = ["ROUTE_DNS_ANALYSIS", "DETERMINISTIC_OPERATION_PLAN_COMPILED"] := by
  obtain ⟨json, hjson⟩ := dnsStep_json
  let base : OperationPlan :=
    { requestSha256 := dnsRequest, routeStatus := .routed, status := .planned, steps := [dnsStep],
      registryFingerprint := dnsWorkflow.registryFingerprint, planFingerprint := "",
      reasonCodes := ["ROUTE_DNS_ANALYSIS", "DETERMINISTIC_OPERATION_PLAN_COMPILED"] }
  refine ⟨{ base with planFingerprint := sha256Fingerprint (base.payload [json]) }, ?_, rfl, rfl, rfl, ⟨_, rfl⟩, rfl⟩
  have hsteps : base.steps.mapM OperationStep.publicDict = .ok [json] := mapM_ok.mpr (.cons hjson .nil)
  simp only [OperationPlan.validate, OperationPlan.fingerprintOf, bind_ok, require_ok, pure_ok]
  refine ⟨⟨⟩, sha256Re_hashText _, ⟨⟩, sha256Re_hashText _, ⟨⟩, sha256Re_hashText _, ⟨⟩, ⟨rfl, rfl⟩, ⟨⟩, by decide, ⟨⟩,
    by simp [base], ⟨⟩, by simp [base], ⟨⟩, by simp [base], ⟨⟩, by simp [base], ⟨⟩, by simp [base], ⟨⟩, by simp [base],
    ⟨⟩, ?_, _, ⟨[json], hsteps, rfl⟩, rfl⟩
  simp only [base, OperationPlan.checkSteps, OperationPlan.checkStep, bind_ok, require_ok, pure_ok]
  exact ⟨⟨⟩, ⟨⟨⟩, dnsStep_valid, ⟨⟩, rfl, rfl⟩, trivial⟩

def dnsBound : StepBinding where
  stepId := dnsStepId
  capabilityId := "network.dns.analyze"
  operationId := "analyze_dns_evidence"
  status := .bound
  reasonCode := "BOUND_TO_REVIEWED_RUNTIME_HANDLER"
  handlerId := some "analysis.dns_behavior.extract_features"
  handlerKind := some "pure_function"

def dnsBinding (plan : OperationPlan) : PlanBinding where
  planFingerprint := plan.planFingerprint
  status := .allBound
  steps := [dnsBound]
  bindingFingerprint := dnsWorkflow.bindingFingerprint

def dnsState : StepState where
  sequence := 1
  stepId := dnsStepId
  capabilityId := "network.dns.analyze"
  operationId := "analyze_dns_evidence"
  bindingStatus := .bound
  state := .awaitingTypedInput
  bindingReasonCode := "BOUND_TO_REVIEWED_RUNTIME_HANDLER"
  handlerId := some "analysis.dns_behavior.extract_features"

theorem dnsState_valid : dnsState.validate = .ok ⟨⟩ := by
  simp only [StepState.validate, bind_ok, require_ok]
  refine ⟨⟨⟩, by decide, ⟨⟩, stepRe_stepIdOf _ _ _ _, ⟨⟩, by decide, ⟨⟩, ?_, ?_⟩
  · simp [StepState.checkBinding, dnsState]
  · simp [StepState.checkLineage, dnsState]

theorem dnsStates (hvalid : plan.validate = .ok ⟨⟩) (hstatus : plan.status = .planned)
    (hsteps : plan.steps = [dnsStep]) (hfp : ∃ t, plan.planFingerprint = hashText t) :
    (dnsBinding plan).validate = .ok ⟨⟩ ∧ stepStates plan (dnsBinding plan) = .ok [dnsState] := by
  have hbinding : (dnsBinding plan).validate = .ok ⟨⟩ := by
    obtain ⟨t, ht⟩ := hfp
    simp only [PlanBinding.validate, bind_ok, require_ok]
    have hsha : sha256Re (dnsBinding plan).planFingerprint = true := by
      rw [dnsBinding, ht]
      exact sha256Re_hashText t
    exact ⟨⟨⟩, ⟨rfl, rfl⟩, ⟨⟩, hsha, ⟨⟩, sha256Re_hashText _, ⟨⟩, by simp [dnsBinding], ⟨⟩,
      by simp [dnsBinding, dnsBound], by simp [dnsBinding]⟩
  refine ⟨hbinding, ?_⟩
  simp only [stepStates, bind_ok, require_ok]
  refine ⟨⟨⟩, hvalid, ⟨⟩, hbinding, ⟨⟩, rfl, ?_⟩
  rw [if_neg (by simp [hstatus])]
  simp only [bind_ok, require_ok]
  refine ⟨⟨⟩, by simp [hsteps, dnsBinding], ?_⟩
  rw [hsteps]
  refine mapM_ok.mpr (.cons ?_ .nil)
  simp only [stepStateOf, bind_ok, require_ok, pure_ok]
  exact ⟨⟨⟩, ⟨rfl, rfl, rfl⟩, ⟨⟩, dnsState_valid, rfl⟩

/-- The session that `prepare` makes of the plan. -/
structure DnsSession (plan : OperationPlan) (session : Session) : Prop where
  valid : session.validate = .ok ⟨⟩
  request : session.requestSha256 = dnsRequest
  planFingerprint : session.planFingerprint = plan.planFingerprint
  registry : session.registryFingerprint = dnsWorkflow.registryFingerprint
  binding : session.bindingFingerprint = dnsWorkflow.bindingFingerprint
  runtime : session.runtimeFingerprint = dnsWorkflow.runtimeFingerprint
  workflow : ∃ t, session.workflowFingerprint = hashText t
  id : sessionRe session.sessionId = true
  status : session.status = .ready
  steps : session.steps = [dnsState]

theorem dnsSession_exists (hrequest : plan.requestSha256 = dnsRequest)
    (hstatus : plan.status = .planned) (hfp : ∃ t, plan.planFingerprint = hashText t)
    (hreasons : plan.reasonCodes = ["ROUTE_DNS_ANALYSIS", "DETERMINISTIC_OPERATION_PLAN_COMPILED"]) :
    ∃ session, Session.build
      { sessionId := "", requestSha256 := plan.requestSha256, routeStatus := dnsRouting.status,
        planStatus := plan.status, status := .ready, steps := [dnsState], planFingerprint := plan.planFingerprint,
        registryFingerprint := dnsWorkflow.registryFingerprint, bindingFingerprint := dnsWorkflow.bindingFingerprint,
        runtimeFingerprint := dnsWorkflow.runtimeFingerprint, workflowFingerprint := "",
        reasonCodes := distinct (plan.reasonCodes ++ ["WORKFLOW_PREPARED_NO_AUTO_EXECUTE"]) } = .ok session ∧
      DnsSession plan session := by
  have hjson : ∃ json, dnsState.publicDict = .ok json := by
    simp only [StepState.publicDict, bind_ok, pure_ok]
    exact ⟨_, ⟨⟩, dnsState_valid, rfl⟩
  obtain ⟨json, hjson⟩ := hjson
  have hsteps : [dnsState].mapM StepState.publicDict = .ok [json] := mapM_ok.mpr (.cons hjson .nil)
  have hdistinct : distinct (plan.reasonCodes ++ ["WORKFLOW_PREPARED_NO_AUTO_EXECUTE"]) =
      ["ROUTE_DNS_ANALYSIS", "DETERMINISTIC_OPERATION_PLAN_COMPILED", "WORKFLOW_PREPARED_NO_AUTO_EXECUTE"] := by
    rw [hreasons]
    decide
  have hready : sessionStatus .routed .planned [dnsState] = .ok .ready := rfl
  rw [hdistinct, hrequest, hstatus]
  let base : Session :=
    { sessionId := sessionIdOf dnsRequest plan.planFingerprint dnsWorkflow.bindingFingerprint,
      requestSha256 := dnsRequest, routeStatus := dnsRouting.status,
      planStatus := .planned, status := .ready, steps := [dnsState], planFingerprint := plan.planFingerprint,
      registryFingerprint := dnsWorkflow.registryFingerprint, bindingFingerprint := dnsWorkflow.bindingFingerprint,
      runtimeFingerprint := dnsWorkflow.runtimeFingerprint, workflowFingerprint := "",
      reasonCodes :=
        ["ROUTE_DNS_ANALYSIS", "DETERMINISTIC_OPERATION_PLAN_COMPILED", "WORKFLOW_PREPARED_NO_AUTO_EXECUTE"] }
  have hvalid : Session.validate { base with workflowFingerprint := sha256Fingerprint (base.payload [json]) } =
      .ok ⟨⟩ := by
    simp only [Session.validate, Session.fingerprintOf, bind_ok, require_ok, pure_ok]
    refine ⟨⟨⟩, sessionRe_sessionIdOf _ _ _, ⟨⟩, checkSha_hashText _ _ _, ⟨⟩, checkSha_of_hash hfp, ⟨⟩,
      checkSha_hashText _ _ _, ⟨⟩, checkSha_hashText _ _ _, ⟨⟩, checkSha_hashText _ _ _, ⟨⟩, checkSha_hashText _ _ _,
      ⟨⟩, ⟨rfl, rfl⟩, ⟨⟩, by simp [base], ⟨⟩, by simp [base], ⟨⟩, ?_, ⟨⟩, ?_, ⟨⟩, by simp [base], ⟨⟩, by simp [base],
      .ready, hready, ⟨⟩, rfl, ⟨⟩, rfl, _, ⟨[json], hsteps, rfl⟩, rfl⟩
    · intro r hr
      simp only [base, List.mem_cons, List.not_mem_nil, or_false] at hr
      rcases hr with rfl | rfl | rfl <;> decide
    · simp only [base, Session.checkSteps, bind_ok, require_ok, pure_ok]
      exact ⟨⟨⟩, dnsState_valid, ⟨⟩, rfl, trivial⟩
  refine ⟨{ base with workflowFingerprint := sha256Fingerprint (base.payload [json]) }, ?_,
    hvalid, rfl, rfl, rfl, rfl, rfl, ⟨_, rfl⟩, sessionRe_sessionIdOf _ _ _, rfl, rfl⟩
  simp only [Session.build, Session.fingerprintOf, bind_ok, pure_ok]
  exact ⟨.ready, hready, _, ⟨[json], hsteps, rfl⟩, ⟨⟩, hvalid, rfl⟩

theorem reasons_singleton {s : String} (hstrip : strip s = s) (hre : reasonRe s = true) : reasons [s] = .ok [s] := by
  simp only [reasons, bind_ok, require_ok, pure_ok, List.map_cons, List.map_nil, hstrip]
  exact ⟨⟨⟩, by simp [maxAuditReasonCodes], ⟨⟩, by simp, ⟨⟩, by simpa using hre, trivial⟩

theorem strip_stepIdOf (request : String) (n : Nat) (capability operation : String) :
    strip (OperationPlan.stepIdOf request n capability operation) =
      OperationPlan.stepIdOf request n capability operation := by
  have hchars : ∀ c ∈ (OperationPlan.stepIdOf request n capability operation).toList, isSpace c = false := by
    intro c hc
    rw [OperationPlan.stepIdOf, String.toList_append, List.mem_append] at hc
    rcases hc with hc | hc
    · exact (forall_mem_of_all (by decide) : ∀ c ∈ "step:".toList, isSpace c = false) c hc
    · rw [String.toList_ofList] at hc
      exact not_isSpace_of_hexDigit (Sha256.hexdigest_isHexDigit _ c (List.mem_of_mem_take hc))
  rw [strip, stripList_of_forall hchars, String.ofList_toList]

def newYear : String := "2026-01-01T00:00:00Z"

def typedRequest : String := hashText "typed request"

theorem dns_ready : ∃ (prepared : Prepared) (r : AuditRecord) (call : StepCall),
    prepare inUtc dnsWorkflow newYear prepared.routing prepared.plan prepared.binding [] = .ok ([r], prepared, r) ∧
    Readable [r] ∧ r.stepId = none ∧
    beginStep inUtc dnsWorkflow prepared dnsStepId (.ok typedRequest) [r] = .ok call ∧
    Accepted (stepEntry call.session call .stepRequested ["WORKFLOW_TYPED_STEP_REQUESTED"]) := by
  obtain ⟨plan, hplan, hrequest, hstatus, hsteps, hfp, hreasons⟩ := dnsPlan_exists
  obtain ⟨hbinding, hstates⟩ := dnsStates hplan hstatus hsteps hfp
  obtain ⟨session, hbuild, hs⟩ := dnsSession_exists hrequest hstatus hfp hreasons
  have hsha : ∃ t, session.planFingerprint = hashText t := hs.planFingerprint ▸ hfp
  let e : Journal.Entry :=
    { eventType := .sessionPrepared, sessionId := session.sessionId, requestSha256 := session.requestSha256,
      planFingerprint := session.planFingerprint, bindingFingerprint := session.bindingFingerprint,
      workflowFingerprint := session.workflowFingerprint, reasonCodes := ["WORKFLOW_SESSION_PREPARED"] }
  have he : Accepted e :=
    { session := hs.id, request := ⟨_, hs.request⟩, plan := hsha, binding := ⟨_, hs.binding⟩, workflow := hs.workflow,
      reasons := reasons_singleton (by decide) (by decide), step := by simp [e], input := by simp [e],
      invocation := rfl
      fields := by
        intro r ht hstep hinput hinv
        simp [AuditRecord.checkFields, ht, hstep, hinput, hinv, e] }
  obtain ⟨happ, hread⟩ := append_accepted he (j := []) rfl newYear
  refine ⟨⟨session, dnsRouting, plan, dnsBinding plan⟩, recordOf newYear e [],
    ⟨session, dnsState, typedRequest⟩, ?_, hread, rfl, ?_, ?_⟩
  · simp only [prepare, bind_ok, pure_ok]
    exact ⟨[dnsState], hstates, session, hbuild, _, happ, rfl⟩
  · have hrouting : dnsRouting.validate = .ok ⟨⟩ := by
      simp only [RoutingDecision.validate, bind_ok, require_ok]
      exact ⟨⟨⟩, sha256Re_hashText _, ⟨⟩, rfl, ⟨⟩, by decide, ⟨⟩, by simp [dnsRouting], ⟨⟩, by simp [dnsRouting],
        by simp [dnsRouting]⟩
    have hprepared : validatePrepared inUtc dnsWorkflow ⟨session, dnsRouting, plan, dnsBinding plan⟩
        [recordOf newYear e []] = .ok ⟨⟩ := by
      simp only [validatePrepared, requireSessionAudited, bind_ok, require_ok]
      refine ⟨⟨⟩, hrouting, ⟨⟩, hplan, ⟨⟩, hbinding, ⟨⟩, hs.valid, ⟨⟩, hs.request.symm, ⟨⟩,
        hrequest.trans hs.request.symm, ⟨⟩, hs.planFingerprint.symm, ⟨⟩, hs.binding.symm, ⟨⟩, hs.registry, ⟨⟩,
        hs.binding, [dnsState], hstates, ⟨⟩, ?_, _, hread, _, List.mem_singleton.mpr rfl, rfl, rfl, rfl, rfl, rfl⟩
      rw [hs.steps]
      simp [checkStepStates, checkStepState, dnsState]
    simp only [beginStep, bind_ok, require_ok, pure_ok]
    refine ⟨⟨⟩, hprepared, ⟨⟩, hs.valid, ⟨⟩, by simp [hs.status], ⟨⟩, hs.runtime, dnsState, ?_, ⟨⟩, dnsState_valid, ⟨⟩,
      by decide, ⟨⟩, by decide, typedRequest, rfl, rfl⟩
    rw [stepOf, hs.steps, dnsStepId, strip_stepIdOf]
    simp [dnsState, dnsStepId]
  · exact
      { session := hs.id, request := ⟨_, hs.request⟩, plan := hsha, binding := ⟨_, hs.binding⟩,
        workflow := hs.workflow, reasons := reasons_singleton (by decide) (by decide)
        step := by
          intro s hmem
          cases hmem
          exact stepRe_stepIdOf _ _ _ _
        input := by
          intro i hmem
          cases hmem
          exact ⟨_, rfl⟩
        invocation := rfl
        fields := by
          intro r ht hstep hinput hinv
          simp [AuditRecord.checkFields, ht, hstep, hinput, hinv, stepEntry] }

theorem replaySafe_of_trail (hj : Readable j) (h : relevant k.1 k.2 j = []) :
    requireAuditReplaySafe inUtc k.1 k.2 j = .ok ⟨⟩ := by
  simp only [requireAuditReplaySafe, bind_ok, require_ok]
  refine ⟨j, hj, ⟨⟩, ?_, ?_⟩
  · rw [h]
    simp
  · rw [h]
    simp

def two (a b : Proc) : Bool → Proc
  | false => a
  | true => b

theorem update_two (a b c : Proc) :
    Function.update (two a b) false c = two c b ∧ Function.update (two a b) true c = two a c := by
  constructor
  · funext p
    cases p <;> simp [two, Function.update]
  · funext p
    cases p <;> simp [two, Function.update]

theorem start_two : World.start Bool = ⟨[], two .idle .idle, []⟩ := by
  rw [World.start]
  congr 1
  funext p
  cases p <;> rfl

/-- A run of the two that has come to a journal, to the states of both, and to what has happened. -/
abbrev Raced (ok : World Bool → Move Bool → Prop) (j : Journal) (a b : Proc) (log : List LogEntry) : Prop :=
  Reached inUtc (fun _ => dnsWorkflow) ok ⟨j, two a b, log⟩

theorem both_cleared (ok : World Bool → Move Bool → Prop) (hok : ∀ w m, (∀ p now, m ≠ .request p now) → ok w m) :
    ∃ (r : AuditRecord) (call : StepCall), Readable [r] ∧ r.stepId = none ∧
      Accepted (stepEntry call.session call .stepRequested ["WORKFLOW_TYPED_STEP_REQUESTED"]) ∧
      Raced ok [r] (.cleared call) (.cleared call) [.appended r] := by
  obtain ⟨prepared, r, call, hprepare, hread, hnone, hbegin, haccepted⟩ := dns_ready
  have hsafe : requireAuditReplaySafe inUtc call.session.sessionId call.state.stepId [r] = .ok ⟨⟩ := by
    refine replaySafe_of_trail (k := call.key) hread ?_
    simp [relevant, hnone]
  have h0 : Raced ok [] .idle .idle [] := by
    rw [Raced, ← start_two]
    exact .start
  have h1 : Raced ok [r] .idle .idle [.appended r] :=
    .step (.prepare false newYear prepared.routing prepared.plan prepared.binding) h0 (hok _ _ (by simp))
      (by simp [World.step, two, hprepare, Except.map, World.appended, (update_two _ _ _).1])
  have h2 : Raced ok [r] (.admitted call) .idle [.appended r] :=
    .step (.begin false prepared dnsStepId (.ok typedRequest)) h1 (hok _ _ (by simp))
      (by simp [World.step, two, hbegin, World.moved, (update_two _ _ _).1])
  have h3 : Raced ok [r] (.admitted call) (.admitted call) [.appended r] :=
    .step (.begin true prepared dnsStepId (.ok typedRequest)) h2 (hok _ _ (by simp))
      (by simp [World.step, two, hbegin, World.moved, (update_two _ _ _).2])
  have h4 : Raced ok [r] (.cleared call) (.admitted call) [.appended r] :=
    .step (.check false) h3 (hok _ _ (by simp)) (by simp [World.step, two, hsafe, World.moved, (update_two _ _ _).1])
  have h5 : Raced ok [r] (.cleared call) (.cleared call) [.appended r] :=
    .step (.check true) h4 (hok _ _ (by simp)) (by simp [World.step, two, hsafe, World.moved, (update_two _ _ _).2])
  exact ⟨r, call, hread, hnone, haccepted, h5⟩

/-- Of two processes that both pass the replay check, both call the invoker. -/
theorem two_calls_outstanding : ∃ (w : World Bool) (k : Key),
    Reached inUtc (fun _ => dnsWorkflow) (fun _ _ => True) w ∧ ¬ Safe k w.log := by
  obtain ⟨r, call, hread, -, haccepted, h5⟩ := both_cleared (fun _ _ => True) (fun _ _ _ => trivial)
  obtain ⟨r1, happ, hread1⟩ : ∃ r1, appendRequested inUtc newYear call [r] = .ok ([r, r1], r1) ∧ Readable [r, r1] :=
    ⟨_, append_accepted haccepted hread newYear⟩
  obtain ⟨r2, happ1, -⟩ : ∃ r2, appendRequested inUtc newYear call [r, r1] = .ok ([r, r1, r2], r2) ∧
      Readable [r, r1, r2] := ⟨_, append_accepted haccepted hread1 newYear⟩
  have h6 : Raced (fun _ _ => True) [r, r1] (.requested call) (.cleared call) [.appended r, .appended r1] :=
    .step (.request false newYear) h5 trivial (by simp [World.step, two, happ, World.appended, (update_two _ _ _).1])
  have h7 : Raced (fun _ _ => True) [r, r1, r2] (.requested call) (.requested call)
      [.appended r, .appended r1, .appended r2] :=
    .step (.request true newYear) h6 trivial (by simp [World.step, two, happ1, World.appended, (update_two _ _ _).2])
  have h8 : Raced (fun _ _ => True) [r, r1, r2] (.invoking call) (.requested call)
      [.appended r, .appended r1, .appended r2, .invoked call.key] :=
    .step (.invoke false) h7 trivial (by simp [World.step, two, World.moved, (update_two _ _ _).1])
  have h9 : Raced (fun _ _ => True) [r, r1, r2] (.invoking call) (.invoking call)
      [.appended r, .appended r1, .appended r2, .invoked call.key, .invoked call.key] :=
    .step (.invoke true) h8 trivial (by simp [World.step, two, World.moved, (update_two _ _ _).2])
  refine ⟨_, call.key, h9, ?_⟩
  intro hsafe
  have := hsafe.one_outstanding _ [] (List.append_nil _).symm
  simp at this

/-- One process that finds the step free calls the invoker, and its history is safe. -/
theorem one_call_safe : ∃ (w : World Bool) (k : Key), .invoked k ∈ w.log ∧ Safe k w.log := by
  obtain ⟨r, call, hread, hnone, haccepted, h5⟩ := both_cleared (Guarded inUtc) (by
    intro w m hm
    cases m with
    | request p now => exact absurd rfl (hm p now)
    | _ => trivial)
  obtain ⟨r1, happ, -⟩ : ∃ r1, appendRequested inUtc newYear call [r] = .ok ([r, r1], r1) ∧ Readable [r, r1] :=
    ⟨_, append_accepted haccepted hread newYear⟩
  have hguard : Guarded inUtc ⟨[r], two (.cleared call) (.cleared call), [.appended r]⟩ (.request false newYear) := by
    intro c hc
    cases hc
    refine replaySafe_of_trail (k := call.key) hread ?_
    simp [relevant, hnone]
  have h6 : Raced (Guarded inUtc) [r, r1] (.requested call) (.cleared call) [.appended r, .appended r1] :=
    .step (.request false newYear) h5 hguard (by simp [World.step, two, happ, World.appended, (update_two _ _ _).1])
  have h7 : Raced (Guarded inUtc) [r, r1] (.invoking call) (.cleared call)
      [.appended r, .appended r1, .invoked call.key] :=
    .step (.invoke false) h6 trivial (by simp [World.step, two, World.moved, (update_two _ _ _).1])
  exact ⟨_, call.key, by simp, guarded_runs_safe h7 call.key⟩

end ThreeAgent.SecurityWorkflow
