/-
The execution budgets over every interleaving of reservations, direct ones
and those of child tasks.

Both implementations are read once (`reserve_ok`, `linkedReserve_ok`): a
reservation that is granted adds the same four deltas to every row it
charges, within that row's maxima and before its deadline, and touches no
other row. What holds over a run is then one induction.
-/
import Mathlib.Algebra.BigOperators.Group.List.Basic
import Mathlib.Algebra.Ring.Int.Defs
import ThreeAgent.ExecutionBudget

namespace ThreeAgent

open Outcome

/-! ## Counters -/

inductive Counter where
  | steps
  | toolCalls
  | retries
  | escalations
  deriving DecidableEq, Repr

def Counters.get (u : Counters) : Counter → Int
  | .steps => u.steps
  | .toolCalls => u.toolCalls
  | .retries => u.retries
  | .escalations => u.escalations

theorem BudgetRow.used_withUsed (row : BudgetRow) (u : Counters) (text : String) : (row.withUsed u text).used = u := rfl

theorem BudgetRow.maxima_withUsed (row : BudgetRow) (u : Counters) (text : String) :
    (row.withUsed u text).maxima = row.maxima := rfl

theorem TaskStore.budgetOf?_updateBudget (s : TaskStore) (taskId t : String) {f : BudgetRow → BudgetRow}
    (hf : ∀ row, (f row).taskId = row.taskId) :
    (s.updateBudget taskId f).budgetOf? t = if t = taskId then (s.budgetOf? t).map f else s.budgetOf? t := by
  simp only [budgetOf?, updateBudget]
  induction s.budgets with
  | nil => simp
  | cons row rows ih =>
    rw [List.map_cons, List.find?_cons, List.find?_cons]
    by_cases hrow : row.taskId = taskId
    · rw [if_pos hrow, hf]
      by_cases ht : row.taskId = t
      · have hsame : t = taskId := ht.symm.trans hrow
        simp [ht, hsame]
      · simp [ht, ih]
    · rw [if_neg hrow]
      by_cases ht : row.taskId = t
      · have hother : t ≠ taskId := ht ▸ hrow
        simp [ht, hother]
      · simp [ht, ih]

theorem TaskStore.budgetOf?_withUsed (s : TaskStore) (taskId t : String) (u : Counters) (text : String) :
    (s.updateBudget taskId fun row => row.withUsed u text).budgetOf? t =
      if t = taskId then (s.budgetOf? t).map fun row => row.withUsed u text else s.budgetOf? t :=
  s.budgetOf?_updateBudget taskId t fun _ => rfl

variable {d : Counters} {now : Stamp} {row row₀ : BudgetRow} {s s' : TaskStore}

namespace ExecutionBudget

section

variable {deadlineOf : String → Option Int}

/-! ## One reservation -/

/-- What a granted reservation does to a row it charges. -/
structure Granted (deadlineOf : String → Option Int) (now : Stamp) (d : Counters) (row row' : BudgetRow) : Prop where
  used : ∀ c, row'.used.get c = row.used.get c + d.get c
  within : ∀ c, row'.used.get c ≤ row'.maxima.get c
  maxima : row'.maxima = row.maxima
  deadlineAt : row'.deadlineAt = row.deadlineAt
  before : ∃ deadline, deadlineOf row.deadlineAt = some deadline ∧ now.instant < deadline

theorem deltas_ok {d' : Counters} : deltas d = .ok d' ↔ d = d' ∧ ∀ c, 0 ≤ d.get c := by
  simp only [deltas, budgetValue, bind_ok, require_ok, pure_ok]
  constructor
  · rintro ⟨_, ⟨_, h1, rfl⟩, _, ⟨_, h2, rfl⟩, _, ⟨_, h3, rfl⟩, _, ⟨_, h4, rfl⟩, rfl⟩
    refine ⟨rfl, ?_⟩
    intro c
    cases c with
    | steps => exact h1
    | toolCalls => exact h2
    | retries => exact h3
    | escalations => exact h4
  · rintro ⟨rfl, h⟩
    exact ⟨_, ⟨⟨⟩, h .steps, rfl⟩, _, ⟨⟨⟩, h .toolCalls, rfl⟩, _, ⟨⟨⟩, h .retries, rfl⟩, _, ⟨⟨⟩, h .escalations, rfl⟩, rfl⟩

theorem zero_of_not_anyDelta (h : ¬ anyDelta d) (c : Counter) : d.get c = 0 := by
  simp only [anyDelta, not_or, not_not] at h
  cases c with
  | steps => exact h.1
  | toolCalls => exact h.2.1
  | retries => exact h.2.2.1
  | escalations => exact h.2.2.2

/-- The row a reservation leaves: charged, or as it was when there is nothing to charge. -/
def chargedRow (d : Counters) (now : Stamp) (row : BudgetRow) : BudgetRow :=
  if anyDelta d then
    row.withUsed ⟨row.stepsUsed + d.steps, row.toolCallsUsed + d.toolCalls, row.retriesUsed + d.retries,
      row.escalationsUsed + d.escalations⟩ now.text
  else row

theorem chargedRow_granted {deadline : Int}
    (hdeadline : deadlineOf row.deadlineAt = some deadline) (hnow : now.instant < deadline)
    (h1 : row.stepsUsed + d.steps ≤ row.maxSteps) (h2 : row.toolCallsUsed + d.toolCalls ≤ row.maxToolCalls)
    (h3 : row.retriesUsed + d.retries ≤ row.maxRetries)
    (h4 : row.escalationsUsed + d.escalations ≤ row.maxEscalations) :
    Granted deadlineOf now d row (chargedRow d now row) := by
  have hsum : ∀ c, row.used.get c + d.get c ≤ row.maxima.get c := by
    intro c
    cases c with
    | steps => exact h1
    | toolCalls => exact h2
    | retries => exact h3
    | escalations => exact h4
  by_cases hany : anyDelta d
  · rw [chargedRow, if_pos hany]
    have hused : ∀ c, (row.withUsed ⟨row.stepsUsed + d.steps, row.toolCallsUsed + d.toolCalls,
        row.retriesUsed + d.retries, row.escalationsUsed + d.escalations⟩ now.text).used.get c =
        row.used.get c + d.get c := by
      intro c
      rw [BudgetRow.used_withUsed]
      cases c <;> rfl
    refine ⟨hused, ?_, rfl, rfl, deadline, hdeadline, hnow⟩
    intro c
    rw [hused, BudgetRow.maxima_withUsed]
    exact hsum c
  · rw [chargedRow, if_neg hany]
    refine ⟨?_, ?_, rfl, rfl, deadline, hdeadline, hnow⟩
    · intro c
      rw [zero_of_not_anyDelta hany c, add_zero]
    · intro c
      have := hsum c
      rw [zero_of_not_anyDelta hany c, add_zero] at this
      exact this

/-- The store after a reservation that charges the tasks `ts`. -/
structure Charged (deadlineOf : String → Option Int) (now : Stamp) (d : Counters) (ts : List String)
    (s s' : TaskStore) : Prop where
  nonneg : ∀ c, 0 ≤ d.get c
  charged : ∀ t ∈ ts, ∃ row row', s.budgetOf? t = some row ∧ s'.budgetOf? t = some row' ∧
    Granted deadlineOf now d row row'
  other : ∀ t, t ∉ ts → s'.budgetOf? t = s.budgetOf? t

theorem reserve_ok {taskId : String}
    (h : reserveTaskExecutionBudget deadlineOf now taskId d s = .ok s') : Charged deadlineOf now d [taskId] s s' := by
  simp only [reserveTaskExecutionBudget, deadlineExpired, bind_ok, orRaise_ok, require_ok, pure_ok, deltas_ok] at h
  obtain ⟨_, ⟨rfl, hnonneg⟩, row, hrow, _, ⟨deadline, hdeadline, rfl⟩, _, hopen, _, h1, _, h2, _, h3, _, h4, h⟩ := h
  rw [decide_eq_false_iff_not, not_le] at hopen
  have hgranted : Granted deadlineOf now d row (chargedRow d now row) :=
    chargedRow_granted hdeadline hopen h1 h2 h3 h4
  have hafter : ∀ t, s'.budgetOf? t = if t = taskId then some (chargedRow d now row) else s.budgetOf? t := by
    intro t
    by_cases hany : anyDelta d
    · rw [if_pos hany, pure_ok] at h
      rw [← h, TaskStore.budgetOf?_withUsed]
      by_cases ht : t = taskId
      · rw [if_pos ht, if_pos ht, ht, hrow, chargedRow, if_pos hany]
        rfl
      · rw [if_neg ht, if_neg ht]
    · rw [if_neg hany, pure_ok] at h
      rw [← h]
      by_cases ht : t = taskId
      · rw [if_pos ht, ht, hrow, chargedRow, if_neg hany]
      · rw [if_neg ht]
  refine ⟨hnonneg, ?_, ?_⟩
  · intro t ht
    rw [List.mem_singleton.mp ht]
    exact ⟨row, _, hrow, by rw [hafter, if_pos rfl], hgranted⟩
  · intro t ht
    rw [hafter, if_neg (by simpa using ht)]

theorem project_ok {u : Counters} (h : project deadlineOf row d now = .ok u) :
    Granted deadlineOf now d row (chargedRow d now row) ∧
      u = ⟨row.stepsUsed + d.steps, row.toolCallsUsed + d.toolCalls, row.retriesUsed + d.retries,
        row.escalationsUsed + d.escalations⟩ := by
  simp only [project, bind_ok, orRaise_ok, require_ok, pure_ok] at h
  obtain ⟨deadline, hdeadline, _, hopen, _, h1, _, h2, _, h3, _, h4, rfl⟩ := h
  exact ⟨chargedRow_granted hdeadline hopen h1 h2 h3 h4, rfl⟩

theorem asExceeded_ok {x : Except Raised TaskStore} : asExceeded x = .ok s ↔ x = .ok s := by
  cases x with
  | ok a => simp [asExceeded]
  | error e =>
    simp only [asExceeded]
    split <;> simp

theorem linkedReserve_ok {link : LinkedTaskExecutionBudgetState}
    (h : link.reserve deadlineOf now d s = .ok s') :
    Charged deadlineOf now d [link.parentTaskId, link.taskId] s s' := by
  simp only [LinkedTaskExecutionBudgetState.reserve, bind_ok, deltas_ok, asExceeded_ok, reserveTransaction,
    orRaise_ok] at h
  obtain ⟨_, ⟨rfl, hnonneg⟩, parent, hparent, child, hchild, pn, hpn, cn, hcn, h⟩ := h
  obtain ⟨hgp, rfl⟩ := project_ok hpn
  obtain ⟨hgc, rfl⟩ := project_ok hcn
  have hne := link.distinct
  have hafter : ∀ t, s'.budgetOf? t = if t = link.parentTaskId then some (chargedRow d now parent)
      else if t = link.taskId then some (chargedRow d now child) else s.budgetOf? t := by
    intro t
    by_cases hany : anyDelta d
    · rw [if_pos hany, pure_ok] at h
      rw [← h, TaskStore.budgetOf?_withUsed, TaskStore.budgetOf?_withUsed]
      by_cases hp : t = link.parentTaskId
      · rw [if_pos hp, if_pos hp, if_neg (hp ▸ hne), hp, hparent, chargedRow, if_pos hany]
        rfl
      rw [if_neg hp, if_neg hp]
      by_cases hc : t = link.taskId
      · rw [if_pos hc, if_pos hc, hc, hchild, chargedRow, if_pos hany]
        rfl
      · rw [if_neg hc, if_neg hc]
    · rw [if_neg hany, pure_ok] at h
      rw [← h]
      by_cases hp : t = link.parentTaskId
      · rw [if_pos hp, hp, hparent, chargedRow, if_neg hany]
      rw [if_neg hp]
      by_cases hc : t = link.taskId
      · rw [if_pos hc, hc, hchild, chargedRow, if_neg hany]
      · rw [if_neg hc]
  refine ⟨hnonneg, ?_, ?_⟩
  · intro t ht
    rw [List.mem_cons, List.mem_singleton] at ht
    rcases ht with rfl | rfl
    · exact ⟨parent, _, hparent, by rw [hafter, if_pos rfl], hgp⟩
    · exact ⟨child, _, hchild, by rw [hafter, if_neg (Ne.symm hne), if_pos rfl], hgc⟩
  · intro t ht
    rw [List.mem_cons, List.mem_singleton, not_or] at ht
    rw [hafter, if_neg ht.1, if_neg ht.2]

/-! ## Runs -/

/-- A reservation: of a task for itself, or of a child task linked to its parent. -/
inductive Call where
  | direct (taskId : String)
  | linked (link : LinkedTaskExecutionBudgetState)

variable {granted : List (Call × Counters)}

def Call.tasks : Call → List String
  | .direct taskId => [taskId]
  | .linked link => [link.parentTaskId, link.taskId]

def Call.run (deadlineOf : String → Option Int) (now : Stamp) (d : Counters) (s : TaskStore) :
    Call → Except Raised TaskStore
  | .direct taskId => reserveTaskExecutionBudget deadlineOf now taskId d s
  | .linked link => link.reserve deadlineOf now d s

/-- The store after a call: what its transaction commits, or the store as it was when it raises. -/
def Call.after (deadlineOf : String → Option Int) (now : Stamp) (d : Counters) (s : TaskStore) (call : Call) :
    TaskStore :=
  match call.run deadlineOf now d s with
  | .ok s' => s'
  | .error _ => s

/-- What a call adds to the record of the reservations granted. -/
def Call.grants (deadlineOf : String → Option Int) (now : Stamp) (d : Counters) (s : TaskStore) (call : Call) :
    List (Call × Counters) :=
  match call.run deadlineOf now d s with
  | .ok _ => [(call, d)]
  | .error _ => []

/-- Any interleaving of calls from a store, with the reservations granted so far. -/
inductive Run (deadlineOf : String → Option Int) (s₀ : TaskStore) : List (Call × Counters) → TaskStore → Prop where
  | start : Run deadlineOf s₀ [] s₀
  | call {granted : List (Call × Counters)} {s : TaskStore} (call : Call) (now : Stamp) (d : Counters) :
      Run deadlineOf s₀ granted s →
        Run deadlineOf s₀ (granted ++ call.grants deadlineOf now d s) (call.after deadlineOf now d s)

theorem Call.run_ok {call : Call}
    (h : call.run deadlineOf now d s = .ok s') : Charged deadlineOf now d call.tasks s s' := by
  cases call with
  | direct taskId => exact reserve_ok h
  | linked link => exact linkedReserve_ok h

/-- Everything granted to calls that `p` selects. -/
def total (p : Call → Bool) (c : Counter) (granted : List (Call × Counters)) : Int :=
  ((granted.filter fun g => p g.1).map fun g => g.2.get c).sum

/-- Reservations of a task for itself. -/
def Call.isDirect (taskId : String) : Call → Bool
  | .direct t => decide (t = taskId)
  | .linked _ => false

def Call.isOfChild (taskId : String) : Call → Bool
  | .direct _ => false
  | .linked link => decide (link.parentTaskId = taskId)

/-- Reservations of the task that are linked to a parent of its own. -/
def Call.isAsChild (taskId : String) : Call → Bool
  | .direct _ => false
  | .linked link => decide (link.taskId = taskId)

theorem total_append (p : Call → Bool) (c : Counter) (xs ys : List (Call × Counters)) :
    total p c (xs ++ ys) = total p c xs + total p c ys := by
  rw [total, total, total, List.filter_append, List.map_append, List.sum_append]

theorem total_singleton (p : Call → Bool) (c : Counter) (call : Call) (d : Counters) :
    total p c [(call, d)] = if p call then d.get c else 0 := by
  by_cases h : p call = true
  · simp [total, h]
  · simp [total, h]

theorem charge_roles (call : Call) (d : Counters) (t : String) (c : Counter) :
    total (Call.isDirect t) c [(call, d)] + total (Call.isOfChild t) c [(call, d)] +
      total (Call.isAsChild t) c [(call, d)] = if t ∈ call.tasks then d.get c else 0 := by
  rw [total_singleton, total_singleton, total_singleton]
  cases call with
  | direct taskId => simp [Call.isDirect, Call.isOfChild, Call.isAsChild, Call.tasks, eq_comm]
  | linked link =>
    have hne := link.distinct
    simp only [Call.isDirect, Call.isOfChild, Call.isAsChild, Call.tasks, List.mem_cons, List.not_mem_nil, or_false]
    by_cases hp : link.parentTaskId = t
    · have hc : link.taskId ≠ t := fun h => hne (hp.trans h.symm)
      simp [hp, hc]
    · by_cases hc : link.taskId = t
      · simp [hp, hc]
      · simp [hp, hc, Ne.symm hp, Ne.symm hc]

/-- The row of a task after a run: the row it started with, charged with what was granted. -/
structure Accounted (granted : List (Call × Counters)) (t : String) (row₀ row : BudgetRow) : Prop where
  used : ∀ c, row.used.get c = row₀.used.get c + (total (Call.isDirect t) c granted +
    total (Call.isOfChild t) c granted + total (Call.isAsChild t) c granted)
  maxima : row.maxima = row₀.maxima
  deadlineAt : row.deadlineAt = row₀.deadlineAt
  within : (∀ c, row₀.used.get c ≤ row₀.maxima.get c) → ∀ c, row.used.get c ≤ row.maxima.get c

theorem Accounted.call {t : String}
    (h : Accounted granted t row₀ row) (hrow : s.budgetOf? t = some row) (call : Call) (now : Stamp) (d : Counters) :
    ∃ row', (call.after deadlineOf now d s).budgetOf? t = some row' ∧
      Accounted (granted ++ call.grants deadlineOf now d s) t row₀ row' := by
  cases hc : call.run deadlineOf now d s with
  | error e =>
    simp only [Call.after, Call.grants, hc, List.append_nil]
    exact ⟨row, hrow, h⟩
  | ok s' =>
    have hcharged := Call.run_ok hc
    simp only [Call.after, Call.grants, hc]
    have hsum : ∀ c, total (Call.isDirect t) c (granted ++ [(call, d)]) + total (Call.isOfChild t) c
        (granted ++ [(call, d)]) + total (Call.isAsChild t) c (granted ++ [(call, d)]) =
        total (Call.isDirect t) c granted + total (Call.isOfChild t) c granted + total (Call.isAsChild t) c granted +
          if t ∈ call.tasks then d.get c else 0 := by
      intro c
      rw [← charge_roles call d t c, total_append, total_append, total_append]
      omega
    by_cases ht : t ∈ call.tasks
    · obtain ⟨r, row', hr, hrow', hg⟩ := hcharged.charged t ht
      rw [hrow] at hr
      cases hr
      refine ⟨row', hrow', ?_, hg.maxima.trans h.maxima, hg.deadlineAt.trans h.deadlineAt, fun _ => hg.within⟩
      intro c
      rw [hg.used, h.used, hsum, if_pos ht]
      omega
    · refine ⟨row, ?_, ?_, h.maxima, h.deadlineAt, h.within⟩
      · rw [hcharged.other t ht]
        exact hrow
      · intro c
        rw [h.used, hsum, if_neg ht, add_zero]

theorem Run.accounted {s₀ : TaskStore} (hrun : Run deadlineOf s₀ granted s)
    {t : String} (h₀ : s₀.budgetOf? t = some row₀) :
    ∃ row, s.budgetOf? t = some row ∧ Accounted granted t row₀ row := by
  induction hrun with
  | start =>
    refine ⟨row₀, h₀, ?_, rfl, rfl, fun h => h⟩
    intro c
    simp [total]
  | call call now d _ ih =>
    obtain ⟨row, hrow, hacc⟩ := ih
    exact hacc.call hrow call now d

/-- **Linked budgets over every interleaving.** A parent that is itself nobody's child has used what it
had, what it was granted and what its children were granted; no row exceeds its maxima; a reservation
that raises leaves the store as it was; and none is granted from the deadline of a row it charges on. -/
theorem linked_budgets_over_runs {s₀ s : TaskStore} {granted : List (Call × Counters)}
    (hrun : Run deadlineOf s₀ granted s)
    (hbound : ∀ t row, s₀.budgetOf? t = some row → ∀ c, row.used.get c ≤ row.maxima.get c) :
    (∀ parent row₀, s₀.budgetOf? parent = some row₀ → (∀ g ∈ granted, g.1.isAsChild parent = false) →
      ∃ row, s.budgetOf? parent = some row ∧ ∀ c, row.used.get c =
        row₀.used.get c + total (Call.isDirect parent) c granted + total (Call.isOfChild parent) c granted) ∧
    (∀ t row₀, s₀.budgetOf? t = some row₀ →
      ∃ row, s.budgetOf? t = some row ∧ row.maxima = row₀.maxima ∧ ∀ c, row.used.get c ≤ row.maxima.get c) ∧
    (∀ (call : Call) now d e, call.run deadlineOf now d s = .error e → call.after deadlineOf now d s = s) ∧
    ∀ (call : Call) now d s', call.run deadlineOf now d s = .ok s' → ∀ t ∈ call.tasks, ∀ row,
      s.budgetOf? t = some row → ∃ deadline, deadlineOf row.deadlineAt = some deadline ∧ now.instant < deadline := by
  refine ⟨?_, ?_, ?_, ?_⟩
  · intro parent row₀ h₀ hroot
    obtain ⟨row, hrow, hacc⟩ := hrun.accounted h₀
    refine ⟨row, hrow, ?_⟩
    intro c
    have hnone : total (Call.isAsChild parent) c granted = 0 := by
      have hempty : granted.filter (fun g => g.1.isAsChild parent) = [] := by
        rw [List.filter_eq_nil_iff]
        intro g hg
        rw [hroot g hg]
        decide
      rw [total, hempty]
      rfl
    rw [hacc.used c, hnone]
    omega
  · intro t row₀ h₀
    obtain ⟨row, hrow, hacc⟩ := hrun.accounted h₀
    exact ⟨row, hrow, hacc.maxima, hacc.within (hbound t row₀ h₀)⟩
  · intro call now d e he
    rw [Call.after, he]
  · intro call now d s' hok t ht row hrow
    obtain ⟨r, row', hr, -, hg⟩ := (Call.run_ok hok).charged t ht
    rw [hrow] at hr
    cases hr
    exact hg.before

def newYear (text : String) : Option Int := if text = "2026-01-01T00:00:00+09:00" then some 1767193200000000 else none

/-- A budget row of a task that may make three steps until then. -/
def threeSteps (taskId : String) (stepsUsed : Int) : BudgetRow where
  taskId := taskId
  maxSteps := 3
  maxToolCalls := 0
  maxRetries := 0
  maxEscalations := 0
  maxWallTimeMs := 60000
  stepsUsed := stepsUsed
  toolCallsUsed := 0
  retriesUsed := 0
  escalationsUsed := 0
  deadlineAt := "2026-01-01T00:00:00+09:00"
  boundAt := "2025-12-31T23:59:00+09:00"
  updatedAt := "2025-12-31T23:59:00+09:00"

def family : TaskStore := { budgets := [threeSteps "parent" 2, threeSteps "child" 0] }

def familyLink : LinkedTaskExecutionBudgetState := ⟨"parent", "child", by decide⟩

def lastSecond : Stamp := ⟨1767193199000000, "2025-12-31T23:59:59+09:00"⟩

/-- The step of a child is charged to the parent too, whose last step it is. -/
theorem child_step_charged_to_parent : ∃ row,
    (Call.after newYear lastSecond ⟨1, 0, 0, 0⟩ family (.linked familyLink)).budgetOf? "parent" = some row ∧
    row.used.get .steps = 3 := by
  have hstart : Run newYear family [] family := .start
  have hrun := Run.call (.linked familyLink) lastSecond ⟨1, 0, 0, 0⟩ hstart
  have hgrants : Call.grants newYear lastSecond ⟨1, 0, 0, 0⟩ family (.linked familyLink) =
      [(.linked familyLink, ⟨1, 0, 0, 0⟩)] := rfl
  rw [List.nil_append, hgrants] at hrun
  have hbound : ∀ t row, family.budgetOf? t = some row → ∀ c, row.used.get c ≤ row.maxima.get c := by
    intro t row hrow c
    have hmem := List.mem_of_find?_eq_some hrow
    simp only [family, List.mem_cons, List.not_mem_nil, or_false] at hmem
    rcases hmem with rfl | rfl <;> cases c <;> decide
  obtain ⟨row, hrow, hused⟩ := (linked_budgets_over_runs hrun hbound).1 "parent" (threeSteps "parent" 2) rfl (by
    intro g hg
    rw [List.mem_singleton.mp hg]
    rfl)
  exact ⟨row, hrow, hused .steps⟩

end

end ExecutionBudget

end ThreeAgent
