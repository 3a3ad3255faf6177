/-
Calls that run at the same time over one shared state. A call is in some
local state; one event starts a call or lets one call take its next atomic
step, which reads and writes the shared state. Nothing is said about the
order of the events, so a fact about every list of events is a fact about
every interleaving.

Two rules carry the proofs: an invariant made of a condition on the shared
state and one on each call needs that a step keeps the first, keeps the
second for the call that moves, and keeps it for every other call; and a
condition that every event meets in the state it happens in.
-/
import Mathlib.Data.List.Basic

namespace Interleaving

variable {σ τ α ε : Type*}

/-- The shared state, and the calls in the order they were started. -/
structure World (σ τ : Type*) where
  shared : σ
  calls : List τ := []

/-- A call is started, or the call at an index takes its next step; `ε` is what the step takes from
the environment. -/
inductive Event (α ε : Type*) where
  | start (a : α)
  | move (i : Nat) (env : ε)

/-- What a condition says of the call that an event moves. -/
def Event.OnCall (P : Nat → ε → τ → Prop) (calls : List τ) : Event α ε → Prop
  | .start _ => True
  | .move i env => ∀ c ∈ calls[i]?, P i env c

instance {P : Nat → ε → τ → Prop} [∀ i env c, Decidable (P i env c)] {calls : List τ} :
    ∀ e : Event α ε, Decidable (e.OnCall P calls)
  | .start _ => inferInstanceAs (Decidable True)
  | .move i env => inferInstanceAs (Decidable (∀ c ∈ calls[i]?, P i env c))

variable {e : Event α ε}

theorem Event.onCall_iff {P : Nat → ε → τ → Prop} {calls : List τ} :
    e.OnCall P calls ↔ ∀ i env c, e = .move i env → calls[i]? = some c → P i env c := by
  cases e with
  | start a => simp [OnCall]
  | move i env =>
    constructor
    · rintro h _ _ c ⟨⟩ hc
      exact h c hc
    · intro h c hc
      exact h i env c rfl hc

/-- How calls begin, and what one step does. -/
structure Program (σ τ α ε : Type*) where
  init : α → τ
  act : ε → σ → τ → σ × τ

variable {P I : World σ τ → Prop} {w : World σ τ} {Q : World σ τ → Event α ε → Prop} {events : List (Event α ε)}
  {S : σ → Prop} {T : σ → τ → Prop}

variable {i : Nat} {env : ε} {Q' : World σ τ → Event α ε → Prop}

namespace Program

variable (p : Program σ τ α ε)

/-- One event. A step of a call that does not exist changes nothing. -/
def after (w : World σ τ) : Event α ε → World σ τ
  | .start a => { w with calls := w.calls ++ [p.init a] }
  | .move i env =>
    match w.calls[i]? with
    | none => w
    | some c => ⟨(p.act env w.shared c).1, w.calls.set i (p.act env w.shared c).2⟩

def run (w : World σ τ) (events : List (Event α ε)) : World σ τ := events.foldl p.after w

theorem run_append (w : World σ τ) (events later : List (Event α ε)) :
    p.run w (events ++ later) = p.run (p.run w events) later := List.foldl_append

/-- The property holds in every state of the run. -/
def Always (P : World σ τ → Prop) : World σ τ → List (Event α ε) → Prop
  | w, [] => P w
  | w, e :: events => P w ∧ Always P (p.after w e) events

/-- Every event of the run meets the condition in the state it happens in. -/
def Each (Q : World σ τ → Event α ε → Prop) : World σ τ → List (Event α ε) → Prop
  | _, [] => True
  | w, e :: events => Q w e ∧ Each Q (p.after w e) events

instance instDecidableEach {Q : World σ τ → Event α ε → Prop} [∀ w e, Decidable (Q w e)] :
    ∀ w events, Decidable (p.Each Q w events)
  | _, [] => inferInstanceAs (Decidable True)
  | w, e :: events =>
    have : Decidable (p.Each Q (p.after w e) events) := instDecidableEach (p.after w e) events
    inferInstanceAs (Decidable (Q w e ∧ p.Each Q (p.after w e) events))

variable {p}

theorem after_move {c : τ} (h : w.calls[i]? = some c) :
    p.after w (.move i env) = ⟨(p.act env w.shared c).1, w.calls.set i (p.act env w.shared c).2⟩ := by
  simp only [after, h]

theorem after_move_none (h : w.calls[i]? = none) :
    p.after w (.move i env) = w := by
  simp only [after, h]

theorem after_cases (p : Program σ τ α ε) (w : World σ τ) (e : Event α ε) :
    (∃ a, e = .start a ∧ p.after w e = { w with calls := w.calls ++ [p.init a] }) ∨
      (∃ i env c, e = .move i env ∧ w.calls[i]? = some c ∧
        p.after w e = ⟨(p.act env w.shared c).1, w.calls.set i (p.act env w.shared c).2⟩) ∨
      (∃ i env, e = .move i env ∧ w.calls[i]? = none ∧ p.after w e = w) := by
  cases e with
  | start a => exact .inl ⟨a, rfl, rfl⟩
  | move i env =>
    cases h : w.calls[i]? with
    | none => exact .inr (.inr ⟨i, env, rfl, h, after_move_none h⟩)
    | some c => exact .inr (.inl ⟨i, env, c, rfl, h, after_move h⟩)

theorem each_and
    (h : p.Each Q w events) (h' : p.Each Q' w events) : p.Each (fun w e => Q w e ∧ Q' w e) w events := by
  induction events generalizing w with
  | nil => trivial
  | cons e events ih => exact ⟨⟨h.1, h'.1⟩, ih h.2 h'.2⟩

theorem each_append {later : List (Event α ε)} :
    p.Each Q w (events ++ later) ↔ p.Each Q w events ∧ p.Each Q (p.run w events) later := by
  induction events generalizing w with
  | nil => simp [Each, run]
  | cons e events ih => exact (and_congr_right fun _ => ih).trans and_assoc.symm

theorem Always.head : ∀ {events : List (Event α ε)},
    p.Always P w events → P w
  | [], h => h
  | _ :: _, h => h.1

theorem Always.last
    (h : p.Always P w events) : P (p.run w events) := by
  induction events generalizing w with
  | nil => exact h
  | cons e events ih => exact ih h.2

theorem Always.mono {P' : World σ τ → Prop} (hP : ∀ w, P w → P' w)
    (h : p.Always P w events) : p.Always P' w events := by
  induction events generalizing w with
  | nil => exact hP w h
  | cons e events ih => exact ⟨hP w h.1, ih h.2⟩

theorem always_of_each
    (hstep : ∀ w e, I w → Q w e → I (p.after w e)) (h : I w)
    (hq : p.Each Q w events) : p.Always I w events := by
  induction events generalizing w with
  | nil => exact h
  | cons e events ih => exact ⟨h, ih (hstep w e h hq.1) hq.2⟩

theorem each_of_each
    (hstep : ∀ w e, I w → Q w e → I (p.after w e)) (himp : ∀ w e, I w → Q w e → Q' w e) (h : I w)
    (hq : p.Each Q w events) : p.Each Q' w events := by
  induction events generalizing w with
  | nil => trivial
  | cons e events ih => exact ⟨himp w e h hq.1, ih (hstep w e h hq.1) hq.2⟩

/-- Where the condition on an event is just what the step needs, a run keeps the invariant if and only if every event
meets the condition. -/
theorem always_iff_each
    (hstep : ∀ w e, I w → (I (p.after w e) ↔ Q w e)) (h : I w) :
    p.Always I w events ↔ p.Each Q w events := by
  constructor
  · intro halways
    induction events generalizing w with
    | nil => trivial
    | cons e events ih => exact ⟨(hstep w e h).mp halways.2.head, ih halways.2.head halways.2⟩
  · exact always_of_each (fun w e hw hq => (hstep w e hw).mpr hq) h

theorem run_invariant (hstep : ∀ w e, I w → I (p.after w e)) (h : I w)
    (events : List (Event α ε)) : I (p.run w events) := by
  induction events generalizing w with
  | nil => exact h
  | cons e events ih => exact ih (hstep w e h)

/-! ## Invariants of the shared state and of each call -/

/-- A condition on the shared state, and one on every call. -/
structure Holds (S : σ → Prop) (T : σ → τ → Prop) (w : World σ τ) : Prop where
  shared : S w.shared
  calls : ∀ c ∈ w.calls, T w.shared c

theorem Holds.init {s : σ} (h : S s) : Holds S T ⟨s, []⟩ := ⟨h, by simp⟩

theorem Holds.after (hinit : ∀ s a, S s → T s (p.init a))
    (hact : ∀ env s c, S s → T s c → S (p.act env s c).1 ∧ T (p.act env s c).1 (p.act env s c).2)
    (hframe : ∀ env s c c', S s → T s c → T s c' → T (p.act env s c).1 c') (h : Holds S T w)
    (e : Event α ε) : Holds S T (p.after w e) := by
  rcases p.after_cases w e with ⟨a, -, hafter⟩ | ⟨i, env, c, -, hget, hafter⟩ | ⟨i, env, -, -, hafter⟩
  · rw [hafter]
    refine ⟨h.shared, ?_⟩
    intro c hc
    rcases List.mem_append.mp hc with hc | hc
    · exact h.calls c hc
    · rw [List.mem_singleton.mp hc]
      exact hinit _ a h.shared
  · rw [hafter]
    have hc := h.calls c (List.mem_of_getElem? hget)
    refine ⟨(hact env _ c h.shared hc).1, ?_⟩
    intro c' hc'
    rcases List.mem_or_eq_of_mem_set hc' with hc' | rfl
    · exact hframe env _ c c' h.shared hc (h.calls c' hc')
    · exact (hact env _ c h.shared hc).2
  · rw [hafter]
    exact h

theorem Holds.after_start (h : Holds S T w) (a : α)
    (hinit : T w.shared (p.init a)) : Holds S T (p.after w (.start a)) := by
  refine ⟨h.shared, ?_⟩
  intro c hc
  rcases List.mem_append.mp hc with hc | hc
  · exact h.calls c hc
  · rw [List.mem_singleton.mp hc]
    exact hinit

theorem Holds.of_step {c : τ}
    (hget : w.calls[i]? = some c) (hshared : S (p.act env w.shared c).1)
    (hcall : T (p.act env w.shared c).1 (p.act env w.shared c).2)
    (hframe : ∀ j c', j ≠ i → w.calls[j]? = some c' → T (p.act env w.shared c).1 c') :
    Holds S T (p.after w (.move i env)) := by
  rw [after_move hget]
  refine ⟨hshared, ?_⟩
  intro c' hc'
  obtain ⟨j, hj⟩ := List.mem_iff_getElem?.mp hc'
  rw [List.getElem?_set] at hj
  split at hj
  · split at hj
    · rw [← Option.some.inj hj]
      exact hcall
    · cases hj
  · rename_i hne
    exact hframe j c' (fun heq => hne heq.symm) hj

/-! ## Calls told apart by a key -/

/-- No two calls have the same key. -/
def Distinct {κ : Type*} (key : τ → Option κ) (w : World σ τ) : Prop :=
  ∀ (i j : Nat) (c c' : τ) (k : κ),
    w.calls[i]? = some c → w.calls[j]? = some c' → key c = some k → key c' = some k → i = j

theorem Distinct.init {κ : Type*} {key : τ → Option κ} {s : σ} : Distinct key (⟨s, []⟩ : World σ τ) := by
  intro i j c c' k hc
  simp at hc

theorem Distinct.after {κ : Type*} {key : τ → Option κ} (hinit : ∀ a, key (p.init a) = none)
    (h : Distinct key w)
    (hact : ∀ i env c k, e = .move i env → w.calls[i]? = some c → key (p.act env w.shared c).2 = some k →
      key c = some k ∨ ∀ c' ∈ w.calls, key c' ≠ some k) : Distinct key (p.after w e) := by
  cases e with
  | start a =>
    have hnew : ∀ {i : Nat} {c : τ} {k : κ}, (w.calls ++ [p.init a])[i]? = some c → key c = some k →
        w.calls[i]? = some c := by
      intro i c k hget hk
      rw [List.getElem?_append] at hget
      split at hget
      · exact hget
      · rw [List.mem_singleton.mp (List.mem_of_getElem? hget), hinit] at hk
        cases hk
    intro i j c c' k hc hc' hk hk'
    exact h i j c c' k (hnew hc hk) (hnew hc' hk') hk hk'
  | move i env =>
    cases hget : w.calls[i]? with
    | none =>
      rw [after_move_none hget]
      exact h
    | some c =>
      rw [after_move hget]
      -- each of the two calls is the one that moved or one that was there
      have hold : ∀ {j : Nat} {d : τ}, (w.calls.set i (p.act env w.shared c).2)[j]? = some d →
          (j = i ∧ d = (p.act env w.shared c).2) ∨ (j ≠ i ∧ w.calls[j]? = some d) := by
        intro j d hd
        rw [List.getElem?_set] at hd
        split at hd
        · rename_i heq
          split at hd
          · exact .inl ⟨heq.symm, (Option.some.inj hd).symm⟩
          · cases hd
        · rename_i hne
          exact .inr ⟨fun heq => hne heq.symm, hd⟩
      intro j j' d d' k hd hd' hk hk'
      rcases hold hd with ⟨rfl, rfl⟩ | ⟨-, hpre⟩
      · rcases hold hd' with ⟨rfl, rfl⟩ | ⟨-, hpre'⟩
        · rfl
        · rcases hact _ env c k rfl hget hk with hc | hfresh
          · exact h _ _ c d' k hget hpre' hc hk'
          · exact absurd hk' (hfresh d' (List.mem_of_getElem? hpre'))
      · rcases hold hd' with ⟨rfl, rfl⟩ | ⟨-, hpre'⟩
        · rcases hact _ env c k rfl hget hk' with hc | hfresh
          · exact h _ _ d c k hpre hget hk hc
          · exact absurd hk (hfresh d (List.mem_of_getElem? hpre))
        · exact h j j' d d' k hpre hpre' hk hk'

end Program

end Interleaving
