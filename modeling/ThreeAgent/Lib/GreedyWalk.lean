/-
A walk that takes what fits: each item is taken, which changes the state, or
skipped, which leaves it. The items taken are the first ones of the walk, with
no gap, just where nothing fits any more once an item has been skipped.
-/
import Mathlib.Data.List.Basic
import Mathlib.Data.List.Forall2

namespace GreedyWalk

variable {σ α β : Type*}

/-- The state after the walk. -/
def walk (step : σ → α → Option σ) : σ → List α → σ := List.foldl fun s a => (step s a).getD s

/-- Which of the items are taken. -/
def marks (step : σ → α → Option σ) : σ → List α → List Bool
  | _, [] => []
  | s, a :: as =>
    match step s a with
    | some s' => true :: marks step s' as
    | none => false :: marks step s as

/-- The items that are taken, in the order of the walk. -/
def taken (step : σ → α → Option σ) : σ → List α → List α
  | _, [] => []
  | s, a :: as =>
    match step s a with
    | some s' => a :: taken step s' as
    | none => taken step s as

/-- Whatever is taken is taken first. -/
def Leading (bs : List Bool) : Prop := ∃ m n, bs = List.replicate m true ++ List.replicate n false

/-- Every item taken at first is as `Q` asks, and once one is skipped none that comes after fits. -/
def Steady (step : σ → α → Option σ) (Q : σ → α → Prop) : σ → List α → Prop
  | _, [] => True
  | s, a :: as =>
    match step s a with
    | some s' => Q s a ∧ Steady step Q s' as
    | none => ∀ a' ∈ as, step s a' = none

/-- `Q` holds of each item where it is taken. -/
def Throughout (step : σ → α → Option σ) (Q : σ → α → Prop) : σ → List α → Prop
  | _, [] => True
  | s, a :: as =>
    match step s a with
    | some s' => Q s a ∧ Throughout step Q s' as
    | none => Throughout step Q s as

variable {step : σ → α → Option σ} {Q : σ → α → Prop}

theorem marks_of_skipped {s : σ} : ∀ {as : List α}, (∀ a ∈ as, step s a = none) → marks step s as = List.replicate as.length false
  | [], _ => rfl
  | a :: as, h => by
    rw [marks, h a List.mem_cons_self]
    exact congrArg _ (marks_of_skipped fun a' ha' => h a' (List.mem_cons_of_mem a ha'))

theorem skipped_of_marks {s : σ} : ∀ {as : List α}, (∀ b ∈ marks step s as, b = false) → ∀ a ∈ as, step s a = none
  | [], _, _, ha => by cases ha
  | a :: as, h, a', ha' => by
    rw [marks] at h
    cases hstep : step s a with
    | some s' =>
      rw [hstep] at h
      exact absurd (h true List.mem_cons_self) Bool.noConfusion
    | none =>
      rw [hstep] at h
      rcases List.mem_cons.mp ha' with rfl | ha'
      · exact hstep
      · exact skipped_of_marks (fun b hb => h b (List.mem_cons_of_mem _ hb)) a' ha'

theorem throughout_of_skipped {s : σ} : ∀ {as : List α}, (∀ a ∈ as, step s a = none) → Throughout step Q s as
  | [], _ => trivial
  | a :: as, h => by
    rw [Throughout, h a List.mem_cons_self]
    exact throughout_of_skipped fun a' ha' => h a' (List.mem_cons_of_mem a ha')

theorem taken_of_skipped {s : σ} : ∀ {as : List α}, (∀ a ∈ as, step s a = none) → taken step s as = []
  | [], _ => rfl
  | a :: as, h => by
    rw [taken, h a List.mem_cons_self]
    exact taken_of_skipped fun a' ha' => h a' (List.mem_cons_of_mem a ha')

theorem leading_true {bs : List Bool} : Leading (true :: bs) ↔ Leading bs := by
  refine ⟨?_, ?_⟩
  · intro ⟨m, n, h⟩
    cases m with
    | zero =>
      cases n with
      | zero => cases h
      | succ n => exact absurd (List.cons.inj h).1 Bool.noConfusion
    | succ m => exact ⟨m, n, (List.cons.inj h).2⟩
  · intro ⟨m, n, h⟩
    exact ⟨m + 1, n, congrArg _ h⟩

theorem leading_false {bs : List Bool} : Leading (false :: bs) ↔ ∀ b ∈ bs, b = false := by
  refine ⟨?_, ?_⟩
  · intro ⟨m, n, h⟩ b hb
    cases m with
    | succ m => exact absurd (List.cons.inj h).1 Bool.noConfusion
    | zero =>
      have hb' : b ∈ List.replicate n false := by
        rw [← List.nil_append (List.replicate n false)]
        exact h ▸ List.mem_cons_of_mem false hb
      exact List.eq_of_mem_replicate hb'
  · intro h
    exact ⟨0, bs.length + 1, congrArg _ (List.eq_replicate_of_mem h)⟩

/-- The walk takes its first items, each as `Q` asks, just where it is steady. -/
theorem steady_iff : ∀ {s : σ} {as : List α}, Steady step Q s as ↔ Leading (marks step s as) ∧ Throughout step Q s as
  | _, [] => ⟨fun _ => ⟨⟨0, 0, rfl⟩, trivial⟩, fun _ => trivial⟩
  | s, a :: as => by
    rw [Steady, marks, Throughout]
    cases step s a with
    | some s' =>
      dsimp only
      rw [leading_true, steady_iff]
      exact and_left_comm
    | none =>
      dsimp only
      rw [leading_false]
      refine ⟨?_, fun h => skipped_of_marks h.1⟩
      intro h
      refine ⟨?_, throughout_of_skipped h⟩
      rw [marks_of_skipped h]
      exact fun b hb => List.eq_of_mem_replicate hb

/-- The items that a leading walk takes are its first ones. -/
theorem taken_of_leading : ∀ {s : σ} {as : List α}, Leading (marks step s as) → taken step s as <+: as
  | _, [], _ => List.prefix_rfl
  | s, a :: as, h => by
    rw [marks] at h
    rw [taken]
    cases hstep : step s a with
    | some s' =>
      rw [hstep] at h
      exact List.cons_prefix_cons.mpr ⟨rfl, taken_of_leading (leading_true.mp h)⟩
    | none =>
      rw [hstep] at h
      dsimp only
      rw [taken_of_skipped (skipped_of_marks (leading_false.mp h))]
      exact List.nil_prefix

theorem walk_induction {P : σ → Prop} (hstep : ∀ s a s', P s → step s a = some s' → P s') :
    ∀ {s : σ} {as : List α}, P s → P (walk step s as)
  | _, [], h => h
  | s, a :: as, h => by
    have hwalk : walk step s (a :: as) = walk step ((step s a).getD s) as := rfl
    rw [hwalk]
    cases hs : step s a with
    | some s' => exact walk_induction hstep (hstep s a s' h hs)
    | none => exact walk_induction hstep h

end GreedyWalk
