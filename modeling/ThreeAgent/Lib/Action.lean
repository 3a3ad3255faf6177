/-
Code that changes a state and may raise half way: the state it had reached
stays. A triple says what holds after a normal return and what holds after
an exception, from a precondition on the state; the rules below are the ones
for its parts.
-/
import ThreeAgent.Lib.Outcome

namespace Action

/-- A computation over a state `σ` that returns or raises, the state kept either way. -/
def Act (σ ε α : Type) := σ → Except ε α × σ

namespace Act

variable {σ ε α β : Type}

def pure (a : α) : Act σ ε α := fun s => (.ok a, s)

def bind (x : Act σ ε α) (f : α → Act σ ε β) : Act σ ε β := fun s =>
  match x s with
  | (.ok a, s') => f a s'
  | (.error e, s') => (.error e, s')

instance : Monad (Act σ ε) where
  pure := pure
  bind := bind

instance : LawfulMonad (Act σ ε) := LawfulMonad.mk' _
  (fun x => by
    funext s
    change (match x s with
      | (.ok a, s') => ((.ok (id a), s') : Except ε _ × σ)
      | (.error e, s') => (.error e, s')) = x s
    match x s with
    | (.ok a, s') => rfl
    | (.error e, s') => rfl)
  (fun _ _ => rfl)
  (fun x f g => by
    funext s
    change (match (match x s with
        | (.ok a, s') => f a s'
        | (.error e, s') => (.error e, s')) with
      | (.ok a, s') => g a s'
      | (.error e, s') => (.error e, s')) = (match x s with
      | (.ok a, s') => (match f a s' with
        | (.ok b, s'') => g b s''
        | (.error e, s'') => (.error e, s''))
      | (.error e, s') => (.error e, s'))
    match x s with
    | (.ok a, s') => rfl
    | (.error e, s') => rfl)

variable {x : Act σ ε α} {f : α → Act σ ε β} {s s' : σ} {a : α}

theorem bind_run (h : x s = (.ok a, s')) :
    (x >>= f) s = f a s' := by
  show (match x s with
    | (.ok a, s') => f a s'
    | (.error e, s') => (.error e, s')) = f a s'
  rw [h]

theorem bind_raises {e : ε} (h : x s = (.error e, s')) :
    (x >>= f) s = (.error e, s') := by
  show (match x s with
    | (.ok a, s') => f a s'
    | (.error e, s') => (.error e, s')) = (.error e, s')
  rw [h]

/-- The current state. -/
def get : Act σ ε σ := fun s => (.ok s, s)

/-- An assignment. -/
def modify (f : σ → σ) : Act σ ε PUnit := fun s => (.ok ⟨⟩, f s)

/-- A computation that reads no state. -/
def lift (x : Except ε α) : Act σ ε α := fun s => (x, s)

theorem get_bind_run {f : σ → Act σ ε β} : (get >>= f) s = f s s := rfl

theorem modify_bind_run {g : σ → σ} {f : PUnit → Act σ ε β} : (modify g >>= f) s = f ⟨⟩ (g s) := rfl

theorem lift_bind_run {x : Except ε α} (h : x = .ok a) :
    (lift x >>= f) s = f a s := by
  rw [h]
  rfl

theorem lift_bind_raises {x : Except ε α} {e : ε} (h : x = .error e) :
    (lift x >>= f) s = (.error e, s) := by
  rw [h]
  rfl

/-- An exception replaced by another. -/
def mapError (f : ε → ε) (x : Act σ ε α) : Act σ ε α := fun s =>
  match x s with
  | (.ok a, s') => (.ok a, s')
  | (.error e, s') => (.error (f e), s')

/-! ## Normal returns -/

theorem bind_returns {b : β} :
    (x >>= f) s = (.ok b, s') ↔ ∃ a s₁, x s = (.ok a, s₁) ∧ f a s₁ = (.ok b, s') := by
  obtain ⟨r, hr⟩ : ∃ r, x s = r := ⟨_, rfl⟩
  cases r with
  | mk r s₁ =>
    cases r with
    | ok a =>
      rw [bind_run hr, hr]
      constructor
      · exact fun h => ⟨a, s₁, rfl, h⟩
      · intro ⟨a', s₂, h, hf⟩
        cases h
        exact hf
    | error e =>
      rw [bind_raises hr, hr]
      constructor
      · intro h
        cases h
      · intro ⟨_, _, h, _⟩
        cases h

theorem pure_returns {b : α} : (Pure.pure a : Act σ ε α) s = (.ok b, s') ↔ a = b ∧ s = s' := by
  show ((.ok a, s) : Except ε α × σ) = (.ok b, s') ↔ _
  rw [Prod.mk.injEq, Except.ok.injEq]

theorem lift_returns {x : Except ε α} : lift x s = (.ok a, s') ↔ x = .ok a ∧ s = s' := by
  rw [lift, Prod.mk.injEq]

theorem mapError_returns {f : ε → ε} :
    mapError f x s = (.ok a, s') ↔ x s = (.ok a, s') := by
  unfold mapError
  split
  · rename_i h
    rw [h]
  · rename_i h
    rw [h]
    simp

/-! ## Triples -/

/-- From `P`, a normal return satisfies `Q` and an exception leaves a state satisfying `E`. -/
def Triple (P : σ → Prop) (x : Act σ ε α) (Q : α → σ → Prop) (E : σ → Prop) : Prop :=
  ∀ s, P s → match x s with
    | (.ok a, s') => Q a s'
    | (.error _, s') => E s'

variable {P P' : σ → Prop} {E : σ → Prop} {Q : α → σ → Prop}

theorem triple_ok (h : Triple P x Q E) {s s' : σ} {a : α} (hs : P s)
    (hx : x s = (.ok a, s')) : Q a s' := by
  have := h s hs
  rwa [hx] at this

theorem triple_error (h : Triple P x Q E) {s s' : σ} {e : ε} (hs : P s)
    (hx : x s = (.error e, s')) : E s' := by
  have := h s hs
  rwa [hx] at this

theorem triple_iff_last : Triple P x (fun _ => P') P' ↔ ∀ s, P s → P' (x s).2 := by
  refine forall₂_congr fun s _ => ?_
  obtain ⟨r, hr⟩ : ∃ r, x s = r := ⟨_, rfl⟩
  rw [hr]
  rcases r with ⟨_ | _, s'⟩ <;> rfl

theorem Triple.pure (h : ∀ s, P s → Q a s) : Triple P (Pure.pure a : Act σ ε α) Q E :=
  fun s hs => h s hs

theorem Triple.lift {x : Except ε α} (hok : ∀ a s, x = .ok a → P s → Q a s) (herr : ∀ s, P s → E s) :
    Triple P (Act.lift x) Q E := by
  intro s hs
  cases x with
  | ok a => exact hok a s rfl hs
  | error e => exact herr s hs

theorem Triple.modify {f : σ → σ} {Q : PUnit → σ → Prop} (h : ∀ s, P s → Q ⟨⟩ (f s)) :
    Triple P (Act.modify f : Act σ ε PUnit) Q E := fun s hs => h s hs

theorem Triple.bind {R : α → σ → Prop} {Q : β → σ → Prop}
    (hx : Triple P x R E) (hf : ∀ a, Triple (R a) (f a) Q E) : Triple P (x >>= f) Q E := by
  intro s hs
  have h := hx s hs
  change match (match x s with
    | (.ok a, s') => f a s'
    | (.error e, s') => (.error e, s')) with
    | (.ok a, s') => Q a s'
    | (.error _, s') => E s'
  match hxs : x s with
  | (.ok a, s') =>
    rw [hxs] at h
    exact hf a s' h
  | (.error e, s') =>
    rw [hxs] at h
    exact h

theorem Triple.get_bind {f : σ → Act σ ε β} {Q : β → σ → Prop}
    (h : ∀ s, P s → Triple (fun s' => s' = s) (f s) Q E) : Triple P (get >>= f) Q E :=
  fun s hs => h s hs s rfl

theorem Triple.weaken {Q' : α → σ → Prop} {E' : σ → Prop} (h : Triple P x Q E)
    (hP : ∀ s, P' s → P s) (hQ : ∀ a s, Q a s → Q' a s) (hE : ∀ s, E s → E' s) : Triple P' x Q' E' := by
  intro s hs
  have h := h s (hP s hs)
  match hxs : x s with
  | (.ok a, s') =>
    rw [hxs] at h
    exact hQ a s' h
  | (.error e, s') =>
    rw [hxs] at h
    exact hE s' h

/-- The elements of a list in turn, each under the same invariant. -/
theorem Triple.mapM {I : σ → Prop} {f : β → Act σ ε α} (h : ∀ b, Triple I (f b) (fun _ s => I s) I) :
    ∀ bs : List β, Triple I (bs.mapM f) (fun _ s => I s) I
  | [] => by
    rw [List.mapM_nil]
    exact Triple.pure fun s hs => hs
  | b :: bs => by
    rw [List.mapM_cons]
    exact (h b).bind fun _ => (Triple.mapM h bs).bind fun _ => Triple.pure fun s hs => hs

end Act

end Action
