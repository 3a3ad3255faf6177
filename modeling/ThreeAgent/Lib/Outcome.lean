/-
Code that may raise, as `Except`: the check that raises, and the lemmas that
take a successful computation apart into the successes of its parts.
-/
import Mathlib.Data.List.Perm.Basic
import Mathlib.Data.List.Forall2

namespace Outcome

universe u v

variable {ε : Type u} {α β : Type v}

/-- `if not c: raise e`. -/
def require (c : Prop) [Decidable c] (e : ε) : Except ε PUnit :=
  if c then .ok ⟨⟩ else .error e

variable {e : ε}

variable {c : Prop}

@[simp] theorem require_ok [Decidable c] {u : PUnit} :
    require c e = .ok u ↔ c := by
  unfold require
  split <;> simp_all

variable {e' : ε}

@[simp] theorem require_error [Decidable c] :
    require c e = .error e' ↔ ¬ c ∧ e = e' := by
  unfold require
  split <;> simp_all

theorem ok_bind (a : α) (f : α → Except ε β) : (Except.ok a >>= f) = f a := rfl

variable {x : Except ε α} {f : α → Except ε β}

@[simp] theorem bind_ok {b : β} :
    (x >>= f) = .ok b ↔ ∃ a, x = .ok a ∧ f a = .ok b := by
  cases x with
  | error e => simp [bind, Except.bind]
  | ok a => simp [bind, Except.bind]

theorem bind_unit_ok {x : Except ε PUnit} {f : PUnit → Except ε β} {b : β} :
    (x >>= f) = .ok b ↔ x = .ok ⟨⟩ ∧ f ⟨⟩ = .ok b := by
  rw [bind_ok]
  exact ⟨fun ⟨_, hx, hf⟩ => ⟨hx, hf⟩, fun ⟨hx, hf⟩ => ⟨_, hx, hf⟩⟩

variable {a : α}

@[simp] theorem pure_ok {b : α} : (pure a : Except ε α) = .ok b ↔ a = b := by
  simp [pure, Except.pure]

@[simp] theorem throw_ok {b : α} : (throw e : Except ε α) = .ok b ↔ False := by
  simp [throw, throwThe, MonadExceptOf.throw]

@[simp] theorem map_ok {f : α → β} {b : β} : x.map f = .ok b ↔ ∃ a, x = .ok a ∧ f a = b := by
  cases x with
  | error e => simp [Except.map]
  | ok a => simp [Except.map]

/-- The value of a lookup, or the exception for its absence. -/
def orRaise (o : Option α) (e : ε) : Except ε α :=
  match o with
  | some a => .ok a
  | none => .error e

variable {o : Option α}

@[simp] theorem orRaise_ok : orRaise o e = .ok a ↔ o = some a := by
  cases o with
  | none => simp [orRaise]
  | some b => simp [orRaise]

/-- `try: x except ...: raise e'` for the exceptions that `p` names. -/
def rethrow (p : ε → Bool) (e' : ε) (x : Except ε α) : Except ε α :=
  match x with
  | .ok a => .ok a
  | .error e => if p e then .error e' else .error e

variable {p : ε → Bool}

@[simp] theorem rethrow_ok :
    rethrow p e' x = .ok a ↔ x = .ok a := by
  cases x with
  | ok b => simp [rethrow]
  | error e =>
    simp only [rethrow]
    split <;> simp

theorem ok_of_toBool (h : x.toBool = true) : ∃ a, x = .ok a := by
  cases x with
  | ok a => exact ⟨a, rfl⟩
  | error e => cases h

/-- A list of successes is the successes of the list. -/
theorem mapM_ok : ∀ {xs : List α} {ys : List β},
    xs.mapM f = .ok ys ↔ List.Forall₂ (fun x y => f x = .ok y) xs ys
  | [], ys => by
    simp only [List.mapM_nil, pure_ok]
    constructor
    · rintro rfl
      exact .nil
    · intro h
      cases h
      rfl
  | x :: xs, ys => by
    simp only [List.mapM_cons, bind_ok, pure_ok]
    constructor
    · rintro ⟨y, hy, ys', hys, rfl⟩
      exact .cons hy (mapM_ok.mp hys)
    · intro h
      cases h with
      | cons hy hys => exact ⟨_, hy, _, mapM_ok.mpr hys, rfl⟩

variable {xs : List α}

theorem mapM_returns (h : ∀ x ∈ xs, ∃ y, f x = .ok y) :
    ∃ ys, xs.mapM f = .ok ys := by
  induction xs with
  | nil => exact ⟨[], rfl⟩
  | cons x xs ih =>
    obtain ⟨y, hy⟩ := h x (by simp)
    obtain ⟨ys, hys⟩ := ih fun x' hx' => h x' (by simp [hx'])
    exact ⟨y :: ys, mapM_ok.mpr (.cons hy (mapM_ok.mp hys))⟩

theorem forM_ok {f : α → Except ε PUnit} :
    xs.forM f = .ok ⟨⟩ ↔ ∀ x ∈ xs, f x = .ok ⟨⟩ := by
  induction xs with
  | nil => simp [List.forM_nil, pure, Except.pure]
  | cons x xs ih =>
    change (f x >>= fun _ => xs.forM f) = .ok ⟨⟩ ↔ _
    rw [bind_ok, List.forall_mem_cons, ← ih]
    exact ⟨fun ⟨_, hx, hxs⟩ => ⟨hx, hxs⟩, fun ⟨hx, hxs⟩ => ⟨_, hx, hxs⟩⟩

variable {g : α → Except ε β}

theorem mapM_congr (h : ∀ x ∈ xs, f x = g x) : xs.mapM f = xs.mapM g := by
  induction xs with
  | nil => rfl
  | cons x xs ih =>
    obtain ⟨hx, hxs⟩ := List.forall_mem_cons.mp h
    rw [List.mapM_cons, List.mapM_cons, hx, ih hxs]

theorem mapM_self {f : α → Except ε α} (h : ∀ x ∈ xs, f x = .ok x) : xs.mapM f = .ok xs := by
  rw [mapM_ok]
  induction xs with
  | nil => exact .nil
  | cons x xs ih => exact .cons (h x (by simp)) (ih fun y hy => h y (by simp [hy]))

theorem mapM_mapM {f : α → Except ε α} (hf : ∀ x y, f x = .ok y → f y = .ok y) {ys : List α}
    (h : xs.mapM f = .ok ys) : ys.mapM f = .ok ys := by
  rw [mapM_ok] at h
  refine mapM_self fun y hy => ?_
  induction h with
  | nil => simp at hy
  | cons hxy _ ih =>
    rcases List.mem_cons.mp hy with rfl | hy
    · exact hf _ _ hxy
    · exact ih hy

theorem optionMapM_ok {o' : Option β} :
    o.mapM f = .ok o' ↔ Option.Rel (fun x y => f x = .ok y) o o' := by
  cases o with
  | none =>
    rw [Option.mapM_none, pure_ok]
    constructor
    · intro h
      rw [← h]
      exact .none
    · intro h
      cases h
      rfl
  | some x =>
    rw [Option.mapM_some]
    cases hx : f x with
    | error e =>
      constructor
      · intro h
        cases h
      · intro h
        cases h with
        | some hxy =>
          rw [hx] at hxy
          cases hxy
    | ok y =>
      constructor
      · intro h
        rw [← show some y = o' from Except.ok.inj h]
        exact .some hx
      · intro h
        cases h with
        | some hxy =>
          rw [← Except.ok.inj (hx.symm.trans hxy)]
          rfl

theorem optionMapM_optionMapM {f : α → Except ε α} (hf : ∀ x y, f x = .ok y → f y = .ok y) {o' : Option α}
    (h : o.mapM f = .ok o') : o'.mapM f = .ok o' := by
  rw [optionMapM_ok] at h ⊢
  cases h with
  | none => exact .none
  | some hxy => exact .some (hf _ _ hxy)

variable {ys : List β}

theorem mapM_perm {xs' : List α} (h : xs.mapM f = .ok ys) (hperm : xs'.Perm xs) :
    ∃ ys', xs'.mapM f = .ok ys' ∧ ys'.Perm ys := by
  obtain ⟨ys', hys', hperm'⟩ := List.perm_comp_forall₂ hperm (mapM_ok.mp h)
  exact ⟨ys', mapM_ok.mpr hys', hperm'⟩

theorem exists_mapM_perm {ys' : List β} (h : xs.mapM f = .ok ys)
    (hperm : ys'.Perm ys) : ∃ xs' : List α, xs'.Perm xs ∧ xs'.mapM f = .ok ys' := by
  obtain ⟨xs', hxs', hperm'⟩ := List.perm_comp_forall₂ hperm (mapM_ok.mp h).flip
  exact ⟨xs', hperm', mapM_ok.mpr hxs'.flip⟩

theorem mapM_agree : ∀ {xs : List α} {ys : List β}, xs.mapM f = .ok ys → xs.mapM g = .ok ys →
    ∀ x ∈ xs, ∃ y, f x = .ok y ∧ g x = .ok y
  | [], _, _, _, x, hx => absurd hx List.not_mem_nil
  | x₀ :: xs, ys, hf, hg, x, hx => by
    obtain ⟨y, ys', hy, hys, rfl⟩ := List.forall₂_cons_left_iff.mp (mapM_ok.mp hf)
    obtain ⟨hy', hys'⟩ := List.forall₂_cons.mp (mapM_ok.mp hg)
    rcases List.mem_cons.mp hx with rfl | hx
    · exact ⟨y, hy, hy'⟩
    · exact mapM_agree (mapM_ok.mpr hys) (mapM_ok.mpr hys') x hx

variable {I : List α → β → Prop}

/-- A loop that returned: what each round keeps, of the elements it has passed, holds at the end. -/
theorem foldlM_ok {f : β → α → Except ε β}
    (hstep : ∀ done b a b', I done b → f b a = .ok b' → I (done ++ [a]) b') :
    ∀ {xs l : List α} {b b' : β}, I l b → xs.foldlM f b = .ok b' → I (l ++ xs) b'
  | [], done, b, b', hI, h => by
    simp only [List.foldlM_nil, pure_ok] at h
    rw [List.append_nil, ← h]
    exact hI
  | x :: xs, done, b, b', hI, h => by
    simp only [List.foldlM_cons, bind_ok] at h
    obtain ⟨b₁, hb, h⟩ := h
    have := foldlM_ok hstep (hstep _ _ _ _ hI hb) h
    rwa [List.append_assoc, List.singleton_append] at this

/-- A loop each of whose rounds returns, and keeps what the next one needs. -/
theorem foldlM_returns {f : β → α → Except ε β} {all : List α}
    (hstep : ∀ done b a, done ⊆ all → a ∈ all → I done b → ∃ b', f b a = .ok b' ∧ I (done ++ [a]) b') :
    ∀ {xs done : List α} {b : β}, done ++ xs ⊆ all → I done b → ∃ b', xs.foldlM f b = .ok b' ∧ I (done ++ xs) b'
  | [], done, b, _, hI => ⟨b, rfl, (List.append_nil done).symm ▸ hI⟩
  | x :: xs, done, b, hsub, hI => by
    obtain ⟨hdone, hxs⟩ := List.append_subset.mp hsub
    obtain ⟨b₁, hb, hI₁⟩ := hstep done b x hdone (hxs List.mem_cons_self) hI
    obtain ⟨b', hb', hI'⟩ := foldlM_returns hstep (by rwa [List.append_assoc, List.singleton_append]) hI₁
    refine ⟨b', ?_, by rwa [List.append_assoc, List.singleton_append] at hI'⟩
    simp only [List.foldlM_cons, bind_ok]
    exact ⟨b₁, hb, hb'⟩

/-! ## Computations that never raise one exception -/

/-- The computation does not end in the exception `e`. -/
def Avoids (e : ε) (x : Except ε α) : Prop := x ≠ .error e

theorem Avoids.pure : Avoids e (pure a : Except ε α) := by
  simp [Avoids, Pure.pure, Except.pure]

theorem Avoids.throw (h : e' ≠ e) : Avoids e (throw e' : Except ε α) := by
  simpa [Avoids, MonadExcept.throw, throwThe, MonadExceptOf.throw] using h

theorem Avoids.require [Decidable c] (h : e' ≠ e) : Avoids e (require c e') := by
  intro hr
  exact h (require_error.mp hr).2

theorem Avoids.orRaise (h : e' ≠ e) : Avoids e (orRaise o e') := by
  cases o with
  | none => simpa [Avoids, Outcome.orRaise] using h
  | some a => simp [Avoids, Outcome.orRaise]

theorem Avoids.rethrow (hp : p e = true) (h : e' ≠ e) :
    Avoids e (rethrow p e' x) := by
  cases x with
  | ok a => simp [Avoids, Outcome.rethrow]
  | error e₁ =>
    simp only [Avoids, Outcome.rethrow]
    split
    · simpa using h
    · rename_i hne
      intro heq
      cases heq
      exact hne hp

theorem Avoids.bind (hx : Avoids e x)
    (hf : ∀ a, x = .ok a → Avoids e (f a)) : Avoids e (x >>= f) := by
  cases x with
  | error e' => simpa [Avoids, Bind.bind, Except.bind] using hx
  | ok a => exact hf a rfl

theorem Avoids.mapM (hf : ∀ a, Avoids e (f a)) :
    ∀ xs : List α, Avoids e (xs.mapM f)
  | [] => by
    rw [List.mapM_nil]
    exact Avoids.pure
  | x :: xs => by
    rw [List.mapM_cons]
    exact Avoids.bind (hf x) fun _ _ => Avoids.bind (Avoids.mapM hf xs) fun _ _ => Avoids.pure

/-! ## Related lists -/

variable {R : α → β → Prop}

theorem forall₂_mem_right (h : List.Forall₂ R xs ys)
    {y : β} (hy : y ∈ ys) : ∃ x ∈ xs, R x y := by
  induction h with
  | nil => simp at hy
  | cons hr _ ih =>
    rcases List.mem_cons.mp hy with rfl | hy
    · exact ⟨_, by simp, hr⟩
    · obtain ⟨x, hx, hr⟩ := ih hy
      exact ⟨x, by simp [hx], hr⟩

theorem forall₂_mem_left (h : List.Forall₂ R xs ys)
    {x : α} (hx : x ∈ xs) : ∃ y ∈ ys, R x y := by
  induction h with
  | nil => simp at hx
  | cons hr _ ih =>
    rcases List.mem_cons.mp hx with rfl | hx
    · exact ⟨_, by simp, hr⟩
    · obtain ⟨y, hy, hr⟩ := ih hx
      exact ⟨y, by simp [hy], hr⟩

theorem forall₂_pairwise {P : α → α → Prop} {Q : β → β → Prop}
    (hPQ : ∀ x x' y y', R x y → R x' y' → P x x' → Q y y')
    (h : List.Forall₂ R xs ys) (hP : xs.Pairwise P) : ys.Pairwise Q := by
  induction h with
  | nil => exact .nil
  | cons hr hrs ih =>
    rw [List.pairwise_cons] at hP
    refine .cons ?_ (ih hP.2)
    intro y hy
    obtain ⟨x, hx, hxy⟩ := forall₂_mem_right hrs hy
    exact hPQ _ _ _ _ hr hxy (hP.1 x hx)

end Outcome
