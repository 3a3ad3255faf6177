/-
Filling rooms greedily with a demand that is counted in whole units.

Each room has a size, which need not be whole. A round takes from some open
room the least of the demand that is left, a chunk and what is free in the
room; the demand goes down by the whole part of it. Whichever open room a round chooses,
the rounds end, they end with the demand met exactly when the whole parts of
the rooms suffice, and what is taken exceeds the demand by less than a unit for each
room.
-/
import Mathlib.Algebra.BigOperators.Group.List.Basic
import Mathlib.Algebra.Order.BigOperators.Group.List
import Mathlib.Algebra.Order.Floor.Ring
import Mathlib.Data.List.Forall2
import Mathlib.Data.Rat.Floor
import Mathlib.Tactic.Linarith
import Mathlib.Tactic.Ring

namespace Filling

/-- The free part of each room, and the demand that is left. -/
structure State where
  free : List ℚ
  remaining : ℤ
  deriving DecidableEq, Repr

/-- What a round takes from a room. -/
def portion (remaining chunk : ℤ) (free : ℚ) : ℚ := min (min (remaining : ℚ) (chunk : ℚ)) free

/-- One round: some open room gives its portion. -/
def Round (chunk : ℤ) (s s' : State) : Prop :=
  ∃ front free back, s.free = front ++ free :: back ∧ 0 < free ∧
    s' = ⟨front ++ (free - portion s.remaining chunk free) :: back, s.remaining - ⌊portion s.remaining chunk free⌋⟩

/-- How many rooms are open. -/
def openRooms (free : List ℚ) : Nat := free.countP fun x => decide (0 < x)

/-- The measure of the rounds. -/
def State.measure (s : State) : Nat := s.remaining.toNat + openRooms s.free

/-- What has been taken from a room: nothing if it was closed; else a whole number, or all of it. -/
structure Taken (size free : ℚ) : Prop where
  le : free ≤ size
  closed : size ≤ 0 → free = size
  nonneg : 0 < size → 0 ≤ free
  whole : free = 0 ∨ ∃ n : ℤ, size - free = n

/-- What the rounds from a demand over given rooms keep. -/
structure Inv (sizes : List ℚ) (demand : ℤ) (s : State) : Prop where
  nonneg : 0 ≤ s.remaining
  rooms : List.Forall₂ Taken sizes s.free
  counted : s.remaining + (List.zipWith (fun size free => ⌊size - free⌋) sizes s.free).sum = demand

variable {remaining chunk : ℤ}

theorem portion_pos {free : ℚ} (hr : 0 < remaining) (hc : 0 < chunk) (hf : 0 < free) :
    0 < portion remaining chunk free := by
  simp only [portion, lt_min_iff]
  exact ⟨⟨by exact_mod_cast hr, by exact_mod_cast hc⟩, hf⟩

theorem portion_cases (remaining chunk : ℤ) (free : ℚ) :
    portion remaining chunk free = free ∨ portion remaining chunk free = ((min remaining chunk : ℤ) : ℚ) := by
  rw [portion, Int.cast_min]
  rcases min_choice (min (remaining : ℚ) (chunk : ℚ)) free with h | h
  · exact .inr h
  · exact .inl h

theorem portion_le_free (remaining chunk : ℤ) (free : ℚ) : portion remaining chunk free ≤ free := min_le_right _ _

theorem portion_le_remaining (remaining chunk : ℤ) (free : ℚ) : portion remaining chunk free ≤ remaining :=
  (min_le_left _ _).trans (min_le_left _ _)

/-! ## A round -/

/-- A list related to one that is split is split alike. -/
theorem forall₂_append_cons {α β : Type*} {R : α → β → Prop} {b : β} {back : List β} : ∀ {as : List α} {front : List β},
    List.Forall₂ R as (front ++ b :: back) → ∃ as' a as'', as = as' ++ a :: as'' ∧ List.Forall₂ R as' front ∧ R a b ∧
      List.Forall₂ R as'' back
  | _, [], .cons hab hback => ⟨[], _, _, rfl, .nil, hab, hback⟩
  | _, _ :: _, .cons hac h => by
    obtain ⟨as', a, as'', rfl, hfront, hab, hback⟩ := forall₂_append_cons h
    exact ⟨_ :: as', a, as'', rfl, .cons hac hfront, hab, hback⟩

theorem Taken.refl (size : ℚ) : Taken size size where
  le := le_rfl
  closed _ := rfl
  nonneg h := h.le
  whole := .inr ⟨0, by simp⟩

variable {size : ℚ}

theorem Taken.portion {free : ℚ} (h : Taken size free) (hr : 0 < remaining) (hc : 0 < chunk)
    (hf : 0 < free) : Taken size (free - portion remaining chunk free) ∧
      ⌊size - (free - Filling.portion remaining chunk free)⌋ =
        ⌊size - free⌋ + ⌊Filling.portion remaining chunk free⌋ := by
  have hpos := portion_pos hr hc hf
  have hle := portion_le_free remaining chunk free
  -- what was taken before is whole, since the room is open
  obtain ⟨n, hn⟩ : ∃ n : ℤ, size - free = n := by
    rcases h.whole with hz | hn
    · exact absurd hz hf.ne'
    · exact hn
  have hsum : size - (free - Filling.portion remaining chunk free) =
      (n : ℚ) + Filling.portion remaining chunk free := by
    rw [← hn]
    ring
  refine ⟨⟨?_, ?_, ?_, ?_⟩, ?_⟩
  · linarith [h.le]
  · intro hz
    linarith [h.le]
  · intro _
    linarith
  · rcases portion_cases remaining chunk free with hall | hwhole
    · left
      rw [hall, sub_self]
    · right
      exact ⟨n + min remaining chunk, by rw [hsum, hwhole, Int.cast_add]⟩
  · rw [hsum, hn, Int.floor_intCast_add, Int.floor_intCast]

variable {sizes : List ℚ} {demand : ℤ} {s : State}

theorem Inv.round {s' : State} (h : Inv sizes demand s) (hc : 0 < chunk)
    (hr : 0 < s.remaining) (hround : Round chunk s s') : Inv sizes demand s' := by
  obtain ⟨front, free, back, hsplit, hf, rfl⟩ := hround
  have hrooms := h.rooms
  rw [hsplit] at hrooms
  obtain ⟨sizes', size, sizes'', rfl, hfront, hroom, hback⟩ := forall₂_append_cons hrooms
  obtain ⟨hroom', hfloor⟩ := hroom.portion hr hc hf
  refine ⟨?_, List.rel_append hfront (.cons hroom' hback), ?_⟩
  · have hle : ⌊portion s.remaining chunk free⌋ ≤ s.remaining := by
      rw [← Int.floor_intCast (R := ℚ) s.remaining]
      exact Int.floor_le_floor (portion_le_remaining _ _ _)
    show 0 ≤ s.remaining - _
    omega
  · have hcounted := h.counted
    rw [hsplit, List.zipWith_append hfront.length_eq] at hcounted
    rw [List.zipWith_append hfront.length_eq]
    simp only [List.zipWith_cons_cons, List.sum_append, List.sum_cons, hfloor] at hcounted ⊢
    omega

theorem measure_round {s' : State} (hc : 0 < chunk) (hr : 0 < s.remaining) (hround : Round chunk s s')
    (hnonneg : 0 ≤ s'.remaining) : s'.measure < s.measure := by
  obtain ⟨front, free, back, hsplit, hf, rfl⟩ := hround
  have hpos := portion_pos hr hc hf
  have hfloor : 0 ≤ ⌊portion s.remaining chunk free⌋ := Int.floor_nonneg.mpr hpos.le
  simp only [State.measure, openRooms, hsplit, List.countP_append, List.countP_cons]
  have hopen : (decide (0 < free) : Bool) = true := decide_eq_true hf
  rw [hopen, if_pos rfl]
  dsimp only at hnonneg
  rcases portion_cases s.remaining chunk free with hall | hwhole
  · -- the room is closed
    rw [hall, sub_self, if_neg (by simp)]
    rw [hall] at hnonneg hfloor
    omega
  · -- the demand falls by a unit at least
    have hone : 1 ≤ ⌊portion s.remaining chunk free⌋ := by
      rw [hwhole, Int.floor_intCast]
      omega
    split <;> omega

/-! ## The end -/

/-- The whole units that rooms can give. -/
def capacity (sizes : List ℚ) : ℤ := (sizes.map fun size => ⌊max 0 size⌋).sum

/-- What was taken from the rooms. -/
def taken (sizes free : List ℚ) : ℚ := (List.zipWith (fun size free => size - free) sizes free).sum

/-- What was taken from the rooms in whole units. -/
def units (sizes free : List ℚ) : ℤ := (List.zipWith (fun size free => ⌊size - free⌋) sizes free).sum

theorem Inv.start (sizes : List ℚ) (h : 0 ≤ demand) : Inv sizes demand ⟨sizes, demand⟩ where
  nonneg := h
  rooms := List.forall₂_same.mpr fun size _ => Taken.refl size
  counted := by
    simp

theorem Taken.le_max {free : ℚ} (h : Taken size free) : size - free ≤ max 0 size := by
  rcases le_or_gt size 0 with hz | hpos
  · rw [h.closed hz, sub_self]
    exact le_max_left _ _
  · have := h.nonneg hpos
    exact le_max_of_le_right (by linarith)

theorem Taken.eq_max {free : ℚ} (h : Taken size free) (hfree : free ≤ 0) : size - free = max 0 size := by
  rcases le_or_gt size 0 with hz | hpos
  · rw [h.closed hz, sub_self, max_eq_left hz]
  · have hzero : free = 0 := le_antisymm hfree (h.nonneg hpos)
    rw [hzero, sub_zero, max_eq_right hpos.le]

variable {free : List ℚ}

theorem units_le_capacity (h : List.Forall₂ Taken sizes free) : units sizes free ≤ capacity sizes := by
  induction h with
  | nil => exact le_rfl
  | cons hroom _ ih =>
    simp only [units, capacity, List.zipWith_cons_cons, List.map_cons, List.sum_cons] at ih ⊢
    exact add_le_add (Int.floor_le_floor hroom.le_max) ih

theorem units_eq_capacity (h : List.Forall₂ Taken sizes free) (hclosed : ∀ x ∈ free, x ≤ 0) :
    units sizes free = capacity sizes := by
  induction h with
  | nil => rfl
  | cons hroom _ ih =>
    rw [List.forall_mem_cons] at hclosed
    simp only [units, capacity, List.zipWith_cons_cons, List.map_cons, List.sum_cons] at ih ⊢
    rw [hroom.eq_max hclosed.1, ih hclosed.2]

theorem units_le_taken (sizes free : List ℚ) : (units sizes free : ℚ) ≤ taken sizes free := by
  induction sizes generalizing free with
  | nil => simp [units, taken]
  | cons size sizes ih =>
    cases free with
    | nil => simp [units, taken]
    | cons x free =>
      have hrest := ih free
      simp only [units, taken, List.zipWith_cons_cons, List.sum_cons, Int.cast_add] at hrest ⊢
      exact add_le_add (Int.floor_le _) hrest

theorem taken_le_units (sizes free : List ℚ) : taken sizes free ≤ units sizes free + sizes.length := by
  induction sizes generalizing free with
  | nil => simp [units, taken]
  | cons size sizes ih =>
    cases free with
    | nil =>
      simp only [units, taken, List.zipWith_nil_right, List.sum_nil, Int.cast_zero, zero_add]
      positivity
    | cons x free =>
      have hrest := ih free
      have hroom := (Int.lt_floor_add_one (size - x)).le
      simp only [units, taken, List.zipWith_cons_cons, List.sum_cons, List.length_cons, Int.cast_add, Nat.cast_add,
        Nat.cast_one] at hrest ⊢
      linarith

theorem taken_lt_units {x : ℚ} :
    taken (size :: sizes) (x :: free) < units (size :: sizes) (x :: free) + (size :: sizes).length := by
  have hrest := taken_le_units sizes free
  have hroom := Int.lt_floor_add_one (size - x)
  simp only [units, taken, List.zipWith_cons_cons, List.sum_cons, List.length_cons, Int.cast_add, Nat.cast_add,
    Nat.cast_one] at hrest ⊢
  linarith

/-- Rounds that meet the demand: the rooms had the capacity for it, and what was taken is the demand, up to less than
a unit for each room. -/
theorem Inv.met (h : Inv sizes demand s) (hmet : s.remaining ≤ 0)
    (hne : sizes ≠ []) : demand ≤ capacity sizes ∧ (demand : ℚ) ≤ taken sizes s.free ∧
      taken sizes s.free < demand + sizes.length := by
  have hunits : units sizes s.free = demand := by
    have hcounted := h.counted
    have hnonneg := h.nonneg
    rw [units]
    omega
  refine ⟨hunits ▸ units_le_capacity h.rooms, hunits ▸ units_le_taken sizes s.free, ?_⟩
  rw [← hunits]
  have hrooms := h.rooms
  cases sizes with
  | nil => exact absurd rfl hne
  | cons size sizes =>
    cases hfree : s.free with
    | nil =>
      rw [hfree] at hrooms
      cases hrooms
    | cons x free => exact taken_lt_units

theorem Inv.stuck (h : Inv sizes demand s) (hleft : 0 < s.remaining)
    (hclosed : ∀ x ∈ s.free, x ≤ 0) : capacity sizes < demand := by
  have hcounted := h.counted
  have hunits := units_eq_capacity h.rooms hclosed
  rw [units] at hunits
  omega

end Filling
