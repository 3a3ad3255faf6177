/-
What the cron search finds: `_next_cron` against the minutes it visits, and a
cron field against its grammar.

The search visits the whole minutes after an instant in their order and leaves
none out (`Clock.wholeMinute_after`), so the first one that matches is the least
(`searchCron_first`), and a search that runs out has seen every minute of the
horizon (`searchCron_exhausted`). Nothing is assumed of a zone's local time: a
minute that a zone repeats or skips is still one instant of the search.
-/
import Mathlib.Order.Bounds.Defs
import ThreeAgent.TickFacts

/-! ## Whole minutes -/

namespace Clock

theorem wholeMinute_after {t u : Int} (hu : minute ∣ u) (h : t < u) :
    ∃ k : Nat, u = floorMinute t + minute + k * minute := by
  obtain ⟨q, rfl⟩ := hu
  refine ⟨(q - t / minute - 1).toNat, ?_⟩
  unfold floorMinute
  unfold minute at h ⊢
  omega

theorem floorMinute_whole (t : Int) (k : Nat) : minute ∣ floorMinute t + minute + k * minute := by
  refine ⟨t / minute + 1 + k, ?_⟩
  unfold floorMinute
  ring

end Clock

namespace ThreeAgent.PersistentScheduler

open PyText Outcome
open Clock (minute)

/-! ## The search -/

section Search

variable {zones : Zones} {m : CronMatcher} {tz : String} {n : Nat} {cursor t : Int}

theorem searchCron_cases : (m.isMatch (zones.localTime tz cursor) = true ∧
      searchCron zones m tz (n + 1) cursor = .ok cursor) ∨
    (m.isMatch (zones.localTime tz cursor) = false ∧
      (searchCron zones m tz (n + 1) cursor = .error dateOverflow ∨
        searchCron zones m tz (n + 1) cursor = searchCron zones m tz n (cursor + minute))) := by
  rw [searchCron]
  by_cases hmatch : m.isMatch (zones.localTime tz cursor) = true
  · rw [if_pos hmatch]
    exact .inl ⟨hmatch, rfl⟩
  · rw [if_neg hmatch]
    refine .inr ⟨Bool.eq_false_iff.mpr hmatch, ?_⟩
    by_cases hdate : Clock.minInstant ≤ cursor + minute ∧ cursor + minute ≤ Clock.maxInstant
    · right
      simp only [Clock.plus, require, if_pos hdate, bind, Except.bind, pure, Except.pure]
    · left
      simp only [Clock.plus, require, if_neg hdate, bind, Except.bind]

theorem minute_shift (cursor : Int) (k : Nat) :
    cursor + minute + k * minute = cursor + (k + 1 : Nat) * minute := by
  push_cast
  ring

theorem searchCron_first (h : searchCron zones m tz n cursor = .ok t) :
    ∃ k < n, t = cursor + k * minute ∧ m.isMatch (zones.localTime tz t) = true ∧
      ∀ j < k, m.isMatch (zones.localTime tz (cursor + j * minute)) = false := by
  induction n generalizing cursor with
  | zero => cases h
  | succ n ih =>
    rcases searchCron_cases (n := n) with ⟨hmatch, hr⟩ | ⟨hmatch, hr | hr⟩
    · rw [hr] at h
      cases h
      exact ⟨0, by omega, by simp, hmatch, by omega⟩
    · rw [hr] at h
      cases h
    · rw [hr] at h
      obtain ⟨k, hk, rfl, hfound, hbefore⟩ := ih h
      refine ⟨k + 1, by omega, minute_shift _ _, hfound, fun j hj => ?_⟩
      cases j with
      | zero => simpa using hmatch
      | succ j =>
        rw [← minute_shift]
        exact hbefore j (by omega)

theorem searchCron_exhausted
    (h : searchCron zones m tz n cursor = .error (fail "CRON_NEXT_RUN_OUTSIDE_SEARCH_HORIZON")) :
    ∀ k < n, m.isMatch (zones.localTime tz (cursor + k * minute)) = false := by
  induction n generalizing cursor with
  | zero => omega
  | succ n ih =>
    rcases searchCron_cases (n := n) with ⟨hmatch, hr⟩ | ⟨hmatch, hr | hr⟩
    · rw [hr] at h
      cases h
    · rw [hr] at h
      cases h
    · rw [hr] at h
      intro k hk
      cases k with
      | zero => simpa using hmatch
      | succ k =>
        rw [← minute_shift]
        exact ih h k (by omega)

end Search

/-! ## The next run -/

variable {zones : Zones} {expression tzName : String} {after : Int} {m : CronMatcher}

/-- What a call of `_next_cron` does once its expression is parsed: it raises before the search, or it
searches the minutes from the first one after the instant. -/
theorem nextCron_cases (hm : CronMatcher.parse expression = .ok m) :
    nextCron zones expression tzName after = .error dateOverflow ∨
    (∃ e, timezone zones tzName = .error e ∧ nextCron zones expression tzName after = .error e) ∨
    nextCron zones expression tzName after =
      searchCron zones m (strip tzName) maxCronSearchMinutes (Clock.floorMinute after + minute) := by
  cases htz : timezone zones tzName with
  | error e =>
    refine .inr (.inl ⟨e, rfl, ?_⟩)
    simp only [nextCron, hm, htz, bind, Except.bind]
  | ok tz =>
    have hkey := htz
    simp only [timezone, bind_ok, pure_ok] at hkey
    obtain ⟨_, -, _, -, _, -, rfl⟩ := hkey
    by_cases hdate : Clock.minInstant ≤ Clock.floorMinute after + minute ∧
        Clock.floorMinute after + minute ≤ Clock.maxInstant
    · refine .inr (.inr (nextCron_eq hm htz ?_))
      simp only [Clock.plus, require, if_pos hdate, bind, Except.bind, pure, Except.pure]
    · left
      simp only [nextCron, hm, htz, Clock.plus, require, if_neg hdate, bind, Except.bind]

theorem timezone_error {e : Raised} (h : timezone zones tzName = .error e) :
    e ≠ fail "CRON_NEXT_RUN_OUTSIDE_SEARCH_HORIZON" := by
  unfold timezone require at h
  simp only [bind, Except.bind] at h
  split at h
  · rename_i herror
    split at herror <;> cases herror
    cases h
    decide
  · split at h
    · rename_i herror
      split at herror <;> cases herror
      cases h
      decide
    · split at h
      · rename_i herror
        split at herror <;> cases herror
        cases h
        decide
      · cases h

/-- **The next run of a cron schedule is the least whole minute after the instant that matches**, and
where the search ends at its horizon, no minute up to the horizon does. -/
theorem nextCron_least (hm : CronMatcher.parse expression = .ok m) :
    (∀ t, nextCron zones expression tzName after = .ok t →
      IsLeast {u | Clock.minute ∣ u ∧ after < u ∧ m.isMatch (zones.localTime (strip tzName) u) = true} t) ∧
    (nextCron zones expression tzName after = .error (fail "CRON_NEXT_RUN_OUTSIDE_SEARCH_HORIZON") →
      ∀ u, Clock.minute ∣ u → after < u → u ≤ Clock.floorMinute after + maxCronSearchMinutes * Clock.minute →
        m.isMatch (zones.localTime (strip tzName) u) = false) := by
  have hpos : (0 : Int) < Clock.minute := by decide
  constructor
  · intro t ht
    have hgt := nextCron_gt ht
    rcases nextCron_cases hm with hr | ⟨e, -, hr⟩ | hr <;> rw [hr] at ht
    · cases ht
    · cases ht
    obtain ⟨k, -, rfl, hmatch, hbefore⟩ := searchCron_first ht
    refine ⟨⟨Clock.floorMinute_whole _ _, hgt, hmatch⟩, fun u ⟨hwhole, hafter, hu⟩ => ?_⟩
    obtain ⟨j, rfl⟩ := Clock.wholeMinute_after hwhole hafter
    by_contra hless
    have hj : j < k := by
      by_contra hkj
      exact hless (by gcongr; omega)
    rw [hbefore j hj] at hu
    cases hu
  · intro herror u hwhole hafter hle
    rcases nextCron_cases hm with hr | ⟨e, htz, hr⟩ | hr <;> rw [hr] at herror
    · cases herror
    · cases herror
      exact absurd rfl (timezone_error htz)
    obtain ⟨j, rfl⟩ := Clock.wholeMinute_after hwhole hafter
    refine searchCron_exhausted herror j ?_
    by_contra hj
    have hfar : (maxCronSearchMinutes : Int) * Clock.minute ≤ j * Clock.minute := by gcongr; omega
    omega

/-- The schedule of the leap days: the day it finds, and the year it does not look past. -/
theorem nextCron_least_leap :
    IsLeast {u | Clock.minute ∣ u ∧ leapDay - Clock.minute < u ∧
      leapMatcher.isMatch (gregorian.localTime (strip "UTC") u) = true} leapDay ∧
    ∀ u, Clock.minute ∣ u → leapDay < u →
      u ≤ Clock.floorMinute leapDay + maxCronSearchMinutes * Clock.minute →
        leapMatcher.isMatch (gregorian.localTime (strip "UTC") u) = false :=
  ⟨(nextCron_least parse_leap).1 leapDay nextCron_leap, (nextCron_least parse_leap).2 nextCron_after_leap⟩

end ThreeAgent.PersistentScheduler
