/-
The ISO texts of instants in UTC, as a calendar writes them, and their order.

Texts are compared as texts. The fields of a text are numbers of fixed widths,
so the first field that differs decides (`stamp_lt`); within a second a `+`
stands where another text has the `.` of its fraction, and comes before it.
So the order of the texts is that of the instants (`iso_lt_iff`).
-/
import ThreeAgent.Lib.Padded

namespace Clock

/-! ## The calendar -/

/-- The days before a year that starts in March. -/
def yearStart (y : Int) : Int := 365 * y + y / 4 - y / 100 + y / 400

theorem yearStart_mono {y y' : Int} (h : y ≤ y') : yearStart y ≤ yearStart y' := by
  unfold yearStart
  omega

theorem yearStart_era (y era : Int) : yearStart (y + era * 400) = yearStart y + era * 146097 := by
  have h4 : (y + era * 400) / 4 = y / 4 + era * 100 := by omega
  have h100 : (y + era * 400) / 100 = y / 100 + era * 4 := by omega
  have h400 : (y + era * 400) / 400 = y / 400 + era := by omega
  unfold yearStart
  omega

theorem yearOfEra_bounds {doe yoe : Int} (h0 : 0 ≤ doe) (h1 : doe < 146097)
    (hy : yoe = (doe - doe / 1460 + doe / 36524 - doe / 146096) / 365) :
    0 ≤ yoe ∧ yoe ≤ 399 ∧ 365 * yoe + yoe / 4 - yoe / 100 ≤ doe ∧
      doe < 365 * (yoe + 1) + (yoe + 1) / 4 - (yoe + 1) / 100 + (yoe + 1) / 400 := by
  generalize hc : doe / 1460 = c at hy
  generalize hd : doe / 36524 = d at hy
  generalize he : doe / 146096 = e at hy
  -- the quotients are linear once the century and the year of the four are known
  obtain ⟨t, ht⟩ : ∃ t, t = yoe - 4 * c := ⟨_, rfl⟩
  have htcases : t = -1 ∨ t = 0 ∨ t = 1 ∨ t = 2 ∨ t = 3 := by omega
  have hdcases : (d = 0 ∨ d = 1 ∨ d = 2 ∨ d = 3) ∧ e = 0 ∨ d = 4 ∧ e = 1 := by omega
  refine ⟨by omega, by omega, ?_⟩
  rcases hdcases with ⟨rfl | rfl | rfl | rfl, rfl⟩ | ⟨rfl, rfl⟩ <;> rcases htcases with rfl | rfl | rfl | rfl | rfl <;>
    refine ⟨by omega, by omega⟩

theorem civil_spec (day : Int) : ∃ y doy mp, day + 719468 = yearStart y + doy ∧ 0 ≤ doy ∧ doy ≤ 365 ∧
    yearStart y + doy < yearStart (y + 1) ∧ mp = (5 * doy + 2) / 153 ∧
    civil day = (y + (if mp < 10 then 0 else 1), if mp < 10 then mp + 3 else mp - 9, doy - (153 * mp + 2) / 5 + 1) := by
  generalize hera : (day + 719468) / 146097 = era
  generalize hdoe : day + 719468 - era * 146097 = doe
  generalize hyoe : (doe - doe / 1460 + doe / 36524 - doe / 146096) / 365 = yoe
  have hbounds := yearOfEra_bounds (by omega) (by omega) hyoe.symm
  refine ⟨yoe + era * 400, doe - (365 * yoe + yoe / 4 - yoe / 100), (5 * (doe - (365 * yoe + yoe / 4 - yoe / 100)) + 2) / 153, ?_⟩
  have hdoy : 0 ≤ doe - (365 * yoe + yoe / 4 - yoe / 100) ∧ doe - (365 * yoe + yoe / 4 - yoe / 100) ≤ 365 := by omega
  have hstart : yearStart yoe = 365 * yoe + yoe / 4 - yoe / 100 := by
    unfold yearStart
    omega
  have hnext : yearStart (yoe + 1) = 365 * (yoe + 1) + (yoe + 1) / 4 - (yoe + 1) / 100 + (yoe + 1) / 400 := rfl
  rw [show yoe + era * 400 + 1 = yoe + 1 + era * 400 by omega, yearStart_era, yearStart_era, hstart, hnext]
  refine ⟨by omega, hdoy.1, hdoy.2, by omega, rfl, ?_⟩
  · simp only [civil, hera, hdoe, hyoe]
    refine Prod.ext ?_ rfl
    dsimp only
    split <;> split <;> omega

theorem civil_lt {day day' : Int} (h : day < day') : (civil day).1 < (civil day').1 ∨ (civil day).1 = (civil day').1 ∧
    ((civil day).2.1 < (civil day').2.1 ∨ (civil day).2.1 = (civil day').2.1 ∧ (civil day).2.2 < (civil day').2.2) := by
  obtain ⟨y, doy, mp, hday, hdoy0, hdoy1, hnext, hmp, hcivil⟩ := civil_spec day
  obtain ⟨y', doy', mp', hday', hdoy0', hdoy1', hnext', hmp', hcivil'⟩ := civil_spec day'
  rw [hcivil, hcivil']
  dsimp only
  have hyear : y < y' ∨ y = y' ∧ doy < doy' := by
    rcases lt_trichotomy y y' with hlt | rfl | hgt
    · exact .inl hlt
    · exact .inr ⟨rfl, by omega⟩
    · have := yearStart_mono (show y' + 1 ≤ y by omega)
      omega
  split <;> split <;> omega

theorem civil_bounds {day : Int} (h0 : -719162 ≤ day) (h1 : day ≤ 2932896) :
    (0 ≤ (civil day).1 ∧ (civil day).1 < 10 ^ 4) ∧ (0 ≤ (civil day).2.1 ∧ (civil day).2.1 < 10 ^ 2) ∧
      0 ≤ (civil day).2.2 ∧ (civil day).2.2 < 10 ^ 2 := by
  obtain ⟨y, doy, mp, hday, hdoy0, hdoy1, hnext, hmp, hcivil⟩ := civil_spec day
  rw [hcivil]
  dsimp only
  have hy0 : 0 ≤ y := by
    unfold yearStart at hday hnext
    omega
  have hy1 : y ≤ 9998 ∨ y = 9999 ∧ doy ≤ 305 := by
    unfold yearStart at hday hnext
    omega
  refine ⟨⟨?_, ?_⟩, ⟨?_, ?_⟩, ?_, ?_⟩ <;> (try split) <;> omega

/-! ## Texts -/

/-- `YYYY-MM-DDTHH:MM:SS` of a second. -/
def stamp (secs : Int) : List Char :=
  padded 4 (civil (secs / 86400)).1 ++ '-' :: (padded 2 (civil (secs / 86400)).2.1 ++ '-' ::
    (padded 2 (civil (secs / 86400)).2.2 ++ 'T' :: (padded 2 (secs % 86400 / 3600) ++ ':' ::
      (padded 2 (secs % 86400 / 60 % 60) ++ ':' :: padded 2 (secs % 86400 % 60)))))

/-- The fraction of a second, left out when it is zero. -/
def fraction (us : Int) : List Char := if us = 0 then [] else '.' :: padded 6 us

theorem toList_iso (t : Int) :
    (iso t).toList = stamp (t / 1000000) ++ (fraction (t % 1000000) ++ ['+', '0', '0', ':', '0', '0']) := by
  simp [iso, stamp, fraction]

/-- The instants that a `datetime` in UTC can have. -/
def InRange (t : Int) : Prop := minInstant ≤ t ∧ t ≤ maxInstant

instance (t : Int) : Decidable (InRange t) := inferInstanceAs (Decidable (_ ∧ _))

theorem padded_width {w : Nat} {n : Int} (hw : 0 < w) (h0 : 0 ≤ n) (h1 : n < 10 ^ w) : (padded w n).length = w := by
  obtain ⟨k, rfl⟩ := Int.eq_ofNat_of_zero_le h0
  exact Padded.length_padded hw (by exact_mod_cast h1)

/-! ## The order of the texts -/

theorem append_lt_append {xs ys : List Char} (hlen : xs.length = ys.length) (h : xs < ys) (a b : List Char) :
    xs ++ a < ys ++ b := by
  induction xs generalizing ys with
  | nil =>
    rw [List.length_nil, eq_comm, List.length_eq_zero_iff] at hlen
    exact absurd (hlen ▸ h) (List.not_lt_nil _)
  | cons x xs ih =>
    cases ys with
    | nil => cases hlen
    | cons y ys =>
      rcases List.cons_lt_cons_iff.mp h with hxy | ⟨rfl, hrest⟩
      · exact List.cons_lt_cons_iff.mpr (.inl hxy)
      · exact List.cons_lt_cons_iff.mpr (.inr ⟨rfl, ih (Nat.succ.inj hlen) hrest⟩)

theorem padded_append_lt {w : Nat} {n m : Int} (hw : 0 < w) (h0 : 0 ≤ n) (h1 : m < 10 ^ w) (h : n < m) (a b : List Char) :
    padded w n ++ a < padded w m ++ b := by
  refine append_lt_append ?_ ?_ a b
  · rw [padded_width hw h0 (by omega), padded_width hw (by omega) h1]
  · obtain ⟨k, rfl⟩ := Int.eq_ofNat_of_zero_le h0
    obtain ⟨l, rfl⟩ := Int.eq_ofNat_of_zero_le (show 0 ≤ m by omega)
    exact Padded.lt_of_lt hw (by exact_mod_cast h1) (by exact_mod_cast h)

theorem padded_append_lt_right {w : Nat} {n m : Int} {c : Char} {a b : List Char} (heq : n = m) (h : a < b) :
    padded w n ++ c :: a < padded w m ++ c :: b := by
  subst heq
  exact List.append_left_lt (List.cons_lt_cons_iff.mpr (.inr ⟨rfl, h⟩))

theorem day_range {t : Int} (h : InRange t) : -719162 ≤ t / 1000000 / 86400 ∧ t / 1000000 / 86400 ≤ 2932896 := by
  unfold InRange minInstant maxInstant at h
  omega

theorem stamp_append (secs : Int) (a : List Char) : stamp secs ++ a =
    padded 4 (civil (secs / 86400)).1 ++ '-' :: (padded 2 (civil (secs / 86400)).2.1 ++ '-' ::
      (padded 2 (civil (secs / 86400)).2.2 ++ 'T' :: (padded 2 (secs % 86400 / 3600) ++ ':' ::
        (padded 2 (secs % 86400 / 60 % 60) ++ ':' :: (padded 2 (secs % 86400 % 60) ++ a))))) := by
  simp only [stamp, List.append_assoc, List.cons_append]

theorem stamp_lt {t t' : Int} (ht : InRange t) (ht' : InRange t') (h : t / 1000000 < t' / 1000000) (a b : List Char) :
    stamp (t / 1000000) ++ a < stamp (t' / 1000000) ++ b := by
  obtain ⟨⟨hy0, hy1⟩, ⟨hm0, hm1⟩, hd0, hd1⟩ := civil_bounds (day_range ht).1 (day_range ht).2
  obtain ⟨⟨hy0', hy1'⟩, ⟨hm0', hm1'⟩, hd0', hd1'⟩ := civil_bounds (day_range ht').1 (day_range ht').2
  rw [stamp_append, stamp_append]
  by_cases hday : t / 1000000 / 86400 < t' / 1000000 / 86400
  · rcases civil_lt hday with hy | ⟨hy, hm | ⟨hm, hd⟩⟩
    · exact padded_append_lt (by decide) hy0 hy1' hy _ _
    · exact padded_append_lt_right hy (padded_append_lt (by decide) hm0 hm1' hm _ _)
    · exact padded_append_lt_right hy (padded_append_lt_right hm (padded_append_lt (by decide) hd0 hd1' hd _ _))
  · have heq : t / 1000000 / 86400 = t' / 1000000 / 86400 := by omega
    rw [heq]
    refine padded_append_lt_right rfl (padded_append_lt_right rfl (padded_append_lt_right rfl ?_))
    have hs : 0 ≤ t / 1000000 % 86400 := by omega
    have hs' : t' / 1000000 % 86400 < 86400 := by omega
    have hof : t / 1000000 % 86400 < t' / 1000000 % 86400 := by omega
    generalize t / 1000000 % 86400 = s at hs hof ⊢
    generalize t' / 1000000 % 86400 = s' at hs' hof ⊢
    by_cases hhour : s / 3600 < s' / 3600
    · exact padded_append_lt (by decide) (by omega) (by omega) hhour _ _
    · refine padded_append_lt_right (by omega) ?_
      by_cases hminute : s / 60 % 60 < s' / 60 % 60
      · exact padded_append_lt (by decide) (by omega) (by omega) hminute _ _
      · exact padded_append_lt_right (by omega) (padded_append_lt (by decide) (by omega) (by omega) (by omega) _ _)

theorem iso_lt {t t' : Int} (ht : InRange t) (ht' : InRange t') (h : t < t') : iso t < iso t' := by
  rw [String.lt_iff_toList_lt, toList_iso, toList_iso]
  by_cases hsecs : t / 1000000 < t' / 1000000
  · exact stamp_lt ht ht' hsecs _ _
  · have heq : t / 1000000 = t' / 1000000 := by omega
    rw [heq]
    refine List.append_left_lt ?_
    -- within a second only the earlier instant can be without a fraction
    rw [fraction, fraction, if_neg (show t' % 1000000 ≠ 0 by omega)]
    by_cases hzero : t % 1000000 = 0
    · rw [if_pos hzero]
      exact List.cons_lt_cons_iff.mpr (.inl (by decide))
    · rw [if_neg hzero]
      refine List.cons_lt_cons_iff.mpr (.inr ⟨rfl, ?_⟩)
      exact padded_append_lt (by decide) (by omega) (by omega) (by omega) _ _

/-- **The order of the texts is that of the instants.** -/
theorem iso_lt_iff {t t' : Int} (ht : InRange t) (ht' : InRange t') : iso t < iso t' ↔ t < t' := by
  refine ⟨?_, iso_lt ht ht'⟩
  intro h
  rcases lt_trichotomy t t' with hlt | rfl | hgt
  · exact hlt
  · exact absurd h (lt_irrefl _)
  · exact absurd (iso_lt ht' ht hgt) (lt_asymm h)

theorem iso_le_iff {t t' : Int} (ht : InRange t) (ht' : InRange t') : iso t ≤ iso t' ↔ t ≤ t' := by
  rw [← not_lt, iso_lt_iff ht' ht, not_lt]

theorem iso_inj {t t' : Int} (ht : InRange t) (ht' : InRange t') : iso t = iso t' ↔ t = t' := by
  rw [le_antisymm_iff, iso_le_iff ht ht', iso_le_iff ht' ht, ← le_antisymm_iff]

end Clock
