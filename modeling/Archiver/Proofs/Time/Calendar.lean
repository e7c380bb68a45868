import Mathlib.Data.List.Basic
import Archiver.Timestamp

namespace Archiver

/-- In an era of 400 years, each taken from March, the year of a day is the one whose days the day
lies among. -/
theorem yearOfEra_bounds {doe yoe : Int} (h0 : 0 ≤ doe) (h1 : doe ≤ 146096)
    (hy : (doe - doe / 1460 + doe / 36524 - doe / 146096) / 365 = yoe) :
    0 ≤ yoe ∧ yoe ≤ 399 ∧ 365 * yoe + yoe / 4 - yoe / 100 ≤ doe ∧
      doe ≤ 365 * yoe + yoe / 4 - yoe / 100 + 365 := by
  have hyb : 0 ≤ yoe ∧ yoe ≤ 399 := by omega
  by_cases hlast : doe = 146096
  · subst hlast
    omega
  · have hc : doe / 146096 = 0 := by omega
    rw [hc] at hy
    have hcentury : yoe / 100 = doe / 36524 := by omega
    have hq : 365 * yoe ≤ doe - doe / 1460 + doe / 36524 ∧
      doe - doe / 1460 + doe / 36524 ≤ 365 * yoe + 364 := by omega
    have hk : yoe / 4 ≤ doe / 1460 := by omega
    have hk' : doe / 1460 ≤ yoe / 4 + 1 := by omega
    rw [hcentury]
    omega

/-- Only a year that ends in the February of a leap year has a day 365, counted from 0. -/
theorem yearOfEra_leap {doe yoe : Int} (h0 : 0 ≤ doe) (h1 : doe ≤ 146096)
    (hy : (doe - doe / 1460 + doe / 36524 - doe / 146096) / 365 = yoe)
    (hl : doe = 365 * yoe + yoe / 4 - yoe / 100 + 365) :
    yoe % 4 = 3 ∧ (yoe % 100 ≠ 99 ∨ yoe = 399) := by
  by_cases hlast : doe = 146096
  · subst hlast
    omega
  · have hc : doe / 146096 = 0 := by omega
    rw [hc] at hy
    have hcentury : yoe / 100 = doe / 36524 := by omega
    have hq : 365 * yoe ≤ doe - doe / 1460 + doe / 36524 ∧
      doe - doe / 1460 + doe / 36524 ≤ 365 * yoe + 364 := by omega
    rw [hcentury] at hl
    have hk : yoe / 4 + 1 = doe / 1460 := by omega
    constructor
    · omega
    · left
      omega

/-- What `Day.ofNumber` computes on its way: the era, the year and the day of the year from March,
the month from March and the day of the month. -/
theorem ofNumber_parts (n : Int) : ∃ era yoe doy mp : Int,
    n + 719468 = era * 146097 + (365 * yoe + yoe / 4 - yoe / 100) + doy ∧
    0 ≤ yoe ∧ yoe ≤ 399 ∧ 0 ≤ doy ∧ doy ≤ 365 ∧
    (doy = 365 → yoe % 4 = 3 ∧ (yoe % 100 ≠ 99 ∨ yoe = 399)) ∧
    mp = (5 * doy + 2) / 153 ∧
    Day.ofNumber n =
      ⟨if (if mp < 10 then mp + 3 else mp - 9) ≤ 2 then yoe + era * 400 + 1 else yoe + era * 400,
        (if mp < 10 then mp + 3 else mp - 9).toNat, (doy - (153 * mp + 2) / 5 + 1).toNat⟩ := by
  have h0 : 0 ≤ n + 719468 - (n + 719468) / 146097 * 146097 := by omega
  have h1 : n + 719468 - (n + 719468) / 146097 * 146097 ≤ 146096 := by omega
  obtain ⟨hy0, hy1, hlo, hhi⟩ := yearOfEra_bounds h0 h1 rfl
  have hleap := yearOfEra_leap h0 h1 rfl
  refine ⟨(n + 719468) / 146097, _, _, _, ?_, hy0, hy1, ?_, ?_, ?_, rfl, rfl⟩
  · omega
  · omega
  · omega
  · intro h
    exact hleap (by omega)

theorem number_ofNumber (n : Int) : (Day.ofNumber n).number = n := by
  obtain ⟨era, yoe, doy, mp, hn, hy0, hy1, hd0, hd1, _, hmp, hday⟩ := ofNumber_parts n
  have hm : 0 ≤ mp ∧ mp ≤ 11 := by omega
  have hd : 0 ≤ doy - (153 * mp + 2) / 5 := by omega
  rw [hday, Day.number]
  by_cases hlate : mp < 10
  · have hmonth : ¬ mp + 3 ≤ 2 := by omega
    have hmonthNat : ¬ (mp + 3).toNat ≤ 2 := by omega
    simp only [if_pos hlate, if_neg hmonth, if_neg hmonthNat]
    omega
  · have hmonth : mp - 9 ≤ 2 := by omega
    have hmonthNat : (mp - 9).toNat ≤ 2 := by omega
    simp only [if_neg hlate, if_pos hmonth, if_pos hmonthNat]
    omega

theorem ofNumber_month (n : Int) : 1 ≤ (Day.ofNumber n).month ∧ (Day.ofNumber n).month ≤ 12 := by
  obtain ⟨era, yoe, doy, mp, _, _, _, hd0, hd1, _, hmp, hday⟩ := ofNumber_parts n
  have hm : 0 ≤ mp ∧ mp ≤ 11 := by omega
  rw [hday]
  dsimp only
  split <;> omega

theorem isLeapYear_of_yearOfEra (era : Int) {yoe : Int} (h : yoe % 4 = 3 ∧ (yoe % 100 ≠ 99 ∨ yoe = 399)) :
    isLeapYear (yoe + era * 400 + 1) = true := by
  simp only [isLeapYear, Bool.and_eq_true, Bool.or_eq_true, beq_iff_eq, bne_iff_ne]
  omega

theorem ofNumber_day (n : Int) : 1 ≤ (Day.ofNumber n).day ∧
    (Day.ofNumber n).day ≤ daysInMonth (Day.ofNumber n).year (Day.ofNumber n).month := by
  obtain ⟨era, yoe, doy, mp, _, hy0, hy1, hd0, hd1, hleap, hmp, hday⟩ := ofNumber_parts n
  rw [hday]
  have hfirst : 0 ≤ doy - (153 * mp + 2) / 5 := by omega
  by_cases hfeb : mp = 11
  · -- February, the last month of a year taken from March
    subst hfeb
    by_cases hlast : doy = 365
    · have hl := isLeapYear_of_yearOfEra era (hleap hlast)
      subst hlast
      simp [daysInMonth, hl]
    · have hd : (doy - (153 * 11 + 2) / 5 + 1).toNat ≤ 28 := by omega
      have hd1 : 1 ≤ (doy - (153 * 11 + 2) / 5 + 1).toNat := by omega
      refine ⟨hd1, Nat.le_trans hd ?_⟩
      cases hl : isLeapYear (yoe + era * 400 + 1) <;> simp [daysInMonth, hl]
  · have hm : mp = 0 ∨ mp = 1 ∨ mp = 2 ∨ mp = 3 ∨ mp = 4 ∨ mp = 5 ∨ mp = 6 ∨ mp = 7 ∨ mp = 8 ∨
      mp = 9 ∨ mp = 10 := by omega
    rcases hm with rfl | rfl | rfl | rfl | rfl | rfl | rfl | rfl | rfl | rfl | rfl <;>
      simp [daysInMonth] <;> omega

end Archiver
