import NodeDeploy.Time.Instant

/-! # The calendar goes back and forth

The date of a day is one of the calendar, and its day is the one that the date was made from. Years
are counted from March, in eras of 400 years; a century of an era has 36524 days and a cycle of four
years 1461, so that the year of a day follows from a division once the days that centuries lack and
cycles have over are made up for.

* `Date.yearInEra_div_hundred` and `Date.yearInEra_div_four`: the century and the cycle that a year
  is in are those of the day, up to one.
* `Date.dayNumber_ofDayNumber` and `Date.isValid_ofDayNumber`: the date of a day.
* `Instant.ofDate_date`: an instant is the time of its day on its date.
-/

namespace NodeDeploy

namespace Date

/-! ## A day of an era -/

def yearInEra (e : Int) : Int := (e - e / 1460 + e / 36524 - e / 146096) / 365

def dayInYear (e : Int) : Int :=
  e - (365 * yearInEra e + yearInEra e / 4 - yearInEra e / 100)

section

variable {e : Int} (h₀ : 0 ≤ e) (h₁ : e < 146097)
include h₀ h₁

theorem yearInEra_bounds : 0 ≤ yearInEra e ∧ yearInEra e ≤ 399 := by
  unfold yearInEra
  omega

theorem yearInEra_div_hundred : yearInEra e / 100 = e / 36524 - e / 146096 := by
  have hy := yearInEra.eq_1 e
  have hcentury : e / 36524 = 0 ∨ e / 36524 = 1 ∨ e / 36524 = 2 ∨ e / 36524 = 3 ∨
      e / 36524 = 4 := by
    omega
  rcases hcentury with h | h | h | h | h <;> omega

theorem yearInEra_div_four :
    yearInEra e / 4 ≤ e / 1460 ∧ e / 1460 ≤ yearInEra e / 4 + 1 := by
  have hy := yearInEra.eq_1 e
  have hcentury := yearInEra_div_hundred h₀ h₁
  omega

theorem dayInYear_bounds : 0 ≤ dayInYear e ∧ dayInYear e ≤ 365 := by
  have hy := yearInEra.eq_1 e
  have hcentury := yearInEra_div_hundred h₀ h₁
  have hcycle := yearInEra_div_four h₀ h₁
  unfold dayInYear
  omega

/-- Only a year that ends in a leap day has 366 days. -/
theorem leap_of_dayInYear (h : dayInYear e = 365) :
    (yearInEra e + 1) % 4 = 0 ∧
      ((yearInEra e + 1) % 100 ≠ 0 ∨ (yearInEra e + 1) % 400 = 0) := by
  have hy := yearInEra.eq_1 e
  have hbounds := yearInEra_bounds h₀ h₁
  have hcentury := yearInEra_div_hundred h₀ h₁
  have hcycle := yearInEra_div_four h₀ h₁
  unfold dayInYear at h
  have hnext : e / 1460 = yearInEra e / 4 + 1 := by omega
  have hlast : yearInEra e % 4 = 3 := by omega
  refine ⟨by omega, Decidable.or_iff_not_imp_left.2 fun hhundred => ?_⟩
  have hturn : (yearInEra e + 1) / 100 = yearInEra e / 100 + 1 := by omega
  omega

end

/-! ## Days and dates -/

def dayInEra (n : Int) : Int := (n + 719468) % 146097

theorem dayInEra_bounds (n : Int) : 0 ≤ dayInEra n ∧ dayInEra n < 146097 := by
  unfold dayInEra
  omega

/-- The month that a day of a year lies in, counted from March. -/
def monthFromMarch (d : Int) : Int := (5 * d + 2) / 153

/-- The date of a day by the part that it is of its era and of its year. -/
theorem ofDayNumber_eq (n : Int) :
    ofDayNumber n =
      let m := monthFromMarch (dayInYear (dayInEra n))
      let month := if m < 10 then m + 3 else m - 9
      ⟨yearInEra (dayInEra n) + (n + 719468) / 146097 * 400 + (if month ≤ 2 then 1 else 0),
        month.toNat, (dayInYear (dayInEra n) - (153 * m + 2) / 5 + 1).toNat⟩ := rfl

/-- The day of a date whose month is counted from March, as the first two of the next year are. -/
theorem dayNumber_fromMarch {year era m d : Int} (hyear : 0 ≤ year) (hyear' : year ≤ 399)
    (hm : 0 ≤ m) (hm' : m ≤ 11) (hd : (153 * m + 2) / 5 ≤ d) :
    dayNumber ⟨year + era * 400 + (if (if m < 10 then m + 3 else m - 9) ≤ 2 then 1 else 0),
      (if m < 10 then m + 3 else m - 9).toNat, (d - (153 * m + 2) / 5 + 1).toNat⟩ =
      era * 146097 + (365 * year + year / 4 - year / 100 + d) - 719468 := by
  by_cases h : m < 10
  · have hmonth : ¬ m + 3 ≤ 2 := by omega
    have hmonth' : ¬ (m + 3).toNat ≤ 2 := by omega
    simp only [dayNumber, if_pos h, if_neg hmonth, if_neg hmonth']
    omega
  · have hmonth : m - 9 ≤ 2 := by omega
    have hmonth' : (m - 9).toNat ≤ 2 := by omega
    simp only [dayNumber, if_neg h, if_pos hmonth, if_pos hmonth']
    omega

theorem dayNumber_ofDayNumber (n : Int) : (ofDayNumber n).dayNumber = n := by
  obtain ⟨he, he'⟩ := dayInEra_bounds n
  obtain ⟨hd, hd'⟩ := dayInYear_bounds he he'
  obtain ⟨hy, hy'⟩ := yearInEra_bounds he he'
  have hm : 0 ≤ monthFromMarch (dayInYear (dayInEra n)) := by unfold monthFromMarch; omega
  have hm' : monthFromMarch (dayInYear (dayInEra n)) ≤ 11 := by unfold monthFromMarch; omega
  have hfirst : (153 * monthFromMarch (dayInYear (dayInEra n)) + 2) / 5 ≤
      dayInYear (dayInEra n) := by unfold monthFromMarch; omega
  rw [ofDayNumber_eq]
  dsimp only
  rw [dayNumber_fromMarch hy hy' hm hm' hfirst]
  have hday := dayInYear.eq_1 (dayInEra n)
  have hera := dayInEra.eq_1 n
  omega

theorem isLeap_add_era (year era : Int) : isLeap (year + era * 400) = isLeap year := by
  have h₁ : (year + era * 400) % 4 = year % 4 := by omega
  have h₂ : (year + era * 400) % 100 = year % 100 := by omega
  have h₃ : (year + era * 400) % 400 = year % 400 := by omega
  rw [isLeap, isLeap, h₁, h₂, h₃]

/-- A month counted from March is as long as the calendar has it, February up to its leap day. -/
theorem isValid_fromMarch {year d : Int} (hd : 0 ≤ d) (hd' : d ≤ 365)
    (hleap : d = 365 → isLeap year = true) :
    isValid ⟨year, (if monthFromMarch d < 10 then monthFromMarch d + 3
        else monthFromMarch d - 9).toNat,
      (d - (153 * monthFromMarch d + 2) / 5 + 1).toNat⟩ = true := by
  have hm : 0 ≤ monthFromMarch d ∧ monthFromMarch d ≤ 11 := by unfold monthFromMarch; omega
  have hstart : 5 * d + 2 - 152 ≤ 153 * monthFromMarch d ∧ 153 * monthFromMarch d ≤ 5 * d + 2 := by
    unfold monthFromMarch; omega
  generalize monthFromMarch d = m at *
  by_cases hfebruary : m = 11
  · subst hfebruary
    cases hyear : isLeap year with
    | true =>
      simp [isValid, daysIn, hyear]
      omega
    | false =>
      have hshort : d ≠ 365 := fun hlast => by simp [hleap hlast] at hyear
      simp [isValid, daysIn, hyear]
      omega
  · have hcases : m = 0 ∨ m = 1 ∨ m = 2 ∨ m = 3 ∨ m = 4 ∨ m = 5 ∨ m = 6 ∨ m = 7 ∨ m = 8 ∨
        m = 9 ∨ m = 10 := by omega
    rcases hcases with rfl | rfl | rfl | rfl | rfl | rfl | rfl | rfl | rfl | rfl | rfl <;>
      simp [isValid, daysIn] <;> omega

theorem isValid_ofDayNumber (n : Int) : (ofDayNumber n).isValid = true := by
  obtain ⟨he, he'⟩ := dayInEra_bounds n
  obtain ⟨hd, hd'⟩ := dayInYear_bounds he he'
  rw [ofDayNumber_eq]
  refine isValid_fromMarch hd hd' fun hlast => ?_
  obtain ⟨hfour, hhundred⟩ := leap_of_dayInYear he he' hlast
  have hm : monthFromMarch (dayInYear (dayInEra n)) = 11 := by
    rw [hlast]
    rfl
  simp only [hm]
  show isLeap (_ + _ * 400 + 1) = true
  rw [Int.add_right_comm, isLeap_add_era]
  simpa [isLeap, hfour] using hhundred

end Date

/-! ## Instants -/

namespace Instant

theorem secondOfDay_lt (t : Instant) : t.secondOfDay < 86400 := by
  unfold secondOfDay
  omega

/-- **An instant is the time of its day on its date.** -/
theorem ofDate_date (t : Instant) :
    ofDate t.date (t.secondOfDay / 3600) (t.secondOfDay / 60 % 60) (t.secondOfDay % 60) t.nanos =
      t := by
  have hday : t.date.dayNumber = t.seconds / 86400 := Date.dayNumber_ofDayNumber _
  have hsecond : (t.secondOfDay : Int) = t.seconds % 86400 := by
    unfold secondOfDay
    omega
  obtain ⟨seconds, nanos⟩ := t
  simp only [ofDate, hday]
  congr 1
  simp only at hsecond ⊢
  omega

end Instant

end NodeDeploy
