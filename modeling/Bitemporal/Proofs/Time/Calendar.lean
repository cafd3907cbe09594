/-
This file shows that every day number has a date of the calendar.
-/
import Bitemporal.Time.Calendar
import Mathlib.Tactic.IntervalCases

namespace Bitemporal

namespace MarchDay

/-- A year has at most 366 days, and only the last day of a leap year is the 366th. -/
theorem ofNumber_inYear (number : Int) :
    (ofNumber number).day < 366 ∧
      ((ofNumber number).day = 365 → Date.isLeapYear ((ofNumber number).year + 1) = true) := by
  simp only [ofNumber, ofDayOfCycle, epochShift, cycleLength, Date.isLeapYear]
  generalize cycleIs : (number + 719468) / 146097 = cycle
  generalize dayIs : ((number + 719468) % 146097).toNat = day
  generalize centuryIs : min 3 (day / 36524) = century
  generalize fourYearsIs : (day - 36524 * century) / 1461 = fourYears
  generalize yearIs : min 3 ((day - 36524 * century - 1461 * fourYears) / 365) = year
  have dayBound : day < 146097 := by omega
  have fourYearsBound : fourYears ≤ 24 := by omega
  have lastCentury : fourYears = 24 → day - 36524 * century - 1461 * fourYears = 1460 →
      century = 3 := by omega
  refine ⟨by omega, fun last => ?_⟩
  have lastOfFour : day - 36524 * century - 1461 * fourYears = 1460 ∧ year = 3 := by omega
  obtain ⟨dayOfFour, rfl⟩ := lastOfFour
  simp only [Bool.and_eq_true, Bool.or_eq_true, beq_iff_eq, bne_iff_ne]
  by_cases century400 : fourYears = 24
  · have century3 := lastCentury century400 dayOfFour
    subst century3 century400
    omega
  · omega

/-- A day of a year is written as a date of the calendar. -/
theorem isReal_toDate {marchDay : MarchDay} (inYear : marchDay.day < 366)
    (leap : marchDay.day = 365 → Date.isLeapYear (marchDay.year + 1) = true) :
    marchDay.toDate.isReal = true := by
  obtain ⟨year, day⟩ := marchDay
  simp only at inYear leap
  generalize monthIs : (5 * day + 2) / 153 = month
  have monthBound : month ≤ 11 := by omega
  simp only [toDate, Date.daysBefore, monthIs, Date.isReal]
  by_cases february : month = 11
  · subst february
    by_cases last : day = 365
    · simp [Date.monthLength, leap last, last]
    · have short : 28 ≤ Date.monthLength (year + 1) 2 := by
        simp only [Date.monthLength]
        split <;> omega
      simp
      omega
  · interval_cases month <;> simp [Date.monthLength] <;> omega

end MarchDay

namespace Date

theorem isReal_ofDayNumber (number : Int) : (ofDayNumber number).isReal = true :=
  MarchDay.isReal_toDate (MarchDay.ofNumber_inYear number).1 (MarchDay.ofNumber_inYear number).2

/-- The date that has a number has that number. -/
theorem dayNumber_ofDayNumber (number : Int) : (ofDayNumber number).dayNumber = number := by
  rw [dayNumber, ofDayNumber, toMarchDay_toDate _ (MarchDay.ofNumber_inYear number).1]
  exact MarchDay.number_ofNumber number

end Date

/-! ## Years of four digits -/

namespace MarchDay

/-- January and February start with the 307th day since March. -/
theorem year_toDate {marchDay : MarchDay} (inYear : marchDay.day < 366) :
    marchDay.toDate.year = if marchDay.day < 306 then marchDay.year else marchDay.year + 1 := by
  simp only [toDate]
  split <;> split <;> simp only <;> omega

end MarchDay

namespace Date

/-- The number of the first day of the year zero. -/
def firstNumber : Int := -719528

/-- The number of the first day of the year 10000. -/
def pastNumber : Int := 2932897

/-- A day beside the years of four digits lies in the year before or behind them. -/
theorem year_ofDayNumber {number : Int} (early : firstNumber - 1 ≤ number)
    (late : number ≤ pastNumber) :
    -1 ≤ (ofDayNumber number).year ∧ (ofDayNumber number).year ≤ 10000 := by
  have same := MarchDay.number_ofNumber number
  have inYear := (MarchDay.ofNumber_inYear number).1
  rw [ofDayNumber, MarchDay.year_toDate inYear]
  generalize MarchDay.ofNumber number = marchDay at same inYear ⊢
  obtain ⟨year, day⟩ := marchDay
  simp only [MarchDay.number, MarchDay.epochShift] at same
  simp only [firstNumber, pastNumber] at inYear early late ⊢
  split <;> omega

theorem monthLength_le (year : Int) (month : Nat) : monthLength year month ≤ 31 := by
  unfold monthLength
  split
  · split <;> omega
  all_goals omega

/-- Dates with four digits for the year lie between these two numbers. -/
theorem dayNumber_bounds {date : Date} (real : date.isReal = true) (early : 0 ≤ date.year)
    (late : date.year ≤ 9999) : firstNumber ≤ date.dayNumber ∧ date.dayNumber < pastNumber := by
  obtain ⟨year, month, day⟩ := date
  simp only [isReal, Bool.and_eq_true, decide_eq_true_eq] at real
  simp only at early late
  have longest := monthLength_le year month
  simp only [dayNumber, toMarchDay, MarchDay.number, MarchDay.epochShift, firstNumber, pastNumber]
  generalize dayIs : daysBefore (marchMonth month) + day - 1 = dayOfYear
  unfold daysBefore marchMonth at dayIs
  by_cases winter : month ≤ 2
  · have dayBounds : 306 ≤ dayOfYear ∧ dayOfYear ≤ 367 := by omega
    rw [if_pos winter]
    rcases Int.le_iff_eq_or_lt.mp early with rfl | later <;> omega
  · have dayBound : dayOfYear ≤ 305 := by omega
    rw [if_neg winter]
    rcases Int.le_iff_eq_or_lt.mp late with rfl | earlier <;> omega

end Date

end Bitemporal
