/-
This file converts between dates of the proleptic Gregorian calendar and day numbers.
-/
namespace Bitemporal

/-- Months and days count from one. -/
structure Date where
  year : Int
  month : Nat
  day : Nat
deriving DecidableEq, Repr

namespace Date

def isLeapYear (year : Int) : Bool :=
  year % 4 == 0 && (year % 100 != 0 || year % 400 == 0)

def monthLength (year : Int) : (month : Nat) → Nat
  | 2 => if isLeapYear year then 29 else 28
  | 4 | 6 | 9 | 11 => 30
  | _ => 31

/-- The calendar has this date. -/
def isReal (date : Date) : Bool :=
  1 ≤ date.month && date.month ≤ 12 && 1 ≤ date.day &&
    date.day ≤ monthLength date.year date.month

/-- The number of months since March at which this month starts. -/
def marchMonth (month : Nat) : Nat := (month + 9) % 12

/-- So many days of a year that starts in March come before this month. -/
def daysBefore (marchMonth : Nat) : Nat := (153 * marchMonth + 2) / 5

end Date

/-- A day of a year that starts in March, so that a leap day is the last one. -/
structure MarchDay where
  year : Int
  day : Nat
deriving DecidableEq, Repr

namespace MarchDay

/-- So many days lie between the first of March of the year zero and the day number zero. -/
def epochShift : Int := 719468

/-- The day number counts from the start of 1970. -/
def number (marchDay : MarchDay) : Int :=
  365 * marchDay.year + marchDay.year / 4 - marchDay.year / 100 + marchDay.year / 400 +
    marchDay.day - epochShift

/-- Four centuries have this many days. -/
def cycleLength : Int := 146097

/-- The last century of four and the last year of four are one day longer than the others. -/
def ofDayOfCycle (cycle : Int) (dayOfCycle : Nat) : MarchDay :=
  let century := min 3 (dayOfCycle / 36524)
  let dayOfCentury := dayOfCycle - 36524 * century
  let fourYears := dayOfCentury / 1461
  let dayOfFour := dayOfCentury - 1461 * fourYears
  let year := min 3 (dayOfFour / 365)
  ⟨400 * cycle + (100 * century + 4 * fourYears + year : Nat), dayOfFour - 365 * year⟩

/-- The day that has a number. -/
def ofNumber (number : Int) : MarchDay :=
  let shifted := number + epochShift
  ofDayOfCycle (shifted / cycleLength) (shifted % cycleLength).toNat

/-- The day that has a number has that number. -/
theorem number_ofNumber (number : Int) : (ofNumber number).number = number := by
  simp only [ofNumber, ofDayOfCycle, MarchDay.number, epochShift, cycleLength]
  generalize cycleIs : (number + 719468) / 146097 = cycle
  generalize dayIs : ((number + 719468) % 146097).toNat = day
  generalize centuryIs : min 3 (day / 36524) = century
  generalize fourYearsIs : (day - 36524 * century) / 1461 = fourYears
  generalize yearIs : min 3 ((day - 36524 * century - 1461 * fourYears) / 365) = year
  have centuryBound : century ≤ 3 := by omega
  have fourYearsBound : fourYears ≤ 24 := by omega
  have yearBound : year ≤ 3 := by omega
  have quarters : (400 * cycle + ((100 * century + 4 * fourYears + year : Nat) : Int)) / 4 =
      100 * cycle + 25 * century + fourYears := by omega
  have centuries : (400 * cycle + ((100 * century + 4 * fourYears + year : Nat) : Int)) / 100 =
      4 * cycle + century := by omega
  have cycles : (400 * cycle + ((100 * century + 4 * fourYears + year : Nat) : Int)) / 400 =
      cycle := by omega
  rw [quarters, centuries, cycles]
  omega

/-- January and February belong to the next calendar year. -/
def toDate (marchDay : MarchDay) : Date :=
  let marchMonth := (5 * marchDay.day + 2) / 153
  let day := marchDay.day - Date.daysBefore marchMonth + 1
  if marchMonth < 10 then ⟨marchDay.year, marchMonth + 3, day⟩
  else ⟨marchDay.year + 1, marchMonth - 9, day⟩

end MarchDay

namespace Date

def toMarchDay (date : Date) : MarchDay :=
  ⟨if date.month ≤ 2 then date.year - 1 else date.year,
    daysBefore (marchMonth date.month) + date.day - 1⟩

/-- A day of a year keeps its place when it is written as a date. -/
theorem toMarchDay_toDate (marchDay : MarchDay) (inYear : marchDay.day < 366) :
    marchDay.toDate.toMarchDay = marchDay := by
  obtain ⟨year, day⟩ := marchDay
  simp only at inYear
  generalize monthIs : (5 * day + 2) / 153 = month
  simp only [MarchDay.toDate, toMarchDay, daysBefore, marchMonth, monthIs]
  by_cases early : month < 10
  · have shifted : (month + 3 + 9) % 12 = month := by omega
    have late : ¬ month + 3 ≤ 2 := by omega
    simp only [early, if_true, shifted, late, if_false]
    congr 1
    omega
  · have shifted : (month - 9 + 9) % 12 = month := by omega
    have late : month - 9 ≤ 2 := by omega
    simp only [early, if_false, shifted, late, if_true]
    congr 1 <;> omega

/-- The number of a date counts days from the start of 1970. -/
def dayNumber (date : Date) : Int := date.toMarchDay.number

/-- The date that has a number. -/
def ofDayNumber (number : Int) : Date := (MarchDay.ofNumber number).toDate

end Date

end Bitemporal
