/-
This file defines points in time and writes them as timestamps.
-/
import Bitemporal.Text.Digits
import Bitemporal.Time.Calendar

namespace Bitemporal

/-- Seconds count from the start of 1970; nanoseconds beyond the billionth lie in a leap second. -/
structure Instant where
  seconds : Int
  nanoseconds : Nat
deriving DecidableEq, Repr

namespace Instant

def secondsOfDay : Int := 86400

def nanosecondsOfSecond : Nat := 1000000000

/-- The date in coordinated universal time. -/
def date (instant : Instant) : Date := .ofDayNumber (instant.seconds / secondsOfDay)

/-- The second of the day, not counting a leap second. -/
def secondOfDay (instant : Instant) : Nat := (instant.seconds % secondsOfDay).toNat

/-- Whole microseconds behind the second, a million or more within a leap second. -/
def microseconds (instant : Instant) : Nat := instant.nanoseconds / 1000

/-- Years of up to four digits have no sign, and all others have one. -/
def yearText (year : Int) : List Char :=
  if 0 ≤ year ∧ year ≤ 9999 then Digits.padded 4 year.natAbs
  else (if year < 0 then '-' else '+') :: Digits.padded 4 year.natAbs

/-- The date with dashes between its parts. -/
def dateText (date : Date) : List Char :=
  yearText date.year ++ '-' :: Digits.padded 2 date.month ++ '-' :: Digits.padded 2 date.day

/-- Microseconds are written only when there are any, and a leap second is second 60. -/
def timeText (secondOfDay microseconds : Nat) : List Char :=
  let second := secondOfDay % 60 + microseconds / 1000000
  let fraction :=
    if microseconds = 0 then [] else '.' :: Digits.padded 6 (microseconds % 1000000)
  Digits.padded 2 (secondOfDay / 3600) ++ ':' :: Digits.padded 2 (secondOfDay / 60 % 60) ++
    ':' :: Digits.padded 2 second ++ fraction

/-- The timestamp names its offset from universal time, which is zero. -/
def characters (instant : Instant) : List Char :=
  dateText instant.date ++ 'T' :: timeText instant.secondOfDay instant.microseconds ++
    "+00:00".toList

/-- The timestamp that stands for an instant. -/
def text (instant : Instant) : String := String.ofList instant.characters

/-- The instant without what its timestamp leaves out. -/
def truncated (instant : Instant) : Instant :=
  { instant with nanoseconds := 1000 * instant.microseconds }

end Instant

end Bitemporal
