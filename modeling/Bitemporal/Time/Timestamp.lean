/-
This file reads timestamps.
-/
import Bitemporal.Time.Instant

namespace Bitemporal.Timestamp

/-- The reasons why a text is no timestamp. -/
inductive Fault where
  | endsEarly
  | wrongCharacter
  | outOfRange
  | continues
deriving DecidableEq, Repr

def Fault.message : Fault → String
  | .endsEarly => "premature end of input"
  | .wrongCharacter => "input contains invalid characters"
  | .outOfRange => "input is out of range"
  | .continues => "trailing input"

/-- A part is read from the front of a text, together with what is left behind it. -/
abbrev Reading := Except Fault

/-- Exactly so many digits. -/
def digits : (count : Nat) → List Char → Reading (List Char × List Char)
  | 0, text => .ok ([], text)
  | _ + 1, [] => .error .endsEarly
  | count + 1, first :: rest =>
      if first.isDigit then do
        let (others, left) ← digits count rest
        return (first :: others, left)
      else .error .wrongCharacter

/-- A number of exactly so many digits. -/
def number (count : Nat) (text : List Char) : Reading (Nat × List Char) := do
  let (found, rest) ← digits count text
  return (Digits.natural found, rest)

/-- One of the expected characters. -/
def mark (expected : List Char) : List Char → Reading (List Char)
  | [] => .error .endsEarly
  | first :: rest => if expected.contains first then .ok rest else .error .wrongCharacter

/-- A date of the calendar. -/
def date (text : List Char) : Reading (Date × List Char) := do
  let (year, rest) ← number 4 text
  let rest ← mark ['-'] rest
  let (month, rest) ← number 2 rest
  let rest ← mark ['-'] rest
  let (day, rest) ← number 2 rest
  let found : Date := ⟨year, month, day⟩
  if found.isReal then return (found, rest) else throw .outOfRange

/-- Hour, minute and second, which are not checked here. -/
structure Clock where
  hour : Nat
  minute : Nat
  second : Nat

def clock (text : List Char) : Reading (Clock × List Char) := do
  let (hour, rest) ← number 2 text
  let rest ← mark [':'] rest
  let (minute, rest) ← number 2 rest
  let rest ← mark [':'] rest
  let (second, rest) ← number 2 rest
  return (⟨hour, minute, second⟩, rest)

/-- A second may be the sixtieth, which is a leap second. -/
def Clock.isReal (clock : Clock) : Bool :=
  clock.hour ≤ 23 && clock.minute ≤ 59 && clock.second ≤ 60

/-- Nine digits behind the point count as nanoseconds and the ones behind them are skipped. -/
def nanoseconds : List Char → Reading (Nat × List Char)
  | '.' :: text =>
      match Digits.leading text with
      | ([], []) => .error .endsEarly
      | ([], _ :: _) => .error .wrongCharacter
      | (found, rest) =>
          let used := found.take 9
          .ok (Digits.natural (used ++ List.replicate (9 - used.length) '0'), rest)
  | text => .ok (0, text)

/-- Two digits; a text of less than two bytes ends early. -/
def offsetDigits : List Char → Reading ((Nat × Nat) × List Char)
  | [] => .error .endsEarly
  | [only] => if only.utf8Size < 2 then .error .endsEarly else .error .wrongCharacter
  | first :: second :: rest =>
      if first.isDigit && second.isDigit then
        .ok ((Digits.value first, Digits.value second), rest)
      else .error .wrongCharacter

/-- The distance from universal time in seconds, its sign still to be applied. -/
def offsetDistance (text : List Char) : Reading (Int × List Char) := do
  let ((tens, ones), rest) ← offsetDigits text
  let rest ← mark [':'] rest
  let ((minuteTens, minuteOnes), rest) ← offsetDigits rest
  if 6 ≤ minuteTens then throw .outOfRange
  else return (3600 * (10 * tens + ones) + 60 * (10 * minuteTens + minuteOnes), rest)

/-- The letter of universal time, or a sign and a distance. -/
def offset : List Char → Reading (Int × List Char)
  | [] => .error .endsEarly
  | first :: rest =>
      if first = 'Z' ∨ first = 'z' then .ok (0, rest)
      else if first = '+' then offsetDistance rest
      else if first = '-' ∨ first = '\u2212' then do
        let (distance, left) ← offsetDistance rest
        return (-distance, left)
      else .error .wrongCharacter

/-- The instant at which clocks with this offset show this date and time. -/
def instant (date : Date) (clock : Clock) (nanoseconds : Nat) (offset : Int) : Instant :=
  let leap := clock.second = 60
  let second := if leap then 59 else clock.second
  let secondOfDay : Int := (3600 * clock.hour + 60 * clock.minute + second : Nat)
  ⟨Instant.secondsOfDay * date.dayNumber + secondOfDay - offset,
    if leap then nanoseconds + Instant.nanosecondsOfSecond else nanoseconds⟩

/-- Date and time without an offset take this many bytes. -/
def leastSize : Nat := 19

/-- This function reads a whole text as a timestamp. -/
def read (text : String) : Reading Instant := do
  if text.utf8ByteSize < leastSize then throw .endsEarly
  let (date, rest) ← date text.toList
  let rest ← mark ['T', 't', ' '] rest
  let (clock, rest) ← clock rest
  let (nanoseconds, rest) ← nanoseconds rest
  if !clock.isReal then throw .outOfRange
  let (offset, rest) ← offset rest
  if !rest.isEmpty then throw .continues
  if Instant.secondsOfDay ≤ offset.natAbs then throw .outOfRange
  return instant date clock nanoseconds offset

end Bitemporal.Timestamp
