/-
This file reads natural numbers from digits.
-/
namespace Bitemporal.Digits

/-- This function gives the value of an ASCII decimal digit. -/
def value (character : Char) : Nat := character.toNat - '0'.toNat

/-- The number that decimal digits spell, the first one leading. -/
def natural (digits : List Char) : Nat :=
  digits.foldl (fun total character => 10 * total + value character) 0

/-- This function splits off the longest run of digits at the front. -/
def leading (text : List Char) : List Char × List Char :=
  (text.takeWhile Char.isDigit, text.dropWhile Char.isDigit)

/-- The value of a hexadecimal digit in either case. -/
def hexadecimal (character : Char) : Option Nat :=
  if character.isDigit then some (value character)
  else if 'a' ≤ character ∧ character ≤ 'f' then some (character.toNat - 'a'.toNat + 10)
  else if 'A' ≤ character ∧ character ≤ 'F' then some (character.toNat - 'A'.toNat + 10)
  else none

/-- The digits spell a number in a base up to sixteen, each of them below the base. -/
def inBase? (base : Nat) (digits : List Char) : Option Nat :=
  digits.foldlM (fun total character =>
    match hexadecimal character with
    | some digit => if digit < base then some (base * total + digit) else none
    | none => none) 0

/-- A decimal number padded with zeros to at least this width. -/
def padded (width number : Nat) : List Char :=
  let digits := Nat.toDigits 10 number
  List.replicate (width - digits.length) '0' ++ digits

/-- The last digit counts once and the others ten times as much. -/
theorem natural_append_singleton (digits : List Char) (last : Char) :
    natural (digits ++ [last]) = 10 * natural digits + value last := by
  simp [natural]

end Bitemporal.Digits
