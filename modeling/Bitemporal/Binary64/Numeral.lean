/-
This file reads decimal numerals as binary floating-point numbers, rounding once.
-/
import Bitemporal.Binary64.Basic
import Bitemporal.Text.Digits

namespace Bitemporal.Binary64

/-- This function splits an optional sign off a numeral. -/
def signed : List Char → Bool × List Char
  | '-' :: rest => (true, rest)
  | '+' :: rest => (false, rest)
  | text => (false, text)

/-- An exponent mark is followed by an optional sign and at least one digit. -/
def exponentPart : List Char → Option (Int × List Char)
  | mark :: text =>
      if mark = 'e' ∨ mark = 'E' then
        let (negative, unsigned) := signed text
        match Digits.leading unsigned with
        | ([], _) => none
        | (digits, rest) =>
            let magnitude : Int := Digits.natural digits
            some (if negative then -magnitude else magnitude, rest)
      else some (0, mark :: text)
  | [] => some (0, [])

/-- This function splits off the digits behind a point. -/
def fractionPart : List Char → List Char × List Char
  | '.' :: text => Digits.leading text
  | text => ([], text)

/-- Digits may stand on either side of the point, and there is at least one. -/
def decimalNumeral (negative : Bool) (text : List Char) : Option Binary64 :=
  let (whole, afterWhole) := Digits.leading text
  let (fraction, afterFraction) := fractionPart afterWhole
  if whole.isEmpty && fraction.isEmpty then none
  else
    match exponentPart afterFraction with
    | some (exponent, []) =>
        some (ofDecimal negative (Digits.natural (whole ++ fraction)) (exponent - fraction.length))
    | _ => none

/-- Names of the values that no digits spell, in any letter case. -/
def named (negative : Bool) (text : List Char) : Option Binary64 :=
  match String.ofList (text.map Char.toLower) with
  | "nan" => some .notANumber
  | "inf" | "infinity" => some (.infinite negative)
  | _ => none

/-- The number that a numeral spells, rounded to nearest, infinite when it is too large. -/
def ofText? (text : String) : Option Binary64 :=
  let (negative, unsigned) := signed text.toList
  decimalNumeral negative unsigned <|> named negative unsigned

end Bitemporal.Binary64
