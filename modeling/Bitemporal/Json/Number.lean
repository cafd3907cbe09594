/-
This file reads the numbers of JSON texts.
-/
import Bitemporal.Binary64.Numeral
import Bitemporal.Json.Basic

namespace Bitemporal.Json

/-- Significands end below this limit. -/
def significandLimit : Nat := 18446744073709551616

/-- Digits extend a significand as long as it fits in 64 bits; the second part counts them. -/
def extendSignificand (significand : Nat) : List Char → Nat × Nat
  | [] => (significand, 0)
  | digit :: rest =>
      let extended := 10 * significand + Digits.value digit
      if extended < significandLimit then
        let (final, count) := extendSignificand extended rest
        (final, count + 1)
      else (significand, 0)

/-- The greatest power of ten that is a finite number. -/
def greatestPower : Nat := 308

/-- A significand is rounded first and then scaled; a result beyond all numbers has no value. -/
def scaledSignificand (negative : Bool) (significand : Nat) (exponent : Int) : Option Binary64 :=
  let rounded := Binary64.ofRatio negative significand 1
  let power := exponent.natAbs
  if significand = 0 then some (.zero negative)
  else if 0 ≤ exponent then
    if power ≤ greatestPower then
      let product := rounded.timesPowerOfTen power
      if product.isFinite then some product else none
    else none
  else if power ≤ greatestPower then some (rounded.overPowerOfTen power)
  else if power ≤ 2 * greatestPower then
    some ((rounded.overPowerOfTen greatestPower).overPowerOfTen (power - greatestPower))
  else some (.zero negative)

/-- The digits that fit in 64 bits count, and the ones behind them only shift the point. -/
def floatValue (negative : Bool) (whole fraction : List Char) (exponent : Int) :
    Option Binary64 :=
  let (wholePart, wholeCount) := extendSignificand 0 whole
  let (significand, fractionCount) := extendSignificand wholePart fraction
  let shift : Int := (whole.length : Int) - wholeCount - fractionCount
  scaledSignificand negative significand (exponent + shift)

/-- Digits without point and exponent are an integer if one of 64 bits holds it. -/
def wholeValue (negative : Bool) (whole : List Char) : Option Json :=
  let magnitude : Int := Digits.natural whole
  if negative then
    if 0 < magnitude ∧ magnitude ≤ signedLimit then some (.integer (-magnitude))
    else (floatValue true whole [] 0).map .float
  else if magnitude < unsignedLimit then some (.integer magnitude)
  else (floatValue false whole [] 0).map .float

/-- The whole part has a digit, and no zero leads another digit. -/
def isWholePart : List Char → Bool
  | [] => false
  | ['0'] => true
  | first :: _ => first != '0'

/-- A point is followed by at least one digit. -/
def pointPart : List Char → Option (List Char × List Char)
  | '.' :: text =>
      match Digits.leading text with
      | ([], _) => none
      | (digits, rest) => some (digits, rest)
  | text => some ([], text)

/-- This function reads a number without its sign and leaves the text behind it. -/
def unsignedNumber (negative : Bool) (text : List Char) :
    Option (Option Json × List Char) := do
  let (whole, afterWhole) := Digits.leading text
  guard (isWholePart whole)
  let (fraction, afterFraction) ← pointPart afterWhole
  let (exponent, rest) ← Binary64.exponentPart afterFraction
  if rest.length = afterWhole.length then return (wholeValue negative whole, rest)
  else return ((floatValue negative whole fraction exponent).map .float, rest)

/-- The first part is missing when the number is well formed but has no value. -/
def number : List Char → Option (Option Json × List Char)
  | '-' :: text => unsignedNumber true text
  | text => unsignedNumber false text

end Bitemporal.Json
