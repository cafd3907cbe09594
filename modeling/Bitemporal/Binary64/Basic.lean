/-
This file defines binary floating-point numbers and the rounding of exact ratios to them.
-/
namespace Bitemporal

/-- The magnitude of a finite number counts units of `2 ^ -1074`, the least positive number. -/
inductive Binary64 where
  | notANumber
  | infinite (negative : Bool)
  | finite (negative : Bool) (units : Nat)
deriving DecidableEq, Repr

namespace Binary64

/-- One has this many units. -/
def unitsOfOne : Nat := Nat.pow 2 1074

/-- Every finite magnitude stays below this many units. -/
def unitLimit : Nat := Nat.pow 2 2098

/-- The two zeros, told apart by their sign. -/
def zero (negative : Bool) : Binary64 := .finite negative 0

/-- Neighbouring magnitudes lie this far apart, so that 53 binary digits suffice. -/
def spacing (units : Nat) : Nat := Nat.pow 2 (units.log2 - 52)

/-- A quotient halfway between two integers goes to the even one or to the greater one. -/
inductive Tie where
  | even
  | up
deriving DecidableEq, Repr

/-- The lower one of the two integers around a tie is taken. -/
def Tie.staysBelow (tie : Tie) (quotient : Nat) : Bool := tie == .even && quotient % 2 == 0

/-- The quotient rounded to the nearest integer. -/
def roundedQuotient (tie : Tie) (numerator denominator : Nat) : Nat :=
  let quotient := numerator / denominator
  let twice := 2 * (numerator % denominator)
  if twice < denominator ∨ (twice = denominator ∧ tie.staysBelow quotient) then quotient
  else quotient + 1

/-- The number nearest to a ratio of naturals, of two the even one, infinite from the limit on. -/
def ofRatio (negative : Bool) (numerator denominator : Nat) : Binary64 :=
  let scaled := numerator * unitsOfOne
  let step := spacing (scaled / denominator)
  let units := roundedQuotient .even scaled (denominator * step) * step
  if units < unitLimit then .finite negative units else .infinite negative

/-- The number nearest to an integer. -/
def ofInt (value : Int) : Binary64 := ofRatio (decide (value < 0)) value.natAbs 1

/-- A decimal `digits * 10 ^ exponent` beyond these bounds is infinite or zero. -/
def ofDecimal (negative : Bool) (digits : Nat) (exponent : Int) : Binary64 :=
  let magnitude := exponent + (Nat.toDigits 10 digits).length
  if digits = 0 ∨ magnitude < -330 then zero negative
  else if 310 < magnitude then .infinite negative
  else if exponent < 0 then ofRatio negative digits (Nat.pow 10 exponent.natAbs)
  else ofRatio negative (digits * Nat.pow 10 exponent.natAbs) 1

/-- The rounded product of a finite number and a power of ten up to the 308th. -/
def timesPowerOfTen (value : Binary64) (power : Nat) : Binary64 :=
  match value, ofDecimal false 1 power with
  | .finite negative units, .finite _ factor =>
      ofRatio negative (units * factor) (unitsOfOne * unitsOfOne)
  | _, _ => value

/-- The rounded quotient of a finite number and a power of ten up to the 308th. -/
def overPowerOfTen (value : Binary64) (power : Nat) : Binary64 :=
  match value, ofDecimal false 1 power with
  | .finite negative units, .finite _ divisor => ofRatio negative units divisor
  | _, _ => value

def isFinite : Binary64 → Bool
  | .finite _ _ => true
  | _ => false

/-- Numbers are compared by value, so the two zeros agree and nothing else is identified. -/
def sameValue : Binary64 → Binary64 → Bool
  | .finite leftSign left, .finite rightSign right =>
      left == right && (leftSign == rightSign || left == 0)
  | .infinite left, .infinite right => left == right
  | _, _ => false

/-- The nearest natural number, a tie going up, kept between zero and the limit. -/
def toNatWithin (limit : Nat) : Binary64 → Nat
  | .notANumber => 0
  | .infinite negative => if negative then 0 else limit
  | .finite negative units =>
      if negative then 0 else min (roundedQuotient .up units unitsOfOne) limit

end Binary64

end Bitemporal
