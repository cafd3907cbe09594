/-
This file writes binary floating-point numbers with the fewest decimal digits that read back.
-/
import Bitemporal.Binary64.Basic

namespace Bitemporal

/-- A decimal magnitude `digits * 10 ^ exponent`. -/
structure Decimal where
  digits : Nat
  exponent : Int
deriving DecidableEq, Repr

namespace Decimal

/-- The decimal has the same value and its last digit is not zero, unless it is zero itself. -/
def trimmed : (fuel : Nat) → Decimal → Decimal
  | 0, decimal => decimal
  | fuel + 1, decimal =>
      if decimal.digits ≠ 0 ∧ decimal.digits % 10 = 0 then
        trimmed fuel ⟨decimal.digits / 10, decimal.exponent + 1⟩
      else decimal

/-- This function gives the decimal digits of a natural number, the first one leading. -/
def digitTexts (digits : Nat) : List Char := Nat.toDigits 10 digits

/-- The exponent that the leading digit counts in. -/
def leadingExponent (decimal : Decimal) : Int :=
  decimal.exponent + ((digitTexts decimal.digits).length : Int) - 1

end Decimal

namespace Binary64

/-- A number is the same as the rounded decimal with this sign. -/
def readsBack (negative : Bool) (units : Nat) (decimal : Decimal) : Bool :=
  ofDecimal negative decimal.digits decimal.exponent == .finite negative units

/-- The two neighbours of a magnitude on the decimal grid `10 ^ exponent`, the nearer one first. -/
def neighbours (tie : Tie) (units : Nat) (exponent : Int) : List Decimal :=
  let numerator := units * Nat.pow 10 (-exponent).toNat
  let denominator := unitsOfOne * Nat.pow 10 exponent.toNat
  let below := numerator / denominator
  let nearest := roundedQuotient tie numerator denominator
  [⟨nearest, exponent⟩, ⟨if nearest = below then below + 1 else below, exponent⟩]

/-- The exact decimal value of a magnitude. -/
def exactDecimal (units : Nat) : Decimal := ⟨units * Nat.pow 5 1074, -1074⟩

/-- The exponent of the leading decimal digit of a positive magnitude. -/
def decimalExponent (units : Nat) : Int := (exactDecimal units).leadingExponent

/-- The first decimal that reads back, on ever finer grids, and the exact value failing those. -/
def shortest (tie : Tie) (negative : Bool) (units : Nat) : Decimal :=
  if units = 0 then ⟨0, 0⟩
  else
    let leading := decimalExponent units
    let candidates := (List.range 17).flatMap fun (extra : Nat) =>
      neighbours tie units (leading - extra)
    let chosen := (candidates.find? (readsBack negative units)).getD (exactDecimal units)
    chosen.trimmed 800

/-- These choices fix how the digits of a number are laid out. -/
structure Layout where
  /-- Leading exponents in this range are written positionally; without it all are. -/
  positional : Option (Int × Int)
  /-- A whole number keeps one zero behind the point. -/
  keepsPoint : Bool
  /-- A positive exponent carries a plus sign. -/
  plusSign : Bool
  /-- Of two decimals that are equally short and equally near this one is written. -/
  tie : Tie

/-- Stored numbers are positional from `1e-5` up to `1e16`. -/
def Layout.stored : Layout := ⟨some (-5, 16), true, true, .even⟩

/-- Query literals are positional from `1e-4` up to `1e16`. -/
def Layout.literal : Layout := ⟨some (-4, 16), true, false, .up⟩

/-- Plain numbers are always positional, and whole ones have no point. -/
def Layout.plain : Layout := ⟨none, false, false, .up⟩

/-- The point stands so many digits behind the first one. -/
def positionalText (keepsPoint : Bool) (digits : List Char) (leading : Int) : List Char :=
  if leading < 0 then
    '0' :: '.' :: List.replicate (-leading - 1).toNat '0' ++ digits
  else
    let whole := leading.toNat + 1
    if digits.length ≤ whole then
      digits ++ List.replicate (whole - digits.length) '0' ++ (if keepsPoint then ['.', '0'] else [])
    else digits.take whole ++ '.' :: digits.drop whole

/-- One digit stands before the point and the exponent follows the digits. -/
def scientificText (plusSign : Bool) (digits : List Char) (leading : Int) : List Char :=
  let fraction := if digits.length ≤ 1 then [] else '.' :: digits.drop 1
  let sign := if leading < 0 then ['-'] else if plusSign then ['+'] else []
  digits.take 1 ++ fraction ++ 'e' :: sign ++ Nat.toDigits 10 leading.natAbs

/-- The magnitude zero is positional in every layout. -/
def Layout.isPositional (layout : Layout) (decimal : Decimal) : Bool :=
  match layout.positional with
  | none => true
  | some (least, limit) =>
      let leading := decimal.leadingExponent
      decimal.digits == 0 || (decide (least ≤ leading) && decide (leading < limit))

/-- The text of a number in a layout. -/
def text (layout : Layout) : Binary64 → String
  | .notANumber => "NaN"
  | .infinite negative => if negative then "-inf" else "inf"
  | .finite negative units =>
      let decimal := shortest layout.tie negative units
      let digits := Decimal.digitTexts decimal.digits
      let magnitude :=
        if layout.isPositional decimal then
          positionalText layout.keepsPoint digits decimal.leadingExponent
        else scientificText layout.plusSign digits decimal.leadingExponent
      String.ofList (if negative then '-' :: magnitude else magnitude)

end Binary64

end Bitemporal
