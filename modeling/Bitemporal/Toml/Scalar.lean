/-
This file reads the numbers, booleans, dates and times of TOML documents.
-/
import Bitemporal.Binary64.Numeral
import Bitemporal.Time.Calendar
import Bitemporal.Toml.Basic

namespace Bitemporal.Toml

/-- Digits may be grouped by single underscores between them; the groups are joined here. -/
def grouped (isDigit : Char → Bool) : List Char → Option (List Char)
  | [] => none
  | [last] => if isDigit last then some [last] else none
  | first :: '_' :: rest =>
      if isDigit first then (grouped isDigit rest).map (first :: ·) else none
  | first :: rest => if isDigit first then (grouped isDigit rest).map (first :: ·) else none

/-- A hexadecimal digit of either case whose value is below the base. -/
def isDigitOf (base : Nat) (character : Char) : Bool :=
  match Digits.hexadecimal character with
  | some digit => digit < base
  | none => false

/-- Integers end below this limit. -/
def integerLimit : Int := 9223372036854775808

/-- Integers lie within 64 bits, one of them being the sign. -/
def boundedInteger (value : Int) : Option Toml :=
  if -integerLimit ≤ value ∧ value < integerLimit then some (.integer value) else none

/-- An integer in another base than ten has no sign. -/
def basedInteger (base : Nat) (digits : List Char) : Option Toml := do
  let joined ← grouped (isDigitOf base) digits
  let value ← Digits.inBase? base joined
  boundedInteger value

/-- The whole part of a decimal number has no needless zero in front. -/
def wholeDigits (digits : List Char) : Option (List Char) := do
  let joined ← grouped Char.isDigit digits
  if joined.length = 1 ∨ joined.head? ≠ some '0' then return joined else none

def decimalInteger (negative : Bool) (digits : List Char) : Option Toml := do
  let joined ← wholeDigits digits
  let magnitude : Int := Digits.natural joined
  boundedInteger (if negative then -magnitude else magnitude)

/-- The part in front of a mark and the part behind it, if the mark occurs. -/
def splitAt (isMark : Char → Bool) (text : List Char) : List Char × Option (List Char) :=
  match text.dropWhile fun character => !isMark character with
  | [] => (text, none)
  | _ :: behind => (text.takeWhile fun character => !isMark character, some behind)

/-- An exponent has an optional sign, and zeros in front of it do not matter. -/
def exponentValue : Option (List Char) → Option Int
  | none => some 0
  | some text => do
      let (negative, unsigned) := Binary64.signed text
      let joined ← grouped Char.isDigit unsigned
      let magnitude : Int := Digits.natural joined
      return if negative then -magnitude else magnitude

/-- A float has a fraction or an exponent, and it is finite. -/
def decimalFloat (negative : Bool) (text : List Char) : Option Toml := do
  let (mantissa, exponentText) := splitAt (fun mark => mark == 'e' || mark == 'E') text
  let (whole, fractionText) := splitAt (· == '.') mantissa
  guard (exponentText.isSome || fractionText.isSome)
  let wholePart ← wholeDigits whole
  let fraction ← match fractionText with
    | none => some []
    | some digits => grouped Char.isDigit digits
  let exponent ← exponentValue exponentText
  let value := Binary64.ofDecimal negative (Digits.natural (wholePart ++ fraction))
    (exponent - fraction.length)
  if value.isFinite then return .float value else none

/-- A number without its sign. -/
def unsignedNumber (negative : Bool) (text : List Char) : Option Toml :=
  if text = ['i', 'n', 'f'] then some (.float (.infinite negative))
  else if text = ['n', 'a', 'n'] then some (.float .notANumber)
  else decimalInteger negative text <|> decimalFloat negative text

/-- A number in any of its notations. -/
def number : List Char → Option Toml
  | '0' :: 'x' :: digits => basedInteger 16 digits
  | '0' :: 'o' :: digits => basedInteger 8 digits
  | '0' :: 'b' :: digits => basedInteger 2 digits
  | text =>
      let (negative, unsigned) := Binary64.signed text
      unsignedNumber negative unsigned

/-- Exactly so many digits in front. -/
def fixedDigits (count : Nat) (text : List Char) : Option (Nat × List Char) :=
  let digits := text.take count
  if digits.length = count ∧ digits.all Char.isDigit then
    some (Digits.natural digits, text.drop count)
  else none

def expectMark (mark : Char) : List Char → Option (List Char)
  | first :: rest => if first = mark then some rest else none
  | [] => none

/-- A date and its text. -/
def datePart (text : List Char) : Option (String × List Char) := do
  let (year, rest) ← fixedDigits 4 text
  let rest ← expectMark '-' rest
  let (month, rest) ← fixedDigits 2 rest
  let rest ← expectMark '-' rest
  let (day, rest) ← fixedDigits 2 rest
  let date : Date := ⟨year, month, day⟩
  guard date.isReal
  return (String.ofList (text.take 10), rest)

/-- A fraction of a second keeps nine digits without the zeros at the end, but at least one. -/
def fractionPart : List Char → Option (String × List Char)
  | '.' :: text =>
      match Digits.leading text with
      | ([], _) => none
      | (digits, rest) =>
          let kept := ((digits.take 9).reverse.dropWhile (· == '0')).reverse
          some (String.ofList ('.' :: if kept.isEmpty then ['0'] else kept), rest)
  | text => some ("", text)

/-- The seconds of a time may be missing. -/
def secondPart : List Char → Option (String × List Char)
  | ':' :: text => do
      let (second, rest) ← fixedDigits 2 text
      guard (second ≤ 60)
      let (fraction, rest) ← fractionPart rest
      return (String.ofList (':' :: text.take 2) ++ fraction, rest)
  | text => some ("", text)

/-- A time of day and its text. -/
def timePart (text : List Char) : Option (String × List Char) := do
  let (hour, rest) ← fixedDigits 2 text
  let rest ← expectMark ':' rest
  let (minute, rest) ← fixedDigits 2 rest
  guard (hour ≤ 23 ∧ minute ≤ 59)
  let (second, rest) ← secondPart rest
  return (String.ofList (text.take 5) ++ second, rest)

/-- An offset may follow a date and a time; one of zero minutes is written with a plus sign. -/
def offsetPart : List Char → Option (String × List Char)
  | [] => some ("", [])
  | sign :: text =>
      if sign = 'Z' ∨ sign = 'z' then some ("Z", text)
      else if sign = '+' ∨ sign = '-' then do
        let (hour, rest) ← fixedDigits 2 text
        let rest ← expectMark ':' rest
        let (minute, rest) ← fixedDigits 2 rest
        guard (hour ≤ 23 ∧ minute ≤ 59)
        let written := if hour = 0 ∧ minute = 0 then '+' else sign
        return (String.ofList (written :: text.take 5), rest)
      else none

/-- A date, a time, or both with an offset. -/
def dateOrTime (text : List Char) : Option Toml :=
  match datePart text with
  | none =>
      match timePart text with
      | some (time, []) => some (.moment time)
      | _ => none
  | some (date, []) => some (.moment date)
  | some (date, mark :: rest) => do
      guard (mark = 'T' ∨ mark = 't' ∨ mark = ' ')
      let (time, rest) ← timePart rest
      let (offset, rest) ← offsetPart rest
      guard rest.isEmpty
      return .moment (date ++ "T" ++ time ++ offset)

/-- The characters that scalars are made of. -/
def isScalarCharacter (character : Char) : Bool :=
  character.isAlphanum || character == '+' || character == '-' || character == '_' ||
    character == '.' || character == ':'

/-- A date is joined to the time behind one blank. -/
def scalarText (text : List Char) : List Char × List Char :=
  let token := text.takeWhile isScalarCharacter
  match text.dropWhile isScalarCharacter with
  | ' ' :: next :: rest =>
      if next.isDigit && (datePart token).any fun part => part.2.isEmpty then
        (token ++ ' ' :: (next :: rest).takeWhile isScalarCharacter,
          (next :: rest).dropWhile isScalarCharacter)
      else (token, ' ' :: next :: rest)
  | rest => (token, rest)

/-- A value that is neither a string nor made of other values. -/
def scalar (text : List Char) : Option (Toml × List Char) := do
  let (token, rest) := scalarText text
  let value ←
    if token = "true".toList then some (.boolean true)
    else if token = "false".toList then some (.boolean false)
    else number token <|> dateOrTime token
  return (value, rest)

end Bitemporal.Toml
