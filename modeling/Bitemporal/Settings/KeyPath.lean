/-
This file reads setting keys as paths into composite values.
-/
import Bitemporal.Text.Digits

namespace Bitemporal.KeyPath

/-- Names in a path are made of these characters. -/
def isNameCharacter (character : Char) : Bool :=
  character.isAlphanum || character == '_' || character == '-'

def skipSpaces (text : List Char) : List Char :=
  text.dropWhile fun character => character == ' ' || character == '\t'

/-- A name and the text behind it. -/
def name (text : List Char) : Option (List Char × List Char) :=
  let found := text.takeWhile isNameCharacter
  if found.isEmpty then none else some (found, text.dropWhile isNameCharacter)

/-- Positions end below this limit. -/
def positionLimit : Nat := 9223372036854775808

/-- Digits spell a position of 64 bits, one of them being the sign. -/
def isPosition (negative : Bool) (digits : List Char) : Bool :=
  !digits.isEmpty && Digits.natural digits < positionLimit + negative.toNat

/-- The digits of a position and the closing bracket, which blanks may precede. -/
def unsignedPosition (negative : Bool) (text : List Char) : Option (List Char) :=
  let (digits, rest) := Digits.leading text
  if isPosition negative digits then
    match skipSpaces rest with
    | ']' :: behind => some behind
    | _ => none
  else none

/-- A position inside brackets may be negative and stand between blanks. -/
def position (text : List Char) : Option (List Char) :=
  match skipSpaces text with
  | '-' :: rest => unsignedPosition true rest
  | rest => unsignedPosition false rest

/-- The steps behind the first name, which are counted here. -/
def steps : (fuel : Nat) → List Char → Option Nat
  | _, [] => some 0
  | 0, _ => none
  | fuel + 1, '.' :: text => do
      let (_, rest) ← name text
      let others ← steps fuel rest
      return others + 1
  | fuel + 1, '[' :: text => do
      let rest ← position text
      let others ← steps fuel rest
      return others + 1
  | _, _ => none

/-- The first name of a path and the number of steps behind it; any other key names itself. -/
def root (key : String) : String × Nat :=
  let text := key.toList
  match name text with
  | none => (key, 0)
  | some (first, rest) =>
      match steps rest.length rest with
      | some count => (String.ofList first, count)
      | none => (key, 0)

end Bitemporal.KeyPath
