/-
This file writes JSON values as text.
-/
import Bitemporal.Binary64.Decimal
import Bitemporal.Json.Basic

namespace Bitemporal.Json

/-- One hexadecimal digit in lower case. -/
def hexadecimalDigit (digit : Nat) : Char := Nat.digitChar digit

/-- Quotes, backslashes and control characters are escaped, and nothing else is. -/
def escaped (character : Char) : List Char :=
  if character = '"' then ['\\', '"']
  else if character = '\\' then ['\\', '\\']
  else if character = '\x08' then ['\\', 'b']
  else if character = '\x0c' then ['\\', 'f']
  else if character = '\n' then ['\\', 'n']
  else if character = '\r' then ['\\', 'r']
  else if character = '\t' then ['\\', 't']
  else if character.toNat < 32 then
    ['\\', 'u', '0', '0', hexadecimalDigit (character.toNat / 16),
      hexadecimalDigit (character.toNat % 16)]
  else [character]

/-- The escaped characters stand between quotes. -/
def quoted (value : String) : List Char := '"' :: value.toList.flatMap escaped ++ ['"']

/-- A number that is not finite has no JSON form and is written as null. -/
def floatText (value : Binary64) : List Char :=
  if value.isFinite then (value.text .stored).toList else "null".toList

/-- A value without parts. -/
def scalarText : Json → List Char
  | .null => "null".toList
  | .boolean value => (toString value).toList
  | .integer value => (toString value).toList
  | .float value => floatText value
  | .string value => quoted value
  | .array _ => "[]".toList
  | .object _ => "\x7b\x7d".toList

/-- Texts are joined with a separator between neighbours. -/
def separated (separator : List Char) : List (List Char) → List Char
  | [] => []
  | [last] => last
  | first :: rest => first ++ separator ++ separated separator rest

mutual

/-- The text of a value without any blank. -/
def characters : Json → List Char
  | .array items => '[' :: separated [','] (itemTexts items) ++ [']']
  | .object members => '{' :: separated [','] (memberTexts members) ++ ['}']
  | scalar => scalarText scalar

def itemTexts : List Json → List (List Char)
  | [] => []
  | item :: rest => characters item :: itemTexts rest

def memberTexts : List (String × Json) → List (List Char)
  | [] => []
  | (key, value) :: rest => (quoted key ++ ':' :: characters value) :: memberTexts rest

end

/-- The compact text of a value. -/
def text (value : Json) : String := String.ofList (characters value)

/-- A line break followed by two blanks for each level. -/
def lineBreak (level : Nat) : List Char := '\n' :: List.replicate (2 * level) ' '

/-- The entries stand on lines of their own, one level deeper than the brackets. -/
def block (level : Nat) (left right : Char) (entries : List (List Char)) : List Char :=
  if entries.isEmpty then [left, right]
  else
    left :: lineBreak (level + 1) ++ separated (',' :: lineBreak (level + 1)) entries ++
      lineBreak level ++ [right]

mutual

/-- The text of a value with one entry on each line. -/
def indented (level : Nat) : Json → List Char
  | .array items => block level '[' ']' (indentedItems (level + 1) items)
  | .object members => block level '{' '}' (indentedMembers (level + 1) members)
  | scalar => scalarText scalar

def indentedItems (level : Nat) : List Json → List (List Char)
  | [] => []
  | item :: rest => indented level item :: indentedItems level rest

def indentedMembers (level : Nat) : List (String × Json) → List (List Char)
  | [] => []
  | (key, value) :: rest =>
      (quoted key ++ ':' :: ' ' :: indented level value) :: indentedMembers level rest

end

/-- The text of a value, indented by two blanks for each level. -/
def prettyText (value : Json) : String := String.ofList (indented 0 value)

end Bitemporal.Json
