/-
This file reads TOML documents.
-/
import Bitemporal.Toml.Scalar
import Bitemporal.Toml.Text

namespace Bitemporal.Toml

/-- Keys without quotes are made of these characters. -/
def isBareKeyCharacter (character : Char) : Bool :=
  character.isAlphanum || character == '-' || character == '_'

/-- One part of a key, with or without quotes. -/
def keyPart (text : List Char) : Option (String × List Char) :=
  match lineString text with
  | some found => some found
  | none =>
      let bare := text.takeWhile isBareKeyCharacter
      if bare.isEmpty then none
      else some (String.ofList bare, text.dropWhile isBareKeyCharacter)

/-- The parts of a key are separated by points; blanks around them do not matter. -/
def dottedKey : (fuel : Nat) → List Char → Option (List String × List Char)
  | 0, _ => none
  | fuel + 1, text => do
      let (part, rest) ← keyPart (skipBlank text)
      match skipBlank rest with
      | '.' :: more => do
          let (others, left) ← dottedKey fuel more
          return (part :: others, left)
      | left => return ([part], left)

/-- Keys have at most this many parts. -/
def keyLimit : Nat := 80

/-- A whole key. -/
def key (text : List Char) : Option (List String × List Char) := dottedKey keyLimit text

/-- This function skips blanks, line ends and comments between values. -/
def skipLines (inComment : Bool) : List Char → Option (List Char)
  | [] => some []
  | '\n' :: rest => skipLines false rest
  | '\r' :: '\n' :: rest => skipLines false rest
  | character :: rest =>
      if inComment then if isPlain character then skipLines true rest else none
      else if isBlank character then skipLines false rest
      else if character = '#' then skipLines true rest
      else some (character :: rest)

/-- Entries with commas between them; a comma may also stand behind the last one. -/
def entries {Entry : Type} (close : Char) (entry : List Char → Option (Entry × List Char)) :
    (fuel : Nat) → List Char → Option (List Entry × List Char)
  | 0, _ => none
  | fuel + 1, text => do
      match ← skipLines false text with
      | [] => none
      | next :: more =>
          if next = close then return ([], more)
          else
            let (first, rest) ← entry (next :: more)
            match ← skipLines false rest with
            | [] => none
            | mark :: behind =>
                if mark = ',' then
                  let (others, left) ← entries close entry fuel behind
                  return (first :: others, left)
                else if mark = close then return ([first], behind)
                else none

/-- A key, an equals sign and a value, with what may stand between them skipped. -/
def keyed (skip : List Char → Option (List Char)) (value : List Char → Option (Toml × List Char))
    (text : List Char) : Option ((List String × Toml) × List Char) := do
  let (path, afterKey) ← key text
  match ← skip afterKey with
  | '=' :: rest => do
      let (found, left) ← value (← skip rest)
      return ((path, found), left)
  | _ => none

/-- The table that assignments on one line define. -/
def inlineTable (assignments : List (List String × Toml)) : Option Toml := do
  let members ← assignments.foldlM
    (fun members assignment => Draft.assign assignment.2 assignment.1 members) []
  return .table (Draft.memberValues members)

/-- A string or a scalar. -/
def simpleValue (text : List Char) : Option (Toml × List Char) :=
  match anyString text with
  | some (value, rest) => some (.string value, rest)
  | none =>
      match text with
      | '"' :: _ => none
      | '\x27' :: _ => none
      | _ => scalar text

/-- A value nested no deeper than the depth. -/
def valueWithin : (depth : Nat) → List Char → Option (Toml × List Char)
  | 0, text => simpleValue text
  | depth + 1, text =>
      match text with
      | '[' :: rest =>
          (entries ']' (valueWithin depth) text.length rest).map fun (items, left) =>
            (.array items, left)
      | '{' :: rest => do
          let (assignments, left) ← entries '}' (keyed (skipLines false) (valueWithin depth))
            text.length rest
          let table ← inlineTable assignments
          return (table, left)
      | _ => simpleValue text

/-- Values may be nested this deep. -/
def depthLimit : Nat := 80

/-- Only a comment may stand behind a statement on its line. -/
def endLine (text : List Char) : Option (List Char) :=
  match skipBlank text with
  | [] => some []
  | '#' :: rest => skipLines true rest
  | '\n' :: rest => skipLines false rest
  | '\r' :: '\n' :: rest => skipLines false rest
  | _ => none

/-- The table that statements add to, and all that was defined so far. -/
structure Progress where
  header : List String
  members : Draft.Members

/-- The key of a header, behind its opening brackets and up to the closing ones. -/
def headerKey (close text : List Char) : Option (List String × List Char) := do
  let (path, rest) ← key text
  if close.isPrefixOf rest then return (path, rest.drop close.length) else none

/-- One statement: a header of a table, a header of an element, or an assignment. -/
def statement (progress : Progress) : List Char → Option (Progress × List Char)
  | '[' :: '[' :: text => do
      let (path, rest) ← headerKey [']', ']'] text
      let members ← Draft.underHeader Draft.openElement path progress.members
      return (⟨path, members⟩, rest)
  | '[' :: text => do
      let (path, rest) ← headerKey [']'] text
      let members ← Draft.underHeader Draft.openTable path progress.members
      return (⟨path, members⟩, rest)
  | text => do
      let ((path, value), rest) ← keyed (some ∘ skipBlank) (valueWithin depthLimit) text
      let members ← Draft.assignUnder progress.header path value progress.members
      return (⟨progress.header, members⟩, rest)

/-- Statements up to the end of the text, each of them on lines of its own. -/
def statements : (fuel : Nat) → Progress → List Char → Option Progress
  | _, progress, [] => some progress
  | 0, _, _ => none
  | fuel + 1, progress, text => do
      let (changed, rest) ← statement progress text
      let left ← endLine rest
      statements fuel changed left

/-- A byte order mark in front of the text is skipped. -/
def dropMark : List Char → List Char
  | '\ufeff' :: rest => rest
  | text => text

/-- The members of a document. -/
def read (text : String) : Option (List (String × Toml)) := do
  let characters ← skipLines false (dropMark text.toList)
  let progress ← statements characters.length ⟨[], []⟩ characters
  return Draft.memberValues progress.members

end Bitemporal.Toml
