/-
This file reads query text as nested forms, one character after another.
-/
import Bitemporal.Text.Blank
import Bitemporal.Text.Literal

namespace Bitemporal.Edn

inductive Bracket where
  | round
  | square
  | curly
deriving DecidableEq, Repr

namespace Bracket

def opening : Bracket → Char
  | .round => '('
  | .square => '['
  | .curly => '{'

def closing : Bracket → Char
  | .round => ')'
  | .square => ']'
  | .curly => '}'

def all : List Bracket := [.round, .square, .curly]

/-- The bracket that a character opens. -/
def opened? (character : Char) : Option Bracket :=
  all.find? fun bracket => bracket.opening == character

/-- The bracket that a character closes. -/
def closed? (character : Char) : Option Bracket :=
  all.find? fun bracket => bracket.closing == character

end Bracket

/-- A form is an atom, with its quotes if it is a literal, or a group of forms. -/
inductive Form where
  | atom (text : String)
  | group (bracket : Bracket) (items : List Form)

/-- Inside a literal a backslash escapes the character behind it. -/
inductive Mode where
  | plain
  | quoted
  | escaped
deriving DecidableEq, Repr

/-- The open groups, innermost first; forms and characters are listed latest first. -/
structure Reading where
  outer : List (Bracket × List Form)
  forms : List Form
  atom : List Char
  mode : Mode

namespace Reading

/-- Nothing has been read. -/
def start : Reading := ⟨[], [], [], .plain⟩

/-- The forms after the current atom has come to its end. -/
def flushed (forms : List Form) (atom : List Char) : List Form :=
  if atom.isEmpty then forms else .atom (String.ofList atom.reverse) :: forms

def flush (reading : Reading) : Reading :=
  { reading with forms := flushed reading.forms reading.atom, atom := [] }

/-- A character belongs to the current atom. -/
def push (reading : Reading) (character : Char) (mode : Mode) : Reading :=
  { reading with atom := character :: reading.atom, mode := mode }

/-- A new group is read inside the current one. -/
def enter (reading : Reading) (bracket : Bracket) : Reading :=
  { reading with outer := (bracket, reading.forms) :: reading.outer, forms := [] }

/-- The current group is a form of the one around it, which has to be of this bracket. -/
def leave? (reading : Reading) (bracket : Bracket) : Option Reading :=
  match reading.outer with
  | (open_, before) :: rest =>
      if open_ = bracket then
        some { reading with outer := rest, forms := .group bracket reading.forms.reverse :: before }
      else none
  | [] => none

/-- Outside of literals blanks and brackets end an atom. -/
def plainStep? (reading : Reading) (character : Char) : Option Reading :=
  if character = '"' then some (reading.push character .quoted)
  else if Blank.isBlank character then some reading.flush
  else
    match Bracket.opened? character, Bracket.closed? character with
    | some bracket, _ => some (reading.flush.enter bracket)
    | none, some bracket => reading.flush.leave? bracket
    | none, none => some (reading.push character .plain)

/-- A literal ends at the first quote that is not escaped. -/
def quotedMode (character : Char) : Mode :=
  if character = '"' then .plain else if character = '\\' then .escaped else .quoted

/-- One more character is read. -/
def step? (reading : Reading) (character : Char) : Option Reading :=
  match reading.mode with
  | .plain => reading.plainStep? character
  | .quoted => some (reading.push character (quotedMode character))
  | .escaped => some (reading.push character .quoted)

/-- A text ends outside of groups and literals. -/
def finish? (reading : Reading) : Option (List Form) :=
  if reading.outer.isEmpty ∧ reading.mode = .plain then
    some (flushed reading.forms reading.atom).reverse
  else none

end Reading

/-- The forms of a whole text. -/
def read? (text : String) : Option (List Form) :=
  (text.toList.foldlM Reading.step? .start).bind Reading.finish?

/-- Characters that end an atom. -/
def isDelimiter (character : Char) : Bool :=
  Blank.isBlank character || (Bracket.opened? character).isSome ||
    (Bracket.closed? character).isSome

/-- A token has no blanks, brackets or quotes. -/
def IsToken (text : String) : Prop :=
  text.toList ≠ [] ∧ ∀ character ∈ text.toList, isDelimiter character = false ∧ character ≠ '"'

/-- The characters of the text are checked one by one. -/
instance (text : String) : Decidable (IsToken text) :=
  have : Decidable (∀ character ∈ text.toList, isDelimiter character = false ∧ character ≠ '"') :=
    List.decidableBAll _ _
  inferInstanceAs (Decidable (_ ∧ _))

/-- A literal of a text without backslashes. -/
def IsPlainLiteral (text : String) : Prop :=
  ∃ value : String, '\\' ∉ value.toList ∧ text = quote value

/-- A single atom. -/
def IsAtom (text : String) : Prop := IsToken text ∨ IsPlainLiteral text

end Bitemporal.Edn
