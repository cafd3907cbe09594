/-
This file reads the strings of TOML documents.
-/
import Bitemporal.Text.Digits

namespace Bitemporal.Toml

/-- Control characters other than the tab may not stand for themselves. -/
def isPlain (character : Char) : Bool :=
  character == '\t' || (32 ≤ character.toNat && character.toNat != 127)

def isBlank (character : Char) : Bool := character == ' ' || character == '\t'

def skipBlank (text : List Char) : List Char := text.dropWhile isBlank

/-- The escapes of one letter. -/
def shortEscape : Char → Option Char
  | 'b' => some '\x08'
  | 't' => some '\t'
  | 'n' => some '\n'
  | 'f' => some '\x0c'
  | 'r' => some '\r'
  | 'e' => some '\x1b'
  | '"' => some '"'
  | '\\' => some '\\'
  | _ => none

/-- Hexadecimal digits name a character that is no surrogate. -/
def codePoint (digits : List Char) : Option Char := do
  let code ← Digits.inBase? 16 digits
  if code.isValidChar then return Char.ofNat code else none

/-- An escape behind its backslash, with the number of characters it takes. -/
def escape (text : List Char) : Option (Char × Nat) :=
  match text with
  | [] => none
  | letter :: rest =>
      let width := if letter = 'x' then 2 else if letter = 'u' then 4 else if letter = 'U' then 8 else 0
      if width = 0 then (shortEscape letter).map fun character => (character, 1)
      else
        let digits := rest.take width
        if digits.length = width then
          (codePoint digits).map fun character => (character, width + 1)
        else none

/-- The string ends at the first quote that is not escaped; so many characters are skipped first. -/
def basicBody : (skipped : Nat) → List Char → Option (List Char × List Char)
  | _, [] => none
  | skipped + 1, _ :: rest => basicBody skipped rest
  | 0, '"' :: rest => some ([], rest)
  | 0, '\\' :: rest =>
      match escape rest with
      | none => none
      | some (character, width) =>
          (basicBody width rest).map fun (body, left) => (character :: body, left)
  | 0, character :: rest =>
      if isPlain character then
        (basicBody 0 rest).map fun (body, left) => (character :: body, left)
      else none

/-- Nothing is escaped up to the closing apostrophe. -/
def literalBody : List Char → Option (List Char × List Char)
  | [] => none
  | character :: rest =>
      if character = '\x27' then some ([], rest)
      else if isPlain character then
        (literalBody rest).map fun (body, left) => (character :: body, left)
      else none

/-- A line ends at a line feed, which a carriage return may precede. -/
def startsLineEnd : List Char → Bool
  | '\n' :: _ => true
  | '\r' :: '\n' :: _ => true
  | _ => false

/-- What may stand inside a string of several lines. -/
def isLinePlain (text : List Char) : Bool :=
  match text with
  | [] => false
  | character :: _ => isPlain character || startsLineEnd text || character == '\n'

/-- A backslash at the end of a line joins the next text; up to two quotes may precede the end. -/
def linesBody (trimming : Bool) : (skipped : Nat) → List Char → Option (List Char × List Char)
  | _, [] => none
  | skipped + 1, _ :: rest => linesBody trimming skipped rest
  | 0, '"' :: '"' :: '"' :: '"' :: '"' :: rest => some (['"', '"'], rest)
  | 0, '"' :: '"' :: '"' :: '"' :: rest => some (['"'], rest)
  | 0, '"' :: '"' :: '"' :: rest => some ([], rest)
  | 0, character :: rest =>
      if trimming && (isBlank character || startsLineEnd (character :: rest)) then
        linesBody true (if character = '\r' then 1 else 0) rest
      else if character = '\\' then
        if startsLineEnd (skipBlank rest) then linesBody true 0 rest
        else
          match escape rest with
          | none => none
          | some (escaped, width) =>
              (linesBody false width rest).map fun (body, left) => (escaped :: body, left)
      else if isLinePlain (character :: rest) then
        (linesBody false 0 rest).map fun (body, left) => (character :: body, left)
      else none

/-- Nothing is escaped, and up to two apostrophes may precede the end. -/
def literalLinesBody : List Char → Option (List Char × List Char)
  | [] => none
  | '\x27' :: '\x27' :: '\x27' :: '\x27' :: '\x27' :: rest => some (['\x27', '\x27'], rest)
  | '\x27' :: '\x27' :: '\x27' :: '\x27' :: rest => some (['\x27'], rest)
  | '\x27' :: '\x27' :: '\x27' :: rest => some ([], rest)
  | character :: rest =>
      if isLinePlain (character :: rest) then
        (literalLinesBody rest).map fun (body, left) => (character :: body, left)
      else none

/-- A line end right behind the opening quotes is not part of the string. -/
def dropLineEnd : List Char → List Char
  | '\n' :: rest => rest
  | '\r' :: '\n' :: rest => rest
  | text => text

/-- A string on one line, as keys may be written too. -/
def lineString : List Char → Option (String × List Char)
  | '"' :: rest => (basicBody 0 rest).map fun (body, left) => (String.ofList body, left)
  | '\x27' :: rest => (literalBody rest).map fun (body, left) => (String.ofList body, left)
  | _ => none

/-- A string in any of its forms. -/
def anyString : List Char → Option (String × List Char)
  | '"' :: '"' :: '"' :: rest =>
      (linesBody false 0 (dropLineEnd rest)).map fun (body, left) => (String.ofList body, left)
  | '\x27' :: '\x27' :: '\x27' :: rest =>
      (literalLinesBody (dropLineEnd rest)).map fun (body, left) => (String.ofList body, left)
  | text => lineString text

end Bitemporal.Toml
