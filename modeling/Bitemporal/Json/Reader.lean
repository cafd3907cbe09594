/-
This file reads JSON values and records from text.
-/
import Bitemporal.Json.Number

namespace Bitemporal.Json

def isBlank (character : Char) : Bool :=
  character == ' ' || character == '\t' || character == '\n' || character == '\r'

def skipBlank (text : List Char) : List Char := text.dropWhile isBlank

/-- The sixteen-bit unit that four hexadecimal digits spell. -/
def unit? (digits : List Char) : Option Nat := Digits.inBase? 16 digits

def isLeadingSurrogate (unit : Nat) : Bool := 0xD800 ≤ unit && unit < 0xDC00

def isTrailingSurrogate (unit : Nat) : Bool := 0xDC00 ≤ unit && unit < 0xE000

/-- The character that a pair of surrogates stands for. -/
def pairedCharacter (leading trailing : Nat) : Char :=
  Char.ofNat (0x10000 + (leading - 0xD800) * 0x400 + (trailing - 0xDC00))

/-- The character that a one-letter escape stands for. -/
def shortEscape : Char → Option Char
  | '"' => some '"'
  | '\\' => some '\\'
  | '/' => some '/'
  | 'b' => some '\x08'
  | 'f' => some '\x0c'
  | 'n' => some '\n'
  | 'r' => some '\r'
  | 't' => some '\t'
  | _ => none

/-- A string is read up to its closing quote; one that is not kept may hold lone surrogates. -/
def stringBody (kept : Bool) : List Char → Option (List Char × List Char)
  | [] => none
  | '"' :: rest => some ([], rest)
  | '\\' :: 'u' :: a :: b :: c :: d :: rest =>
      match unit? [a, b, c, d] with
      | none => none
      | some unit =>
          if !kept then stringBody kept rest
          else if isLeadingSurrogate unit then
            match rest with
            | '\\' :: 'u' :: e :: f :: g :: h :: more =>
                match unit? [e, f, g, h] with
                | none => none
                | some trailing =>
                    if isTrailingSurrogate trailing then
                      (stringBody kept more).map fun (body, left) =>
                        (pairedCharacter unit trailing :: body, left)
                    else none
            | _ => none
          else if isTrailingSurrogate unit then none
          else
            (stringBody kept rest).map fun (body, left) => (Char.ofNat unit :: body, left)
  | '\\' :: letter :: rest =>
      match shortEscape letter with
      | none => none
      | some character =>
          (stringBody kept rest).map fun (body, left) => (character :: body, left)
  | character :: rest =>
      if character.toNat < 32 ∨ character = '\\' then none
      else (stringBody kept rest).map fun (body, left) => (character :: body, left)

/-- A quoted string. -/
def stringToken (kept : Bool) : List Char → Option (String × List Char)
  | '"' :: rest => (stringBody kept rest).map fun (body, left) => (String.ofList body, left)
  | _ => none

/-- Values without parts; a number that is not kept may be too large for any value. -/
def scalar (kept : Bool) : List Char → Option (Json × List Char)
  | 'n' :: 'u' :: 'l' :: 'l' :: rest => some (.null, rest)
  | 't' :: 'r' :: 'u' :: 'e' :: rest => some (.boolean true, rest)
  | 'f' :: 'a' :: 'l' :: 's' :: 'e' :: rest => some (.boolean false, rest)
  | '"' :: rest => (stringToken kept ('"' :: rest)).map fun (value, left) => (.string value, left)
  | text =>
      match number text with
      | some (some value, rest) => some (value, rest)
      | some (none, rest) => if kept then none else some (.null, rest)
      | none => none

/-- One or more entries with commas between them, up to the closing bracket. -/
def entries {Entry : Type} (close : Char) (entry : List Char → Option (Entry × List Char)) :
    (fuel : Nat) → List Char → Option (List Entry × List Char)
  | 0, _ => none
  | fuel + 1, text =>
      match entry text with
      | none => none
      | some (first, rest) =>
          match skipBlank rest with
          | [] => none
          | next :: more =>
              if next = ',' then
                (entries close entry fuel more).map fun (others, left) => (first :: others, left)
              else if next = close then some ([first], more)
              else none

/-- Any number of entries behind an opening bracket. -/
def bracketed {Entry : Type} (close : Char) (entry : List Char → Option (Entry × List Char))
    (text : List Char) : Option (List Entry × List Char) :=
  match skipBlank text with
  | [] => none
  | next :: more =>
      if next = close then some ([], more) else entries close entry text.length (next :: more)

/-- A key, a colon and whatever the reader chosen by the key finds behind it. -/
def keyed {Entry : Type} (kept : Bool) (value : String → List Char → Option (Entry × List Char))
    (text : List Char) : Option ((String × Entry) × List Char) := do
  let (key, afterKey) ← stringToken kept (skipBlank text)
  match skipBlank afterKey with
  | ':' :: rest =>
      let (found, left) ← value key rest
      return ((key, found), left)
  | _ => none

/-- A value nested no deeper than the depth; blanks in front are skipped. -/
def valueWithin (kept : Bool) : (depth : Nat) → List Char → Option (Json × List Char)
  | 0, text => scalar kept (skipBlank text)
  | depth + 1, text =>
      match skipBlank text with
      | '[' :: rest =>
          (bracketed ']' (valueWithin kept depth) rest).map fun (items, left) =>
            (.array items, left)
      | '{' :: rest =>
          (bracketed '}' (keyed kept fun _ => valueWithin kept depth) rest).map
            fun (members, left) => (.object (Members.ofEntries members), left)
      | other => scalar kept other

/-- Values may be nested this deep. -/
def depthLimit : Nat := 127

/-- The whole text is one value nested no deeper than the depth. -/
def readWithin (depth : Nat) (text : String) : Option Json :=
  match valueWithin true depth text.toList with
  | some (value, rest) => if (skipBlank rest).isEmpty then some value else none
  | none => none

/-- The whole text is one value. -/
def read (text : String) : Option Json := readWithin depthLimit text

/-- A member of a record; the value of a key that is no field is skipped at any depth. -/
def fieldEntry (fields : List String) (text : List Char) :
    Option ((String × Option Json) × List Char) :=
  keyed true (fun key rest =>
    if fields.contains key then
      (valueWithin true (depthLimit - 1) rest).map fun (value, left) => (some value, left)
    else (valueWithin false rest.length rest).map fun (_, left) => (none, left)) text

/-- The members that are fields, in the order they were found. -/
def knownEntries (members : List (String × Option Json)) : List (String × Json) :=
  members.filterMap fun (key, value) => value.map (key, ·)

/-- A record is an object that gives no field twice, or an array of all fields in order. -/
def record (fields : List String) (text : List Char) :
    Option (List (String × Json) × List Char) :=
  match skipBlank text with
  | '{' :: rest => do
      let (members, left) ← bracketed '}' (fieldEntry fields) rest
      let known := knownEntries members
      if (known.map Prod.fst).Nodup then some (known, left) else none
  | '[' :: rest => do
      let (items, left) ← bracketed ']' (valueWithin true (depthLimit - 1)) rest
      if items.length = fields.length then some (fields.zip items, left) else none
  | _ => none

/-- The whole text is one record with these fields; the result holds the ones that were given. -/
def readRecord (fields : List String) (text : String) : Option (List (String × Json)) :=
  match record fields text.toList with
  | some (members, rest) => if (skipBlank rest).isEmpty then some members else none
  | none => none

end Bitemporal.Json
