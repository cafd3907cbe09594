/-
This file layers the settings of a client: defaults, a file and the environment.
-/
import Bitemporal.Error
import Bitemporal.Settings.KeyPath
import Bitemporal.Toml.Reader

namespace Bitemporal

/-- The address of a node and the time, in seconds, that a request may take. -/
structure Settings where
  uri : String
  timeout : Option UInt64
deriving DecidableEq, Repr

/-- The value of a setting in one layer; the parts of a composite do not matter. -/
inductive Setting where
  | string (value : String)
  | integer (value : Int)
  | float (value : Binary64)
  | boolean (value : Bool)
  | composite

namespace Setting

def ofToml : Toml → Setting
  | .string value => .string value
  | .integer value => .integer value
  | .float value => .float value
  | .boolean value => .boolean value
  | .moment text => .string text
  | .array _ => .composite
  | .table _ => .composite

/-- Everything but a composite has a text. -/
def text? : Setting → Option String
  | .string value => some value
  | .integer value => some (toString value)
  | .float value => some (value.text .plain)
  | .boolean value => some (toString value)
  | .composite => none

/-- This many values fit in 64 bits. -/
def countLimit : Nat := 18446744073709551616

/-- A number within 64 bits. -/
def bounded? (value : Nat) : Option UInt64 :=
  if value < countLimit then some (UInt64.ofNat value) else none

/-- Digits with an optional plus sign in front. -/
def digitsCount? (text : List Char) : Option UInt64 :=
  let digits := match text with
    | '+' :: rest => rest
    | other => other
  if digits.isEmpty || !digits.all Char.isDigit then none else bounded? (Digits.natural digits)

/-- Words in any letter case stand for one and zero. -/
def wordCount? (text : String) : Option UInt64 :=
  let word := String.ofList (text.toList.map Char.toLower)
  if ["true", "on", "yes"].contains word then some 1
  else if ["false", "off", "no"].contains word then some 0
  else none

/-- A number that is not an integer is rounded and kept within 64 bits. -/
def count? : Setting → Option UInt64
  | .integer value => if 0 ≤ value then bounded? value.toNat else none
  | .boolean value => some (if value then 1 else 0)
  | .float value => bounded? (value.toNatWithin (countLimit - 1))
  | .string text => wordCount? text <|> digitsCount? text.toList
  | .composite => none

end Setting

namespace Settings

/-- The entries of one layer, a later one replacing an earlier one. -/
abbrev Layer := List (String × Setting)

def uriKey : String := "uri"

def timeoutKey : String := "timeout_seconds"

def defaults : Layer :=
  [(uriKey, .string "http://localhost:3000/_xtdb"), (timeoutKey, .integer 30)]

/-- A key that is a path into a setting makes a composite of it. -/
def rooted (entry : String × Setting) : String × Setting :=
  let (root, steps) := KeyPath.root entry.1
  (root, if steps = 0 then entry.2 else .composite)

/-- The value that the last entry for a key gives it. -/
def last? (key : String) (layers : List Layer) : Option Setting :=
  ((layers.flatten.map rooted).filter fun entry => entry.1 == key).getLast?.map Prod.snd

/-- The settings are the last values, and both of them have to be usable. -/
def ofLayers (layers : List Layer) : Outcome Settings :=
  match (last? uriKey (defaults :: layers)).bind Setting.text? with
  | none => .error (.settings (.unusableValue uriKey))
  | some uri =>
      match (last? timeoutKey (defaults :: layers)).bind Setting.count? with
      | none => .error (.settings (.unusableValue timeoutKey))
      | some timeout => .ok ⟨uri, some timeout⟩

/-- The settings that nothing changes. -/
def initial : Outcome Settings := ofLayers []

/-- The layer of a file. -/
def fileLayer (text : String) : Outcome Layer :=
  match Toml.read text with
  | some members => .ok (members.map fun (key, value) => (key, Setting.ofToml value))
  | none => .error (.settings .malformedFile)

/-- Settings in the text of a file, on top of the defaults. -/
def ofToml (text : String) : Outcome Settings := do
  let layer ← fileLayer text
  ofLayers [layer]

/-- Variables for settings start with these letters, in any letter case. -/
def variableStart : String := "xtdb_"

/-- The Kelvin sign is the only other letter that becomes one of the alphabet in lower case. -/
def lowered (character : Char) : Char :=
  if character = '\u212a' then 'k' else character.toLower

/-- The key that a variable sets. -/
def variableKey? (name : String) : Option String :=
  let lowered := name.toList.map lowered
  if variableStart.toList.isPrefixOf lowered then
    some (String.ofList (lowered.drop variableStart.length))
  else none

/-- The layer of the environment, whose values are strings. -/
def environmentLayer (environment : List (String × String)) : Layer :=
  environment.filterMap fun (name, value) =>
    (variableKey? name).map fun key => (key, Setting.string value)

/-- A byte order mark in front of a file is no part of its text. -/
def withoutMark (file : String) : String := String.ofList (Toml.dropMark file.toList)

/-- A file that was asked for has to exist; the environment comes on top of it. -/
def load (required : Bool) (file : Option String) (environment : List (String × String)) :
    Outcome Settings := do
  let layer ← match file with
    | some text => fileLayer (withoutMark text)
    | none => if required then throw (.settings .missingFile) else pure []
  ofLayers [layer, environmentLayer environment]

end Settings

end Bitemporal
