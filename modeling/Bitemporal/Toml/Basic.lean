/-
This file defines the values of TOML documents and the rules for defining tables.
-/
import Bitemporal.Binary64.Basic

namespace Bitemporal

/-- Dates and times are kept as their text. -/
inductive Toml where
  | string (value : String)
  | integer (value : Int)
  | float (value : Binary64)
  | boolean (value : Bool)
  | moment (text : String)
  | array (items : List Toml)
  | table (members : List (String × Toml))

namespace Toml

/-- How a table came into being decides who may add to it. -/
inductive Origin where
  | passed
  | header
  | dotted
deriving DecidableEq, Repr

/-- A document under construction; only its tables can still be added to. -/
inductive Draft where
  | closed (value : Toml)
  | table (origin : Origin) (members : List (String × Draft))
  | tables (elements : List (List (String × Draft)))

namespace Draft

/-- The members of a table under construction. -/
abbrev Members := List (String × Draft)

mutual

/-- The finished value. -/
def value : Draft → Toml
  | .closed value => value
  | .table _ members => .table (memberValues members)
  | .tables elements => .array (elementValues elements)

def memberValues : List (String × Draft) → List (String × Toml)
  | [] => []
  | (key, draft) :: rest => (key, value draft) :: memberValues rest

def elementValues : List (List (String × Draft)) → List Toml
  | [] => []
  | members :: rest => .table (memberValues members) :: elementValues rest

end

/-- A new value stands under its key; the change may look at the old one or refuse it. -/
def alter (key : String) (change : Option Draft → Option Draft) : Members → Option Members
  | [] => do
      let draft ← change none
      return [(key, draft)]
  | (other, draft) :: rest =>
      if other = key then do
        let changed ← change (some draft)
        return (key, changed) :: rest
      else do
        let others ← alter key change rest
        return (other, draft) :: others

/-- A header passes through tables and through the last element of an array of tables. -/
def enter (change : Members → Option Members) : Option Draft → Option Draft
  | none => (change []).map (.table .passed)
  | some (.closed _) => none
  | some (.table origin members) => (change members).map (.table origin)
  | some (.tables elements) =>
      match elements.getLast? with
      | none => none
      | some last => do
          let changed ← change last
          return .tables (elements.dropLast ++ [changed])

/-- A table may be opened by a header once, and not at all if a dotted key made it. -/
def openTable : Option Draft → Option Draft
  | none => some (.table .header [])
  | some (.table .passed members) => some (.table .header members)
  | _ => none

/-- An element is added to an array of tables. -/
def openElement : Option Draft → Option Draft
  | none => some (.tables [[]])
  | some (.tables elements) => some (.tables (elements ++ [[]]))
  | _ => none

/-- This function follows the keys of a header and changes what it names. -/
def underHeader (change : Option Draft → Option Draft) : List String → Members → Option Members
  | [] => fun _ => none
  | [last] => alter last change
  | key :: rest => alter key (enter (underHeader change rest))

/-- A dotted key makes the table that it adds to its own, unless a header opened that table. -/
def enterDotted (change : Members → Option Members) : Option Draft → Option Draft
  | none => (change []).map (.table .dotted)
  | some (.table .header _) => none
  | some (.table _ members) => (change members).map (.table .dotted)
  | some _ => none

/-- On its way to that table it may also pass through the last element of an array of tables. -/
def passDotted (change : Members → Option Members) : Option Draft → Option Draft
  | some (.tables elements) => enter change (some (.tables elements))
  | draft => enterDotted change draft

/-- A value may be given to a key once. -/
def define (value : Toml) : Option Draft → Option Draft
  | none => some (.closed value)
  | some _ => none

/-- This function gives a value to a dotted key. -/
def assign (value : Toml) : List String → Members → Option Members
  | [] => fun _ => none
  | [last] => alter last (define value)
  | [owner, last] => alter owner (enterDotted (alter last (define value)))
  | key :: rest => alter key (passDotted (assign value rest))

/-- This function gives a value to a dotted key of the table that a header opened. -/
def assignUnder (header path : List String) (value : Toml) : Members → Option Members :=
  match header with
  | [] => assign value path
  | _ => underHeader (enter (assign value path)) header

end Draft

end Toml

end Bitemporal
