/-
This file reads conditions from query text.
-/
import Bitemporal.Proofs.Clause.Meaning
import Bitemporal.Proofs.Edn.Form

namespace Bitemporal

open Edn

/-- A condition as a node reads it from its text. -/
inductive Condition where
  | leaf (leaf : Leaf)
  | all (conditions : List Condition)
  | any (conditions : List Condition)
  | negation (conditions : List Condition)
  | negationJoin (shared : String) (conditions : List Condition)
  | disjunctionJoin (shared : String) (conditions : List Condition)

namespace Condition

/-- The name of a field stands behind a colon. -/
def fieldName? (text : String) : Option String :=
  match text.toList with
  | ':' :: first :: rest => some (String.ofList (first :: rest))
  | _ => none

def atom? : Form → Option String
  | .atom text => some text
  | .group _ _ => none

/-- Square brackets hold a document, a field and a value, or a call and the name of its result. -/
def leaf? : List Form → Option Leaf
  | [.atom document, .atom field, .atom value] =>
      (fieldName? field).map fun name => .pattern document name value
  | [.group .round (.atom operation :: arguments)] =>
      (arguments.mapM atom?).map fun arguments => .call operation arguments none
  | [.group .round (.atom operation :: arguments), .atom result] =>
      (arguments.mapM atom?).map fun arguments => .call operation arguments (some result)
  | _ => none

mutual

/-- Leaves stand in square brackets, and all else in round ones behind its name. -/
def ofForm? : Form → Option Condition
  | .group .square items => (leaf? items).map .leaf
  | .group .round (.atom "and" :: items) => (ofForms? items).map .all
  | .group .round (.atom "or" :: items) => (ofForms? items).map .any
  | .group .round (.atom "not" :: items) => (ofForms? items).map .negation
  | .group .round (.atom "not-join" :: .group .square [.atom shared] :: items) =>
      (ofForms? items).map (.negationJoin shared)
  | .group .round (.atom "or-join" :: .group .square [.atom shared] :: items) =>
      (ofForms? items).map (.disjunctionJoin shared)
  | _ => none

def ofForms? : List Form → Option (List Condition)
  | [] => some []
  | form :: rest => do
      let condition ← ofForm? form
      let conditions ← ofForms? rest
      return condition :: conditions

end

/-- The conditions of a list behind its keyword hold together. -/
def ofSection? : List Form → Option Condition
  | [.atom ":where", .group .square items] => (ofForms? items).map .all
  | _ => none

/-- This function reads the section of a query that lists its conditions. -/
def ofText? (text : String) : Option Condition := (Edn.read? text).bind ofSection?

section Truth

variable {World : Type} (meaning : Meaning World)

mutual

/-- The worlds in which a condition holds. -/
def holds : Condition → World → Bool
  | .leaf single => meaning.leaf single
  | .all conditions => allHold conditions
  | .any conditions => someHolds conditions
  | .negation conditions => fun world => !allHold conditions world
  | .negationJoin shared conditions =>
      fun world => !meaning.join shared (allHold conditions) world
  | .disjunctionJoin shared conditions => meaning.join shared (someHolds conditions)

def allHold : List Condition → World → Bool
  | [] => fun _ => true
  | condition :: rest => fun world => holds condition world && allHold rest world

def someHolds : List Condition → World → Bool
  | [] => fun _ => false
  | condition :: rest => fun world => holds condition world || someHolds rest world

end

end Truth

end Condition

end Bitemporal
