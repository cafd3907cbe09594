/-
This file defines the binding of query arguments to values.
-/
import Bitemporal.Error
import Bitemporal.Text.Literal

namespace Bitemporal

/-- The names that a query binds. -/
inductive BindingNames where
  | scalar (name : String)
  | sequence (names : List String)
  | relation (names : List String)
deriving DecidableEq, Repr

/-- The values given for the names. -/
inductive BindingValues where
  | scalar (value : String)
  | sequence (values : List String)
  | relation (rows : List (List String))
deriving DecidableEq, Repr

/-- Names and values of the same shape. -/
structure Binding where
  names : BindingNames
  values : BindingValues
deriving DecidableEq, Repr

namespace Binding

/-- This name behind another one makes a collection of it. -/
def marker : String := "..."

/-- The fault of the name that stands at this position. -/
def nameFault (names : List String) (markerAllowed : Bool) (position : Nat) (name : String) :
    Option BindingFault :=
  if name.isEmpty then some .emptyName
  else if name == marker && !(markerAllowed && position == 1 && names.length == 2) then
    some (.misplacedMarker names)
  else none

/-- The fault of the first name that has one. -/
def firstNameFault (names : List String) (markerAllowed : Bool) : Option BindingFault :=
  if names.isEmpty then some .noNames
  else names.zipIdx.findSome? fun (name, position) => nameFault names markerAllowed position name

/-- A sequence whose last name is the marker takes any number of values. -/
def sequenceFault (names values : List String) : Option BindingFault :=
  match firstNameFault names true with
  | some fault => some fault
  | none =>
      if names.getLast? == some marker || names.length == values.length then none
      else some (.tupleSize names.length values.length)

/-- Every row of a relation has one value for each name. -/
def relationFault (names : List String) (rows : List (List String)) : Option BindingFault :=
  match firstNameFault names false with
  | some fault => some fault
  | none =>
      (rows.find? fun row => row.length != names.length).map fun row =>
        .rowSize names.length row.length

/-- The first fault of names and values. -/
def fault? : BindingNames → BindingValues → Option BindingFault
  | .scalar name, .scalar _ => if name.isEmpty then some .emptyName else none
  | .sequence names, .sequence values => sequenceFault names values
  | .relation names, .relation rows => relationFault names rows
  | _, _ => some .otherShape

/-- A binding without fault. -/
def create (names : BindingNames) (values : BindingValues) : Outcome Binding :=
  match fault? names values with
  | some fault => .error (.binding fault)
  | none => .ok ⟨names, values⟩

/-- A binding is accepted exactly when nothing is wrong with it. -/
theorem create_eq_ok_iff (names : BindingNames) (values : BindingValues) (binding : Binding) :
    create names values = .ok binding ↔
      fault? names values = none ∧ binding = ⟨names, values⟩ := by
  unfold create
  cases fault? names values with
  | none => simp [eq_comm]
  | some fault => simp

/-- One name bound to one value. -/
def scalar (name value : String) : Outcome Binding := create (.scalar name) (.scalar value)

/-- One name bound to each of the values. -/
def collection (name : String) (values : List String) : Outcome Binding :=
  create (.sequence [name, marker]) (.sequence values)

/-- Texts stand in brackets with one blank between neighbours. -/
def bracketed (texts : List String) : String := "[" ++ " ".intercalate texts ++ "]"

/-- The names as the query lists them. -/
def fragment (binding : Binding) : String :=
  match binding.names with
  | .scalar name => name
  | .sequence names => bracketed names
  | .relation names => "[" ++ bracketed names ++ " " ++ marker ++ "]"

/-- The entry of the query for the names. -/
def text (binding : Binding) : String := ":in [" ++ binding.fragment ++ "]"

/-- The values as they are sent beside the query. -/
def valuesFragment : BindingValues → String
  | .scalar value => quote value
  | .sequence values => bracketed (values.map quote)
  | .relation rows => bracketed (rows.map fun row => bracketed (row.map quote))

/-- The entry beside the query for the values. -/
def valuesText (binding : Binding) : String :=
  ":in-args [" ++ valuesFragment binding.values ++ "]"

end Binding

end Bitemporal
