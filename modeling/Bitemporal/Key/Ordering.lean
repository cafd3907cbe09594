/-
This file defines the order in which rows are returned.
-/
import Bitemporal.Error

namespace Bitemporal

inductive Direction where
  | ascending
  | descending
deriving DecidableEq, Repr

namespace Direction

def keyword : Direction → String
  | .ascending => "asc"
  | .descending => "desc"

/-- Only the two keywords name a direction. -/
def ofKeyword (text : String) : Outcome Direction :=
  if text = "asc" then .ok .ascending
  else if text = "desc" then .ok .descending
  else .error (.sortDirection text)

end Direction

/-- Rows are ordered by the first field, then by the next one. -/
structure RowOrder where
  fields : List (String × Direction)
deriving DecidableEq, Repr

namespace RowOrder

/-- An order whose directions are given by keyword. -/
def ofKeywords (fields : List (String × String)) : Outcome RowOrder := do
  let parsed ← fields.mapM fun (field, direction) => do
    return (field, ← Direction.ofKeyword direction)
  return ⟨parsed⟩

/-- One field with the keyword of its direction. -/
def fieldText (field : String × Direction) : String :=
  "[" ++ field.1 ++ " :" ++ field.2.keyword ++ "]"

/-- The fields as the query lists them. -/
def fragment (order : RowOrder) : String :=
  "[" ++ " ".intercalate (order.fields.map fieldText) ++ "]"

/-- The entry of the query for the order. -/
def text (order : RowOrder) : String := ":order-by " ++ order.fragment

end RowOrder

end Bitemporal
