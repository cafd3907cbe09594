/-
This file brings sibling fragments into a form that does not depend on how they were combined.
-/
namespace Bitemporal

/-- Fragments are sorted by their characters. -/
def sortFragments (fragments : List String) : List String :=
  fragments.mergeSort fun left right => decide (left ≤ right)

/-- Repeated fragments are dropped where that is allowed, and the rest sorted where it is. -/
def canonical (commutative idempotent : Bool) (fragments : List String) : List String :=
  let distinct := if idempotent then fragments.eraseDups else fragments
  if commutative then sortFragments distinct else distinct

end Bitemporal
