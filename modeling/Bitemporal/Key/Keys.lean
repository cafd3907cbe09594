/-
This file collects the entries that a query may carry beside its projection and its condition.
-/
import Bitemporal.Key.Binding
import Bitemporal.Key.Ordering

namespace Bitemporal

/-- One entry of a query; the timeout counts milliseconds. -/
inductive QueryKey where
  | binding (bound : Binding)
  | order (sorted : RowOrder)
  | limit (count : UInt64)
  | offset (count : UInt64)
  | timeout (count : UInt64)

namespace QueryKey

def form : QueryKey → String
  | .binding _ => "in"
  | .order _ => "order-by"
  | .limit _ => "limit"
  | .offset _ => "offset"
  | .timeout _ => "timeout"

/-- The value of an entry without its keyword. -/
def fragment : QueryKey → String
  | .binding bound => bound.fragment
  | .order sorted => sorted.fragment
  | .limit count => toString count.toNat
  | .offset count => toString count.toNat
  | .timeout count => toString count.toNat

/-- An entry with its keyword; the names of a binding stand in brackets of their own. -/
def text (key : QueryKey) : String :=
  match key with
  | .binding bound => bound.text
  | other => ":" ++ other.form ++ " " ++ other.fragment

end QueryKey

/-- At most one entry of each kind. -/
structure QueryKeys where
  binding : Option Binding
  order : Option RowOrder
  limit : Option UInt64
  offset : Option UInt64
  timeout : Option UInt64
deriving DecidableEq

namespace QueryKeys

def empty : QueryKeys := ⟨none, none, none, none, none⟩

/-- An entry replaces the earlier one of its kind. -/
def set (keys : QueryKeys) : QueryKey → QueryKeys
  | .binding bound => { keys with binding := some bound }
  | .order sorted => { keys with order := some sorted }
  | .limit count => { keys with limit := some count }
  | .offset count => { keys with offset := some count }
  | .timeout count => { keys with timeout := some count }

/-- Of two entries of one kind the later one counts. -/
theorem set_set_of_form_eq (keys : QueryKeys) {first second : QueryKey}
    (same : first.form = second.form) : (keys.set first).set second = keys.set second := by
  cases first <;> cases second <;> simp_all [QueryKey.form, set]

/-- Entries of different kinds may be set in any order. -/
theorem set_comm_of_form_ne (keys : QueryKeys) {first second : QueryKey}
    (apart : first.form ≠ second.form) :
    (keys.set first).set second = (keys.set second).set first := by
  cases first <;> cases second <;> simp_all [QueryKey.form, set]

/-- The entries in the order in which a query lists them. -/
def toList (keys : QueryKeys) : List QueryKey :=
  (keys.binding.map .binding).toList ++ (keys.order.map .order).toList ++
    (keys.limit.map .limit).toList ++ (keys.offset.map .offset).toList ++
    (keys.timeout.map .timeout).toList

/-- Each entry follows a blank. -/
def text (keys : QueryKeys) : String :=
  String.join (keys.toList.map fun key => " " ++ key.text)

/-- The values of the binding, sent beside the query, follow a blank. -/
def valuesText (keys : QueryKeys) : String :=
  match keys.binding with
  | some bound => " " ++ bound.valuesText
  | none => ""

end QueryKeys

end Bitemporal
