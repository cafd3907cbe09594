/-
This file defines the clauses that queries are made of.
-/
import Bitemporal.Key.Keys

namespace Bitemporal

/-- A conjunction joins conditions or projections. -/
inductive Section where
  | condition
  | projection
deriving DecidableEq, Repr

def Section.keyword : Section → String
  | .condition => "where"
  | .projection => "find"

/-- A complete query has a projection, a condition and its keys. -/
inductive Clause where
  | pattern (document field value : String)
  | predicate (operation : String) (arguments : List String) (result : Option String)
  | conjunction (part : Section) (clauses : List Clause)
  | disjunction (clauses : List Clause)
  | negation (clauses : List Clause)
  | negationJoin (shared : String) (clauses : List Clause)
  | disjunctionJoin (shared : String) (clauses : List Clause)
  | projection (text : String)
  | key (entry : QueryKey)
  | query (find filter : Clause) (keys : QueryKeys)

namespace Clause

/-- The form that messages name a clause by. -/
def form : Clause → String
  | .pattern _ _ _ => "where"
  | .predicate _ _ _ => "where-predicate"
  | .conjunction _ _ => "and"
  | .disjunction _ => "or"
  | .negation _ => "not"
  | .negationJoin _ _ => "not-join"
  | .disjunctionJoin _ _ => "or-join"
  | .projection _ => "find"
  | .key entry => entry.form
  | .query _ _ _ => "find-where"

/-- The place that a clause takes in a query. -/
inductive Kind where
  | condition
  | projection
  | key
  | query
deriving DecidableEq, Repr

def kind : Clause → Kind
  | .projection _ => .projection
  | .conjunction .projection _ => .projection
  | .key _ => .key
  | .query _ _ _ => .query
  | _ => .condition

/-- The order of such clauses beside one another does not matter; that of projections does. -/
def commutative : Clause → Bool
  | .projection _ => false
  | .conjunction part _ => part == .condition
  | _ => true

/-- Repeating such a clause beside itself does not matter. -/
def idempotent (clause : Clause) : Bool := clause.commutative

/-- A complete query can be sent to a node. -/
def isComplete : Clause → Bool
  | .query _ _ _ => true
  | _ => false

end Clause

end Bitemporal
