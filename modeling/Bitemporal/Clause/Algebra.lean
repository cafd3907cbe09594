/-
This file combines clauses by conjunction, disjunction and negation, and sets the keys of queries.
-/
import Bitemporal.Clause.Basic

namespace Bitemporal

namespace Clause

/-- The parts of a conjunction of this section, or the clause itself. -/
def parts (part : Section) : Clause → List Clause
  | .conjunction inner clauses =>
      if inner = part then clauses else [.conjunction inner clauses]
  | clause => [clause]

/-- Both clauses hold; conjunctions of the same section are merged. -/
def append (part : Section) (left right : Clause) : Clause :=
  .conjunction part (parts part left ++ parts part right)

/-- The parts of what is appended follow one another. -/
theorem parts_append (part : Section) (left right : Clause) :
    parts part (append part left right) = parts part left ++ parts part right := by
  simp [append, parts]

/-- Conditions or projections follow one another, and a condition completes a projection. -/
def conjoinSections (left right : Clause) : Outcome Clause :=
  match left.kind, right.kind with
  | .projection, .condition => .ok (.query left right .empty)
  | .condition, .projection =>
      .error (.incompatibleSections Section.condition.keyword Section.projection.keyword)
  | .projection, .projection => .ok (append .projection left right)
  | _, _ => .ok (append .condition left right)

/-- A key or a complete query cannot be conjoined to what is not a complete query. -/
def isLoose (left right : Clause) : Bool :=
  left.kind == .key || right.kind == .key || right.kind == .query

/-- A complete query takes keys, a join takes conditions, and all else is joined by section. -/
def conjoin (left right : Clause) : Outcome Clause :=
  match left with
  | .query find filter keys =>
      match right with
      | .key entry => .ok (.query find filter (keys.set entry))
      | other => .error (.combination left.form other.form)
  | _ =>
      if isLoose left right then .error (.combination left.form right.form)
      else
        match left, right.kind with
        | .negationJoin shared clauses, .condition => .ok (.negationJoin shared (clauses ++ [right]))
        | .disjunctionJoin shared clauses, .condition =>
            .ok (.disjunctionJoin shared (clauses ++ [right]))
        | _, _ => conjoinSections left right

/-- One of two conditions holds; a single condition is not joined with a conjunction behind it. -/
def disjoinConditions : Clause → Clause → Outcome Clause
  | .pattern _ _ _, .conjunction _ _ => .error .disjunctionOfConjunction
  | .predicate _ _ _, .conjunction _ _ => .error .disjunctionOfConjunction
  | .disjunction clauses, .disjunction others => .ok (.disjunction (clauses ++ others))
  | .disjunction clauses, right => .ok (.disjunction (clauses ++ [right]))
  | left, .disjunction others => .ok (.disjunction (left :: others))
  | left, right => .ok (.disjunction [left, right])

/-- Only conditions can be disjoined. -/
def disjoin (left right : Clause) : Outcome Clause :=
  if left.kind = .projection ∨ right.kind = .projection then
    .error (.operation .disjunctionOfProjections)
  else if left.kind = .condition ∧ right.kind = .condition then disjoinConditions left right
  else .error (.operation .disjunctionOfKeys)

/-- The clause under a negation, or the conjunction of all of them. -/
def unnegated : List Clause → Clause
  | [single] => single
  | clauses => .conjunction .condition clauses

/-- A double negation cancels; disjunctions and joins have no negation. -/
def negate (clause : Clause) : Outcome Clause :=
  match clause with
  | .pattern _ _ _ | .predicate _ _ _ => .ok (.negation [clause])
  | .conjunction .condition clauses => .ok (.negation clauses)
  | .negation clauses => .ok (unnegated clauses)
  | .disjunction _ | .negationJoin _ _ | .disjunctionJoin _ _ =>
      .error (.operation (.negationOfGroup clause.form))
  | _ => .error (.operation (.negationOfSection clause.form))

/-- A complete query of a projection and a condition. -/
def complete (find filter : Clause) : Outcome Clause :=
  if find.kind = .projection ∧ filter.kind = .condition then .ok (.query find filter .empty)
  else .error (.incompatibleSections find.form filter.form)

end Clause

/-- A complete query by its sections and its keys. -/
structure CompleteQuery where
  find : Clause
  filter : Clause
  keys : QueryKeys

namespace CompleteQuery

def clause (query : CompleteQuery) : Clause := .query query.find query.filter query.keys

/-- The complete query that a clause is. -/
def ofClause : Clause → Outcome CompleteQuery
  | .query find filter keys => .ok ⟨find, filter, keys⟩
  | _ => .error .incompleteQuery

/-- A key replaces the earlier one of its kind. -/
def withKey (query : CompleteQuery) (entry : QueryKey) : CompleteQuery :=
  { query with keys := query.keys.set entry }

/-- A key is set in place, and any other clause leaves the query as it is. -/
def setKey (query : CompleteQuery) : Clause → CompleteQuery × Outcome Unit
  | .key entry => (query.withKey entry, .ok ())
  | other => (query, .error (.combination query.clause.form other.form))

/-- A complete query is conjoined with what can be set in it. -/
theorem conjoin_clause (query : CompleteQuery) (right : Clause) :
    query.clause.conjoin right =
      (query.setKey right).2.map fun _ => (query.setKey right).1.clause := by
  cases right <;> rfl

end CompleteQuery

end Bitemporal
