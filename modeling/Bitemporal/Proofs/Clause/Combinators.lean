/-
This file says all that the combinators of clauses can give.
-/
import Bitemporal.Clause.Algebra

namespace Bitemporal

/-- The kind of the clauses that a section joins. -/
def Section.kind : Section → Clause.Kind
  | .condition => .condition
  | .projection => .projection

namespace Clause

theorem kind_conjunction (part : Section) (clauses : List Clause) :
    (conjunction part clauses).kind = part.kind := by
  cases part <;> rfl

/-! ## Conjunction -/

/-- The kind of a conjunction, if clauses of these kinds can be conjoined. -/
def conjoinedKind? : Kind → Kind → Option Kind
  | .condition, .condition => some .condition
  | .projection, .projection => some .projection
  | .projection, .condition => some .query
  | .query, .key => some .query
  | _, _ => none

/-- Kinds alone decide whether clauses can be conjoined. -/
theorem kind_conjoin (left right : Clause) :
    (left.conjoin right).toOption.map kind = conjoinedKind? left.kind right.kind := by
  cases left with
  | conjunction part clauses =>
      cases part <;> cases right with
      | conjunction inner others => cases inner <;> rfl
      | _ => rfl
  | _ =>
      cases right with
      | conjunction inner others => cases inner <;> rfl
      | _ => rfl

/-- What becomes of two clauses that are conjoined. -/
inductive Conjoined : Clause → Clause → Clause → Prop where
  | key (find filter : Clause) (keys : QueryKeys) (entry : QueryKey) :
      Conjoined (.query find filter keys) (.key entry) (.query find filter (keys.set entry))
  | negationJoin (shared : String) (clauses : List Clause) {right : Clause}
      (condition : right.kind = .condition) :
      Conjoined (.negationJoin shared clauses) right (.negationJoin shared (clauses ++ [right]))
  | disjunctionJoin (shared : String) (clauses : List Clause) {right : Clause}
      (condition : right.kind = .condition) :
      Conjoined (.disjunctionJoin shared clauses) right
        (.disjunctionJoin shared (clauses ++ [right]))
  | query {left right : Clause} (projection : left.kind = .projection)
      (condition : right.kind = .condition) : Conjoined left right (.query left right .empty)
  | append (part : Section) {left right : Clause} (leftKind : left.kind = part.kind)
      (rightKind : right.kind = part.kind) : Conjoined left right (append part left right)

theorem conjoinedKind?_eq_some {left right result : Kind}
    (together : conjoinedKind? left right = some result) :
    left ≠ .key ∧ right ≠ .query ∧ (left ≠ .query → right ≠ .key) ∧
      (left = .condition → right = .condition) := by
  revert together
  cases left <;> cases right <;> simp [conjoinedKind?]

/-- The kinds of two clauses say what joins them. -/
theorem conjoined_of_conjoinSections {left right clause : Clause}
    (together : conjoinedKind? left.kind right.kind = some clause.kind)
    (incomplete : left.kind ≠ .query) (accepted : conjoinSections left right = .ok clause) :
    Conjoined left right clause := by
  unfold conjoinSections at accepted
  cases leftKind : left.kind <;> cases rightKind : right.kind <;>
    rw [leftKind, rightKind] at accepted together
  case condition.condition =>
    cases accepted
    exact .append .condition leftKind rightKind
  case projection.condition =>
    cases accepted
    exact .query leftKind rightKind
  case projection.projection =>
    cases accepted
    exact .append .projection leftKind rightKind
  case query.key => exact absurd leftKind incomplete
  all_goals cases together

theorem conjoined_of_conjoin {left right clause : Clause}
    (accepted : left.conjoin right = .ok clause) : Conjoined left right clause := by
  have together : conjoinedKind? left.kind right.kind = some clause.kind := by
    rw [← kind_conjoin, accepted]
    rfl
  obtain ⟨leftKey, rightQuery, rightKey, condition⟩ := conjoinedKind?_eq_some together
  by_cases complete : left.kind = .query
  · cases left with
    | query find filter keys =>
        cases right with
        | key entry =>
            cases accepted
            exact .key find filter keys entry
        | _ => cases accepted
    | conjunction part clauses => cases part <;> cases complete
    | _ => cases complete
  have tight : isLoose left right = false := by
    simp [isLoose, leftKey, rightQuery, rightKey complete]
  cases left with
  | query find filter keys => exact absurd rfl complete
  | negationJoin shared clauses =>
      have inside := condition rfl
      simp only [conjoin, tight, inside] at accepted
      cases accepted
      exact .negationJoin shared clauses inside
  | disjunctionJoin shared clauses =>
      have inside := condition rfl
      simp only [conjoin, tight, inside] at accepted
      cases accepted
      exact .disjunctionJoin shared clauses inside
  | _ =>
      simp only [conjoin, tight] at accepted
      exact conjoined_of_conjoinSections together complete accepted

/-! ## Disjunction and negation -/

/-- A single pattern or call. -/
def isLeaf : Clause → Bool
  | .pattern _ _ _ | .predicate _ _ _ => true
  | _ => false

def isConjunction : Clause → Bool
  | .conjunction _ _ => true
  | _ => false

def isDisjunction : Clause → Bool
  | .disjunction _ => true
  | _ => false

/-- Disjunctions and joins have no negation. -/
def isGroup : Clause → Bool
  | .disjunction _ | .negationJoin _ _ | .disjunctionJoin _ _ => true
  | _ => false

/-- The clauses one of which holds if this one does. -/
def branches : Clause → List Clause
  | .disjunction clauses => clauses
  | clause => [clause]

theorem branches_of_not_isDisjunction {clause : Clause} (single : clause.isDisjunction = false) :
    branches clause = [clause] := by
  cases clause with
  | disjunction clauses => cases single
  | _ => rfl

/-- Conditions are disjoined branch by branch, unless a leaf stands in front of a conjunction. -/
theorem disjoin_eq {left right : Clause} (leftKind : left.kind = .condition)
    (rightKind : right.kind = .condition) :
    left.disjoin right =
      if left.isLeaf && right.isConjunction then .error .disjunctionOfConjunction
      else .ok (.disjunction (branches left ++ branches right)) := by
  have conditions : left.disjoin right = disjoinConditions left right := by
    simp [disjoin, leftKind, rightKind]
  rw [conditions]
  cases left <;> cases right <;> rfl

theorem eq_disjunction_of_disjoinConditions {left right clause : Clause}
    (accepted : disjoinConditions left right = .ok clause) :
    clause = .disjunction (branches left ++ branches right) := by
  cases left <;> cases right <;> cases accepted <;> rfl

/-- Only conditions are disjoined, and their branches follow one another. -/
theorem eq_disjunction_of_disjoin {left right clause : Clause}
    (accepted : left.disjoin right = .ok clause) :
    left.kind = .condition ∧ right.kind = .condition ∧
      clause = .disjunction (branches left ++ branches right) := by
  unfold disjoin at accepted
  split at accepted
  · cases accepted
  split at accepted
  · next conditions =>
      exact ⟨conditions.1, conditions.2, eq_disjunction_of_disjoinConditions accepted⟩
  · cases accepted

/-- What becomes of a clause that is negated. -/
inductive Negated : Clause → Clause → Prop where
  | pattern (document field value : String) :
      Negated (.pattern document field value) (.negation [.pattern document field value])
  | predicate (operation : String) (arguments : List String) (result : Option String) :
      Negated (.predicate operation arguments result)
        (.negation [.predicate operation arguments result])
  | conjunction (clauses : List Clause) :
      Negated (.conjunction .condition clauses) (.negation clauses)
  | negation (clauses : List Clause) : Negated (.negation clauses) (unnegated clauses)

theorem negated_of_negate {clause negation : Clause} (accepted : clause.negate = .ok negation) :
    Negated clause negation := by
  cases clause with
  | pattern document field value =>
      cases accepted
      exact .pattern document field value
  | predicate operation arguments result =>
      cases accepted
      exact .predicate operation arguments result
  | conjunction part clauses =>
      cases part with
      | condition =>
          cases accepted
          exact .conjunction clauses
      | projection => cases accepted
  | negation clauses =>
      cases accepted
      exact .negation clauses
  | _ => cases accepted

/-- All conditions but disjunctions and joins can be negated. -/
theorem exists_negate_iff {clause : Clause} (condition : clause.kind = .condition) :
    (∃ negation, clause.negate = .ok negation) ↔ clause.isGroup = false := by
  cases clause with
  | conjunction part clauses =>
      cases part with
      | condition => exact ⟨fun _ => rfl, fun _ => ⟨_, rfl⟩⟩
      | projection => cases condition
  | disjunction clauses | negationJoin shared clauses | disjunctionJoin shared clauses =>
      refine ⟨fun ⟨_, accepted⟩ => ?_, fun open_ => ?_⟩
      · cases accepted
      · cases open_
  | projection expression | key entry | query find filter keys => cases condition
  | _ => exact ⟨fun _ => rfl, fun _ => ⟨_, rfl⟩⟩

end Clause

end Bitemporal
