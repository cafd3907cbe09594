/-
This file says what conditions mean, apart from how they are written.
-/
import Bitemporal.Clause.Basic

namespace Bitemporal

/-- What a condition compares or calls in the end. -/
inductive Leaf where
  | pattern (document field value : String)
  | call (operation : String) (arguments : List String) (result : Option String)
deriving DecidableEq, Repr

/-- Leaves hold in some worlds, and a join looks at its body through the variable it shares.
With a single world, and joins that pass their bodies on, this assigns each leaf its truth. -/
structure Meaning (World : Type) where
  leaf : Leaf → World → Bool
  join : String → (World → Bool) → World → Bool

/-- Each leaf has a truth of its own, and joins change nothing. -/
def Meaning.ofAssignment (assignment : Leaf → Bool) : Meaning Unit where
  leaf single _ := assignment single
  join _ body := body

namespace Clause

section Truth

variable {World : Type} (meaning : Meaning World)

mutual

/-- The worlds in which a condition holds; other clauses hold nowhere. -/
def holds : Clause → World → Bool
  | .pattern document field value => meaning.leaf (.pattern document field value)
  | .predicate operation arguments result => meaning.leaf (.call operation arguments result)
  | .conjunction _ clauses => allHold clauses
  | .disjunction clauses => someHolds clauses
  | .negation clauses => fun world => !allHold clauses world
  | .negationJoin shared clauses => fun world => !meaning.join shared (allHold clauses) world
  | .disjunctionJoin shared clauses => meaning.join shared (someHolds clauses)
  | .projection _ | .key _ | .query _ _ _ => fun _ => false

def allHold : List Clause → World → Bool
  | [] => fun _ => true
  | clause :: rest => fun world => holds clause world && allHold rest world

def someHolds : List Clause → World → Bool
  | [] => fun _ => false
  | clause :: rest => fun world => holds clause world || someHolds rest world

end

end Truth

mutual

/-- Every clause of the tree is a condition. -/
def isCondition : Clause → Bool
  | .pattern _ _ _ | .predicate _ _ _ => true
  | .conjunction part clauses => part == .condition && areConditions clauses
  | .disjunction clauses | .negation clauses => areConditions clauses
  | .negationJoin _ clauses | .disjunctionJoin _ clauses => areConditions clauses
  | .projection _ | .key _ | .query _ _ _ => false

def areConditions : List Clause → Bool
  | [] => true
  | clause :: rest => isCondition clause && areConditions rest

end

mutual

/-- The texts of the leaves and the shared variables of a condition. -/
def texts : Clause → List String
  | .pattern document field value => [document, field, value]
  | .predicate operation arguments result => operation :: arguments ++ result.toList
  | .conjunction _ clauses | .disjunction clauses | .negation clauses => allTexts clauses
  | .negationJoin shared clauses | .disjunctionJoin shared clauses => shared :: allTexts clauses
  | .projection _ | .key _ | .query _ _ _ => []

def allTexts : List Clause → List String
  | [] => []
  | clause :: rest => texts clause ++ allTexts rest

end

theorem areConditions_iff (clauses : List Clause) :
    areConditions clauses = true ↔ ∀ clause ∈ clauses, clause.isCondition = true := by
  induction clauses with
  | nil => simp [areConditions]
  | cons clause rest inductionHypothesis => simp [areConditions, inductionHypothesis]

/-- A tree of conditions takes the place of a condition. -/
theorem kind_of_isCondition {clause : Clause} (condition : clause.isCondition = true) :
    clause.kind = .condition := by
  cases clause with
  | conjunction part clauses =>
      cases part with
      | condition => rfl
      | projection => simp [isCondition] at condition
  | projection _ | key _ | query _ _ _ => simp [isCondition] at condition
  | _ => rfl

/-- Conditions may be sorted. -/
theorem commutative_of_kind {clause : Clause} (condition : clause.kind = .condition) :
    clause.commutative = true := by
  cases clause with
  | conjunction part clauses =>
      cases part with
      | condition => rfl
      | projection => cases condition
  | projection expression => cases condition
  | _ => rfl

end Clause

end Bitemporal
