/-
This file shows that conditions which are negated twice are written as before.
-/
import Bitemporal.Proofs.Clause.Combinators
import Bitemporal.Proofs.Clause.Conjunction

namespace Bitemporal.Clause

/-- A conjunction of one condition is written as that condition, even if it is a conjunction too. -/
theorem text_conjunction_singleton {clause : Clause} (condition : clause.isCondition = true)
    (atRoot : Bool) (separator : String) :
    (conjunction .condition [clause]).text atRoot separator = clause.text atRoot separator := by
  have whole : (conjunction .condition [clause]).isCondition = true := by
    simp [isCondition, areConditions, condition]
  have sameParts : conjuncts .condition (parts .condition (.conjunction .condition [clause])) =
      conjuncts .condition (parts .condition clause) := conjuncts_singleton .condition clause
  rw [text_eq_patterns (kind_of_isCondition whole),
    text_eq_patterns (kind_of_isCondition condition),
    patterns_eq_canonical (allCommutative_parts whole),
    patterns_eq_canonical (allCommutative_parts condition), sameParts]

/-- The clauses under a negation are written as their conjunction when it is taken away. -/
theorem text_unnegated {clauses : List Clause} (conditions : areConditions clauses = true)
    (atRoot : Bool) (separator : String) :
    (unnegated clauses).text atRoot separator =
      (conjunction .condition clauses).text atRoot separator := by
  rcases clauses with _ | ⟨single, _ | ⟨second, rest⟩⟩
  · rfl
  · have condition := (areConditions_iff [single]).mp conditions single List.mem_cons_self
    exact (text_conjunction_singleton condition atRoot separator).symm
  · rfl

/-- The clause can be negated twice, and what comes out is written like the clause itself. -/
def CancelsTwice (clause : Clause) : Prop :=
  ∃ once twice, clause.negate = .ok once ∧ once.negate = .ok twice ∧
    ∀ atRoot separator, twice.text atRoot separator = clause.text atRoot separator

/-- Two negations of a leaf, of a conjunction or of a negation of several conditions cancel. -/
theorem double_negation :
    (∀ clause : Clause, clause.isCondition = true →
      clause.isLeaf = true ∨ clause.isConjunction = true → clause.CancelsTwice) ∧
    ∀ clauses : List Clause, areConditions clauses = true → 2 ≤ clauses.length →
      (negation clauses).CancelsTwice := by
  refine ⟨fun clause condition form => ?_, fun clauses conditions several => ?_⟩
  · cases clause with
    | pattern document field value => exact ⟨_, _, rfl, rfl, fun _ _ => rfl⟩
    | predicate operation arguments result => exact ⟨_, _, rfl, rfl, fun _ _ => rfl⟩
    | conjunction part clauses =>
        simp only [isCondition, Bool.and_eq_true, beq_iff_eq] at condition
        obtain ⟨rfl, conditions⟩ := condition
        exact ⟨_, _, rfl, rfl, text_unnegated conditions⟩
    | _ => simp [isLeaf, isConjunction] at form
  · rcases clauses with _ | ⟨first, _ | ⟨second, rest⟩⟩
    · simp at several
    · simp at several
    · exact ⟨_, _, rfl, rfl, fun _ _ => rfl⟩

/-- A conjunction of one conjunction in which a negation stands twice. -/
def lonelyConjunction : Clause :=
  .conjunction .condition [.conjunction .condition [
    .negation [.pattern "?e" "gone" "true"], .pattern "?e" "name" "?name",
    .negation [.pattern "?e" "gone" "true"]]]

theorem double_negation_lonelyConjunction :
    (lonelyConjunction.isCondition = true ∧ lonelyConjunction.isConjunction = true ∧
      lonelyConjunction.CancelsTwice) ∧
    areConditions [lonelyConjunction, .pattern "?e" "old" "true"] = true ∧
      (negation [lonelyConjunction, .pattern "?e" "old" "true"]).CancelsTwice :=
  ⟨⟨rfl, rfl, double_negation.1 _ rfl (.inr rfl)⟩, rfl, double_negation.2 _ rfl (by decide)⟩

end Bitemporal.Clause
