/-
This file gives the patterns and expressions that clauses add to the sections of a query.
-/
import Bitemporal.Clause.Text

namespace Bitemporal.Clause

/-- A conjunction has the fragments of its parts for patterns, and any other clause its own. -/
def patterns : Clause → List String
  | .conjunction .condition clauses =>
      conjunctionFragments .condition clauses (conjuncts .condition clauses)
  | clause => [clause.text false " "]

theorem patterns_conjunction (clauses : List Clause) :
    patterns (.conjunction .condition clauses) =
      canonical (allCommutative clauses) (allIdempotent clauses)
        (conjuncts .condition clauses) := by
  simp [patterns, conjunctionFragments]

/-- A condition is written by listing its patterns. -/
theorem text_eq_patterns {clause : Clause} (condition : clause.kind = .condition)
    (atRoot : Bool) (separator : String) :
    clause.text atRoot separator =
      conjunctionText .condition atRoot separator clause.patterns := by
  cases clause with
  | conjunction part clauses =>
      cases part with
      | condition => rfl
      | projection => simp [kind] at condition
  | projection expression => simp [kind] at condition
  | key entry => simp [kind] at condition
  | query find filter keys => simp [kind] at condition
  | _ => cases atRoot <;> simp [patterns, text, conditionText, conjunctionText]

/-- A fragment alone stands behind its keyword without separators. -/
theorem conjunctionText_singleton (separator fragment : String) :
    conjunctionText .condition true separator [fragment] = ":where [" ++ fragment ++ "]" := rfl

/-- The list of several fragments behind its keyword. -/
theorem conjunctionText_of_length (separator : String) {fragments : List String}
    (several : fragments.length ≠ 1) :
    conjunctionText .condition true separator fragments =
      ":where [" ++ separator ++ separator.intercalate fragments ++ "]" := by
  rcases fragments with _ | ⟨first, _ | ⟨second, rest⟩⟩
  · rfl
  · exact absurd rfl several
  · rfl

/-- What stands in front of the first fragment: nothing if the fragment is alone. -/
def listGap (separator : String) (fragments : List String) : String :=
  if fragments.length = 1 then "" else separator

theorem conjunctionText_eq (separator : String) (fragments : List String) :
    conjunctionText .condition true separator fragments =
      ":where [" ++ (listGap separator fragments ++ separator.intercalate fragments) ++ "]" := by
  by_cases alone : fragments.length = 1
  · obtain ⟨fragment, rfl⟩ := List.length_eq_one_iff.mp alone
    rw [conjunctionText_singleton, listGap, if_pos alone, String.intercalate_singleton,
      String.empty_append]
  · rw [conjunctionText_of_length separator alone, listGap, if_neg alone]
    simp only [String.append_assoc]

/-- The text of a query in terms of its sections and its keys. -/
theorem queryText_eq (find filter : String) (keys : QueryKeys) :
    queryText find filter keys =
      "\x7b:query \x7b" ++ find ++ " " ++ filter ++ keys.text ++ "\x7d" ++ keys.valuesText ++
        "\x7d" := rfl

/-- The expressions that a clause projects; a conjunction has those of its parts. -/
def expressions : Clause → List String
  | .conjunction .projection clauses => conjuncts .projection clauses
  | clause => [clause.text false " "]

/-- A projection is written by listing its expressions in their order. -/
theorem text_eq_expressions {clause : Clause} (projection : clause.kind = .projection)
    (separator : String) :
    clause.text true separator = ":find [" ++ " ".intercalate clause.expressions ++ "]" := by
  cases clause with
  | conjunction part clauses =>
      cases part with
      | condition => simp [kind] at projection
      | projection => rfl
  | projection expression => simp [expressions, text]
  | _ => simp [kind] at projection

end Bitemporal.Clause
