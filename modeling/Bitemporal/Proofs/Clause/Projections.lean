/-
This file shows that projections are listed in the order they are written, however they are grouped.
-/
import Bitemporal.Proofs.Clause.Conjunction

namespace Bitemporal

namespace Clause

/-! ## Expressions of conjunctions -/

/-- A projection of one expression. -/
def isExpression : Clause → Bool
  | .projection _ => true
  | _ => false

theorem exists_eq_projection {clause : Clause} (single : clause.isExpression = true) :
    ∃ expression, clause = .projection expression := by
  cases clause with
  | projection expression => exact ⟨expression, rfl⟩
  | _ => cases single

/-- The expressions of a projection are the fragments of its parts, one by one. -/
theorem expressions_eq_conjuncts {clause : Clause} (projection : clause.kind = .projection) :
    clause.expressions = conjuncts .projection (parts .projection clause) := by
  cases clause with
  | conjunction part clauses =>
      cases part with
      | condition => cases projection
      | projection => rfl
  | projection expression => rfl
  | _ => cases projection

/-- Neither sorting nor dropping repetitions reaches projections, which follow one another. -/
theorem expressions_append {left right : Clause} (leftKind : left.kind = .projection)
    (rightKind : right.kind = .projection) :
    (append .projection left right).expressions = left.expressions ++ right.expressions := by
  have together : (append .projection left right).kind = .projection := rfl
  rw [expressions_eq_conjuncts together, parts_append, conjuncts_append,
    ← expressions_eq_conjuncts leftKind, ← expressions_eq_conjuncts rightKind]

/-! ## Projections beside conditions -/

/-- A projection is refused behind every condition, also behind a join, which takes conditions
in. -/
theorem conjoin_eq_incompatibleSections {condition find : Clause}
    (conditionKind : condition.kind = .condition) (findKind : find.kind = .projection) :
    condition.conjoin find = .error (.incompatibleSections "where" "find") := by
  have tight : isLoose condition find = false := by simp [isLoose, conditionKind, findKind]
  have sections : conjoinSections condition find =
      .error (.incompatibleSections "where" "find") := by
    simp [conjoinSections, conditionKind, findKind, Section.keyword]
  cases condition with
  | query find filter keys => cases conditionKind
  | _ => simp [conjoin, tight, findKind, sections]

/-- The sections of a query without keys. -/
theorem text_query_empty (find filter : Clause) (atRoot : Bool) (separator : String) :
    (query find filter .empty).text atRoot separator =
      "\x7b:query \x7b" ++ find.text true " " ++ " " ++ filter.text true separator ++
        "\x7d\x7d" := by
  have closing : "\x7d\x7d" = "" ++ "\x7d" ++ "" ++ "\x7d" := rfl
  rw [text, queryText_eq, closing]
  simp only [← String.append_assoc]
  rfl

end Clause

namespace Combination

/-- Projections can always be conjoined, and the result has the expressions of all of them. -/
theorem evaluate_projections (tree : Combination Clause.isExpression) :
    ∃ find, tree.evaluate Clause.conjoin = .ok find ∧ find.kind = .projection ∧
      find.expressions = tree.fragments := by
  induction tree with
  | operand clause fits =>
      obtain ⟨expression, rfl⟩ := Clause.exists_eq_projection fits
      exact ⟨.projection expression, rfl, rfl, rfl⟩
  | both left right leftHypothesis rightHypothesis =>
      obtain ⟨first, leftValue, firstKind, firstExpressions⟩ := leftHypothesis
      obtain ⟨second, rightValue, secondKind, secondExpressions⟩ := rightHypothesis
      refine ⟨.append .projection first second, ?_, rfl, ?_⟩
      · simp only [evaluate, leftValue, rightValue]
        exact Clause.conjoin_eq_append_of_kind firstKind secondKind
          (Clause.isJoin_of_projection firstKind)
      · rw [Clause.expressions_append firstKind secondKind, firstExpressions, secondExpressions]
        exact List.map_append.symm

theorem operands_eq_map_fragments (tree : Combination Clause.isExpression) :
    tree.operands = tree.fragments.map .projection := by
  rw [fragments, List.map_map]
  refine (List.map_id _).symm.trans (List.map_congr_left fun clause member => ?_)
  obtain ⟨expression, rfl⟩ :=
    Clause.exists_eq_projection (tree.allowed_of_mem_operands member)
  rfl

/-- Projections are conjoined in any grouping, and all their expressions are listed from left to
right, repetitions included. A condition behind them completes them to a query with this list, and
one in front of them is refused. -/
theorem projections_positional (tree : Combination Clause.isExpression) :
    ∃ expressions find, tree.operands = expressions.map .projection ∧
      tree.evaluate Clause.conjoin = .ok find ∧
      (∀ separator, find.text true separator = ":find [" ++ " ".intercalate expressions ++ "]") ∧
      ∀ condition : Clause, condition.kind = .condition →
        condition.conjoin find = .error (.incompatibleSections "where" "find") ∧
        ∃ query : Clause, find.conjoin condition = .ok query ∧ query.kind = .query ∧
          ∀ atRoot separator, query.text atRoot separator =
            "\x7b:query \x7b" ++ (":find [" ++ " ".intercalate expressions ++ "]") ++ " " ++
              condition.text true separator ++ "\x7d\x7d" := by
  obtain ⟨find, value, projection, expressions⟩ := tree.evaluate_projections
  have listed : ∀ separator, find.text true separator =
      ":find [" ++ " ".intercalate tree.fragments ++ "]" := by
    intro separator
    rw [Clause.text_eq_expressions projection, expressions]
  refine ⟨tree.fragments, find, tree.operands_eq_map_fragments, value, listed,
    fun condition conditionKind => ⟨?_, .query find condition .empty, ?_, rfl, ?_⟩⟩
  · exact Clause.conjoin_eq_incompatibleSections conditionKind projection
  · exact Clause.conjoin_eq_query projection conditionKind
  · intro atRoot separator
    rw [Clause.text_query_empty, listed]

/-- A name is projected twice around an age, in a grouping to the right. -/
def namesAroundAge : Combination Clause.isExpression :=
  .both (.operand (.projection "?name") rfl)
    (.both (.operand (.projection "?age") rfl) (.operand (.projection "?name") rfl))

/-- The condition is a join, which would take in a condition behind it. -/
theorem projections_positional_namesAroundAge :
    ∃ find query, namesAroundAge.evaluate Clause.conjoin = .ok find ∧
      find.text true "\n" = ":find [?name ?age ?name]" ∧
      (Clause.negationJoin "?e" [.pattern "?e" "banned" "true"]).kind = .condition ∧
      (Clause.negationJoin "?e" [.pattern "?e" "banned" "true"]).conjoin find =
        .error (.incompatibleSections "where" "find") ∧
      find.conjoin (.negationJoin "?e" [.pattern "?e" "banned" "true"]) = .ok query ∧
      query.text true "\n" =
        "\x7b:query \x7b:find [?name ?age ?name] " ++
          ":where [(not-join [?e] [ ?e :banned true ])]\x7d\x7d" := by
  obtain ⟨expressions, find, operands, value, listed, beside⟩ :=
    projections_positional namesAroundAge
  have spelled : expressions = ["?name", "?age", "?name"] := by
    have apart : Function.Injective Clause.projection := fun _ _ => Clause.projection.inj
    exact List.map_injective_iff.mpr apart operands.symm
  subst spelled
  obtain ⟨refused, query, completed, _, text⟩ :=
    beside (.negationJoin "?e" [.pattern "?e" "banned" "true"]) rfl
  refine ⟨find, query, value, listed "\n", rfl, refused, completed, (text true "\n").trans ?_⟩
  decide

end Combination

end Bitemporal
