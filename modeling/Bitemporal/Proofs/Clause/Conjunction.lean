/-
This file shows that conjunctions of single conditions form a set of fragments.
-/
import Bitemporal.Clause.Algebra
import Bitemporal.Proofs.Clause.Canonical
import Bitemporal.Proofs.Clause.Combinators
import Bitemporal.Proofs.Clause.Meaning
import Bitemporal.Proofs.Clause.Patterns
import Bitemporal.Proofs.Text.ByteOrder

namespace Bitemporal

namespace Clause

/-! ## Parts of conjunctions -/

/-- A join keeps its conditions to itself. -/
def isJoin : Clause → Bool
  | .negationJoin _ _ | .disjunctionJoin _ _ => true
  | _ => false

theorem conjuncts_append (part : Section) (left right : List Clause) :
    conjuncts part (left ++ right) = conjuncts part left ++ conjuncts part right := by
  induction left with
  | nil => rfl
  | cons clause rest inductionHypothesis =>
      cases clause with
      | conjunction inner clauses =>
          simp only [List.cons_append, conjuncts, inductionHypothesis]
          split <;> simp
      | _ => simp [conjuncts, inductionHypothesis]

theorem conjuncts_singleton (part : Section) (clause : Clause) :
    conjuncts part [clause] = conjuncts part (parts part clause) := by
  cases clause with
  | conjunction inner clauses =>
      by_cases same : inner = part
      · rw [conjuncts, if_pos same, parts, if_pos same, conjuncts, List.append_nil]
      · rw [parts, if_neg same]
  | _ => rfl

/-- The patterns of a clause are the fragments of its parts, whatever their order. -/
theorem mem_patterns {clause : Clause} {fragment : String} :
    fragment ∈ clause.patterns ↔ fragment ∈ conjuncts .condition (parts .condition clause) := by
  cases clause with
  | conjunction part clauses =>
      cases part with
      | condition => simp [patterns_conjunction, parts, mem_canonical]
      | projection => simp [patterns, parts, conjuncts]
  | _ => simp [patterns, parts, conjuncts]

/-- The fragments of clauses that hold together are the patterns of each of them. -/
theorem mem_conjuncts {clauses : List Clause} {fragment : String} :
    fragment ∈ conjuncts .condition clauses ↔ ∃ clause ∈ clauses, fragment ∈ clause.patterns := by
  induction clauses with
  | nil => simp [conjuncts]
  | cons clause rest inductionHypothesis =>
      have apart : conjuncts .condition (clause :: rest) =
          conjuncts .condition [clause] ++ conjuncts .condition rest :=
        conjuncts_append .condition [clause] rest
      rw [apart, List.mem_append, conjuncts_singleton, ← mem_patterns, inductionHypothesis]
      simp only [List.mem_cons, exists_eq_or_imp]

/-- The patterns are in canonical form if the parts may be sorted. -/
theorem patterns_eq_canonical {clause : Clause}
    (commutes : allCommutative (parts .condition clause) = true) :
    clause.patterns = canonical true true (conjuncts .condition (parts .condition clause)) := by
  cases clause with
  | conjunction part clauses =>
      cases part with
      | condition =>
          have idempotent : allIdempotent clauses = true := commutes
          simp only [parts, if_true] at commutes ⊢
          rw [patterns_conjunction, commutes, idempotent]
      | projection => simp [parts, allCommutative, commutative] at commutes
  | _ => exact eq_canonical (List.pairwise_singleton _ _) fun _ => mem_patterns

theorem areConditions_parts {clause : Clause} (condition : clause.isCondition = true) :
    areConditions (parts .condition clause) = true := by
  cases clause with
  | conjunction part clauses =>
      simp only [isCondition, Bool.and_eq_true, beq_iff_eq] at condition
      obtain ⟨rfl, conditions⟩ := condition
      exact conditions
  | _ => simp [parts, areConditions, condition]

/-- The parts of a tree of conditions may be sorted. -/
theorem allCommutative_parts {clause : Clause} (condition : clause.isCondition = true) :
    allCommutative (parts .condition clause) = true := by
  have conditions := (areConditions_iff _).mp (areConditions_parts condition)
  exact List.all_eq_true.mpr fun inner member =>
    commutative_of_kind (kind_of_isCondition (conditions inner member))

/-- What is neither a complete query nor a join is joined by section. -/
theorem conjoin_eq_conjoinSections {left right : Clause} (incomplete : left.kind ≠ .query)
    (open_ : left.isJoin = false) (tight : isLoose left right = false) :
    left.conjoin right = conjoinSections left right := by
  cases left with
  | query find filter keys => exact absurd rfl incomplete
  | negationJoin shared clauses => cases open_
  | disjunctionJoin shared clauses => cases open_
  | _ => simp [conjoin, tight]

/-- Clauses of one section are appended to what is no join. -/
theorem conjoin_eq_append_of_kind {part : Section} {left right : Clause}
    (leftKind : left.kind = part.kind) (rightKind : right.kind = part.kind)
    (open_ : left.isJoin = false) : left.conjoin right = .ok (append part left right) := by
  have incomplete : left.kind ≠ .query := by
    rw [leftKind]
    cases part <;> simp [Section.kind]
  have tight : isLoose left right = false := by
    cases part <;> simp [isLoose, leftKind, rightKind, Section.kind]
  rw [conjoin_eq_conjoinSections incomplete open_ tight]
  cases part <;> simp [conjoinSections, leftKind, rightKind, Section.kind]

theorem conjoin_eq_append {left right : Clause} (leftCondition : left.kind = .condition)
    (rightCondition : right.kind = .condition) (open_ : left.isJoin = false) :
    conjoin left right = .ok (append .condition left right) :=
  @conjoin_eq_append_of_kind .condition left right leftCondition rightCondition open_

/-- A join takes a condition into its body. -/
theorem conjoin_eq_join {shared : String} {join : List Clause → Clause}
    (isJoin : join = .negationJoin shared ∨ join = .disjunctionJoin shared) (clauses : List Clause)
    {right : Clause} (condition : right.kind = .condition) :
    (join clauses).conjoin right = .ok (join (clauses ++ [right])) := by
  have joinKind : (join clauses).kind = .condition := by
    rcases isJoin with rfl | rfl <;> rfl
  have tight : isLoose (join clauses) right = false := by simp [isLoose, joinKind, condition]
  rcases isJoin with rfl | rfl <;> simp [conjoin, tight, condition]

/-- No projection is a join. -/
theorem isJoin_of_projection {clause : Clause} (projection : clause.kind = .projection) :
    clause.isJoin = false := by
  cases clause with
  | negationJoin _ _ | disjunctionJoin _ _ => cases projection
  | _ => rfl

/-- A condition completes a projection. -/
theorem conjoin_eq_query {find filter : Clause} (findKind : find.kind = .projection)
    (filterKind : filter.kind = .condition) :
    find.conjoin filter = .ok (.query find filter .empty) := by
  have incomplete : find.kind ≠ .query := by simp [findKind]
  have tight : isLoose find filter = false := by simp [isLoose, findKind, filterKind]
  rw [conjoin_eq_conjoinSections incomplete (isJoin_of_projection findKind) tight]
  simp [conjoinSections, findKind, filterKind]

/-! ## Conjoining from left to right -/

/-- All clauses are conjoined, from left to right. -/
def conjoinAll (first : Clause) (rest : List Clause) : Outcome Clause := rest.foldlM conjoin first

/-- Clauses of one section are appended. -/
theorem conjoinAll_eq_append (part : Section) {first : Clause} {rest : List Clause}
    (firstKind : first.kind = part.kind) (kinds : ∀ clause ∈ rest, clause.kind = part.kind)
    (open_ : first.isJoin = false) :
    conjoinAll first rest = .ok (rest.foldl (append part) first) ∧
      (rest.foldl (append part) first).kind = part.kind := by
  induction rest generalizing first with
  | nil => exact ⟨rfl, firstKind⟩
  | cons clause rest inductionHypothesis =>
      obtain ⟨clauseKind, later⟩ := List.forall_mem_cons.mp kinds
      rw [conjoinAll, List.foldlM_cons, conjoin_eq_append_of_kind firstKind clauseKind open_]
      exact inductionHypothesis (kind_conjunction part _) later rfl

theorem conjoinAll_keys (find filter : Clause) (keys : QueryKeys) (entries : List QueryKey) :
    conjoinAll (.query find filter keys) (entries.map .key) =
      .ok (.query find filter (entries.foldl QueryKeys.set keys)) := by
  induction entries generalizing keys with
  | nil => rfl
  | cons entry rest inductionHypothesis => exact inductionHypothesis (keys.set entry)

/-! ## Single conditions -/

/-- Clauses that a conjunction takes as they are. -/
def isSingle : Clause → Bool
  | .pattern _ _ _ | .predicate _ _ _ | .disjunction _ | .negation _ => true
  | _ => false

/-- A single condition is its own part. -/
theorem parts_of_isSingle {clause : Clause} (single : clause.isSingle = true) :
    clause.kind = .condition ∧ clause.isJoin = false ∧ clause.parts .condition = [clause] ∧
      clause.commutative = true := by
  cases clause with
  | pattern _ _ _ | predicate _ _ _ | disjunction _ | negation _ => exact ⟨rfl, rfl, rfl, rfl⟩
  | _ => simp [isSingle] at single

theorem conjuncts_of_isSingle {clauses : List Clause}
    (single : ∀ clause ∈ clauses, clause.isSingle = true) :
    conjuncts .condition clauses = clauses.map (text false " ") := by
  induction clauses with
  | nil => rfl
  | cons clause rest inductionHypothesis =>
      obtain ⟨first, later⟩ := List.forall_mem_cons.mp single
      cases clause with
      | conjunction part inner => simp [isSingle] at first
      | _ => simp [conjuncts, inductionHypothesis later]

end Clause

/-- Operands of some kind, combined in pairs in whatever order. -/
inductive Combination (allowed : Clause → Bool) where
  | operand (clause : Clause) (fits : allowed clause = true)
  | both (left right : Combination allowed)

namespace Combination

variable {allowed : Clause → Bool}

/-- The clause that an operation makes of the operands. -/
def evaluate (combine : Clause → Clause → Outcome Clause) : Combination allowed → Outcome Clause
  | .operand clause _ => .ok clause
  | .both left right => do
      let first ← left.evaluate combine
      let second ← right.evaluate combine
      combine first second

/-- The operands from left to right. -/
def operands : Combination allowed → List Clause
  | .operand clause _ => [clause]
  | .both left right => left.operands ++ right.operands

theorem allowed_of_mem_operands (tree : Combination allowed) {clause : Clause}
    (member : clause ∈ tree.operands) : allowed clause = true := by
  induction tree with
  | operand single fits => exact List.mem_singleton.mp member ▸ fits
  | both left right leftHypothesis rightHypothesis =>
      exact (List.mem_append.mp member).elim leftHypothesis rightHypothesis

/-- The fragments of the operands. -/
def fragments (tree : Combination allowed) : List String :=
  tree.operands.map (Clause.text false " ")

/-- Both combinations give clauses, and these are the same. -/
def Agree (combine : Clause → Clause → Outcome Clause) (left right : Combination allowed) : Prop :=
  ∃ first second, left.evaluate combine = .ok first ∧ right.evaluate combine = .ok second ∧
    first.same second = true

/-- Single conditions can always be conjoined, and the parts of the result are the operands. -/
theorem evaluate_conjoin (tree : Combination Clause.isSingle) :
    ∃ clause, tree.evaluate Clause.conjoin = .ok clause ∧ clause.kind = .condition ∧
      clause.isJoin = false ∧ clause.parts .condition = tree.operands := by
  induction tree with
  | operand clause fits =>
      obtain ⟨isCondition, isOpen, parts, _⟩ := Clause.parts_of_isSingle fits
      exact ⟨clause, rfl, isCondition, isOpen, parts⟩
  | both left right leftHypothesis rightHypothesis =>
      obtain ⟨first, leftValue, firstKind, firstOpen, firstParts⟩ := leftHypothesis
      obtain ⟨second, rightValue, secondKind, _, secondParts⟩ := rightHypothesis
      refine ⟨.append .condition first second, ?_, rfl, rfl, ?_⟩
      · simp only [evaluate, leftValue, rightValue]
        exact Clause.conjoin_eq_append firstKind secondKind firstOpen
      · rw [Clause.parts_append, firstParts, secondParts, operands]

/-- The conjunction of single conditions lists the canonical form of their fragments. -/
theorem patterns_conjoin (tree : Combination Clause.isSingle) :
    ∃ clause, tree.evaluate Clause.conjoin = .ok clause ∧ clause.kind = .condition ∧
      clause.patterns = canonical true true tree.fragments := by
  obtain ⟨clause, value, isCondition, _, parts⟩ := tree.evaluate_conjoin
  have commutes : Clause.allCommutative (clause.parts .condition) = true := by
    rw [parts, Clause.allCommutative, List.all_eq_true]
    intro operand member
    exact (Clause.parts_of_isSingle (tree.allowed_of_mem_operands member)).2.2.2
  refine ⟨clause, value, isCondition, ?_⟩
  rw [Clause.patterns_eq_canonical commutes, parts, fragments,
    Clause.conjuncts_of_isSingle fun operand member => tree.allowed_of_mem_operands member]

/-- Combinations of the same fragments agree. -/
theorem agree_conjoin {left right : Combination Clause.isSingle}
    (same : ∀ fragment, fragment ∈ left.fragments ↔ fragment ∈ right.fragments) :
    Agree Clause.conjoin left right := by
  obtain ⟨first, leftValue, firstKind, firstPatterns⟩ := left.patterns_conjoin
  obtain ⟨second, rightValue, secondKind, secondPatterns⟩ := right.patterns_conjoin
  refine ⟨first, second, leftValue, rightValue, ?_⟩
  rw [Clause.same, Clause.line, Clause.line, Clause.text_eq_patterns firstKind,
    Clause.text_eq_patterns secondKind, firstPatterns, secondPatterns, canonical_congr same]
  exact beq_self_eq_true _

/-- The text of a conjunction of single conditions is given by the set of their fragments, listed
once each in the order of their bytes, so that grouping, order and repetition do not matter. -/
theorem conjunction_canonical :
    (∀ tree : Combination Clause.isSingle, ∃ clause fragments,
      tree.evaluate Clause.conjoin = .ok clause ∧
      fragments.Pairwise (fun left right => utf8 left < utf8 right) ∧
      (∀ fragment, fragment ∈ fragments ↔
        ∃ operand ∈ tree.operands, operand.text false " " = fragment) ∧
      ∀ separator, clause.text false separator = separator.intercalate fragments ∧
        clause.text true separator = match fragments with
          | [fragment] => ":where [" ++ fragment ++ "]"
          | _ => ":where [" ++ separator ++ separator.intercalate fragments ++ "]") ∧
    (∀ first second third : Combination Clause.isSingle,
      Agree Clause.conjoin (.both (.both first second) third) (.both first (.both second third))) ∧
    (∀ first second : Combination Clause.isSingle,
      Agree Clause.conjoin (.both first second) (.both second first)) ∧
    ∀ tree : Combination Clause.isSingle, Agree Clause.conjoin (.both tree tree) tree := by
  refine ⟨fun tree => ?_, fun first second third => agree_conjoin ?_,
    fun first second => agree_conjoin ?_, fun tree => agree_conjoin ?_⟩
  · obtain ⟨clause, value, isCondition, patterns⟩ := tree.patterns_conjoin
    refine ⟨clause, clause.patterns, value, ?_, ?_, fun separator => ⟨?_, ?_⟩⟩
    · rw [patterns]
      exact (pairwise_canonical _).imp utf8_lt_of_lt
    · intro fragment
      rw [patterns, mem_canonical, fragments, List.mem_map]
    · exact Clause.text_eq_patterns isCondition false separator
    · rw [Clause.text_eq_patterns isCondition]
      rcases clause.patterns with _ | ⟨fragment, _ | ⟨second, rest⟩⟩
      · rfl
      · rfl
      · rfl
  · intro fragment
    simp only [fragments, operands, List.append_assoc]
  · intro fragment
    simp only [fragments, operands, List.map_append, List.mem_append, or_comm]
  · intro fragment
    simp only [fragments, operands, List.map_append, List.mem_append, or_self]

end Combination

end Bitemporal
