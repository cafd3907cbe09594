/-
This file gives the patterns of a query in terms of the calls that built it.
-/
import Bitemporal.Proofs.TypedQuery.Runs

namespace Bitemporal

namespace Clause

theorem conjuncts_flatMap_parts (clauses : List Clause) :
    conjuncts .condition (clauses.flatMap (parts .condition)) = conjuncts .condition clauses := by
  induction clauses with
  | nil => rfl
  | cons clause rest inductionHypothesis =>
      rw [List.flatMap_cons, conjuncts_append, inductionHypothesis, ← conjuncts_singleton,
        ← conjuncts_append]
      rfl

end Clause

/-! ## Joins in front -/

/-- The first condition of all is a join. -/
def opensWithJoin (conditions : List Clause) : Bool := conditions.head?.any Clause.isJoin

/-- No condition stands behind a join that was the first one. -/
def NoneBehindJoin : List Clause → Prop
  | first :: _ :: _ => first.isJoin = false
  | _ => True

theorem noneBehindJoin_of_open {conditions : List Clause}
    (open_ : opensWithJoin conditions = false) : NoneBehindJoin conditions := by
  rcases conditions with _ | ⟨first, _ | ⟨second, rest⟩⟩
  · trivial
  · trivial
  · simpa [opensWithJoin, NoneBehindJoin] using open_

theorem isJoin_of_isSingle {clause : Clause} (single : clause.isSingle = true) :
    clause.isJoin = false := (Clause.parts_of_isSingle single).2.1

/-- Only a clause that is passed alone can be a join. -/
theorem noneBehindJoin_conditions (constraint : Constraint) :
    NoneBehindJoin constraint.conditions := by
  cases constraint with
  | whereFields entityType fields =>
      rcases fields with _ | ⟨first, _ | ⟨second, rest⟩⟩
      · trivial
      · trivial
      · exact isJoin_of_isSingle (TypedQuery.isSingle_fieldPattern _ _ _)
  | whereField entityType field value => trivial
  | whereClause clause => trivial

theorem noneBehindJoin_append {conditions : List Clause} (constraint : Constraint)
    (open_ : opensWithJoin conditions = false) :
    NoneBehindJoin (conditions ++ constraint.conditions) := by
  rcases conditions with _ | ⟨first, rest⟩
  · exact noneBehindJoin_conditions constraint
  · apply noneBehindJoin_of_open
    exact open_

/-- Conditions are appended to a filter that is no join. -/
theorem foldl_conjoined_open (clauses : List Clause) {earlier : Clause}
    (open_ : earlier.isJoin = false) :
    ∃ filter, clauses.foldl (fun filter clause => some (conjoined filter clause)) (some earlier) =
        some filter ∧ filter.isJoin = false ∧
      filter.parts .condition =
        earlier.parts .condition ++ clauses.flatMap (Clause.parts .condition) := by
  induction clauses generalizing earlier with
  | nil => exact ⟨earlier, rfl, open_, by simp⟩
  | cons clause rest inductionHypothesis =>
      have appendedOpen : (Clause.append .condition earlier clause).isJoin = false := rfl
      obtain ⟨filter, value, filterOpen, parts⟩ := inductionHypothesis appendedOpen
      refine ⟨filter, ?_, filterOpen, ?_⟩
      · rw [List.foldl_cons, conjoined_of_open open_, value]
      · rw [parts, Clause.parts_append, List.flatMap_cons, List.append_assoc]

/-- A join takes in all that is conjoined to it. -/
theorem foldl_conjoined_join {shared : String} {join : List Clause → Clause}
    (isJoin : join = .negationJoin shared ∨ join = .disjunctionJoin shared)
    (clauses body : List Clause) :
    clauses.foldl (fun filter clause => some (conjoined filter clause)) (some (join body)) =
      some (join (body ++ clauses)) := by
  induction clauses generalizing body with
  | nil => rw [List.foldl_nil, List.append_nil]
  | cons clause rest inductionHypothesis =>
      have step : conjoined (some (join body)) clause = join (body ++ [clause]) := by
        rcases isJoin with rfl | rfl <;> rfl
      rw [List.foldl_cons, step, inductionHypothesis, List.append_assoc, List.singleton_append]

theorem exists_join {clause : Clause} (join : clause.isJoin = true) :
    ∃ shared join body, (join = Clause.negationJoin shared ∨ join = .disjunctionJoin shared) ∧
      clause = join body := by
  cases clause with
  | negationJoin shared clauses => exact ⟨shared, _, clauses, .inl rfl, rfl⟩
  | disjunctionJoin shared clauses => exact ⟨shared, _, clauses, .inr rfl, rfl⟩
  | _ => simp [Clause.isJoin] at join

namespace TypedQuery

/-! ## Patterns of queries -/

/-- The patterns of all conditions, the one on the type of the results among them. -/
def patterns (query : TypedQuery) : List String := query.completeFilter.patterns

/-- The pattern that the type of the results adds. -/
def typePattern (entityType : EntityType) : String := (typeCondition entityType).text false " "

theorem isSingle_typeCondition (entityType : EntityType) :
    (typeCondition entityType).isSingle = true := by
  unfold typeCondition
  split <;> rfl

theorem parts_completeFilter (query : TypedQuery) :
    query.completeFilter.parts .condition =
      query.filter.toList.flatMap (Clause.parts .condition) ++
        [typeCondition query.resultType] := by
  have type := (Clause.parts_of_isSingle (isSingle_typeCondition query.resultType)).2.2.1
  rcases query with ⟨resultType, find, filter, keys, keepsDocuments⟩
  rcases filter with _ | filter
  · exact type
  · cases filter with
    | conjunction part clauses => cases part <;> simp [completeFilter, Clause.parts]
    | _ => simp [completeFilter, Clause.parts]

theorem kind_completeFilter (query : TypedQuery) : query.completeFilter.kind = .condition := by
  rcases query with ⟨resultType, find, filter, keys, keepsDocuments⟩
  rcases filter with _ | filter
  · exact (Clause.parts_of_isSingle (isSingle_typeCondition resultType)).1
  · cases filter with
    | conjunction part clauses => cases part <;> rfl
    | _ => rfl

/-- The text of a query lists its patterns. -/
theorem text_eq_patterns (query : TypedQuery) (separator : String) :
    query.text separator =
      Clause.queryText (query.completeFind.text true " ")
        (Clause.conjunctionText .condition true separator query.patterns) query.keys := by
  rw [text, clause, Clause.text, Clause.text_eq_patterns query.kind_completeFilter, patterns]

/-- If the patterns are known, the only increasing list of them is written. -/
theorem text_of_patterns {query : TypedQuery} {fragments : List String}
    (sorted : fragments.Pairwise (· < ·))
    (patterns : query.patterns = canonical true true fragments) (separator : String) :
    query.text separator = Clause.queryText (query.completeFind.text true " ")
      (Clause.conjunctionText .condition true separator fragments) query.keys := by
  rw [text_eq_patterns, patterns, ← eq_canonical sorted fun _ => Iff.rfl]

theorem conjuncts_completeFilter (query : TypedQuery) :
    Clause.conjuncts .condition (query.completeFilter.parts .condition) =
      Clause.conjuncts .condition (query.filter.toList.flatMap (Clause.parts .condition)) ++
        [typePattern query.resultType] := by
  have single : ∀ clause ∈ [typeCondition query.resultType], clause.isSingle = true := by
    simpa using isSingle_typeCondition query.resultType
  rw [parts_completeFilter, Clause.conjuncts_append, Clause.conjuncts_of_isSingle single]
  rfl

/-- The patterns are in canonical form if the parts of the filter may be sorted. -/
theorem patterns_eq_canonical {query : TypedQuery}
    (commutes : Clause.allCommutative
      (query.filter.toList.flatMap (Clause.parts .condition)) = true) :
    query.patterns = canonical true true
      (Clause.conjuncts .condition (query.filter.toList.flatMap (Clause.parts .condition)) ++
        [typePattern query.resultType]) := by
  have type := (Clause.parts_of_isSingle (isSingle_typeCondition query.resultType)).2.2.2
  have all : Clause.allCommutative (query.completeFilter.parts .condition) = true := by
    rw [parts_completeFilter, Clause.allCommutative, List.all_append]
    simpa [Clause.allCommutative, type] using commutes
  rw [patterns, Clause.patterns_eq_canonical all, conjuncts_completeFilter]

theorem mem_patterns {query : TypedQuery} {fragment : String} :
    fragment ∈ query.patterns ↔
      (∃ filter ∈ query.filter, fragment ∈ filter.patterns) ∨
        fragment = typePattern query.resultType := by
  rw [patterns, Clause.mem_patterns, conjuncts_completeFilter, List.mem_append,
    Clause.conjuncts_flatMap_parts, Clause.mem_conjuncts]
  simp

/-- The parts of a filter are those of its conditions if none of them fell into a join. -/
theorem parts_withConditions {resultType : EntityType} {conditions : List Clause}
    (free : NoneBehindJoin conditions) :
    ((ofType resultType).withConditions conditions).filter.toList.flatMap
        (Clause.parts .condition) =
      conditions.flatMap (Clause.parts .condition) := by
  rcases conditions with _ | ⟨first, _ | ⟨second, rest⟩⟩
  · rfl
  · rfl
  · obtain ⟨filter, value, _, parts⟩ := foldl_conjoined_open (second :: rest) free
    have whole : ((ofType resultType).withConditions (first :: second :: rest)).filter =
        some filter := value
    rw [whole, Option.toList_some, List.flatMap_singleton]
    exact parts.trans List.flatMap_cons.symm

theorem hasCondition_ofType (resultType : EntityType) : (ofType resultType).HasCondition := by
  intro filter present
  cases present

section Reached

variable {resultType : EntityType} {calls : List BuilderCall} {query : TypedQuery}
  (reached : (ofType resultType).run calls = .ok query)

include reached

theorem conjuncts_run (free : NoneBehindJoin (conditionsOf calls)) :
    Clause.conjuncts .condition (query.completeFilter.parts .condition) =
      Clause.conjuncts .condition
        ((conditionsOf calls).flatMap (Clause.parts .condition)) ++
          [typePattern resultType] := by
  obtain ⟨_, filter, type⟩ := run_calls (hasCondition_ofType resultType) reached
  rw [conjuncts_completeFilter, filter, parts_withConditions free, type]
  rfl

/-- Without conditions behind a join a query has the patterns of its conditions. -/
theorem mem_patterns_run (free : NoneBehindJoin (conditionsOf calls))
    {fragment : String} :
    fragment ∈ query.patterns ↔
      (∃ clause ∈ conditionsOf calls, fragment ∈ clause.patterns) ∨
        fragment = typePattern resultType := by
  rw [patterns, Clause.mem_patterns, conjuncts_run reached free, List.mem_append,
    Clause.conjuncts_flatMap_parts, Clause.mem_conjuncts, List.mem_singleton]

/-- If all of them are trees of conditions, their order does not matter. -/
theorem patterns_run (free : NoneBehindJoin (conditionsOf calls))
    (built : ∀ clause ∈ conditionsOf calls, clause.isCondition = true) :
    query.patterns = canonical true true
      ((conditionsOf calls).flatMap Clause.patterns ++ [typePattern resultType]) := by
  obtain ⟨_, filter, _⟩ := run_calls (hasCondition_ofType resultType) reached
  have commutes : Clause.allCommutative
      (query.filter.toList.flatMap (Clause.parts .condition)) = true := by
    rw [filter, parts_withConditions free, Clause.allCommutative, List.all_eq_true]
    intro part member
    obtain ⟨clause, present, inside⟩ := List.mem_flatMap.mp member
    exact List.all_eq_true.mp (Clause.allCommutative_parts (built clause present)) part inside
  rw [patterns_eq_canonical commutes]
  apply canonical_congr
  intro fragment
  rw [← conjuncts_completeFilter, ← Clause.mem_patterns, ← patterns, mem_patterns_run reached free]
  simp

end Reached

/-- The filter of a query is a join if the first condition of all was one. -/
theorem isJoin_filter_run {resultType : EntityType} {calls : List BuilderCall} {query : TypedQuery}
    (reached : (ofType resultType).run calls = .ok query) :
    query.filter.any Clause.isJoin = opensWithJoin (conditionsOf calls) := by
  obtain ⟨_, filter, _⟩ := run_calls (hasCondition_ofType resultType) reached
  rw [filter]
  rcases conditionsOf calls with _ | ⟨first, rest⟩
  · rfl
  show (rest.foldl (fun filter clause => some (conjoined filter clause)) (some first)).any _ =
    first.isJoin
  by_cases join : first.isJoin = true
  · obtain ⟨shared, join, body, isJoin, rfl⟩ := exists_join join
    rw [foldl_conjoined_join isJoin]
    rcases isJoin with rfl | rfl <;> rfl
  · have open_ := Bool.eq_false_of_not_eq_true join
    obtain ⟨filter, value, filterOpen, _⟩ := foldl_conjoined_open rest open_
    rw [value, open_]
    exact filterOpen

end TypedQuery

end Bitemporal
