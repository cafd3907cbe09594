/-
This file shows that comparing fields again as before does not change a query.
-/
import Bitemporal.Proofs.TypedQuery.Order
import Bitemporal.Sample.Schema

namespace Bitemporal

/-! ## Comparisons of fields -/

namespace Constraint

/-- A call that compares fields passes no clause of its own. -/
def comparesFields : Constraint → Bool
  | .whereFields _ _ | .whereField _ _ _ => true
  | .whereClause _ => false

theorem isSingle_of_comparesFields {constraint : Constraint}
    (compares : constraint.comparesFields = true) :
    ∀ clause ∈ constraint.conditions, clause.isSingle = true := by
  cases constraint with
  | whereFields entityType fields =>
      intro clause member
      obtain ⟨field, _, rfl⟩ := List.mem_map.mp member
      exact TypedQuery.isSingle_fieldPattern _ _ _
  | whereField entityType field value =>
      exact List.forall_mem_singleton.mpr (TypedQuery.isSingle_fieldPattern _ _ _)
  | whereClause clause => cases compares

theorem isCondition_of_mem_conditions {constraint : Constraint}
    (built : ∀ clause, constraint = .whereClause clause → clause.isCondition = true) :
    ∀ clause ∈ constraint.conditions, clause.isCondition = true := by
  cases constraint with
  | whereFields entityType fields =>
      intro clause member
      obtain ⟨field, _, rfl⟩ := List.mem_map.mp member
      exact TypedQuery.isCondition_fieldPattern _ _ _
  | whereField entityType field value =>
      exact List.forall_mem_singleton.mpr (TypedQuery.isCondition_fieldPattern _ _ _)
  | whereClause clause => exact List.forall_mem_singleton.mpr (built clause rfl)

end Constraint

/-- Comparisons that were made before add conditions that are there already. -/
theorem conditions_subset {calls : List BuilderCall} {repeated : List Constraint}
    (known : ∀ constraint ∈ repeated, .constrain constraint ∈ calls) :
    repeated.flatMap Constraint.conditions ⊆ conditionsOf calls := by
  rw [conditionsOf_eq_flatMap]
  intro clause member
  obtain ⟨constraint, present, inside⟩ := List.mem_flatMap.mp member
  exact List.mem_flatMap.mpr ⟨constraint, mem_constraintsOf.mpr (known constraint present), inside⟩

namespace TypedQuery

/-- A join that comes first holds all conditions behind it. -/
theorem filter_run_of_join {resultType : EntityType} {calls : List BuilderCall}
    {query : TypedQuery} (reached : (ofType resultType).run calls = .ok query) {shared : String}
    {join : List Clause → Clause}
    (kind : join = .negationJoin shared ∨ join = .disjunctionJoin shared) {body rest : List Clause}
    (conditions : conditionsOf calls = join body :: rest) :
    query.filter = some (join (body ++ rest)) := by
  obtain ⟨_, filter, _⟩ := run_calls (hasCondition_ofType resultType) reached
  rw [filter, conditions]
  exact foldl_conjoined_join kind rest body

/-- Conditions that are in the body of a join already add nothing to its text. -/
theorem text_join_append_known {shared : String} {join : List Clause → Clause}
    (kind : join = .negationJoin shared ∨ join = .disjunctionJoin shared)
    {body repeated : List Clause}
    (conditions : ∀ clause ∈ body ++ repeated, clause.kind = .condition)
    (known : repeated ⊆ body) :
    (join (body ++ repeated)).text false " " = (join body).text false " " := by
  rcases kind with rfl | rfl
  · exact Clause.Group.text_of_append_known (.negationJoin shared) conditions
      (Clause.Group.members_subset _ known) false " "
  · exact Clause.Group.text_of_append_known (.disjunctionJoin shared) conditions
      (Clause.Group.members_subset _ known) false " "

section Repeated

variable {resultType : EntityType} {calls repeated : List BuilderCall} {query next : TypedQuery}
  (reached : (ofType resultType).run calls = .ok query) (again : query.run repeated = .ok next)
  (built : ∀ clause ∈ conditionsOf calls, clause.isCondition = true)
  (known : conditionsOf repeated ⊆ conditionsOf calls)

include reached again built known

/-- Beside one another conditions are listed once each. -/
theorem patterns_again_of_open (open_ : opensWithJoin (conditionsOf calls) = false) :
    next.patterns = query.patterns := by
  have nextReached := (run_append reached repeated).trans again
  have conditions := conditionsOf_append calls repeated
  have nextOpen : opensWithJoin (conditionsOf (calls ++ repeated)) = false := by
    rcases earlier : conditionsOf calls with _ | ⟨first, rest⟩
    · rw [earlier] at known
      rw [conditions, earlier, List.subset_nil.mp known]
      rfl
    · rw [earlier] at open_
      rwa [conditions, earlier]
  have nextBuilt : ∀ clause ∈ conditionsOf (calls ++ repeated), clause.isCondition = true := by
    rw [conditions]
    exact List.forall_mem_append.mpr ⟨built, fun clause member => built clause (known member)⟩
  rw [patterns_run nextReached (noneBehindJoin_of_open nextOpen) nextBuilt,
    patterns_run reached (noneBehindJoin_of_open open_) built, conditions]
  apply canonical_congr
  intro fragment
  have earlier : (∃ clause ∈ conditionsOf repeated, fragment ∈ clause.patterns) →
      ∃ clause ∈ conditionsOf calls, fragment ∈ clause.patterns :=
    fun ⟨clause, member, inside⟩ => ⟨clause, known member, inside⟩
  simp only [List.flatMap_append, List.mem_append, List.mem_flatMap]
  rw [or_iff_left_of_imp earlier]

/-- In the body of a join they are listed once each as well, unless one of them is the join. -/
theorem patterns_again_of_join (opening : opensWithJoin (conditionsOf calls) = true)
    (open_ : ∀ clause ∈ conditionsOf repeated, clause.isJoin = false) :
    next.patterns = query.patterns := by
  rcases conditions : conditionsOf calls with _ | ⟨first, rest⟩
  · rw [conditions] at opening
    cases opening
  rw [conditions] at opening built known
  have isJoin : first.isJoin = true := opening
  obtain ⟨shared, join, body, kind, rfl⟩ := exists_join isJoin
  -- What is repeated stands behind the join, so it is in the body already.
  have behind : conditionsOf repeated ⊆ rest := by
    intro clause member
    refine (List.mem_cons.mp (known member)).resolve_left ?_
    rintro rfl
    rw [open_ _ member] at isJoin
    cases isJoin
  have nextReached := (run_append reached repeated).trans again
  have nextConditions : conditionsOf (calls ++ repeated) =
      join body :: (rest ++ conditionsOf repeated) := by
    rw [conditionsOf_append, conditions, List.cons_append]
  obtain ⟨_, _, type⟩ := run_calls (hasCondition_ofType resultType) reached
  obtain ⟨_, _, nextType⟩ := run_calls (hasCondition_ofType resultType) nextReached
  rw [patterns_of_join kind (filter_run_of_join reached kind conditions),
    patterns_of_join kind (filter_run_of_join nextReached kind nextConditions), type, nextType,
    ← List.append_assoc]
  have inside : ∀ clause ∈ body ++ rest, clause.isCondition = true := by
    obtain ⟨whole, later⟩ := List.forall_mem_cons.mp built
    refine List.forall_mem_append.mpr ⟨(Clause.areConditions_iff body).mp ?_, later⟩
    rcases kind with rfl | rfl <;> exact whole
  have present : conditionsOf repeated ⊆ body ++ rest :=
    List.subset_append_of_subset_right _ behind
  have conditionsInside : ∀ clause ∈ (body ++ rest) ++ conditionsOf repeated,
      clause.kind = .condition := by
    intro clause member
    apply Clause.kind_of_isCondition
    exact (List.mem_append.mp member).elim (inside clause) fun again =>
      inside clause (present again)
  rw [text_join_append_known kind conditionsInside present]

end Repeated

/-- Comparisons that were made before are accepted again, and the query stays as it was written. -/
theorem run_comparisons_again {resultType : EntityType} {calls : List BuilderCall}
    {query : TypedQuery} (reached : (ofType resultType).run calls = .ok query)
    (built : ∀ clause, .constrain (.whereClause clause) ∈ calls → clause.isCondition = true)
    {repeated : List Constraint}
    (known : ∀ constraint ∈ repeated,
      .constrain constraint ∈ calls ∧ constraint.comparesFields = true) :
    ∃ next, query.run (repeated.map .constrain) = .ok next ∧
      ∀ separator, next.text separator = query.text separator := by
  obtain ⟨accepted, _⟩ := (run_eq_ok_iff (hasCondition_ofType resultType)).mp reached
  obtain ⟨filtered, _, _⟩ := run_calls (hasCondition_ofType resultType) reached
  have again := (run_constraints_iff filtered).mpr
    ⟨fun constraint member => accepted _ (mem_constraintsOf.mpr (known constraint member).1), rfl⟩
  refine ⟨_, again, fun separator => ?_⟩
  have conditions : ∀ clause ∈ conditionsOf calls, clause.isCondition = true := by
    intro clause member
    rw [conditionsOf_eq_flatMap] at member
    obtain ⟨constraint, present, inside⟩ := List.mem_flatMap.mp member
    refine Constraint.isCondition_of_mem_conditions (fun other passed => built other ?_) clause
      inside
    exact passed ▸ mem_constraintsOf.mp present
  have subset : conditionsOf (repeated.map .constrain) ⊆ conditionsOf calls := by
    rw [conditionsOf_constrain]
    exact conditions_subset fun constraint member => (known constraint member).1
  have single : ∀ clause ∈ conditionsOf (repeated.map .constrain), clause.isJoin = false := by
    rw [conditionsOf_constrain]
    intro clause member
    obtain ⟨constraint, present, inside⟩ := List.mem_flatMap.mp member
    exact isJoin_of_isSingle
      (Constraint.isSingle_of_comparesFields (known constraint present).2 clause inside)
  have patterns : (query.withConditions (repeated.flatMap Constraint.conditions)).patterns =
      query.patterns := by
    by_cases opening : opensWithJoin (conditionsOf calls) = true
    · exact patterns_again_of_join reached again conditions subset opening single
    · exact patterns_again_of_open reached again conditions subset
        (Bool.eq_false_of_not_eq_true opening)
  rw [text_eq_patterns, text_eq_patterns, patterns]
  rfl

/-- Comparing fields as it was done by any earlier call is accepted and leaves the text of the query
as it is, wherever the earlier conditions ended up; so it is for any number of such calls. -/
theorem comparisons_repeatable {resultType : EntityType} {calls : List BuilderCall}
    {query : TypedQuery} (reached : (ofType resultType).run calls = .ok query)
    (built : ∀ clause, .constrain (.whereClause clause) ∈ calls → clause.isCondition = true) :
    (∀ (entityType : EntityType) (fields : List (String × FieldValue)),
      .constrain (.whereFields entityType fields) ∈ calls →
      ∃ next, query.whereFields entityType fields = .ok next ∧
        ∀ separator, next.text separator = query.text separator) ∧
    (∀ (entityType : EntityType) (field : String) (value : FieldValue),
      .constrain (.whereField entityType field value) ∈ calls →
      ∃ next, query.whereField entityType field value = .ok next ∧
        ∀ separator, next.text separator = query.text separator) ∧
    ∀ repeated : List Constraint,
      (∀ constraint ∈ repeated,
        .constrain constraint ∈ calls ∧ constraint.comparesFields = true) →
      ∃ next, query.run (repeated.map .constrain) = .ok next ∧
        ∀ separator, next.text separator = query.text separator := by
  have single : ∀ constraint : Constraint, .constrain constraint ∈ calls →
      constraint.comparesFields = true →
      ∃ next, constraint.apply query = .ok next ∧
        ∀ separator, next.text separator = query.text separator := by
    intro constraint present compares
    have known : ∀ other ∈ [constraint],
        .constrain other ∈ calls ∧ other.comparesFields = true :=
      List.forall_mem_singleton.mpr ⟨present, compares⟩
    obtain ⟨next, again, same⟩ := run_comparisons_again reached built known
    exact ⟨next, (run_singleton query (.constrain constraint)).symm.trans again, same⟩
  refine ⟨fun entityType fields present => single _ present rfl,
    fun entityType field value present => single _ present rfl, fun repeated known => ?_⟩
  exact run_comparisons_again reached built known

/-- A join comes first, so the comparisons behind it are in its body. -/
def joinedPets : List BuilderCall :=
  [.constrain (.whereClause (.disjunctionJoin "?e" [.pattern "?e" "banned" "true"])),
    .constrain (.whereFields Sample.pet [("name", .string "x"), ("owner", .entity Sample.user)]),
    .project "?e", .constrain (.whereClause (.negation [.pattern "?e" "old" "true"])),
    .setKey (.limit 5)]

theorem comparisons_repeatable_joinedPets :
    ∃ query next, (ofType Sample.pet).run joinedPets = .ok query ∧
      (∀ clause, .constrain (.whereClause clause) ∈ joinedPets → clause.isCondition = true) ∧
      BuilderCall.constrain (.whereFields Sample.pet
        [("name", .string "x"), ("owner", .entity Sample.user)]) ∈ joinedPets ∧
      query.whereFields Sample.pet [("name", .string "x"), ("owner", .entity Sample.user)] =
        .ok next ∧
      ∀ separator, next.text separator = query.text separator := by
  have reached : (ofType Sample.pet).run joinedPets = .ok _ := rfl
  have built : ∀ clause, .constrain (.whereClause clause) ∈ joinedPets →
      clause.isCondition = true := by
    intro clause member
    simp only [joinedPets, List.mem_cons, BuilderCall.constrain.injEq,
      Constraint.whereClause.injEq, reduceCtorEq, false_or, or_false, List.not_mem_nil] at member
    rcases member with rfl | rfl <;> rfl
  have present : BuilderCall.constrain (.whereFields Sample.pet
      [("name", .string "x"), ("owner", .entity Sample.user)]) ∈ joinedPets :=
    List.mem_cons_of_mem _ List.mem_cons_self
  obtain ⟨next, accepted, same⟩ := (comparisons_repeatable reached built).1 _ _ present
  exact ⟨_, next, reached, built, present, accepted, same⟩

end TypedQuery

end Bitemporal
