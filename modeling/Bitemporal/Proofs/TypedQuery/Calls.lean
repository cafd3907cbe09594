/-
This file follows the calls that build a query, and the conditions that they add to it.
-/
import Bitemporal.Proofs.Clause.Conjunction
import Bitemporal.Proofs.Clause.Meaning
import Bitemporal.TypedQuery

namespace Bitemporal

/-- A call that adds conditions to a query. -/
inductive Constraint where
  | whereFields (entityType : EntityType) (fields : List (String × FieldValue))
  | whereField (entityType : EntityType) (field : String) (value : FieldValue)
  | whereClause (clause : Clause)

namespace Constraint

def apply (query : TypedQuery) : Constraint → Outcome TypedQuery
  | .whereFields entityType fields => query.whereFields entityType fields
  | .whereField entityType field value => query.whereField entityType field value
  | .whereClause clause => query.whereClause clause

/-- The conditions that a call adds one after another. -/
def conditions : Constraint → List Clause
  | .whereFields entityType fields =>
      fields.map fun field => TypedQuery.fieldPattern entityType field.1 field.2
  | .whereField entityType field value => [TypedQuery.fieldPattern entityType field value]
  | .whereClause clause => [clause]

/-- Nothing but the call itself decides whether it is accepted. -/
def Accepted : Constraint → Prop
  | .whereFields entityType fields =>
      ∀ field ∈ fields, TypedQuery.fieldFault? entityType field.1 field.2 = none
  | .whereField entityType field value => TypedQuery.fieldFault? entityType field value = none
  | .whereClause clause => clause.kind = .condition

end Constraint

/-- A call that builds a query. -/
inductive BuilderCall where
  | constrain (constraint : Constraint)
  | project (expression : String)
  | aggregate (operation : Aggregate)
  | setKey (key : QueryKey)

namespace BuilderCall

def apply (query : TypedQuery) : BuilderCall → Outcome TypedQuery
  | .constrain constraint => constraint.apply query
  | .project expression => .ok (query.project expression)
  | .aggregate operation => .ok (query.aggregate operation)
  | .setKey key => .ok (query.setKey key)

/-- Only constraints add conditions. -/
def conditions : BuilderCall → List Clause
  | .constrain constraint => constraint.conditions
  | .project _ | .aggregate _ | .setKey _ => []

end BuilderCall

/-- The conditions that several calls add. -/
def conditionsOf (calls : List BuilderCall) : List Clause := calls.flatMap BuilderCall.conditions

@[simp] theorem conditionsOf_cons (call : BuilderCall) (rest : List BuilderCall) :
    conditionsOf (call :: rest) = call.conditions ++ conditionsOf rest := List.flatMap_cons

theorem conditionsOf_append (calls later : List BuilderCall) :
    conditionsOf (calls ++ later) = conditionsOf calls ++ conditionsOf later := List.flatMap_append

/-! ## Conditions after one another -/

/-- The filter after one more condition; a join takes the condition in. -/
def conjoined : Option Clause → Clause → Clause
  | none, clause => clause
  | some (.negationJoin shared clauses), clause => .negationJoin shared (clauses ++ [clause])
  | some (.disjunctionJoin shared clauses), clause => .disjunctionJoin shared (clauses ++ [clause])
  | some earlier, clause => .append .condition earlier clause

theorem conjoined_of_open {earlier clause : Clause} (open_ : earlier.isJoin = false) :
    conjoined (some earlier) clause = .append .condition earlier clause := by
  cases earlier with
  | negationJoin shared clauses => simp [Clause.isJoin] at open_
  | disjunctionJoin shared clauses => simp [Clause.isJoin] at open_
  | _ => rfl

theorem kind_conjoined {filter : Option Clause} {clause : Clause}
    (condition : clause.kind = .condition) : (conjoined filter clause).kind = .condition := by
  rcases filter with _ | earlier
  · exact condition
  · cases earlier <;> rfl

/-- Conditions can always be conjoined. -/
theorem addCondition_eq {filter : Option Clause} {clause : Clause}
    (earlierConditions : ∀ earlier ∈ filter, earlier.kind = .condition)
    (condition : clause.kind = .condition) :
    TypedQuery.addCondition filter clause = .ok (conjoined filter clause) := by
  rcases filter with _ | earlier
  · rfl
  have earlierCondition : earlier.kind = .condition := earlierConditions earlier rfl
  show earlier.conjoin clause = _
  by_cases join : earlier.isJoin = true
  · cases earlier with
    | negationJoin shared clauses => exact Clause.conjoin_eq_join (.inl rfl) clauses condition
    | disjunctionJoin shared clauses => exact Clause.conjoin_eq_join (.inr rfl) clauses condition
    | _ => simp [Clause.isJoin] at join
  · have open_ : earlier.isJoin = false := Bool.eq_false_of_not_eq_true join
    rw [conjoined_of_open open_]
    exact Clause.conjoin_eq_append earlierCondition condition open_

namespace TypedQuery

/-- The filter of a query is a condition, if there is one. -/
def HasCondition (query : TypedQuery) : Prop := ∀ filter ∈ query.filter, filter.kind = .condition

/-- The query after more conditions. -/
def withConditions (query : TypedQuery) (clauses : List Clause) : TypedQuery :=
  { query with filter := clauses.foldl (fun filter clause => conjoined filter clause) query.filter }

@[simp] theorem withConditions_nil (query : TypedQuery) : query.withConditions [] = query := rfl

theorem withConditions_append (query : TypedQuery) (first second : List Clause) :
    (query.withConditions first).withConditions second =
      query.withConditions (first ++ second) := by
  simp [withConditions]

theorem HasCondition.withConditions {query : TypedQuery} (filtered : query.HasCondition)
    {clauses : List Clause} (conditions : ∀ clause ∈ clauses, clause.kind = .condition) :
    (query.withConditions clauses).HasCondition := by
  induction clauses generalizing query with
  | nil => exact filtered
  | cons clause rest inductionHypothesis =>
      obtain ⟨first, later⟩ := List.forall_mem_cons.mp conditions
      have step : (query.withConditions [clause]).HasCondition := by
        intro filter present
        cases present
        exact kind_conjoined first
      have whole := inductionHypothesis step later
      rwa [withConditions_append] at whole

/-- A field is compared by a pattern or by a disjunction of patterns. -/
theorem isSingle_fieldPattern (entityType : EntityType) (field : String) (value : FieldValue) :
    (fieldPattern entityType field value).isSingle = true := by
  unfold fieldPattern
  split <;> rfl

theorem isCondition_patterns (entityType : EntityType) (field value : EntityType → String) :
    (Clause.disjunction (entityType.variants.map fun variant =>
      .pattern entityType.label (field variant) (value variant))).isCondition = true := by
  rw [Clause.isCondition, Clause.areConditions_iff]
  intro clause member
  obtain ⟨variant, _, rfl⟩ := List.mem_map.mp member
  rfl

theorem isCondition_fieldPattern (entityType : EntityType) (field : String) (value : FieldValue) :
    (fieldPattern entityType field value).isCondition = true := by
  unfold fieldPattern
  split
  · exact isCondition_patterns entityType (fun variant => variant.qualify field) _
  · rfl

/-- A field without fault adds its condition. -/
theorem whereField_eq_ok_iff {query next : TypedQuery} (filtered : query.HasCondition)
    {entityType : EntityType} {field : String} {value : FieldValue} :
    query.whereField entityType field value = .ok next ↔
      fieldFault? entityType field value = none ∧
        next = query.withConditions [fieldPattern entityType field value] := by
  have condition : (fieldPattern entityType field value).kind = .condition :=
    Clause.kind_of_isCondition (isCondition_fieldPattern entityType field value)
  unfold whereField fieldCondition
  rcases fault : fieldFault? entityType field value with _ | reason
  · have added := addCondition_eq filtered condition
    simp [bind, Except.bind, pure, Except.pure, added, withConditions, eq_comm]
  · simp [bind, Except.bind]

/-- The fields are accepted if each of them is. -/
theorem whereFields_eq_ok_iff {query next : TypedQuery} (filtered : query.HasCondition)
    {entityType : EntityType} {fields : List (String × FieldValue)} :
    query.whereFields entityType fields = .ok next ↔
      (∀ field ∈ fields, fieldFault? entityType field.1 field.2 = none) ∧
        next = query.withConditions
          (fields.map fun field => fieldPattern entityType field.1 field.2) := by
  unfold whereFields
  induction fields generalizing query with
  | nil => simp [pure, Except.pure, eq_comm]
  | cons field rest inductionHypothesis =>
      rw [List.foldlM_cons, List.forall_mem_cons, List.map_cons]
      rcases step : query.whereField entityType field.1 field.2 with reason | middle
      · have refused : fieldFault? entityType field.1 field.2 ≠ none := by
          intro accepted
          have := (whereField_eq_ok_iff filtered).mpr ⟨accepted, rfl⟩
          rw [step] at this
          cases this
        simp [bind, Except.bind, refused]
      · obtain ⟨accepted, rfl⟩ := (whereField_eq_ok_iff filtered).mp step
        have middleFiltered : (query.withConditions
            [fieldPattern entityType field.1 field.2]).HasCondition :=
          filtered.withConditions (by
            simpa using Clause.kind_of_isCondition (isCondition_fieldPattern _ _ _))
        show List.foldlM _ _ rest = _ ↔ _
        rw [inductionHypothesis middleFiltered, withConditions_append, List.singleton_append]
        simp [accepted]

theorem whereClause_eq_ok_iff {query next : TypedQuery} (filtered : query.HasCondition)
    {clause : Clause} :
    query.whereClause clause = .ok next ↔
      clause.kind = .condition ∧ next = query.withConditions [clause] := by
  unfold whereClause
  by_cases condition : clause.kind = .condition
  · have added := addCondition_eq filtered condition
    simp [bind, Except.bind, pure, Except.pure, condition, added, withConditions, eq_comm]
  · simp [condition]

end TypedQuery

/-- An accepted call adds its conditions and changes nothing else. -/
theorem Constraint.apply_eq_ok_iff {query next : TypedQuery} (filtered : query.HasCondition)
    (constraint : Constraint) :
    constraint.apply query = .ok next ↔
      constraint.Accepted ∧ next = query.withConditions constraint.conditions := by
  cases constraint with
  | whereFields entityType fields => exact TypedQuery.whereFields_eq_ok_iff filtered
  | whereField entityType field value => exact TypedQuery.whereField_eq_ok_iff filtered
  | whereClause clause => exact TypedQuery.whereClause_eq_ok_iff filtered

theorem Constraint.kind_of_mem_conditions (constraint : Constraint)
    (accepted : constraint.Accepted) :
    ∀ clause ∈ constraint.conditions, clause.kind = .condition := by
  cases constraint with
  | whereFields entityType fields =>
      intro clause member
      obtain ⟨field, _, rfl⟩ := List.mem_map.mp member
      exact Clause.kind_of_isCondition (TypedQuery.isCondition_fieldPattern _ _ _)
  | whereField entityType field value =>
      intro clause member
      cases List.mem_singleton.mp member
      exact Clause.kind_of_isCondition (TypedQuery.isCondition_fieldPattern _ _ _)
  | whereClause clause =>
      intro other member
      cases List.mem_singleton.mp member
      exact accepted

/-! ## Runs of calls -/

namespace TypedQuery

/-- Calls are made one after another until one of them is refused. -/
def run (query : TypedQuery) (calls : List BuilderCall) : Outcome TypedQuery :=
  calls.foldlM BuilderCall.apply query

theorem run_append {query middle : TypedQuery} {calls : List BuilderCall}
    (reached : query.run calls = .ok middle) (later : List BuilderCall) :
    query.run (calls ++ later) = middle.run later := by
  rw [run] at reached ⊢
  rw [List.foldlM_append, reached]
  rfl

theorem run_singleton (query : TypedQuery) (call : BuilderCall) :
    query.run [call] = call.apply query := by
  show call.apply query >>= pure = _
  exact bind_pure _

end TypedQuery

end Bitemporal
