/-
This file gives the query that some calls build, whatever stands between them.
-/
import Bitemporal.Proofs.TypedQuery.Calls
import Mathlib.Data.List.Flatten

namespace Bitemporal

/-! ## What calls add -/

namespace BuilderCall

/-- The expressions that a call projects. -/
def projections : BuilderCall → List String
  | .project expression => [expression]
  | .aggregate operation => [operation.text]
  | .constrain _ | .setKey _ => []

/-- The keys that a call sets. -/
def keys : BuilderCall → List QueryKey
  | .setKey key => [key]
  | .constrain _ | .project _ | .aggregate _ => []

def constraints : BuilderCall → List Constraint
  | .constrain constraint => [constraint]
  | .project _ | .aggregate _ | .setKey _ => []

def isAggregate : BuilderCall → Bool
  | .aggregate _ => true
  | .constrain _ | .project _ | .setKey _ => false

end BuilderCall

def projectionsOf (calls : List BuilderCall) : List String := calls.flatMap BuilderCall.projections

def keysOf (calls : List BuilderCall) : List QueryKey := calls.flatMap BuilderCall.keys

def constraintsOf (calls : List BuilderCall) : List Constraint :=
  calls.flatMap BuilderCall.constraints

theorem mem_constraintsOf {constraint : Constraint} {calls : List BuilderCall} :
    constraint ∈ constraintsOf calls ↔ .constrain constraint ∈ calls := by
  rw [constraintsOf, List.mem_flatMap]
  constructor
  · rintro ⟨call, present, inside⟩
    cases call with
    | constrain other => exact List.mem_singleton.mp inside ▸ present
    | _ => cases inside
  · intro present
    exact ⟨_, present, List.mem_singleton_self constraint⟩

theorem conditionsOf_eq_flatMap (calls : List BuilderCall) :
    conditionsOf calls = (constraintsOf calls).flatMap Constraint.conditions := by
  rw [conditionsOf, constraintsOf, List.flatMap_assoc]
  apply List.flatMap_congr
  intro call _
  cases call <;> simp [BuilderCall.conditions, BuilderCall.constraints]

theorem conditionsOf_constrain (constraints : List Constraint) :
    conditionsOf (constraints.map .constrain) = constraints.flatMap Constraint.conditions := by
  rw [conditionsOf, List.flatMap_map]
  rfl

theorem kind_of_mem_conditionsOf {calls : List BuilderCall}
    (accepted : ∀ constraint ∈ constraintsOf calls, constraint.Accepted) :
    ∀ clause ∈ conditionsOf calls, clause.kind = .condition := by
  intro clause member
  rw [conditionsOf_eq_flatMap, List.mem_flatMap] at member
  obtain ⟨constraint, present, inside⟩ := member
  exact constraint.kind_of_mem_conditions (accepted constraint present) clause inside

namespace TypedQuery

/-- The query after some calls, all of which are accepted. -/
def after (query : TypedQuery) (calls : List BuilderCall) : TypedQuery where
  resultType := query.resultType
  find := (projectionsOf calls).foldl
    (fun find expression => some (addProjection find expression)) query.find
  filter := (query.withConditions (conditionsOf calls)).filter
  keys := (keysOf calls).foldl QueryKeys.set query.keys
  keepsDocuments := query.keepsDocuments && !calls.any BuilderCall.isAggregate

theorem after_cons (query : TypedQuery) (call : BuilderCall) (rest : List BuilderCall) :
    query.after (call :: rest) = (query.after [call]).after rest := by
  simp only [after, projectionsOf, keysOf, conditionsOf, withConditions, List.flatMap_cons,
    List.flatMap_nil, List.append_nil, List.foldl_append, List.any_cons, List.any_nil,
    Bool.or_false, Bool.not_or, Bool.and_assoc]

theorem HasCondition.after {query : TypedQuery} (filtered : query.HasCondition)
    {calls : List BuilderCall}
    (accepted : ∀ constraint ∈ constraintsOf calls, constraint.Accepted) :
    (query.after calls).HasCondition :=
  filtered.withConditions (kind_of_mem_conditionsOf accepted)

theorem after_singleton (query : TypedQuery) (call : BuilderCall) :
    query.after [call] =
      ⟨query.resultType,
        call.projections.foldl (fun find expression => some (addProjection find expression))
          query.find,
        (query.withConditions call.conditions).filter, call.keys.foldl QueryKeys.set query.keys,
        query.keepsDocuments && !call.isAggregate⟩ := by
  simp [after, projectionsOf, keysOf, conditionsOf]

/-- Only constraints can be refused. -/
theorem apply_eq_after (query : TypedQuery) {call : BuilderCall}
    (unconstrained : call.constraints = []) : call.apply query = .ok (query.after [call]) := by
  rw [after_singleton]
  cases call with
  | constrain constraint => cases unconstrained
  | _ =>
      simp [BuilderCall.apply, BuilderCall.projections, BuilderCall.keys, BuilderCall.conditions,
        BuilderCall.isAggregate, project, aggregate, setKey, withConditions]

/-- A call that is accepted adds what it stands for. -/
theorem apply_eq_ok_iff {query next : TypedQuery} (filtered : query.HasCondition)
    (call : BuilderCall) :
    call.apply query = .ok next ↔
      (∀ constraint ∈ call.constraints, constraint.Accepted) ∧ next = query.after [call] := by
  cases call with
  | constrain constraint =>
      have result : query.after [.constrain constraint] =
          query.withConditions constraint.conditions := by
        rw [after_singleton]
        simp [withConditions, BuilderCall.projections, BuilderCall.keys, BuilderCall.conditions,
          BuilderCall.isAggregate]
      show constraint.apply query = .ok next ↔ _
      rw [constraint.apply_eq_ok_iff filtered, result]
      simp [BuilderCall.constraints]
  | _ =>
      rw [apply_eq_after query rfl]
      simp [BuilderCall.constraints, eq_comm]

/-- Calls are accepted if each of their constraints is, and then they add what they stand for. -/
theorem run_eq_ok_iff {query next : TypedQuery} (filtered : query.HasCondition)
    {calls : List BuilderCall} :
    query.run calls = .ok next ↔
      (∀ constraint ∈ constraintsOf calls, constraint.Accepted) ∧ next = query.after calls := by
  induction calls generalizing query with
  | nil =>
      have unchanged : query.after [] = query := by
        simp [after, projectionsOf, keysOf, conditionsOf]
      simp [run, constraintsOf, unchanged, pure, Except.pure, eq_comm]
  | cons call rest inductionHypothesis =>
      have constraints : constraintsOf (call :: rest) = call.constraints ++ constraintsOf rest :=
        List.flatMap_cons
      rw [run, List.foldlM_cons, constraints, List.forall_mem_append, after_cons]
      rcases step : call.apply query with reason | middle
      · have refused : ¬ ∀ constraint ∈ call.constraints, constraint.Accepted := by
          intro accepted
          have := (apply_eq_ok_iff filtered call).mpr ⟨accepted, rfl⟩
          rw [step] at this
          cases this
        simp [bind, Except.bind, refused]
      · obtain ⟨accepted, rfl⟩ := (apply_eq_ok_iff filtered call).mp step
        have middleFiltered : (query.after [call]).HasCondition := by
          apply filtered.after
          simpa [constraintsOf] using accepted
        have later := inductionHypothesis middleFiltered
        rw [and_assoc, and_iff_right accepted]
        exact later

/-- The filter after all calls has the conditions of all calls. -/
theorem run_calls {query next : TypedQuery} (filtered : query.HasCondition)
    {calls : List BuilderCall} (reached : query.run calls = .ok next) :
    next.HasCondition ∧
      next.filter = (query.withConditions (conditionsOf calls)).filter ∧
      next.resultType = query.resultType := by
  obtain ⟨accepted, rfl⟩ := (run_eq_ok_iff filtered).mp reached
  exact ⟨filtered.after accepted, rfl, rfl⟩

/-! ## Constraints in a row -/

/-- Constraints in a row add their conditions and change nothing else. -/
theorem after_constrain (query : TypedQuery) (constraints : List Constraint) :
    query.after (constraints.map .constrain) =
      query.withConditions (constraints.flatMap Constraint.conditions) := by
  have projections : projectionsOf (constraints.map .constrain) = [] := by
    simp [projectionsOf, BuilderCall.projections]
  have keys : keysOf (constraints.map .constrain) = [] := by
    simp [keysOf, BuilderCall.keys]
  have aggregates : (constraints.map .constrain).any BuilderCall.isAggregate = false := by
    simp [BuilderCall.isAggregate]
  rw [after, projections, keys, aggregates, conditionsOf_constrain, Bool.not_false, Bool.and_true]
  rfl

theorem run_constraints_iff {query next : TypedQuery} (filtered : query.HasCondition)
    {constraints : List Constraint} :
    query.run (constraints.map .constrain) = .ok next ↔
      (∀ constraint ∈ constraints, constraint.Accepted) ∧
        next = query.withConditions (constraints.flatMap Constraint.conditions) := by
  have constrained : constraintsOf (constraints.map .constrain) = constraints := by
    rw [constraintsOf, List.flatMap_map]
    exact List.flatMap_singleton' constraints
  rw [run_eq_ok_iff filtered, constrained, after_constrain]

/-- Two constraints are accepted if each of them is. -/
theorem run_pair {query next : TypedQuery} (filtered : query.HasCondition)
    {first second : Constraint} :
    query.run [.constrain first, .constrain second] = .ok next ↔
      first.Accepted ∧ second.Accepted ∧
        next = query.withConditions (first.conditions ++ second.conditions) := by
  show query.run ([first, second].map .constrain) = .ok next ↔ _
  rw [run_constraints_iff filtered]
  simp [and_assoc]

end TypedQuery

end Bitemporal
