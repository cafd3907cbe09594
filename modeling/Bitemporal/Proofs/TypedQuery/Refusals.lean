/-
This file says which calls are refused, and shows that the sections of a query stay apart.
-/
import Bitemporal.Proofs.Clause.Sections
import Bitemporal.Proofs.TypedQuery.Patterns
import Bitemporal.Sample.Schema

namespace Bitemporal.TypedQuery

/-! ## Faults of fields -/

/-- A declared field can be compared with what is finite, and a relation with an entity too. -/
def Comparable (entityType : EntityType) (field : String) (value : FieldValue) : Prop :=
  entityType.declares field = true ∧
    (∀ number, value = .float number → number.isFinite = true) ∧
    ∀ target, value = .entity target → (entityType.target? field).isSome = true

/-- What is wrong with a comparison; a field that is not declared has no other fault. -/
inductive IsFault (entityType : EntityType) (field : String) : FieldValue → FieldFault → Prop where
  | undeclared {value : FieldValue} (unknown : entityType.declares field = false) :
      IsFault entityType field value (.undeclared field entityType.label)
  | notFinite {number : Binary64} (declared : entityType.declares field = true)
      (infinite : number.isFinite = false) :
      IsFault entityType field (.float number) (.notFinite field number)
  | notRelation {target : EntityType} (declared : entityType.declares field = true)
      (scalar : entityType.target? field = none) :
      IsFault entityType field (.entity target) (.notRelation field entityType.label)

section Fields

variable {entityType : EntityType} {field : String} {value : FieldValue}

theorem fieldFault?_eq_some_iff {fault : FieldFault} :
    fieldFault? entityType field value = some fault ↔ IsFault entityType field value fault := by
  constructor
  · intro found
    by_cases declared : entityType.declares field = true
    · cases value with
      | float number =>
          by_cases finite : number.isFinite = true
          · simp [fieldFault?, declared, FieldValue.nonFinite?, FieldValue.isEntity, finite]
              at found
          · have infinite := Bool.eq_false_of_not_eq_true finite
            have fault_ : FieldFault.notFinite field number = fault := by
              simpa [fieldFault?, declared, FieldValue.nonFinite?, infinite] using found
            exact fault_ ▸ .notFinite declared infinite
      | entity target =>
          have scalar : entityType.target? field = none ∧
              FieldFault.notRelation field entityType.label = fault := by
            simpa [fieldFault?, declared, FieldValue.nonFinite?, FieldValue.isEntity] using found
          exact scalar.2 ▸ .notRelation declared scalar.1
      | _ => simp [fieldFault?, declared, FieldValue.nonFinite?, FieldValue.isEntity] at found
    · have unknown := Bool.eq_false_of_not_eq_true declared
      have fault_ : FieldFault.undeclared field entityType.label = fault := by
        simpa [fieldFault?, unknown] using found
      exact fault_ ▸ .undeclared unknown
  · intro isFault
    cases isFault with
    | undeclared unknown => simp [fieldFault?, unknown]
    | notFinite declared infinite =>
        simp [fieldFault?, declared, FieldValue.nonFinite?, infinite]
    | notRelation declared scalar =>
        simp [fieldFault?, declared, FieldValue.nonFinite?, FieldValue.isEntity, scalar]

theorem fieldFault?_eq_none_iff :
    fieldFault? entityType field value = none ↔ Comparable entityType field value := by
  constructor
  · intro none_
    have faultless : ∀ fault, ¬ IsFault entityType field value fault := by
      intro fault isFault
      rw [fieldFault?_eq_some_iff.mpr isFault] at none_
      cases none_
    have declared : entityType.declares field = true := by
      by_contra unknown
      exact faultless _ (.undeclared (Bool.eq_false_of_not_eq_true unknown))
    refine ⟨declared, ?_, ?_⟩
    · rintro number rfl
      by_contra infinite
      exact faultless _ (.notFinite declared (Bool.eq_false_of_not_eq_true infinite))
    · rintro target rfl
      by_contra scalar
      exact faultless _ (.notRelation declared (by simpa using scalar))
  · rintro ⟨declared, finite, relation⟩
    rcases found : fieldFault? entityType field value with _ | fault
    · rfl
    · cases fieldFault?_eq_some_iff.mp found with
      | undeclared unknown =>
          rw [declared] at unknown
          cases unknown
      | notFinite _ infinite =>
          rw [finite _ rfl] at infinite
          cases infinite
      | notRelation _ scalar =>
          have target := relation _ rfl
          rw [scalar] at target
          cases target

end Fields

/-! ## Refused calls -/

theorem whereField_of_fault (query : TypedQuery) {entityType : EntityType} {field : String}
    {value : FieldValue} {fault : FieldFault}
    (isFault : IsFault entityType field value fault) :
    query.whereField entityType field value = .error (.field fault) := by
  rw [whereField, fieldCondition, fieldFault?_eq_some_iff.mpr isFault]
  rfl

theorem whereField_eq_whereFields (query : TypedQuery) (entityType : EntityType) (field : String)
    (value : FieldValue) :
    query.whereField entityType field value = query.whereFields entityType [(field, value)] := by
  rw [whereFields, List.foldlM_cons]
  exact (bind_pure _).symm

section Condition

variable {query : TypedQuery} (filtered : query.HasCondition) {entityType : EntityType}
  {fields : List (String × FieldValue)}

include filtered

theorem exists_whereFields_iff :
    (∃ next, query.whereFields entityType fields = .ok next) ↔
      ∀ field ∈ fields, Comparable entityType field.1 field.2 := by
  simp only [whereFields_eq_ok_iff filtered, fieldFault?_eq_none_iff, exists_and_left,
    exists_eq, and_true]

/-- Fields are taken in turn until one of them has a fault. -/
theorem whereFields_of_fault {before after : List (String × FieldValue)} {field : String}
    {value : FieldValue} {fault : FieldFault}
    (comparable : ∀ earlier ∈ before, Comparable entityType earlier.1 earlier.2)
    (isFault : IsFault entityType field value fault) :
    query.whereFields entityType (before ++ (field, value) :: after) =
      .error (.field fault) := by
  obtain ⟨middle, taken⟩ := (exists_whereFields_iff filtered).mpr comparable
  rw [whereFields] at taken ⊢
  rw [List.foldlM_append, taken]
  show middle.whereFields entityType ((field, value) :: after) = _
  rw [whereFields, List.foldlM_cons, whereField_of_fault middle isFault]
  rfl

/-- The first fault is the one that is reported. -/
theorem whereFields_eq_error_iff {error : Error} :
    query.whereFields entityType fields = .error error ↔
      ∃ before field value after fault, fields = before ++ (field, value) :: after ∧
        (∀ earlier ∈ before, Comparable entityType earlier.1 earlier.2) ∧
        IsFault entityType field value fault ∧ error = .field fault := by
  constructor
  · intro refused
    rcases found : fields.findSome? fun field => fieldFault? entityType field.1 field.2 with
      _ | fault
    · have comparable : ∀ field ∈ fields, Comparable entityType field.1 field.2 :=
        fun field member =>
          fieldFault?_eq_none_iff.mp (List.findSome?_eq_none_iff.mp found field member)
      obtain ⟨next, accepted⟩ := (exists_whereFields_iff filtered).mpr comparable
      rw [accepted] at refused
      cases refused
    · obtain ⟨before, ⟨field, value⟩, after, rfl, isFault, faultless⟩ :=
        List.findSome?_eq_some_iff.mp found
      have comparable : ∀ earlier ∈ before, Comparable entityType earlier.1 earlier.2 :=
        fun earlier member => fieldFault?_eq_none_iff.mp (faultless earlier member)
      have isFault := fieldFault?_eq_some_iff.mp isFault
      rw [whereFields_of_fault filtered comparable isFault] at refused
      cases refused
      exact ⟨before, field, value, after, fault, rfl, comparable, isFault, rfl⟩
  · rintro ⟨before, field, value, after, fault, rfl, comparable, isFault, rfl⟩
    exact whereFields_of_fault filtered comparable isFault

theorem whereClause_eq_error_iff {clause : Clause} {error : Error} :
    query.whereClause clause = .error error ↔
      clause.kind ≠ .condition ∧
        error = .incompatibleSections Section.condition.keyword clause.form := by
  by_cases condition : clause.kind = .condition
  · have accepted := (whereClause_eq_ok_iff filtered).mpr ⟨condition, rfl⟩
    simp [accepted, condition]
  · simp [whereClause, condition, eq_comm]

end Condition

/-! ## Sections of reached queries -/

/-- The filter of a query is a condition, and what it finds is a projection. -/
structure InSections (query : TypedQuery) : Prop where
  filter : query.HasCondition
  find : ∀ find ∈ query.find, find.kind = .projection

theorem kind_addProjection (find : Option Clause) (expression : String) :
    (addProjection find expression).kind = .projection := by
  unfold addProjection
  split <;> rfl

theorem InSections.project {query : TypedQuery} (sections : query.InSections)
    (expression : String) : (query.project expression).InSections := by
  refine ⟨sections.filter, fun find present => ?_⟩
  cases present
  exact kind_addProjection query.find expression

/-- Every call that is accepted keeps the sections. -/
theorem InSections.apply {query next : TypedQuery} (sections : query.InSections)
    {call : BuilderCall} (applied : call.apply query = .ok next) : next.InSections := by
  cases call with
  | constrain constraint =>
      obtain ⟨accepted, rfl⟩ := (constraint.apply_eq_ok_iff sections.filter).mp applied
      exact ⟨sections.filter.withConditions (constraint.kind_of_mem_conditions accepted),
        sections.find⟩
  | project expression =>
      cases applied
      exact sections.project expression
  | aggregate operation =>
      cases applied
      have projected := sections.project operation.text
      exact ⟨projected.filter, projected.find⟩
  | setKey key =>
      cases applied
      exact ⟨sections.filter, sections.find⟩

/-- So does every run of calls. -/
theorem InSections.run {query next : TypedQuery} (sections : query.InSections)
    {calls : List BuilderCall} (reached : query.run calls = .ok next) : next.InSections := by
  induction calls generalizing query with
  | nil =>
      cases reached
      exact sections
  | cons call rest inductionHypothesis =>
      rw [TypedQuery.run, List.foldlM_cons] at reached
      obtain ⟨middle, applied, later⟩ := bind_eq_ok.mp reached
      exact inductionHypothesis (sections.apply applied) later

theorem inSections_ofType (resultType : EntityType) : (ofType resultType).InSections :=
  ⟨hasCondition_ofType resultType, fun _ present => nomatch present⟩

/-- The whole query is put together of a projection and a condition. -/
theorem InSections.complete {query : TypedQuery} (sections : query.InSections) :
    Clause.complete query.completeFind query.completeFilter =
      .ok (.query query.completeFind query.completeFilter .empty) := by
  refine Clause.complete_eq_ok_iff.mpr ⟨?_, query.kind_completeFilter, rfl⟩
  rcases found : query.find with _ | find
  · rw [completeFind, found]
    rfl
  · rw [completeFind, found]
    exact sections.find find found

/-- A call is refused only for a field that cannot be compared or for a clause that is no
condition. -/
theorem refused_cases {query : TypedQuery} (filtered : query.HasCondition) {call : BuilderCall}
    {error : Error} (refused : call.apply query = .error error) :
    (∃ fault, error = .field fault) ∨
      ∃ form, error = .incompatibleSections Section.condition.keyword form := by
  cases call with
  | constrain constraint =>
      have inFields : ∀ {entityType : EntityType} {fields : List (String × FieldValue)},
          query.whereFields entityType fields = .error error → ∃ fault, error = .field fault := by
        intro entityType fields refused
        obtain ⟨_, _, _, _, fault, _, _, _, same⟩ := (whereFields_eq_error_iff filtered).mp refused
        exact ⟨fault, same⟩
      cases constraint with
      | whereFields entityType fields => exact .inl (inFields refused)
      | whereField entityType field value =>
          exact .inl (inFields ((whereField_eq_whereFields query _ _ _).symm.trans refused))
      | whereClause clause => exact .inr ⟨_, ((whereClause_eq_error_iff filtered).mp refused).2⟩
  | project expression | aggregate operation | setKey key => cases refused

/-- The sections of a query stay apart, so that calls are refused for the documented reasons alone:
the first field that cannot be compared, or a clause that is no condition. What calls conjoin, and
what is put together in the end, is always accepted. -/
theorem refusals_run {resultType : EntityType} {calls : List BuilderCall} {query : TypedQuery}
    (reached : (ofType resultType).run calls = .ok query) :
    ((∀ filter ∈ query.filter, filter.kind = .condition) ∧
      ∀ find ∈ query.find, find.kind = .projection) ∧
    (∀ (entityType : EntityType) (fields : List (String × FieldValue)),
      (∃ next, query.whereFields entityType fields = .ok next) ↔
        ∀ field ∈ fields, Comparable entityType field.1 field.2) ∧
    (∀ (entityType : EntityType) (fields : List (String × FieldValue)) (error : Error),
      query.whereFields entityType fields = .error error ↔
        ∃ before field value after fault, fields = before ++ (field, value) :: after ∧
          (∀ earlier ∈ before, Comparable entityType earlier.1 earlier.2) ∧
          IsFault entityType field value fault ∧ error = .field fault) ∧
    (∀ (entityType : EntityType) (field : String) (value : FieldValue),
      query.whereField entityType field value = query.whereFields entityType [(field, value)]) ∧
    (∀ (clause : Clause) (error : Error),
      query.whereClause clause = .error error ↔
        clause.kind ≠ .condition ∧ error = .incompatibleSections "where" clause.form) ∧
    (∀ (call : BuilderCall) (error : Error), call.apply query = .error error →
      (∃ fault, error = .field fault) ∨ ∃ form, error = .incompatibleSections "where" form) ∧
    (∀ clause : Clause, clause.kind = .condition →
      ∃ filter, addCondition query.filter clause = .ok filter ∧ filter.kind = .condition) ∧
    Clause.complete query.completeFind query.completeFilter =
      .ok (.query query.completeFind query.completeFilter .empty) := by
  have sections := (inSections_ofType resultType).run reached
  refine ⟨⟨sections.filter, sections.find⟩, fun _ _ => exists_whereFields_iff sections.filter,
    fun _ _ _ => whereFields_eq_error_iff sections.filter, query.whereField_eq_whereFields,
    fun _ _ => whereClause_eq_error_iff sections.filter,
    fun _ _ => refused_cases sections.filter, fun clause condition => ?_, sections.complete⟩
  exact ⟨_, addCondition_eq sections.filter condition, kind_conjoined condition⟩

/-- The name of a user is declared, but it is no relation, and neither is what comes behind it. -/
theorem refusals_run_user :
    ∃ query, (ofType Sample.user).run
        [.project "?u", .constrain (.whereClause (.negationJoin "?u" [])), .setKey (.offset 1)] =
          .ok query ∧
      query.whereFields Sample.user
          [("city", .entity Sample.city), ("name", .entity Sample.city), ("age", .nil)] =
        .error (.field (.notRelation "name" "User")) ∧
      query.whereClause (.projection "?u") = .error (.incompatibleSections "where" "find") ∧
      Clause.complete query.completeFind query.completeFilter =
        .ok (.query query.completeFind query.completeFilter .empty) := by
  have reached : (ofType Sample.user).run
      [.project "?u", .constrain (.whereClause (.negationJoin "?u" [])), .setKey (.offset 1)] =
        .ok _ := rfl
  obtain ⟨_, _, fields, _, clauses, _, _, complete⟩ := refusals_run reached
  have comparable : Comparable Sample.user "city" (.entity Sample.city) := by
    refine ⟨rfl, fun number float => ?_, fun _ _ => rfl⟩
    cases float
  refine ⟨_, reached, (fields _ _ _).mpr ?_, (clauses _ _).mpr ⟨by decide, rfl⟩, complete⟩
  exact ⟨[("city", .entity Sample.city)], "name", .entity Sample.city, [("age", .nil)], _, rfl,
    List.forall_mem_singleton.mpr comparable, .notRelation rfl rfl, rfl⟩

end Bitemporal.TypedQuery
