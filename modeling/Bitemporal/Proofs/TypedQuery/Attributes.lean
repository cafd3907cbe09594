/-
This file compares the attributes that conditions name with those that documents are stored under.
-/
import Bitemporal.Proofs.Entity.Writes
import Bitemporal.Proofs.TypedQuery.Calls
import Bitemporal.Sample.Schema

namespace Bitemporal

namespace EntityType

/-- The types whose documents are stored: the variants, or the type itself if it has none. -/
def concreteTypes (entityType : EntityType) : List EntityType :=
  if entityType.variants.isEmpty then [entityType] else entityType.variants

theorem concreteTypes_of_nil {entityType : EntityType} (plain : entityType.variants = []) :
    entityType.concreteTypes = [entityType] := by
  rw [concreteTypes, plain]
  rfl

theorem concreteTypes_of_ne_nil {entityType : EntityType} (abstract : entityType.variants ≠ []) :
    entityType.concreteTypes = entityType.variants := by
  rw [concreteTypes, if_neg (by simpa using abstract)]

/-- Keys of one field differ by the labels of their types. -/
theorem qualify_eq_iff {left right : EntityType} {field : String} :
    left.qualify field = right.qualify field ↔ left.label = right.label := by
  unfold qualify
  rw [String.append_left_inj, String.append_left_inj]

end EntityType

/-- Every document of a concrete type that has the field keeps it under this key. -/
def StoredUnder (entityType : EntityType) (field key : String) : Prop :=
  ∃ concrete ∈ entityType.concreteTypes, ∀ (document : Document) (value : Json),
    document.setField concrete field value = .ok (document.set key value)

theorem storedUnder_iff {entityType : EntityType} {field key : String} :
    StoredUnder entityType field key ↔
      ∃ concrete ∈ entityType.concreteTypes,
        concrete.declares field = true ∧ concrete.qualify field = key := by
  refine exists_congr fun concrete => and_congr_right fun _ => ?_
  constructor
  · intro stores
    obtain ⟨declared, same⟩ := Document.setField_eq_ok_iff.mp (stores ⟨[]⟩ .null)
    exact ⟨declared, (Document.key_of_set same).symm⟩
  · rintro ⟨declared, rfl⟩ document value
    exact Document.setField_eq_ok_iff.mpr ⟨declared, rfl⟩

namespace Clause

mutual

/-- The attributes that the patterns of a clause name. -/
def attributes : Clause → List String
  | .pattern _ field _ => [field]
  | .conjunction _ clauses | .disjunction clauses | .negation clauses => allAttributes clauses
  | .negationJoin _ clauses | .disjunctionJoin _ clauses => allAttributes clauses
  | .query find filter _ => attributes find ++ attributes filter
  | .predicate _ _ _ | .projection _ | .key _ => []

def allAttributes : List Clause → List String
  | [] => []
  | clause :: rest => attributes clause ++ allAttributes rest

end

end Clause

/-- A document has the attributes that it holds values for, whatever the values are. -/
def Meaning.ofAttributes : Meaning Document where
  leaf
    | .pattern _ field _, document => document.contains field
    | .call _ _ _, _ => true
  join _ body := body

namespace TypedQuery

/-! ## Attributes that are named -/

/-- The types in whose names a field is compared. -/
def comparedTypes (entityType : EntityType) (value : FieldValue) : List EntityType :=
  if value.isEntity && !entityType.variants.isEmpty then entityType.variants else [entityType]

/-- An entity is compared in the names of all concrete types, as is any value if there is one. -/
theorem comparedTypes_eq_concreteTypes {entityType : EntityType} {value : FieldValue}
    (expanded : value.isEntity = true ∨ entityType.variants = []) :
    comparedTypes entityType value = entityType.concreteTypes := by
  by_cases plain : entityType.variants = []
  · rw [comparedTypes, EntityType.concreteTypes_of_nil plain, plain]
    simp
  · rw [comparedTypes, EntityType.concreteTypes_of_ne_nil plain,
      expanded.resolve_right plain]
    simp [plain]

theorem comparedTypes_of_not_isEntity {entityType : EntityType} {value : FieldValue}
    (scalar : value.isEntity = false) : comparedTypes entityType value = [entityType] := by
  rw [comparedTypes, scalar]
  rfl

theorem allAttributes_patterns (entityTypes : List EntityType) (document field value : String) :
    Clause.allAttributes (entityTypes.map fun compared =>
      .pattern document (compared.qualify field) value) =
        entityTypes.map fun compared => compared.qualify field := by
  induction entityTypes with
  | nil => rfl
  | cons compared rest inductionHypothesis =>
      rw [List.map_cons, Clause.allAttributes, inductionHypothesis]
      rfl

theorem attributes_fieldPattern (entityType : EntityType) (field : String) (value : FieldValue) :
    (fieldPattern entityType field value).attributes =
      (comparedTypes entityType value).map fun compared => compared.qualify field := by
  unfold fieldPattern comparedTypes
  split
  · exact allAttributes_patterns entityType.variants entityType.label field value.literal
  · rfl

theorem someHolds_patterns (entityTypes : List EntityType) (document field value : String)
    (stored : Document) :
    Clause.someHolds .ofAttributes (entityTypes.map fun compared =>
      .pattern document (compared.qualify field) value) stored =
        entityTypes.any fun compared => stored.contains (compared.qualify field) := by
  induction entityTypes with
  | nil => rfl
  | cons compared rest inductionHypothesis =>
      simp only [List.map_cons, Clause.someHolds, inductionHypothesis, List.any_cons]
      rfl

/-- One of the attributes is enough for a document to be found. -/
theorem holds_fieldPattern (entityType : EntityType) (field : String) (value : FieldValue)
    (stored : Document) :
    (fieldPattern entityType field value).holds .ofAttributes stored =
      (comparedTypes entityType value).any fun compared =>
        stored.contains (compared.qualify field) := by
  unfold fieldPattern comparedTypes
  split
  · exact someHolds_patterns entityType.variants entityType.label field value.literal stored
  · exact (Bool.or_false _).symm

theorem fieldCondition_eq_ok_iff {entityType : EntityType} {field : String} {value : FieldValue}
    {clause : Clause} :
    fieldCondition entityType field value = .ok clause ↔
      fieldFault? entityType field value = none ∧
        clause = fieldPattern entityType field value := by
  unfold fieldCondition
  rcases fieldFault? entityType field value with _ | fault
  · simp [eq_comm]
  · simp

/-- Only fields that are declared can be compared. -/
theorem declares_of_fieldFault? {entityType : EntityType} {field : String} {value : FieldValue}
    (accepted : fieldFault? entityType field value = none) : entityType.declares field = true := by
  unfold fieldFault? at accepted
  split at accepted
  · cases accepted
  · next declared => simpa using declared

/-! ## Attributes that are stored -/

/-- The labels for which the attributes of a condition are those of stored documents. -/
def ComparesConcrete (entityType : EntityType) (field : String) (value : FieldValue) : Prop :=
  entityType.variants = [] ∨
    (value.isEntity = true ∧ ∀ variant ∈ entityType.variants, ∃ other ∈ entityType.variants,
      other.declares field = true ∧ other.label = variant.label) ∨
    (value.isEntity = false ∧
      (∃ variant ∈ entityType.variants, variant.declares field = true) ∧
      ∀ variant ∈ entityType.variants, variant.declares field = true →
        variant.label = entityType.label)

/-- Named and stored attributes agree if the compared types have the labels of the concrete types
that declare the field. -/
theorem named_iff_stored {entityType : EntityType} {field : String} {compared : List EntityType} :
    (∀ key, key ∈ compared.map (fun one => one.qualify field) ↔
        StoredUnder entityType field key) ↔
      (∀ one ∈ compared, ∃ concrete ∈ entityType.concreteTypes,
        concrete.declares field = true ∧ concrete.label = one.label) ∧
      ∀ concrete ∈ entityType.concreteTypes, concrete.declares field = true →
        ∃ one ∈ compared, one.label = concrete.label := by
  constructor
  · intro agree
    constructor
    · intro one member
      obtain ⟨concrete, present, declared, same⟩ :=
        storedUnder_iff.mp ((agree _).mp (List.mem_map_of_mem member))
      exact ⟨concrete, present, declared, EntityType.qualify_eq_iff.mp same⟩
    · intro concrete present declared
      obtain ⟨one, member, same⟩ := List.mem_map.mp
        ((agree _).mpr (storedUnder_iff.mpr ⟨concrete, present, declared, rfl⟩))
      exact ⟨one, member, EntityType.qualify_eq_iff.mp same⟩
  · rintro ⟨named, stored⟩ key
    rw [storedUnder_iff, List.mem_map]
    constructor
    · rintro ⟨one, member, rfl⟩
      obtain ⟨concrete, present, declared, same⟩ := named one member
      exact ⟨concrete, present, declared, EntityType.qualify_eq_iff.mpr same⟩
    · rintro ⟨concrete, present, declared, rfl⟩
      obtain ⟨one, member, same⟩ := stored concrete present declared
      exact ⟨one, member, EntityType.qualify_eq_iff.mpr same⟩

/-- For a declared field the compared types are those that store it in the cases above alone. -/
theorem named_iff_comparesConcrete {entityType : EntityType} {field : String} {value : FieldValue}
    (declared : entityType.declares field = true) :
    (∀ key, key ∈ (fieldPattern entityType field value).attributes ↔
        StoredUnder entityType field key) ↔
      ComparesConcrete entityType field value := by
  rw [attributes_fieldPattern, named_iff_stored]
  by_cases plain : entityType.variants = []
  · rw [comparedTypes_eq_concreteTypes (.inr plain), EntityType.concreteTypes_of_nil plain]
    simp [ComparesConcrete, plain, declared]
  rw [EntityType.concreteTypes_of_ne_nil plain]
  by_cases entity : value.isEntity = true
  · have expanded : comparedTypes entityType value = entityType.variants :=
      (comparedTypes_eq_concreteTypes (.inl entity)).trans
        (EntityType.concreteTypes_of_ne_nil plain)
    have covered : ∀ concrete ∈ entityType.variants, concrete.declares field = true →
        ∃ one ∈ entityType.variants, one.label = concrete.label :=
      fun concrete present _ => ⟨concrete, present, rfl⟩
    simp only [expanded, ComparesConcrete, plain, entity, false_or, true_and,
      Bool.true_eq_false, false_and, or_false, and_iff_left covered]
  · have scalar : value.isEntity = false := Bool.eq_false_of_not_eq_true entity
    rw [comparedTypes_of_not_isEntity scalar]
    simp only [ComparesConcrete, plain, scalar, false_or, true_and, Bool.false_eq_true,
      false_and, List.mem_singleton, forall_eq, exists_eq_left]
    constructor
    · rintro ⟨⟨variant, present, declares, _⟩, labels⟩
      exact ⟨⟨variant, present, declares⟩, fun other inside found =>
        (labels other inside found).symm⟩
    · rintro ⟨⟨variant, present, declares⟩, labels⟩
      exact ⟨⟨variant, present, declares, labels variant present declares⟩,
        fun other inside found => (labels other inside found).symm⟩

/-- A document is found if it stores the field in the name of a compared type. -/
theorem holds_of_stored {entityType concrete : EntityType} {field : String} {value : FieldValue}
    (compared : concrete ∈ comparedTypes entityType value) {document stored : Document}
    {content : Json} (stores : document.setField concrete field content = .ok stored) :
    (fieldPattern entityType field value).holds .ofAttributes stored = true := by
  obtain ⟨_, rfl⟩ := Document.setField_eq_ok_iff.mp stores
  rw [holds_fieldPattern, List.any_eq_true]
  exact ⟨concrete, compared, document.contains_set_self _ content⟩

/-- A condition names exactly the attributes that documents store the field under if the type has
no variants, if an entity is compared and all variants can hold one, or if the variants go by the
label of the type. No document is missed if there are no variants or an entity is compared; any
other value is only looked for under the attribute of the type itself. -/
theorem attributes_fieldCondition {entityType : EntityType} {field : String} {value : FieldValue}
    {clause : Clause} (accepted : fieldCondition entityType field value = .ok clause) :
    ((∀ key, key ∈ clause.attributes ↔ StoredUnder entityType field key) ↔
      ComparesConcrete entityType field value) ∧
    (value.isEntity = true ∨ entityType.variants = [] →
      ∀ concrete ∈ entityType.concreteTypes, ∀ (document stored : Document) (content : Json),
        document.setField concrete field content = .ok stored →
          clause.holds .ofAttributes stored = true) ∧
    (value.isEntity = false → ∀ document : Document,
      clause.holds .ofAttributes document = document.contains (entityType.qualify field)) := by
  obtain ⟨faultless, rfl⟩ := fieldCondition_eq_ok_iff.mp accepted
  refine ⟨named_iff_comparesConcrete (declares_of_fieldFault? faultless), ?_, ?_⟩
  · intro expanded concrete present document stored content stores
    rw [← comparedTypes_eq_concreteTypes expanded] at present
    exact holds_of_stored present stores
  · intro scalar document
    rw [holds_fieldPattern, comparedTypes_of_not_isEntity scalar]
    simp

theorem attributes_fieldCondition_owner :
    fieldCondition Sample.pet "owner" (.entity Sample.user) =
        .ok (fieldPattern Sample.pet "owner" (.entity Sample.user)) ∧
      (∀ key, key ∈ (fieldPattern Sample.pet "owner" (.entity Sample.user)).attributes ↔
        StoredUnder Sample.pet "owner" key) ∧
      (fieldPattern Sample.pet "owner" (.entity Sample.user)).holds .ofAttributes
        ((Document.ofEntity Sample.dog "rex").set "Dog/owner" (.string "ada")) = true := by
  have accepted : fieldCondition Sample.pet "owner" (.entity Sample.user) =
      .ok (fieldPattern Sample.pet "owner" (.entity Sample.user)) := by rfl
  obtain ⟨agree, found, _⟩ := attributes_fieldCondition accepted
  have expanded : ComparesConcrete Sample.pet "owner" (.entity Sample.user) := by
    refine .inr (.inl ⟨rfl, fun variant present => ⟨variant, present, ?_, rfl⟩⟩)
    revert variant
    decide
  have stores : (Document.ofEntity Sample.dog "rex").setField Sample.dog "owner" (.string "ada") =
      .ok ((Document.ofEntity Sample.dog "rex").set "Dog/owner" (.string "ada")) := by rfl
  have concrete : Sample.dog ∈ Sample.pet.concreteTypes := List.mem_cons_of_mem _ List.mem_cons_self
  exact ⟨accepted, agree.mpr expanded, found (.inl rfl) Sample.dog concrete _ _ _ stores⟩

/-- The name of a cat is not compared when pets are asked for theirs. -/
theorem name_of_cat_missed :
    fieldCondition Sample.pet "name" (.string "x") =
        .ok (.pattern "Pet" "Pet/name" "\"x\"") ∧
      Sample.pet.concreteTypes = [Sample.cat, Sample.dog] ∧
      StoredUnder Sample.pet "name" "Cat/name" ∧
      ¬ StoredUnder Sample.pet "name" "Pet/name" ∧
      (Document.ofEntity Sample.cat "tom").setField Sample.cat "name" (.string "x") =
        .ok ((Document.ofEntity Sample.cat "tom").set "Cat/name" (.string "x")) ∧
      (Clause.pattern "Pet" "Pet/name" "\"x\"").holds .ofAttributes
        ((Document.ofEntity Sample.cat "tom").set "Cat/name" (.string "x")) = false := by
  have concrete : Sample.cat ∈ Sample.pet.concreteTypes := List.mem_cons_self
  refine ⟨rfl, rfl, storedUnder_iff.mpr ⟨Sample.cat, concrete, rfl, rfl⟩, ?_, rfl, rfl⟩
  rw [storedUnder_iff]
  rintro ⟨other, present, _, same⟩
  revert other
  decide

end TypedQuery

end Bitemporal
