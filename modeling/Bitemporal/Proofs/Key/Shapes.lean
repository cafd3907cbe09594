/-
This file says which names and values are bound to each other, and how they are written.
-/
import Bitemporal.Key.Binding
import Mathlib.Data.List.Basic

namespace Bitemporal.Binding

/-! ## Names -/

/-- There are names, and none of them is empty. -/
def AllNamed (names : List String) : Prop := names ≠ [] ∧ "" ∉ names

/-- The marker stands behind a single name, if it stands anywhere. -/
def MarksOne (names : List String) : Prop :=
  marker ∈ names → ∃ name, name ≠ marker ∧ names = [name, marker]

theorem nameFault_eq_none_iff {names : List String} {markerAllowed : Bool} {position : Nat}
    {name : String} :
    nameFault names markerAllowed position name = none ↔
      name ≠ "" ∧ (name = marker → markerAllowed = true ∧ position = 1 ∧ names.length = 2) := by
  unfold nameFault
  by_cases empty : name = ""
  · simp [empty]
  · have filled : name.isEmpty = false := by simpa using empty
    by_cases marks : name = marker
    · subst marks
      simp [filled, empty, and_assoc]
    · simp [empty, marks]

/-- No name has a fault if none has one at the position where it stands. -/
theorem firstNameFault_eq_none_iff {names : List String} {markerAllowed : Bool} :
    firstNameFault names markerAllowed = none ↔
      names ≠ [] ∧ ∀ position name, names[position]? = some name →
        nameFault names markerAllowed position name = none := by
  unfold firstNameFault
  by_cases nothing : names = []
  · simp [nothing]
  · have some_ : names.isEmpty = false := by simpa using nothing
    rw [some_, if_neg Bool.false_ne_true, List.findSome?_eq_none_iff, and_iff_right nothing]
    simp only [Prod.forall, List.mem_zipIdx_iff_getElem?]
    exact forall_comm

/-- The marker is refused where it is not allowed. -/
theorem firstNameFault_false_iff {names : List String} :
    firstNameFault names false = none ↔ AllNamed names ∧ marker ∉ names := by
  rw [firstNameFault_eq_none_iff, AllNamed, and_assoc]
  refine and_congr_right fun _ => ⟨fun faultless => ?_, ?_⟩
  · have each : ∀ name ∈ names, name ≠ "" ∧ name ≠ marker := by
      intro name member
      obtain ⟨position, found⟩ := List.mem_iff_getElem?.mp member
      obtain ⟨filled, marks⟩ := nameFault_eq_none_iff.mp (faultless position name found)
      exact ⟨filled, fun same => absurd (marks same).1 Bool.false_ne_true⟩
    exact ⟨fun empty => (each _ empty).1 rfl, fun marked => (each _ marked).2 rfl⟩
  · rintro ⟨filled, unmarked⟩ position name found
    have member := List.mem_of_getElem? found
    exact nameFault_eq_none_iff.mpr
      ⟨fun empty => filled (empty ▸ member), fun marks => absurd (marks ▸ member) unmarked⟩

/-- Where the marker is allowed it stands behind a single name. -/
theorem firstNameFault_true_iff {names : List String} :
    firstNameFault names true = none ↔ AllNamed names ∧ MarksOne names := by
  rw [firstNameFault_eq_none_iff, AllNamed, and_assoc]
  refine and_congr_right fun _ => ⟨fun faultless => ?_, ?_⟩
  · have each : ∀ position name, names[position]? = some name → _ := fun position name found =>
      nameFault_eq_none_iff.mp (faultless position name found)
    refine ⟨fun empty => ?_, fun marked => ?_⟩
    · obtain ⟨position, found⟩ := List.mem_iff_getElem?.mp empty
      exact (each position "" found).1 rfl
    · obtain ⟨position, found⟩ := List.mem_iff_getElem?.mp marked
      obtain ⟨_, rfl, two⟩ := (each position marker found).2 rfl
      obtain ⟨first, last, rfl⟩ := List.length_eq_two.mp two
      cases found
      refine ⟨first, fun marks => ?_, rfl⟩
      exact absurd ((each 0 first rfl).2 marks).2.1 Nat.zero_ne_one
  · rintro ⟨filled, marksOne⟩ position name found
    have member := List.mem_of_getElem? found
    refine nameFault_eq_none_iff.mpr ⟨fun empty => filled (empty ▸ member), ?_⟩
    rintro rfl
    obtain ⟨first, unmarked, rfl⟩ := marksOne member
    rcases position with _ | _ | position
    · cases found
      exact absurd rfl unmarked
    · exact ⟨rfl, rfl, rfl⟩
    · simp at found

/-! ## Accepted bindings -/

/-- Names and values have one shape, the marker stands behind the only name of a sequence, and all
other names have a value each. -/
def IsWellShaped : BindingNames → BindingValues → Prop
  | .scalar name, .scalar _ => name ≠ "" ∧ name ≠ marker
  | .sequence names, .sequence values =>
      AllNamed names ∧ MarksOne names ∧ (marker ∉ names → values.length = names.length)
  | .relation names, .relation rows =>
      AllNamed names ∧ marker ∉ names ∧ ∀ row ∈ rows, row.length = names.length
  | _, _ => False

theorem sequenceFault_eq_none_iff {names values : List String} :
    sequenceFault names values = none ↔ IsWellShaped (.sequence names) (.sequence values) := by
  rw [sequenceFault, IsWellShaped, ← and_assoc, ← firstNameFault_true_iff]
  rcases found : firstNameFault names true with _ | fault
  · obtain ⟨_, marksOne⟩ := firstNameFault_true_iff.mp found
    have collects : (names.getLast? == some marker) = true ↔ marker ∈ names := by
      rw [beq_iff_eq]
      constructor
      · exact List.mem_of_getLast?
      · intro marked
        obtain ⟨first, _, rfl⟩ := marksOne marked
        rfl
    have arity : names.length = values.length ↔ values.length = names.length := eq_comm
    simp [collects, arity]
  · simp

/-- Every row has the arity of the names. -/
theorem relationFault_eq_none_iff {names : List String} {rows : List (List String)} :
    relationFault names rows = none ↔ IsWellShaped (.relation names) (.relation rows) := by
  rw [relationFault, IsWellShaped, ← and_assoc, ← firstNameFault_false_iff]
  rcases firstNameFault names false with _ | fault
  · simp
  · simp

/-- Of all that is not well-shaped, only a single value for the marker has no fault. -/
theorem fault?_eq_none_iff {names : BindingNames} {values : BindingValues} :
    fault? names values = none ↔
      IsWellShaped names values ∨ ∃ value, names = .scalar marker ∧ values = .scalar value := by
  cases names with
  | scalar name =>
      cases values with
      | scalar value =>
          by_cases marks : name = marker
          · subst marks
            exact iff_of_true rfl (.inr ⟨value, rfl, rfl⟩)
          · simp [fault?, IsWellShaped, marks]
      | sequence values | relation rows => simp [fault?, IsWellShaped]
  | sequence names =>
      cases values with
      | sequence values => simp [fault?, sequenceFault_eq_none_iff]
      | scalar value | relation rows => simp [fault?, IsWellShaped]
  | relation names =>
      cases values with
      | relation rows => simp [fault?, relationFault_eq_none_iff]
      | scalar value | sequence values => simp [fault?, IsWellShaped]

theorem exists_create_iff {names : BindingNames} {values : BindingValues} :
    (∃ binding, create names values = .ok binding) ↔
      IsWellShaped names values ∨ ∃ value, names = .scalar marker ∧ values = .scalar value := by
  simp only [create_eq_ok_iff, exists_and_left, exists_eq, and_true, fault?_eq_none_iff]

/-- A collection is one name and the marker behind it. -/
theorem isWellShaped_collection {name : String} {values : List String} :
    IsWellShaped (.sequence [name, marker]) (.sequence values) ↔ name ≠ "" ∧ name ≠ marker := by
  have filled : "" ≠ marker := by decide
  have named : AllNamed [name, marker] ↔ name ≠ "" := by
    simp [AllNamed, filled]
  have marksOne : MarksOne [name, marker] ↔ name ≠ marker := by
    simp [MarksOne]
  rw [IsWellShaped, named, marksOne]
  simp

/-! ## Written bindings -/

/-- The four forms of names, each with values of its arity. -/
inductive IsForm : String → String → Prop where
  | scalar {name : String} (named : name ≠ "") (value : String) : IsForm name (quote value)
  | tuple {names values : List String} (named : AllNamed names) (unmarked : marker ∉ names)
      (arity : values.length = names.length) :
      IsForm (bracketed names) (bracketed (values.map quote))
  | collection {name : String} (named : name ≠ "") (unmarked : name ≠ marker)
      (values : List String) : IsForm (bracketed [name, marker]) (bracketed (values.map quote))
  | relation {names : List String} {rows : List (List String)} (named : AllNamed names)
      (unmarked : marker ∉ names) (arity : ∀ row ∈ rows, row.length = names.length) :
      IsForm ("[" ++ bracketed names ++ " " ++ marker ++ "]")
        (bracketed (rows.map fun row => bracketed (row.map quote)))

theorem isForm_of_create {names : BindingNames} {values : BindingValues} {binding : Binding}
    (accepted : create names values = .ok binding) :
    IsForm binding.fragment (valuesFragment binding.values) := by
  obtain ⟨faultless, rfl⟩ := (create_eq_ok_iff names values binding).mp accepted
  rcases fault?_eq_none_iff.mp faultless with shaped | ⟨value, rfl, rfl⟩
  · cases names with
    | scalar name =>
        cases values with
        | scalar value => exact .scalar shaped.1 value
        | sequence values | relation rows => cases shaped
    | sequence names =>
        cases values with
        | sequence values =>
            obtain ⟨named, marksOne, arity⟩ := shaped
            by_cases marked : marker ∈ names
            · obtain ⟨name, unmarked, rfl⟩ := marksOne marked
              have filled : name ≠ "" := fun empty => named.2 (empty ▸ List.mem_cons_self)
              exact .collection filled unmarked values
            · exact .tuple named marked (arity marked)
        | scalar value | relation rows => cases shaped
    | relation names =>
        cases values with
        | relation rows => exact .relation shaped.1 shaped.2.1 shaped.2.2
        | scalar value | sequence values => cases shaped
  · have filled : marker ≠ "" := by decide
    exact .scalar filled value

theorem exists_scalar_iff {name value : String} :
    (∃ binding, scalar name value = .ok binding) ↔ name ≠ "" := by
  rw [scalar, exists_create_iff, IsWellShaped]
  by_cases marks : name = marker
  · subst marks
    exact iff_of_true (.inr ⟨value, rfl, rfl⟩) (by decide)
  · simp [marks]

theorem exists_collection_iff {name : String} {values : List String} :
    (∃ binding, collection name values = .ok binding) ↔ name ≠ "" ∧ name ≠ marker := by
  rw [collection, exists_create_iff, isWellShaped_collection]
  simp

/-- Exactly what is well-shaped is accepted, but for a single value bound to the marker, which is
accepted too. What is accepted is written in one of four forms, with values of its arity. -/
theorem accepted_iff_wellShaped (names : BindingNames) (values : BindingValues) :
    ((∃ binding, create names values = .ok binding) ↔
      IsWellShaped names values ∨ ∃ value, names = .scalar marker ∧ values = .scalar value) ∧
    (∀ name value, names = .scalar name → values = .scalar value →
      create names values = scalar name value ∧
        ((∃ binding, scalar name value = .ok binding) ↔ name ≠ "")) ∧
    (∀ name given, names = .sequence [name, marker] → values = .sequence given →
      create names values = collection name given ∧
        ((∃ binding, collection name given = .ok binding) ↔ name ≠ "" ∧ name ≠ marker)) ∧
    ∀ binding, create names values = .ok binding →
      binding = ⟨names, values⟩ ∧ ∃ written sent, IsForm written sent ∧
        binding.text = ":in [" ++ written ++ "]" ∧
        binding.valuesText = ":in-args [" ++ sent ++ "]" := by
  refine ⟨exists_create_iff, ?_, ?_, fun binding accepted => ⟨?_, _, _, isForm_of_create accepted,
    rfl, rfl⟩⟩
  · rintro name value rfl rfl
    exact ⟨rfl, exists_scalar_iff⟩
  · rintro name given rfl rfl
    exact ⟨rfl, exists_collection_iff⟩
  · exact ((create_eq_ok_iff names values binding).mp accepted).2

/-- Two names are bound to two rows; a value may well be spelled like the marker. -/
theorem accepted_iff_wellShaped_relation :
    IsWellShaped (.relation ["?a", "?b"]) (.relation [["1", "2"], ["3", "..."]]) ∧
      ∃ binding, create (.relation ["?a", "?b"]) (.relation [["1", "2"], ["3", "..."]]) =
          .ok binding ∧
        ∃ written sent, IsForm written sent ∧ binding.text = ":in [" ++ written ++ "]" ∧
          binding.valuesText = ":in-args [" ++ sent ++ "]" := by
  have shaped : IsWellShaped (.relation ["?a", "?b"]) (.relation [["1", "2"], ["3", "..."]]) := by
    simp [IsWellShaped, AllNamed, marker]
  obtain ⟨accepts, _, _, forms⟩ := accepted_iff_wellShaped (.relation ["?a", "?b"])
    (.relation [["1", "2"], ["3", "..."]])
  obtain ⟨binding, accepted⟩ := accepts.mpr (.inl shaped)
  exact ⟨shaped, binding, accepted, (forms binding accepted).2⟩

/-- The marker is taken for a name of a single value, which it is nowhere else. -/
theorem scalar_marker_accepted :
    scalar marker "x" = .ok ⟨.scalar "...", .scalar "x"⟩ ∧
      ¬ IsWellShaped (.scalar "...") (.scalar "x") ∧
      Binding.text ⟨.scalar "...", .scalar "x"⟩ = ":in [...]" ∧
      create (.sequence ["..."]) (.sequence ["x"]) = .error (.binding (.misplacedMarker ["..."])) ∧
      create (.relation ["..."]) (.relation [["x"]]) =
        .error (.binding (.misplacedMarker ["..."])) :=
  ⟨rfl, fun shaped => shaped.2 rfl, rfl, rfl, rfl⟩

end Bitemporal.Binding
