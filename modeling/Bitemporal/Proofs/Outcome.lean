/-
This file describes outcomes by the values they can have and the faults that are reported.
-/
import Bitemporal.Error
import Mathlib.Data.List.Forall2

namespace Bitemporal

variable {Fault Item Value : Type}

theorem bind_eq_error {Result : Type} {step : Except Fault Value}
    {next : Value → Except Fault Result} {fault : Fault} :
    (step >>= next) = .error fault ↔
      step = .error fault ∨ ∃ value, step = .ok value ∧ next value = .error fault := by
  cases step <;> simp [bind, Except.bind]

/-- An outcome is described by the values it has and by the faults it reports. -/
structure Decides (outcome : Except Fault Value) (Good : Value → Prop) (Bad : Fault → Prop) :
    Prop where
  ok_iff : ∀ value, outcome = .ok value ↔ Good value
  error_iff : ∀ fault, outcome = .error fault ↔ Bad fault

namespace Decides

variable {outcome : Except Fault Value} {Good : Value → Prop} {Bad : Fault → Prop}

/-- It is enough that every case is covered and has the right outcome. -/
theorem of_cases (covered : (∃ value, Good value) ∨ ∃ fault, Bad fault)
    (good : ∀ value, Good value → outcome = .ok value)
    (bad : ∀ fault, Bad fault → outcome = .error fault) : Decides outcome Good Bad := by
  rcases covered with ⟨value, isGood⟩ | ⟨fault, isBad⟩
  · have found := good value isGood
    refine ⟨fun other => ⟨fun same => ?_, good other⟩, fun fault => ⟨fun failed => ?_, bad fault⟩⟩
    · rw [found] at same
      cases same
      exact isGood
    · rw [found] at failed
      cases failed
  · have failed := bad fault isBad
    refine ⟨fun value => ⟨fun found => ?_, good value⟩, fun other => ⟨fun same => ?_, bad other⟩⟩
    · rw [failed] at found
      cases found
    · rw [failed] at same
      cases same
      exact isBad

theorem good_unique (decides : Decides outcome Good Bad) {value other : Value}
    (isGood : Good value) (alsoGood : Good other) : value = other := by
  have found := (decides.ok_iff value).mpr isGood
  rw [(decides.ok_iff other).mpr alsoGood] at found
  cases found
  rfl

theorem bad_unique (decides : Decides outcome Good Bad) {fault other : Fault}
    (isBad : Bad fault) (alsoBad : Bad other) : fault = other := by
  have failed := (decides.error_iff fault).mpr isBad
  rw [(decides.error_iff other).mpr alsoBad] at failed
  cases failed
  rfl

theorem not_good_of_bad (decides : Decides outcome Good Bad) {fault : Fault} (isBad : Bad fault)
    (value : Value) : ¬ Good value := by
  intro isGood
  have found := (decides.ok_iff value).mpr isGood
  rw [(decides.error_iff fault).mpr isBad] at found
  cases found

end Decides

/-! ## Lists -/

section Lists

variable {step : Item → Except Fault Value} {GoodItem : Item → Value → Prop}
  {BadItem : Item → Fault → Prop}

/-- The first item with a fault, behind items without one. -/
def FirstBad (GoodItem : Item → Value → Prop) (BadItem : Item → Fault → Prop) (items : List Item)
    (fault : Fault) : Prop :=
  ∃ before item after, items = before ++ item :: after ∧
    (∀ earlier ∈ before, ∃ value, GoodItem earlier value) ∧ BadItem item fault

theorem firstBad_cons_iff {item : Item} {rest : List Item} {fault : Fault} :
    FirstBad GoodItem BadItem (item :: rest) fault ↔
      BadItem item fault ∨
        (∃ value, GoodItem item value) ∧ FirstBad GoodItem BadItem rest fault := by
  constructor
  · rintro ⟨_ | ⟨earlier, before⟩, bad, after, same, good, isBad⟩ <;> cases same
    · exact .inl isBad
    · obtain ⟨first, others⟩ := List.forall_mem_cons.mp good
      exact .inr ⟨first, before, bad, after, rfl, others, isBad⟩
  · rintro (isBad | ⟨first, before, bad, after, rfl, good, isBad⟩)
    · exact ⟨[], item, rest, rfl, nofun, isBad⟩
    · exact ⟨item :: before, bad, after, rfl, List.forall_mem_cons.mpr ⟨first, good⟩, isBad⟩

/-- A list of steps gives all values in order, or the fault of the first step that has one. -/
theorem Decides.mapM (decides : ∀ item, Decides (step item) (GoodItem item) (BadItem item))
    (items : List Item) :
    Decides (items.mapM step) (List.Forall₂ GoodItem items) (FirstBad GoodItem BadItem items) := by
  induction items with
  | nil =>
      refine ⟨fun values => ?_, fun fault => ?_⟩
      · cases values <;> simp [pure, Except.pure]
      · simp [pure, Except.pure, FirstBad]
  | cons item rest inductionHypothesis =>
      refine ⟨fun values => ?_, fun fault => ?_⟩
      · simp only [List.mapM_cons, bind_eq_ok, (decides item).ok_iff, inductionHypothesis.ok_iff,
          List.forall₂_cons_left_iff]
        constructor
        · rintro ⟨value, isGood, others, remaining, same⟩
          cases same
          exact ⟨value, others, isGood, remaining, rfl⟩
        · rintro ⟨value, others, isGood, remaining, rfl⟩
          exact ⟨value, isGood, others, remaining, rfl⟩
      · simp only [List.mapM_cons, bind_eq_error, (decides item).ok_iff, (decides item).error_iff,
          inductionHypothesis.error_iff, firstBad_cons_iff, pure, Except.pure, reduceCtorEq,
          and_false, exists_false, or_false, exists_and_right]

end Lists

end Bitemporal
