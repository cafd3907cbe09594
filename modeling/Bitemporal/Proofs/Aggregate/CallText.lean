/-
This file shows that an aggregate call can be told from its text.
-/
import Bitemporal.Aggregate
import Bitemporal.Proofs.Edn.Piece

namespace Bitemporal

open Edn

/-! ## Functions -/

namespace AggregateFunction

theorem ofName_name (function : AggregateFunction) : ofName function.name = .ok function := by
  cases function <;> rfl

theorem ofName_eq_ok_iff {name : String} {function : AggregateFunction} :
    ofName name = .ok function ↔ function.name = name := by
  constructor
  · intro found
    unfold ofName at found
    split at found
    · next other named =>
        cases found
        simpa using List.find?_some named
    · cases found
  · rintro rfl
    exact ofName_name function

theorem name_injective : Function.Injective name := by
  intro left right same
  have found := ofName_name left
  rw [same, ofName_name] at found
  exact (Except.ok.inj found).symm

theorem isPiece_name (function : AggregateFunction) : IsPiece function.name := by
  cases function <;> decide

theorem arity_le_one (function : AggregateFunction) : function.arity ≤ 1 := by
  cases function <;> decide

end AggregateFunction

/-! ## Constructors -/

namespace Aggregate

/-- The call that the constructor of this function makes. Most of them do not look at the size. -/
def named : AggregateFunction → String → UInt64 → Aggregate
  | .sum, operand, _ => .sum operand
  | .min, operand, _ => .min operand
  | .max, operand, _ => .max operand
  | .count, operand, _ => .count operand
  | .countDistinct, operand, _ => .countDistinct operand
  | .avg, operand, _ => .avg operand
  | .median, operand, _ => .median operand
  | .variance, operand, _ => .variance operand
  | .stddev, operand, _ => .stddev operand
  | .distinct, operand, _ => .distinct operand
  | .rand, operand, size => .rand operand size
  | .sample, operand, size => .sample operand size

theorem eq_iff {left right : Aggregate} :
    left = right ↔ left.function = right.function ∧ left.arguments = right.arguments ∧
      left.operand = right.operand := by
  obtain ⟨function, operand, arguments, _⟩ := left
  obtain ⟨otherFunction, otherOperand, otherArguments, _⟩ := right
  rw [mk.injEq, and_comm (a := operand = otherOperand)]

/-- Each constructor makes the call of its own function with as many arguments as it takes. -/
theorem eq_named_iff {aggregate : Aggregate} {function : AggregateFunction} {operand : String}
    {size : UInt64} : aggregate = named function operand size ↔
      aggregate.function = function ∧
        aggregate.arguments = List.replicate function.arity size ∧
          aggregate.operand = operand := by
  cases function <;> exact eq_iff

/-- There is at most one argument, so one size says which they are. -/
theorem exists_replicate (function : AggregateFunction) {arguments : List UInt64}
    (arityAgrees : arguments.length = function.arity) :
    ∃ size, arguments = List.replicate function.arity size := by
  have short := function.arity_le_one
  rw [← arityAgrees] at short ⊢
  match arguments, short with
  | [], _ => exact ⟨0, rfl⟩
  | [size], _ => exact ⟨size, rfl⟩

theorem ofFunction_eq_ok_iff {function : AggregateFunction} {operand : String}
    {arguments : List UInt64} {aggregate : Aggregate} :
    ofFunction function operand arguments = .ok aggregate ↔
      ∃ size, arguments = List.replicate function.arity size ∧
        aggregate = named function operand size := by
  constructor
  · intro made
    unfold ofFunction at made
    split at made
    · next arityAgrees =>
        cases made
        obtain ⟨size, rfl⟩ := exists_replicate function arityAgrees
        exact ⟨size, rfl, eq_named_iff.mpr ⟨rfl, rfl, rfl⟩⟩
    · cases made
  · rintro ⟨size, rfl, rfl⟩
    rw [ofFunction, dif_pos List.length_replicate]
    exact congrArg Except.ok (eq_named_iff.mpr ⟨rfl, rfl, rfl⟩)

theorem create_eq_ok_iff {name operand : String} {arguments : List UInt64}
    {aggregate : Aggregate} :
    create name operand arguments = .ok aggregate ↔
      ∃ function : AggregateFunction, function.name = name ∧
        ofFunction function operand arguments = .ok aggregate := by
  unfold create
  cases found : AggregateFunction.ofName name with
  | ok function =>
      have named := AggregateFunction.ofName_eq_ok_iff.mp found
      constructor
      · exact fun made => ⟨function, named, made⟩
      · rintro ⟨other, rfl, made⟩
        obtain rfl := AggregateFunction.name_injective named
        exact made
  | error problem =>
      constructor
      · intro made
        cases made
      · rintro ⟨function, rfl, _⟩
        rw [AggregateFunction.ofName_name] at found
        cases found

/-! ## Texts -/

/-- The texts of the arguments. -/
def shown (arguments : List UInt64) : List String :=
  arguments.map fun size => toString size.toNat

theorem shown_injective : Function.Injective shown :=
  List.map_injective_iff.mpr Digits.unsignedText_injective

theorem isPiece_shown {arguments : List UInt64} : ∀ text ∈ shown arguments, IsPiece text := by
  intro text member
  obtain ⟨size, _, rfl⟩ := List.mem_map.mp member
  exact (isToken_toString size.toNat).isPiece

/-- All of the arguments are written, not only the first one. -/
theorem text_eq (aggregate : Aggregate) :
    aggregate.text = "(" ++ " ".intercalate
      (aggregate.function.name :: shown aggregate.arguments ++ [aggregate.operand]) ++ ")" := by
  have short := aggregate.function.arity_le_one
  rw [← aggregate.arityAgrees] at short
  unfold text
  match aggregate.arguments, short with
  | [], _ => simp [shown, String.append_assoc]
  | [size], _ => simp [shown, String.append_assoc]

/-- The operand is what is left behind the function and as many arguments as it takes, so it may
be any text. -/
theorem eq_of_text {left right : Aggregate} (same : left.text = right.text) : left = right := by
  rw [text_eq, text_eq] at same
  simp only [String.append_left_inj, String.append_right_inj, List.cons_append,
    intercalate_cons_spaced] at same
  obtain ⟨sameName, rest⟩ := left.function.isPiece_name.append_inj right.function.isPiece_name
    (stops_spaced_only _) (stops_spaced_only _) same
  have sameFunction := AggregateFunction.name_injective sameName
  have sameLength : left.arguments.length = right.arguments.length := by
    rw [left.arityAgrees, right.arityAgrees, sameFunction]
  obtain ⟨sameArguments, sameOperand⟩ := spaced_concat_inj isPiece_shown isPiece_shown
    (by simpa [shown] using sameLength) rest
  exact eq_iff.mpr ⟨sameFunction, shown_injective sameArguments, sameOperand⟩

/-- A call has as many arguments as its function takes and its text shows them all, so the text
says which call it is. A call that is made by name is the one that the constructor makes. -/
theorem calls_unambiguous :
    (∀ aggregate : Aggregate, aggregate.arguments.length = aggregate.function.arity ∧
      aggregate.text = "(" ++ " ".intercalate
        (aggregate.function.name :: shown aggregate.arguments ++ [aggregate.operand]) ++ ")") ∧
    (∀ left right : Aggregate, left.text = right.text ↔
      left.function = right.function ∧ left.arguments = right.arguments ∧
        left.operand = right.operand) ∧
    (∀ function operand arguments aggregate,
      ofFunction function operand arguments = .ok aggregate ↔
        ∃ size, arguments = List.replicate function.arity size ∧
          aggregate = named function operand size) ∧
    (∀ name operand arguments aggregate, create name operand arguments = .ok aggregate ↔
      ∃ (function : AggregateFunction) (size : UInt64), function.name = name ∧
        arguments = List.replicate function.arity size ∧
          aggregate = named function operand size) := by
  refine ⟨fun aggregate => ⟨aggregate.arityAgrees, aggregate.text_eq⟩, fun left right => ?_,
    fun function operand arguments aggregate => ofFunction_eq_ok_iff,
    fun name operand arguments aggregate => ?_⟩
  · rw [← eq_iff]
    exact ⟨eq_of_text, congrArg text⟩
  · simp only [create_eq_ok_iff, ofFunction_eq_ok_iff, exists_and_left]

end Aggregate

end Bitemporal
