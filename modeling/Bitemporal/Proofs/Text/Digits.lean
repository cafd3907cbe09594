/-
This file shows that natural numbers read back from their digits.
-/
import Bitemporal.Text.Blank
import Bitemporal.Text.Digits
import Mathlib.Algebra.Ring.Nat
import Mathlib.Data.List.Induction

namespace Bitemporal.Digits

theorem natural_eq_ofDigitChars (digits : List Char) :
    natural digits = Nat.ofDigitChars 10 digits 0 := rfl

/-- The digits of a number spell it. -/
theorem natural_toDigits (number : Nat) : natural (Nat.toDigits 10 number) = number := by
  rw [natural_eq_ofDigitChars]
  exact Nat.ofDigitChars_ten_toDigits

theorem toList_toString (number : Nat) : (toString number).toList = Nat.toDigits 10 number := by
  rw [Nat.toString_eq_repr, Nat.repr_eq_ofList_toDigits, String.toList_ofList]

/-- Different numbers are written differently. -/
theorem toString_injective : Function.Injective (toString : Nat → String) := by
  intro left right same
  have digits : Nat.toDigits 10 left = Nat.toDigits 10 right := by
    rw [← toList_toString, ← toList_toString, same]
  rw [← natural_toDigits left, digits, natural_toDigits]

/-- Sizes and counts can be told from their texts. -/
theorem unsignedText_injective : Function.Injective fun count : UInt64 => toString count.toNat := by
  intro left right same
  exact UInt64.toNat_inj.mp (toString_injective same)

theorem isDigit_of_mem_toDigits (number : Nat) :
    ∀ digit ∈ Nat.toDigits 10 number, digit.isDigit = true := fun _ member =>
  Nat.isDigit_of_mem_toDigits (by decide) (by decide) member

/-- Zeros in front do not count. -/
theorem natural_padded (width number : Nat) : natural (padded width number) = number := by
  rw [natural_eq_ofDigitChars, padded, Nat.ofDigitChars_append, Nat.ofDigitChars_replicate_zero,
    Nat.mul_zero]
  exact Nat.ofDigitChars_ten_toDigits

theorem isDigit_of_mem_padded (width number : Nat) :
    ∀ digit ∈ padded width number, digit.isDigit = true := by
  intro digit member
  rcases List.mem_append.mp member with zero | spelled
  · rw [List.eq_of_mem_replicate zero]
    rfl
  · exact isDigit_of_mem_toDigits number digit spelled

theorem le_length_padded (width number : Nat) : width ≤ (padded width number).length := by
  rw [padded, List.length_append, List.length_replicate]
  omega

/-- A number that fits in the width takes up no more than it. -/
theorem length_padded {width number : Nat} (wide : 0 < width) (fits : number < 10 ^ width) :
    (padded width number).length = width := by
  have short := (Nat.length_toDigits_le_iff (by decide) wide).mpr fits
  rw [padded, List.length_append, List.length_replicate]
  omega

/-- Zeros behind the digits multiply by powers of ten. -/
theorem natural_append_zeros (digits : List Char) (count : Nat) :
    natural (digits ++ List.replicate count '0') = 10 ^ count * natural digits := by
  rw [natural_eq_ofDigitChars, Nat.ofDigitChars_append, Nat.ofDigitChars_replicate_zero]
  rfl

/-- The text does not go on with a digit. -/
def EndsDigits (text : List Char) : Prop := ∀ first ∈ text.head?, first.isDigit = false

/-- All digits in front are split off. -/
theorem leading_digits_append {digits rest : List Char}
    (spelled : ∀ digit ∈ digits, digit.isDigit = true) (ends : EndsDigits rest) :
    leading (digits ++ rest) = (digits, rest) := by
  have restKept : rest.takeWhile Char.isDigit = [] ∧ rest.dropWhile Char.isDigit = rest := by
    cases rest with
    | nil => exact ⟨rfl, rfl⟩
    | cons first later =>
        have other : first.isDigit = false := ends first rfl
        simp [other]
  rw [leading, List.takeWhile_append_of_pos spelled, List.dropWhile_append_of_pos spelled,
    restKept.1, restKept.2, List.append_nil]

/-! ## Bounds -/

theorem bounds_of_isDigit {digit : Char} (isDigit : digit.isDigit = true) :
    48 ≤ digit.toNat ∧ digit.toNat ≤ 57 := by
  simp only [Char.isDigit, Bool.and_eq_true, decide_eq_true_eq] at isDigit
  exact isDigit

theorem not_isBlank_of_isDigit {digit : Char} (isDigit : digit.isDigit = true) :
    Blank.isBlank digit = false := by
  have bounds := bounds_of_isDigit isDigit
  simp only [Blank.isBlank, Blank.ranges, List.any_cons, List.any_nil, Bool.or_false,
    Bool.or_eq_false_iff, Bool.and_eq_false_iff, decide_eq_false_iff_not]
  omega

theorem value_lt {digit : Char} (isDigit : digit.isDigit = true) : value digit < 10 := by
  have bounds := bounds_of_isDigit isDigit
  have zero : '0'.toNat = 48 := rfl
  unfold value
  omega

/-- So many digits spell a number below that power of ten. -/
theorem natural_lt {digits : List Char} (spelled : ∀ digit ∈ digits, digit.isDigit = true) :
    natural digits < 10 ^ digits.length := by
  induction digits using List.reverseRecOn with
  | nil => simp [natural]
  | append_singleton front last inductionHypothesis =>
      obtain ⟨frontDigits, lastDigit⟩ := List.forall_mem_append.mp spelled
      have front := inductionHypothesis frontDigits
      have last := value_lt (lastDigit last List.mem_cons_self)
      rw [natural_append_singleton, List.length_append, List.length_singleton, Nat.pow_succ]
      omega

theorem isDigit_of_mem_leading {text : List Char} :
    ∀ digit ∈ (leading text).1, digit.isDigit = true :=
  List.all_eq_true.mp List.all_takeWhile

/-- Digits that are filled up with zeros spell a number that fits in the width. -/
theorem natural_filled_lt {width : Nat} {digits : List Char}
    (spelled : ∀ digit ∈ digits, digit.isDigit = true) (fits : digits.length ≤ width) :
    natural (digits ++ List.replicate (width - digits.length) '0') < 10 ^ width := by
  have filled : ∀ digit ∈ digits ++ List.replicate (width - digits.length) '0',
      digit.isDigit = true := by
    rw [List.forall_mem_append]
    refine ⟨spelled, fun digit member => ?_⟩
    rw [List.eq_of_mem_replicate member]
    rfl
  have bound := natural_lt filled
  rwa [List.length_append, List.length_replicate, Nat.add_sub_of_le fits] at bound

end Bitemporal.Digits
