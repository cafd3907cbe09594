/-
This file shows that the order of texts is the order of their UTF-8 bytes.
-/
import Mathlib.Data.String.Basic
import Mathlib.Tactic.SplitIfs

namespace Bitemporal

/-- The bytes of a text in UTF-8. -/
def utf8 (text : String) : List UInt8 := text.toList.flatMap String.utf8EncodeChar

theorem toByteArray_eq_utf8 (text : String) : text.toByteArray = (utf8 text).toByteArray := by
  rw [utf8, ← List.utf8Encode, String.utf8Encode_toList]

theorem cons_ofNat_lt_cons_ofNat_iff {first second : Nat} (firstBound : first < 256)
    (secondBound : second < 256) (left right : List UInt8) :
    UInt8.ofNat first :: left < UInt8.ofNat second :: right ↔
      first < second ∨ first = second ∧ left < right := by
  rw [List.cons_lt_cons_iff, UInt8.lt_iff_toNat_lt, ← UInt8.toNat_inj,
    UInt8.toNat_ofNat_of_lt' firstBound, UInt8.toNat_ofNat_of_lt' secondBound]

theorem lt_six_bits {left right : Nat} (before : left < right) :
    left / 64 < right / 64 ∨ left / 64 = right / 64 ∧ left % 64 < right % 64 := by
  omega

/-- The first byte in which two characters differ decides, and neither ends before it. -/
theorem utf8EncodeChar_append_lt {first second : Char} (before : first < second)
    (left right : List UInt8) :
    String.utf8EncodeChar first ++ left < String.utf8EncodeChar second ++ right := by
  have order : first.val.toNat < second.val.toNat := before
  have bound : second.val.toNat < 0x110000 := by
    have := second.valid
    simp only [UInt32.isValidChar, Nat.isValidChar] at this
    omega
  simp only [String.utf8EncodeChar]
  -- a character of fewer bytes comes first, and characters of one size differ in some six bits
  split_ifs <;> first
    | omega
    | skip
  all_goals
    simp (disch := omega) only [List.cons_append, List.nil_append, cons_ofNat_lt_cons_ofNat_iff]
    rcases lt_six_bits order with high | ⟨same, low⟩
    · rcases lt_six_bits high with higher | ⟨same, low⟩
      · rcases lt_six_bits higher with highest | ⟨same, low⟩ <;> omega
      · omega
    · omega

/-- Texts are ordered as their bytes are. -/
theorem utf8_lt_of_lt {left right : String} (before : left < right) : utf8 left < utf8 right := by
  rw [String.lt_iff_toList_lt] at before
  simp only [utf8]
  generalize left.toList = first at before ⊢
  generalize right.toList = second at before ⊢
  induction first generalizing second with
  | nil =>
      cases second with
      | nil => exact absurd before (lt_irrefl _)
      | cons character rest =>
          obtain ⟨byte, bytes, encoded⟩ :=
            List.exists_cons_of_ne_nil (String.utf8EncodeChar_ne_nil (c := character))
          rw [List.flatMap_nil, List.flatMap_cons, encoded]
          exact List.Lex.nil
  | cons character rest inductionHypothesis =>
      cases second with
      | nil => exact absurd before (List.not_lt_nil _)
      | cons other others =>
          rw [List.flatMap_cons, List.flatMap_cons]
          rcases List.cons_lt_cons_iff.mp before with smaller | ⟨same, later⟩
          · exact utf8EncodeChar_append_lt smaller _ _
          · rw [same]
            exact List.append_left_lt (inductionHypothesis others later)

theorem utf8_lt_iff {left right : String} : utf8 left < utf8 right ↔ left < right := by
  refine ⟨fun before => ?_, utf8_lt_of_lt⟩
  rcases lt_trichotomy left right with smaller | same | greater
  · exact smaller
  · exact absurd before (same ▸ List.lt_irrefl _)
  · exact absurd before (List.lt_asymm (utf8_lt_of_lt greater))

theorem utf8_le_iff {left right : String} : utf8 left ≤ utf8 right ↔ left ≤ right := by
  rw [← List.not_lt, utf8_lt_iff, not_lt]

end Bitemporal
