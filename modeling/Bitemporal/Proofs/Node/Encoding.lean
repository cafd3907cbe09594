/-
This file says which parameters of a request are written as they are.
-/
import Bitemporal.Node.Request
import Bitemporal.Proofs.Text.ByteOrder
import Bitemporal.Proofs.Text.Digits

namespace Bitemporal

theorem loop_eq_append_drop (bytes : ByteArray) (position : Nat) (taken : List UInt8) :
    ByteArray.toList.loop bytes position taken =
      taken.reverse ++ bytes.data.toList.drop position := by
  induction position, taken using ByteArray.toList.loop.induct bytes with
  | case1 position taken inside inductionHypothesis =>
      have bounded : position < bytes.data.toList.length := by simpa using inside
      have current : bytes.get! position = bytes.data.toList[position] := by
        simp only [ByteArray.get!, Array.getElem_toList]
        exact getElem!_pos bytes.data position (by simpa using inside)
      rw [ByteArray.toList.loop, if_pos inside, inductionHypothesis,
        List.drop_eq_getElem_cons bounded, current]
      simp
  | case2 position taken outside =>
      have beyond : bytes.data.toList.length ≤ position := by simpa using outside
      rw [ByteArray.toList.loop, if_neg outside, List.drop_eq_nil_of_le beyond, List.append_nil]

theorem toList_toUTF8 (text : String) : text.toUTF8.toList = utf8 text := by
  rw [String.toUTF8_eq_toByteArray, toByteArray_eq_utf8, ByteArray.toList, loop_eq_append_drop]
  simp

namespace Parameters

theorem encoded_eq_utf8 (text : String) :
    encoded text = String.ofList ((utf8 text).flatMap encodedByte) := by
  rw [encoded, toList_toUTF8]

theorem toNat_ofNat_toNat {character : Char} (small : character.toNat < 128) :
    (UInt8.ofNat character.toNat).toNat = character.toNat :=
  UInt8.toNat_ofNat_of_lt (small.trans (by decide))

/-- A character is written as it is if its one byte is unreserved. -/
def StandsForItself (character : Char) : Prop :=
  character.toNat < 128 ∧ isUnreserved (UInt8.ofNat character.toNat) = true

instance (character : Char) : Decidable (StandsForItself character) :=
  inferInstanceAs (Decidable (_ ∧ _))

theorem flatMap_encodedByte {character : Char} (plain : StandsForItself character) :
    (String.utf8EncodeChar character).flatMap encodedByte = [character] := by
  have single : String.utf8EncodeChar character = [UInt8.ofNat character.toNat] :=
    if_pos (Nat.le_of_lt_succ plain.1)
  rw [single, List.flatMap_singleton, encodedByte, if_pos plain.2, toNat_ofNat_toNat plain.1,
    Char.ofNat_toNat]

theorem encoded_of_standsForItself {text : String}
    (plain : ∀ character ∈ text.toList, StandsForItself character) : encoded text = text := by
  have kept : ∀ characters : List Char, (∀ character ∈ characters, StandsForItself character) →
      (characters.flatMap String.utf8EncodeChar).flatMap encodedByte = characters := by
    intro characters plain
    induction characters with
    | nil => rfl
    | cons first rest inductionHypothesis =>
        obtain ⟨firstPlain, restPlain⟩ := List.forall_mem_cons.mp plain
        rw [List.flatMap_cons, List.flatMap_append, flatMap_encodedByte firstPlain,
          inductionHypothesis restPlain]
        rfl
  rw [encoded_eq_utf8, utf8, kept text.toList plain, String.ofList_toList]

theorem text_singleton (name value : String) :
    text [(name, value)] = "?" ++ (encoded name ++ "=" ++ encoded value) := by
  simp [text]

theorem standsForItself_of_isDigit {digit : Char} (isDigit : digit.isDigit = true) :
    StandsForItself digit := by
  have small : digit.toNat < 128 := (Digits.bounds_of_isDigit isDigit).2.trans_lt (by decide)
  refine ⟨small, ?_⟩
  simp [isUnreserved, toNat_ofNat_toNat small, small, Char.isAlphanum, isDigit]

end Parameters

end Bitemporal
