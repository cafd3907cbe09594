/-
This file shows that strings and numbers are read back from JSON texts.
-/
import Bitemporal.Json.Printer
import Bitemporal.Json.Reader
import Bitemporal.Proofs.Text.Digits
import Mathlib.Control.Basic
import Mathlib.Data.Option.Basic
import Mathlib.Tactic.SplitIfs

namespace Bitemporal.Json

/-! ## Strings -/

/-- Four digits spell a control character. -/
theorem unit?_control {code : Nat} (small : code < 32) :
    unit? ['0', '0', hexadecimalDigit (code / 16), hexadecimalDigit (code % 16)] = some code := by
  revert code
  decide

/-- A character is read back from its escaped form. -/
theorem stringBody_escaped (character : Char) (rest : List Char) :
    stringBody true (escaped character ++ rest) =
      (stringBody true rest).map fun (body, left) => (character :: body, left) := by
  unfold escaped
  split_ifs with quote backslash backspace formFeed newLine return_ tab control
  · subst quote
    rfl
  · subst backslash
    rfl
  · subst backspace
    rfl
  · subst formFeed
    rfl
  · subst newLine
    rfl
  · subst return_
    rfl
  · subst tab
    rfl
  · rw [List.cons_append, List.cons_append, List.cons_append, List.cons_append,
      List.cons_append, List.cons_append, List.nil_append, stringBody, unit?_control control]
    have leading : isLeadingSurrogate character.toNat = false := by
      simp only [isLeadingSurrogate, Bool.and_eq_false_imp, decide_eq_true_eq,
        decide_eq_false_iff_not]
      omega
    have trailing : isTrailingSurrogate character.toNat = false := by
      simp only [isTrailingSurrogate, Bool.and_eq_false_imp, decide_eq_true_eq,
        decide_eq_false_iff_not]
      omega
    simp [leading, trailing, Char.ofNat_toNat]
  · have plain : ¬ (character.toNat < 32 ∨ character = '\\') := not_or.mpr ⟨control, backslash⟩
    rw [List.singleton_append, stringBody, if_neg plain]
    · exact quote
    · intro _ _ _ _ _ same
      exact absurd same backslash
    · intro _ _ same
      exact absurd same backslash

/-- A string is read back from between its quotes. -/
theorem stringToken_quoted (value : String) (rest : List Char) :
    stringToken true (quoted value ++ rest) = some (value, rest) := by
  have body : ∀ characters : List Char,
      stringBody true (characters.flatMap escaped ++ '"' :: rest) = some (characters, rest) := by
    intro characters
    induction characters with
    | nil => rfl
    | cons first later inductionHypothesis =>
        rw [List.flatMap_cons, List.append_assoc, stringBody_escaped, inductionHypothesis]
        rfl
  have spelled : quoted value ++ rest = '"' :: (value.toList.flatMap escaped ++ '"' :: rest) := by
    simp [quoted]
  rw [spelled, stringToken, body, Option.map_some]
  show some (String.ofList value.toList, rest) = _
  rw [String.ofList_toList]

/-! ## Numbers -/

/-- A value ends at the end of the text, at a comma or at a closing bracket. -/
def EndsValue (text : List Char) : Prop := ∀ first ∈ text.head?, first ∈ [',', ']', '}']

theorem EndsValue.endsDigits {text : List Char} (ends : EndsValue text) :
    Digits.EndsDigits text := by
  intro first present
  have closing := ends first present
  simp only [List.mem_cons, List.not_mem_nil, or_false] at closing
  rcases closing with rfl | rfl | rfl <;> rfl

theorem endsValue_cons {first : Char} (closing : first ∈ [',', ']', '}']) (rest : List Char) :
    EndsValue (first :: rest) := by
  intro other present
  cases present
  exact closing

/-- Digits are split off in the same way if the value ends behind the text. -/
theorem leading_append_of_ends (text : List Char) {rest : List Char} (ends : EndsValue rest) :
    Digits.leading (text ++ rest) =
      ((Digits.leading text).1, (Digits.leading text).2 ++ rest) := by
  have spelled : ∀ digit ∈ text.takeWhile Char.isDigit, digit.isDigit = true :=
    List.all_eq_true.mp List.all_takeWhile
  have behind : Digits.EndsDigits (text.dropWhile Char.isDigit ++ rest) := by
    have stopped := List.head?_dropWhile_not Char.isDigit text
    rcases shape : text.dropWhile Char.isDigit with _ | ⟨next, later⟩
    · exact ends.endsDigits
    · rw [shape] at stopped
      intro first present
      cases present
      exact stopped
  have whole : text ++ rest =
      text.takeWhile Char.isDigit ++ (text.dropWhile Char.isDigit ++ rest) := by
    rw [← List.append_assoc, List.takeWhile_append_dropWhile]
  rw [whole]
  exact Digits.leading_digits_append spelled behind

theorem pointPart_append {text fraction left rest : List Char}
    (found : pointPart text = some (fraction, left)) (ends : EndsValue rest) :
    pointPart (text ++ rest) = some (fraction, left ++ rest) := by
  rcases text with _ | ⟨first, later⟩
  · cases found
    rcases rest with _ | ⟨next, more⟩
    · rfl
    · have other : next ≠ '.' := by
        rintro rfl
        exact absurd (ends '.' rfl) (by decide)
      simp [pointPart, other]
  · by_cases point : first = '.'
    · subst point
      rw [List.cons_append]
      unfold pointPart at found ⊢
      simp only [leading_append_of_ends later ends] at found ⊢
      rcases digits : Digits.leading later with ⟨_ | ⟨digit, others⟩, behind⟩
      · simp [digits] at found
      · rw [digits] at found
        cases found
        rfl
    · have kept : ∀ more, pointPart (first :: more) = some ([], first :: more) := by
        intro more
        simp [pointPart, point]
      rw [kept] at found
      cases found
      exact kept _

theorem signed_append {text : List Char} (nonempty : text ≠ []) (rest : List Char) :
    Binary64.signed (text ++ rest) =
      ((Binary64.signed text).1, (Binary64.signed text).2 ++ rest) := by
  obtain ⟨first, later, rfl⟩ := List.exists_cons_of_ne_nil nonempty
  by_cases minus : first = '-'
  · subst minus
    rfl
  · by_cases plus : first = '+'
    · subst plus
      rfl
    · simp [Binary64.signed, minus, plus]

theorem exponentPart_append {text left rest : List Char} {exponent : Int}
    (found : Binary64.exponentPart text = some (exponent, left)) (ends : EndsValue rest) :
    Binary64.exponentPart (text ++ rest) = some (exponent, left ++ rest) := by
  rcases text with _ | ⟨first, later⟩
  · cases found
    rcases rest with _ | ⟨next, more⟩
    · rfl
    · have other : ¬ (next = 'e' ∨ next = 'E') := by
        rintro (rfl | rfl)
        · exact absurd (ends 'e' rfl) (by decide)
        · exact absurd (ends 'E' rfl) (by decide)
      rw [List.nil_append, Binary64.exponentPart, if_neg other]
  · by_cases mark : first = 'e' ∨ first = 'E'
    · rw [Binary64.exponentPart, if_pos mark] at found
      have nonempty : later ≠ [] := by
        rintro rfl
        simp [Binary64.signed, Digits.leading] at found
      rw [List.cons_append, Binary64.exponentPart, if_pos mark, signed_append nonempty]
      simp only [leading_append_of_ends _ ends] at found ⊢
      rcases digits : Digits.leading (Binary64.signed later).2 with ⟨_ | ⟨digit, others⟩, behind⟩
      · simp [digits] at found
      · rw [digits] at found
        cases found
        rfl
    · rw [Binary64.exponentPart, if_neg mark] at found
      rw [List.cons_append, Binary64.exponentPart, if_neg mark]
      cases found
      rfl

/-- A number that is read to the end of a text is read in the same way if a value ends there. -/
theorem unsignedNumber_append {negative : Bool} {text left rest : List Char}
    {value : Option Json} (found : unsignedNumber negative text = some (value, left))
    (ends : EndsValue rest) :
    unsignedNumber negative (text ++ rest) = some (value, left ++ rest) := by
  unfold unsignedNumber at found ⊢
  simp only [leading_append_of_ends text ends] at found ⊢
  by_cases isWhole : isWholePart (Digits.leading text).1 = true
  · rcases point : pointPart (Digits.leading text).2 with _ | ⟨fraction, afterFraction⟩
    · simp [isWhole, point] at found
    · rcases mark : Binary64.exponentPart afterFraction with _ | ⟨exponent, behind⟩
      · simp [isWhole, point, mark] at found
      · rw [pointPart_append point ends]
        simp only [isWhole, point, mark, guard_true, Option.pure_def, Option.bind_some,
          Option.bind_eq_bind, exponentPart_append mark ends, List.length_append,
          Nat.add_right_cancel_iff] at found ⊢
        split at found <;> cases found
        · rename_i same
          rw [if_pos same]
        · rename_i different
          rw [if_neg different]
  · simp [isWhole, failure] at found

/-- Numbers are read in the same way at the end of a text and in front of others. -/
theorem number_append {text left rest : List Char} {value : Option Json}
    (found : number text = some (value, left)) (ends : EndsValue rest) :
    number (text ++ rest) = some (value, left ++ rest) := by
  rcases text with _ | ⟨first, later⟩
  · cases found
  · by_cases minus : first = '-'
    · subst minus
      have unsigned : unsignedNumber true later = some (value, left) := found
      exact unsignedNumber_append unsigned ends
    · have positive : ∀ more, number (first :: more) = unsignedNumber false (first :: more) := by
        intro more
        simp [number, minus]
      rw [positive] at found
      rw [List.cons_append, positive, ← List.cons_append]
      exact unsignedNumber_append found ends

/-- No zero leads the digits of a positive number. -/
theorem exists_toDigits_cons {value : Nat} (positive : 0 < value) :
    ∃ first rest, Nat.toDigits 10 value = first :: rest ∧ first ≠ '0' := by
  induction value using Nat.strongRecOn with
  | ind value inductionHypothesis =>
      by_cases small : value < 10
      · refine ⟨value.digitChar, [], Nat.toDigits_of_lt_base small, ?_⟩
        rw [Ne, Nat.digitChar_eq_zero]
        omega
      · obtain ⟨first, rest, digits, nonzero⟩ :=
          inductionHypothesis (value / 10) (by omega) (by omega)
        refine ⟨first, rest ++ [(value % 10).digitChar], ?_, nonzero⟩
        rw [Nat.toDigits_of_base_le (by decide) (Nat.not_lt.mp small), digits, List.cons_append]

theorem isWholePart_toDigits (value : Nat) : isWholePart (Nat.toDigits 10 value) = true := by
  rcases Nat.eq_zero_or_pos value with rfl | positive
  · rfl
  · obtain ⟨first, rest, digits, nonzero⟩ := exists_toDigits_cons positive
    rw [digits]
    rcases rest with _ | ⟨second, later⟩ <;> simp [isWholePart, nonzero]

/-- Digits alone are read as a whole number. -/
theorem unsignedNumber_toDigits (negative : Bool) (value : Nat) :
    unsignedNumber negative (Nat.toDigits 10 value) =
      some (wholeValue negative (Nat.toDigits 10 value), []) := by
  have ends : Digits.EndsDigits [] := fun _ present => by cases present
  have digits := Digits.leading_digits_append (Digits.isDigit_of_mem_toDigits value) ends
  rw [List.append_nil] at digits
  rw [unsignedNumber, digits]
  simp [isWholePart_toDigits, pointPart, Binary64.exponentPart]

/-- An integer within 64 bits is read back from its digits. -/
theorem number_integer {value : Int} (lower : -signedLimit ≤ value)
    (upper : value < unsignedLimit) :
    number (toString value).toList = some (some (.integer value), []) := by
  cases value with
  | ofNat magnitude =>
      have spelled : (toString (Int.ofNat magnitude)).toList = Nat.toDigits 10 magnitude :=
        Nat.toList_repr
      have unsigned : number (Nat.toDigits 10 magnitude) =
          unsignedNumber false (Nat.toDigits 10 magnitude) := by
        obtain ⟨first, rest, digits⟩ := List.exists_cons_of_ne_nil
          (Nat.toDigits_ne_nil (n := magnitude) (b := 10))
        have digit : first.isDigit = true :=
          Digits.isDigit_of_mem_toDigits magnitude first (digits ▸ List.mem_cons_self)
        have noSign : first ≠ '-' := by
          rintro rfl
          cases digit
        rw [digits]
        simp [number, noSign]
      rw [spelled, unsigned, unsignedNumber_toDigits, wholeValue, Digits.natural_toDigits]
      simp only [Bool.false_eq_true, if_false]
      exact congrArg (fun found => some (found, [])) (if_pos upper)
  | negSucc magnitude =>
      have spelled : (toString (Int.negSucc magnitude)).toList =
          '-' :: Nat.toDigits 10 (magnitude + 1) := by
        show ("-" ++ Nat.repr (magnitude + 1)).toList = _
        rw [String.toList_append, Nat.toList_repr]
        rfl
      have bounds : (0 : Int) < ((magnitude + 1 : Nat) : Int) ∧
          ((magnitude + 1 : Nat) : Int) ≤ signedLimit := by omega
      rw [spelled]
      show unsignedNumber true (Nat.toDigits 10 (magnitude + 1)) = _
      rw [unsignedNumber_toDigits, wholeValue, Digits.natural_toDigits]
      simp only [if_true]
      exact congrArg (fun found => some (found, [])) (if_pos bounds)

end Bitemporal.Json
