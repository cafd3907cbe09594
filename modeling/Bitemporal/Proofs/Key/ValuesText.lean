/-
This file shows that the values of a binding can be told from their text, which is read from its
end: there a quote opens a literal unless a backslash is in front of it.
-/
import Bitemporal.Key.Binding
import Mathlib.Data.List.Induction
import Mathlib.Data.String.Basic

namespace Bitemporal

/-! ## Literals -/

/-- What a literal puts in front of a character: a backslash in front of a quote. -/
def escapeMark (character : Char) : List Char := if character = '"' then ['\\'] else []

theorem literalCharacters_eq (character : Char) :
    literalCharacters character = escapeMark character ++ [character] := by
  unfold literalCharacters escapeMark
  split
  · next quoted =>
      subst quoted
      rfl
  · rfl

theorem literalBody_concat (value : List Char) (last : Char) :
    (value ++ [last]).flatMap literalCharacters =
      value.flatMap literalCharacters ++ escapeMark last ++ [last] := by
  rw [List.flatMap_append, List.flatMap_singleton, literalCharacters_eq, List.append_assoc]

/-- The opening quote of a literal is no quote of another value, which would be escaped. -/
theorem openingQuote_ne {front other value : List Char} {last : Char}
    (unescaped : front.getLast? ≠ some '\\') :
    front ++ ['"'] ≠ other ++ '"' :: (value ++ [last]).flatMap literalCharacters := by
  rw [literalBody_concat]
  intro same
  have spread : front ++ ['"'] =
      other ++ '"' :: value.flatMap literalCharacters ++ escapeMark last ++ [last] := by
    simpa using same
  obtain ⟨before, ends⟩ := List.append_inj' spread rfl
  obtain rfl : '"' = last := List.singleton_inj.mp ends
  apply unescaped
  rw [before]
  exact List.getLast?_concat

/-- Where no backslash stands in front of a literal, it is the only one that the text ends in. -/
theorem literal_append_inj {front other value second : List Char}
    (unescaped : front.getLast? ≠ some '\\') (otherUnescaped : other.getLast? ≠ some '\\')
    (same : front ++ '"' :: value.flatMap literalCharacters =
      other ++ '"' :: second.flatMap literalCharacters) : front = other ∧ value = second := by
  induction value using List.reverseRecOn generalizing second with
  | nil =>
      rcases List.eq_nil_or_concat' second with rfl | ⟨rest, last, rfl⟩
      · exact ⟨List.append_cancel_right same, rfl⟩
      · exact absurd same (openingQuote_ne unescaped)
  | append_singleton value last inductionHypothesis =>
      rcases List.eq_nil_or_concat' second with rfl | ⟨rest, end_, rfl⟩
      · exact absurd same.symm (openingQuote_ne otherUnescaped)
      · have spread : front ++ '"' :: value.flatMap literalCharacters ++ escapeMark last ++ [last] =
            other ++ '"' :: rest.flatMap literalCharacters ++ escapeMark end_ ++ [end_] := by
          rw [literalBody_concat, literalBody_concat] at same
          simpa using same
        obtain ⟨before, ends⟩ := List.append_inj' spread rfl
        obtain rfl : last = end_ := List.singleton_inj.mp ends
        obtain ⟨fronts, values⟩ := inductionHypothesis (List.append_cancel_right before)
        exact ⟨fronts, by rw [values]⟩

namespace Binding

/-! ## Lists of items -/

/-- An item may stand here: behind an opening bracket, or behind another item and a blank. -/
def AtItem (front : List Char) : Prop :=
  front.getLast? = some '[' ∨ front.getLast? = some ' '

/-- The last item of a text can be told from it, and is not mistaken for the start of a list. -/
structure EndsApart {Item : Type} (write : Item → String) : Prop where
  cancel : ∀ {front other : List Char} {item second : Item}, AtItem front → AtItem other →
    front ++ (write item).toList = other ++ (write second).toList → front = other ∧ item = second
  closed : ∀ item, ∃ body last, (write item).toList = body ++ [last] ∧ last ≠ '['

theorem EndsApart.injective {Item : Type} {write : Item → String} (apart : EndsApart write) :
    Function.Injective write := by
  intro item second same
  have atItem : AtItem ['['] := .inl rfl
  exact (apart.cancel atItem atItem (by rw [same])).2

theorem endsApart_quote : EndsApart quote := by
  have unescaped : ∀ {front : List Char}, AtItem front → front.getLast? ≠ some '\\' := by
    rintro front (last | last) <;>
    · rw [last]
      decide
  have spelled : ∀ value : String,
      (quote value).toList = '"' :: value.toList.flatMap literalCharacters ++ ['"'] := by
    intro value
    rw [quote, String.toList_ofList]
  refine ⟨fun {front other item second} atFront atOther same => ?_, fun value => ?_⟩
  · rw [spelled, spelled, ← List.append_assoc, ← List.append_assoc] at same
    obtain ⟨fronts, values⟩ := literal_append_inj (unescaped atFront) (unescaped atOther)
      (List.append_cancel_right same)
    exact ⟨fronts, String.toList_inj.mp values⟩
  · exact ⟨_, '"', spelled value, by decide⟩

section Lists

variable {Item : Type} {write : Item → String}

/-- The items in front of the last one, each followed by a blank. -/
def followed (write : Item → String) (items : List Item) : List Char :=
  items.flatMap fun item => (write item).toList ++ [' ']

theorem followed_concat (items : List Item) (last : Item) :
    followed write (items ++ [last]) = followed write items ++ (write last).toList ++ [' '] := by
  simp [followed]

theorem toList_bracketed_concat (items : List Item) (last : Item) :
    (bracketed ((items ++ [last]).map write)).toList =
      '[' :: followed write items ++ (write last).toList ++ [']'] := by
  have listed : (" ".intercalate ((items ++ [last]).map write)).toList =
      followed write items ++ (write last).toList := by
    induction items with
    | nil => simp [followed]
    | cons first rest inductionHypothesis =>
        have several : (rest ++ [last]).map write ≠ [] := by simp
        rw [List.cons_append, List.map_cons, String.intercalate_cons_of_ne_nil several,
          String.toList_append, inductionHypothesis]
        simp [followed]
  have opening : "[".toList = ['['] := rfl
  have closing : "]".toList = [']'] := rfl
  rw [bracketed, String.toList_append, String.toList_append, listed, opening, closing]
  simp

theorem atItem_followed (front : List Char) (items : List Item) :
    AtItem (front ++ '[' :: followed write items) := by
  rcases List.eq_nil_or_concat' items with rfl | ⟨rest, last, rfl⟩
  · exact .inl List.getLast?_concat
  · right
    rw [followed_concat, ← List.cons_append, ← List.append_assoc]
    exact List.getLast?_concat

variable (apart : EndsApart write)

include apart

theorem followed_inj {front other : List Char} {items others : List Item}
    (same : front ++ '[' :: followed write items = other ++ '[' :: followed write others) :
    front = other ∧ items = others := by
  -- a list that is followed by a blank differs from one that has just been opened
  have unlike : ∀ (front other : List Char) (rest : List Item) (last : Item),
      front ++ ['['] ≠ other ++ '[' :: followed write (rest ++ [last]) := by
    intro front other rest last same
    rw [followed_concat, ← List.cons_append, ← List.append_assoc] at same
    exact absurd (List.append_inj' same rfl).2 (by decide)
  induction items using List.reverseRecOn generalizing others with
  | nil =>
      rcases List.eq_nil_or_concat' others with rfl | ⟨rest, last, rfl⟩
      · exact ⟨List.append_cancel_right same, rfl⟩
      · exact absurd same (unlike _ _ _ _)
  | append_singleton items last inductionHypothesis =>
      rcases List.eq_nil_or_concat' others with rfl | ⟨rest, second, rfl⟩
      · exact absurd same.symm (unlike _ _ _ _)
      · simp only [followed_concat, ← List.cons_append, ← List.append_assoc] at same
        obtain ⟨before, rfl⟩ := apart.cancel (atItem_followed front items)
          (atItem_followed other rest) (List.append_cancel_right same)
        obtain ⟨rfl, rfl⟩ := inductionHypothesis before
        exact ⟨rfl, rfl⟩

/-- Lists of items that can be told apart can be told apart themselves. -/
theorem endsApart_bracketed : EndsApart fun items : List Item => bracketed (items.map write) := by
  have nothing : (bracketed (([] : List Item).map write)).toList = ['[', ']'] := by
    simp [bracketed]
  -- an empty list ends in an opening bracket and no other list does
  have unlike : ∀ (front other : List Char) (rest : List Item) (last : Item),
      front ++ (bracketed (([] : List Item).map write)).toList ≠
        other ++ (bracketed ((rest ++ [last]).map write)).toList := by
    intro front other rest last same
    obtain ⟨body, end_, spelled, open_⟩ := apart.closed last
    have spread : front ++ ['['] ++ [']'] =
        other ++ '[' :: followed write rest ++ body ++ [end_] ++ [']'] := by
      rw [nothing, toList_bracketed_concat, spelled] at same
      simpa using same
    have ends := (List.append_inj' (List.append_cancel_right spread) rfl).2
    exact open_ (List.singleton_inj.mp ends).symm
  refine ⟨fun {front other items others} _ _ same => ?_, fun items => ?_⟩
  · rcases List.eq_nil_or_concat' items with rfl | ⟨rest, last, rfl⟩
    · rcases List.eq_nil_or_concat' others with rfl | ⟨_, _, rfl⟩
      · exact ⟨List.append_cancel_right same, rfl⟩
      · exact absurd same (unlike _ _ _ _)
    · rcases List.eq_nil_or_concat' others with rfl | ⟨otherRest, second, rfl⟩
      · exact absurd same.symm (unlike _ _ _ _)
      · simp only [toList_bracketed_concat, ← List.append_assoc] at same
        obtain ⟨before, rfl⟩ := apart.cancel (atItem_followed front rest)
          (atItem_followed other otherRest) (List.append_cancel_right same)
        obtain ⟨rfl, rfl⟩ := followed_inj apart before
        exact ⟨rfl, rfl⟩
  · rcases List.eq_nil_or_concat' items with rfl | ⟨rest, last, rfl⟩
    · exact ⟨['['], ']', nothing, by decide⟩
    · exact ⟨_, ']', toList_bracketed_concat rest last, by decide⟩

end Lists

/-! ## Values -/

/-- Names and values have one shape. -/
theorem shape_of_fault? {names : BindingNames} {values : BindingValues}
    (fits : fault? names values = none) :
    match names with
    | .scalar _ => ∃ value, values = .scalar value
    | .sequence _ => ∃ sent, values = .sequence sent
    | .relation _ => ∃ rows, values = .relation rows := by
  cases names with
  | scalar name =>
      cases values with
      | scalar value => exact ⟨value, rfl⟩
      | sequence _ | relation _ => cases fits
  | sequence names =>
      cases values with
      | sequence sent => exact ⟨sent, rfl⟩
      | scalar _ | relation _ => cases fits
  | relation names =>
      cases values with
      | relation rows => exact ⟨rows, rfl⟩
      | scalar _ | sequence _ => cases fits

/-- Values of one shape can be told from the way they are sent. -/
theorem values_eq_of_fragment {names : BindingNames} {left right : BindingValues}
    (leftFits : fault? names left = none) (rightFits : fault? names right = none)
    (same : valuesFragment left = valuesFragment right) : left = right := by
  have leftShape := shape_of_fault? leftFits
  have rightShape := shape_of_fault? rightFits
  cases names with
  | scalar name =>
      obtain ⟨value, rfl⟩ := leftShape
      obtain ⟨other, rfl⟩ := rightShape
      rw [endsApart_quote.injective same]
  | sequence names =>
      obtain ⟨values, rfl⟩ := leftShape
      obtain ⟨others, rfl⟩ := rightShape
      rw [(endsApart_bracketed endsApart_quote).injective same]
  | relation names =>
      obtain ⟨rows, rfl⟩ := leftShape
      obtain ⟨others, rfl⟩ := rightShape
      rw [(endsApart_bracketed (endsApart_bracketed endsApart_quote)).injective same]

/-- Bindings of the same names send the same text only if they were given the same values, whatever
quotes, backslashes, blanks or brackets these hold and however many there are. -/
theorem valuesText_eq_iff {names : BindingNames} {values others : BindingValues}
    {left right : Binding} (leftAccepted : create names values = .ok left)
    (rightAccepted : create names others = .ok right) :
    left.valuesText = right.valuesText ↔ values = others := by
  obtain ⟨leftFits, rfl⟩ := (create_eq_ok_iff names values left).mp leftAccepted
  obtain ⟨rightFits, rfl⟩ := (create_eq_ok_iff names others right).mp rightAccepted
  rw [valuesText, valuesText, String.append_left_inj, String.append_right_inj]
  exact ⟨values_eq_of_fragment leftFits rightFits, fun same => by rw [same]⟩

/-- Behind a backslash the closing quote of the first value might as well belong to it. -/
theorem valuesText_eq_iff_backslash :
    ∃ left right, create (.sequence ["?x", "..."]) (.sequence ["a\\", " \"b"]) = .ok left ∧
      create (.sequence ["?x", "..."]) (.sequence ["a\" \" \"b"]) = .ok right ∧
      left.valuesText = ":in-args [[\"a\\\" \" \\\"b\"]]" ∧
      left.valuesText ≠ right.valuesText := by
  have leftAccepted : create (.sequence ["?x", "..."]) (.sequence ["a\\", " \"b"]) = .ok _ := rfl
  have rightAccepted : create (.sequence ["?x", "..."]) (.sequence ["a\" \" \"b"]) = .ok _ := rfl
  have apart : BindingValues.sequence ["a\\", " \"b"] ≠ .sequence ["a\" \" \"b"] := by decide
  exact ⟨_, _, leftAccepted, rightAccepted, by decide,
    fun same => apart ((valuesText_eq_iff leftAccepted rightAccepted).mp same)⟩

end Binding

end Bitemporal
