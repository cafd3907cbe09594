/-
This file shows which texts a reader gets back from their literals.
-/
import Bitemporal.Proofs.Edn.Form
import Bitemporal.Sample.Schema
import Bitemporal.TypedQuery

namespace Bitemporal.Edn

/-- What a character behind a backslash stands for; a reader may refuse some of them. -/
structure Escapes where
  meaning? : Char → Option Char
  ofBackslash : meaning? '\\' = some '\\'
  ofQuote : meaning? '"' = some '"'

namespace Escapes

variable (escapes : Escapes)

/-- The value of a literal whose opening quote has been read, and the text behind its closing one.
A backslash in front escapes the first character. -/
def body? (escaped : Bool) : List Char → Option (List Char × List Char)
  | [] => none
  | character :: rest =>
      if escaped then do
        let meaning ← escapes.meaning? character
        let (value, behind) ← body? false rest
        return (meaning :: value, behind)
      else if character = '"' then some ([], rest)
      else if character = '\\' then body? true rest
      else (body? false rest).map fun (value, behind) => (character :: value, behind)

/-- The value of the literal that a text starts with, and the text behind it. -/
def read? (text : String) : Option (String × String) :=
  match text.toList with
  | '"' :: rest =>
      (escapes.body? false rest).map fun (value, behind) =>
        (String.ofList value, String.ofList behind)
  | _ => none

/-! ## One character -/

theorem body?_escaped (character : Char) (rest : List Char) :
    escapes.body? true (character :: rest) =
      (escapes.meaning? character).bind fun meaning =>
        (escapes.body? false rest).map fun (value, behind) => (meaning :: value, behind) := by
  simp only [body?, if_true, Option.bind_eq_bind]
  cases escapes.meaning? character <;> cases escapes.body? false rest <;> rfl

theorem body?_closing (rest : List Char) :
    escapes.body? false ('"' :: rest) = some ([], rest) := by
  simp [body?]

theorem body?_backslash (rest : List Char) :
    escapes.body? false ('\\' :: rest) = escapes.body? true rest := by
  simp [body?]

theorem body?_plain {character : Char} (unquoted : character ≠ '"')
    (unescaped : character ≠ '\\') (rest : List Char) :
    escapes.body? false (character :: rest) =
      (escapes.body? false rest).map fun (value, behind) => (character :: value, behind) := by
  simp [body?, unquoted, unescaped]

/-- The closing quote is left behind. -/
theorem length_behind_lt {escaped : Bool} {text value behind : List Char}
    (read : escapes.body? escaped text = some (value, behind)) :
    behind.length < text.length := by
  induction text generalizing escaped value with
  | nil => simp [body?] at read
  | cons character rest inductionHypothesis =>
      rw [List.length_cons]
      cases escaped with
      | true =>
          rw [body?_escaped] at read
          obtain ⟨meaning, _, later⟩ := Option.bind_eq_some_iff.mp read
          obtain ⟨⟨inner, _⟩, readLater, same⟩ := Option.map_eq_some_iff.mp later
          cases same
          exact Nat.lt_succ_of_lt (inductionHypothesis readLater)
      | false =>
          by_cases closing : character = '"'
          · subst closing
            rw [body?_closing] at read
            cases read
            exact Nat.lt_succ_self _
          by_cases backslash : character = '\\'
          · subst backslash
            rw [body?_backslash] at read
            exact Nat.lt_succ_of_lt (inductionHypothesis read)
          · rw [body?_plain escapes closing backslash] at read
            obtain ⟨⟨inner, _⟩, readLater, same⟩ := Option.map_eq_some_iff.mp read
            cases same
            exact Nat.lt_succ_of_lt (inductionHypothesis readLater)

/-! ## Literals of values -/

/-- The reader takes exactly the literal of a value for a literal, of whatever other value. -/
def Closes (escaped : Bool) (value rest other : List Char) : Prop :=
  escapes.body? escaped (value.flatMap literalCharacters ++ '"' :: rest) = some (other, rest)

variable {rest : List Char}

theorem length_rest_lt (value rest : List Char) :
    rest.length < (value.flatMap literalCharacters ++ '"' :: rest).length := by
  rw [List.length_append, List.length_cons]
  omega

theorem closes_nil {other : List Char} : escapes.Closes false [] rest other ↔ other = [] := by
  rw [Closes, List.flatMap_nil, List.nil_append, body?_closing, Option.some_inj, Prod.mk.injEq]
  exact ⟨fun same => same.1.symm, fun same => ⟨same.symm, rfl⟩⟩

/-- A character comes in front of what is read behind it. -/
theorem map_cons_eq_some_iff {read : Option (List Char × List Char)} {character : Char}
    {other behind : List Char} :
    (read.map fun (value, behind) => (character :: value, behind)) = some (other, behind) ↔
      ∃ later, other = character :: later ∧ read = some (later, behind) := by
  simp only [Option.map_eq_some_iff, Prod.exists, Prod.mk.injEq]
  constructor
  · rintro ⟨later, left, rfl, rfl, rfl⟩
    exact ⟨later, rfl, rfl⟩
  · rintro ⟨later, rfl, rfl⟩
    exact ⟨later, behind, rfl, rfl, rfl⟩

/-- An escaped closing quote does not close the literal. -/
theorem not_closes_escaped_nil {other : List Char} : ¬ escapes.Closes true [] rest other := by
  intro closes
  rw [Closes, List.flatMap_nil, List.nil_append, body?_escaped, escapes.ofQuote,
    Option.bind_some] at closes
  obtain ⟨_, _, read⟩ := map_cons_eq_some_iff.mp closes
  exact absurd (escapes.length_behind_lt read) (Nat.lt_irrefl _)

/-- The backslash that should escape a quote is escaped itself, and the quote closes the literal. -/
theorem not_closes_escaped_quote {value other : List Char} :
    ¬ escapes.Closes true ('"' :: value) rest other := by
  intro closes
  have closed : escapes.body? true (('"' :: value).flatMap literalCharacters ++ '"' :: rest) =
      some (['\\'], value.flatMap literalCharacters ++ '"' :: rest) := by
    show escapes.body? true ('\\' :: '"' :: (value.flatMap literalCharacters ++ '"' :: rest)) = _
    rw [body?_escaped, escapes.ofBackslash, Option.bind_some, body?_closing]
    rfl
  rw [Closes, closed, Option.some_inj, Prod.mk.injEq] at closes
  exact absurd (congrArg List.length closes.2) (Nat.ne_of_gt (length_rest_lt value rest))

theorem closes_quote {value other : List Char} :
    escapes.Closes false ('"' :: value) rest other ↔
      ∃ later, other = '"' :: later ∧ escapes.Closes false value rest later := by
  have step : escapes.body? false (('"' :: value).flatMap literalCharacters ++ '"' :: rest) =
      (escapes.body? false (value.flatMap literalCharacters ++ '"' :: rest)).map
        fun (inner, behind) => ('"' :: inner, behind) := by
    show escapes.body? false ('\\' :: '"' :: (value.flatMap literalCharacters ++ '"' :: rest)) = _
    rw [body?_backslash, body?_escaped, escapes.ofQuote, Option.bind_some]
  rw [Closes, step, map_cons_eq_some_iff]
  rfl

theorem flatMap_cons_of_ne {character : Char} (unquoted : character ≠ '"') (value : List Char) :
    (character :: value).flatMap literalCharacters ++ '"' :: rest =
      character :: (value.flatMap literalCharacters ++ '"' :: rest) := by
  simp [literalCharacters, unquoted]

theorem closes_backslash {value other : List Char} :
    escapes.Closes false ('\\' :: value) rest other ↔ escapes.Closes true value rest other := by
  rw [Closes, flatMap_cons_of_ne (by decide), body?_backslash, Closes]

theorem closes_plain {character : Char} (unquoted : character ≠ '"')
    (unescaped : character ≠ '\\') {value other : List Char} :
    escapes.Closes false (character :: value) rest other ↔
      ∃ later, other = character :: later ∧ escapes.Closes false value rest later := by
  rw [Closes, flatMap_cons_of_ne unquoted, body?_plain escapes unquoted unescaped,
    map_cons_eq_some_iff]
  rfl

theorem closes_escaped {character : Char} (unquoted : character ≠ '"')
    {value other : List Char} :
    escapes.Closes true (character :: value) rest other ↔
      ∃ meaning later, escapes.meaning? character = some meaning ∧ other = meaning :: later ∧
        escapes.Closes false value rest later := by
  simp only [Closes, flatMap_cons_of_ne unquoted, body?_escaped, Option.bind_eq_some_iff,
    map_cons_eq_some_iff, exists_and_left]

/-! ## Reading back the same value -/

/-- Reading never makes a value longer. -/
theorem length_le_of_closes {escaped : Bool} {value other : List Char}
    (closes : escapes.Closes escaped value rest other) : other.length ≤ value.length := by
  induction value generalizing escaped other with
  | nil =>
      cases escaped with
      | true => exact absurd closes escapes.not_closes_escaped_nil
      | false => exact ((escapes.closes_nil).mp closes) ▸ Nat.le_refl _
  | cons character value inductionHypothesis =>
      rw [List.length_cons]
      by_cases quoted : character = '"'
      · subst quoted
        cases escaped with
        | true => exact absurd closes escapes.not_closes_escaped_quote
        | false =>
            obtain ⟨later, rfl, closesLater⟩ := (escapes.closes_quote).mp closes
            exact Nat.succ_le_succ (inductionHypothesis closesLater)
      cases escaped with
      | true =>
          obtain ⟨meaning, later, _, rfl, closesLater⟩ := (escapes.closes_escaped quoted).mp closes
          exact Nat.succ_le_succ (inductionHypothesis closesLater)
      | false =>
          by_cases backslash : character = '\\'
          · subst backslash
            have closesLater := (escapes.closes_backslash).mp closes
            exact Nat.le_succ_of_le (inductionHypothesis closesLater)
          · obtain ⟨later, rfl, closesLater⟩ := (escapes.closes_plain quoted backslash).mp closes
            exact Nat.succ_le_succ (inductionHypothesis closesLater)

/-- A value comes back exactly if it has no backslash. -/
theorem closes_self_iff {value : List Char} :
    escapes.Closes false value rest value ↔ '\\' ∉ value := by
  induction value with
  | nil => simp [closes_nil]
  | cons character value inductionHypothesis =>
      by_cases backslash : character = '\\'
      · subst backslash
        rw [closes_backslash]
        refine ⟨fun closes => ?_, fun none => absurd List.mem_cons_self none⟩
        -- the backslash is gone, and what is left is too short for the value
        have bound := escapes.length_le_of_closes closes
        rw [List.length_cons] at bound
        omega
      have first : '\\' ∉ character :: value ↔ '\\' ∉ value := by
        simp [Ne.symm backslash]
      rw [first, ← inductionHypothesis]
      by_cases quoted : character = '"'
      · subst quoted
        simp [closes_quote]
      · simp [closes_plain escapes quoted backslash]

end Escapes

/-! ## Runs of backslashes -/

/-- The length of the run of backslashes at the end of some characters. -/
def finalBackslashes (characters : List Char) : Nat :=
  (characters.reverse.takeWhile (· == '\\')).length

theorem finalBackslashes_backslash (front : List Char) :
    finalBackslashes (front ++ ['\\']) = finalBackslashes front + 1 := by
  simp [finalBackslashes]

theorem finalBackslashes_of_ne {character : Char} (other : character ≠ '\\')
    (front : List Char) : finalBackslashes (front ++ [character]) = 0 := by
  simp [finalBackslashes, other]

/-- Behind this front, the run in front of every quote and the one at the end are even. -/
def EvenRuns (front value : List Char) : Prop :=
  ∀ before after, value = before ++ after → (∀ first ∈ after.head?, first = '"') →
    finalBackslashes (front ++ before) % 2 = 0

theorem evenRuns_nil {front : List Char} :
    EvenRuns front [] ↔ finalBackslashes front % 2 = 0 := by
  constructor
  · intro even
    simpa using even [] [] rfl (by simp)
  · intro even before after split _
    obtain ⟨rfl, rfl⟩ := List.append_eq_nil_iff.mp split.symm
    simpa using even

theorem evenRuns_cons {front value : List Char} {character : Char} :
    EvenRuns front (character :: value) ↔
      (character = '"' → finalBackslashes front % 2 = 0) ∧
        EvenRuns (front ++ [character]) value := by
  constructor
  · intro even
    constructor
    · rintro rfl
      simpa using even [] ('"' :: value) rfl (by simp)
    · intro before after split quoted
      simpa using even (character :: before) after (by simp [split]) quoted
  · rintro ⟨here, later⟩ before after split quoted
    cases before with
    | nil =>
        rw [List.nil_append] at split
        subst split
        simpa using here (quoted character rfl)
    | cons first before =>
        rw [List.cons_append, List.cons.injEq] at split
        obtain ⟨rfl, split⟩ := split
        simpa using later before after split quoted

/-- A run is even where its last backslash escapes nothing. -/
theorem eq_false_iff_even {escaped : Bool} {count : Nat}
    (state : escaped = decide (count % 2 = 1)) : escaped = false ↔ count % 2 = 0 := by
  rw [state, decide_eq_false_iff_not]
  omega

namespace Escapes

variable (escapes : Escapes) {rest : List Char}

theorem exists_closes_quote {escaped : Bool} {value : List Char} :
    (∃ other, escapes.Closes escaped ('"' :: value) rest other) ↔
      escaped = false ∧ ∃ other, escapes.Closes false value rest other := by
  cases escaped with
  | true => simp [not_closes_escaped_quote]
  | false =>
      simp only [closes_quote, true_and]
      constructor
      · rintro ⟨_, later, _, closes⟩
        exact ⟨later, closes⟩
      · rintro ⟨later, closes⟩
        exact ⟨_, later, rfl, closes⟩

theorem exists_closes_cons (total : ∀ character, (escapes.meaning? character).isSome)
    {escaped : Bool} {value : List Char} {character : Char} (unquoted : character ≠ '"') :
    (∃ other, escapes.Closes escaped (character :: value) rest other) ↔
      ∃ other, escapes.Closes (character == '\\' && !escaped) value rest other := by
  cases escaped with
  | true =>
      simp only [closes_escaped escapes unquoted, Bool.not_true, Bool.and_false]
      constructor
      · rintro ⟨_, _, later, _, _, closes⟩
        exact ⟨later, closes⟩
      · rintro ⟨later, closes⟩
        obtain ⟨meaning, stands⟩ := Option.isSome_iff_exists.mp (total character)
        exact ⟨_, meaning, later, stands, rfl, closes⟩
  | false =>
      by_cases backslash : character = '\\'
      · subst backslash
        exact exists_congr fun other => escapes.closes_backslash
      · simp only [closes_plain escapes unquoted backslash, beq_false_of_ne backslash,
          Bool.false_and]
        constructor
        · rintro ⟨_, later, _, closes⟩
          exact ⟨later, closes⟩
        · rintro ⟨later, closes⟩
          exact ⟨_, later, rfl, closes⟩

/-- Where no escape is refused, the literal closes at its own end if all these runs are even. -/
theorem exists_closes_iff (total : ∀ character, (escapes.meaning? character).isSome)
    {escaped : Bool} {front value : List Char}
    (state : escaped = decide (finalBackslashes front % 2 = 1)) :
    (∃ other, escapes.Closes escaped value rest other) ↔ EvenRuns front value := by
  induction value generalizing escaped front with
  | nil =>
      rw [evenRuns_nil, ← eq_false_iff_even state]
      cases escaped with
      | true => simp [not_closes_escaped_nil]
      | false => simp [closes_nil]
  | cons character value inductionHypothesis =>
      rw [evenRuns_cons]
      by_cases quoted : character = '"'
      · subst quoted
        have next : false = decide (finalBackslashes (front ++ ['"']) % 2 = 1) := by
          rw [finalBackslashes_of_ne (by decide)]
          rfl
        rw [exists_closes_quote, inductionHypothesis next, eq_false_iff_even state]
        simp
      have next : (character == '\\' && !escaped) =
          decide (finalBackslashes (front ++ [character]) % 2 = 1) := by
        by_cases backslash : character = '\\'
        · subst backslash
          rw [finalBackslashes_backslash, state]
          by_cases odd : finalBackslashes front % 2 = 1
          · simp [odd]
            omega
          · simp [odd]
            omega
        · simp [finalBackslashes_of_ne backslash, backslash]
      rw [exists_closes_cons escapes total quoted, inductionHypothesis next]
      simp [quoted]

/-! ## Literals -/

theorem read?_quote_eq_some_iff {value rest other : String} :
    escapes.read? (quote value ++ rest) = some (other, rest) ↔
      escapes.Closes false value.toList rest.toList other.toList := by
  have literal : (quote value ++ rest).toList =
      '"' :: (value.toList.flatMap literalCharacters ++ '"' :: rest.toList) := by
    simp [quote]
  rw [read?, literal, Closes]
  simp only [Option.map_eq_some_iff, Prod.exists, Prod.mk.injEq]
  constructor
  · rintro ⟨inner, behind, read, rfl, rfl⟩
    simpa using read
  · intro read
    exact ⟨_, _, read, String.ofList_toList, String.ofList_toList⟩

/-- A text comes back from its literal exactly if it has no backslash. The literal ends where it
should exactly if an even number of backslashes stands in front of each quote and at the end. -/
theorem read?_quote_iff (value rest : String) :
    (escapes.read? (quote value ++ rest) = some (value, rest) ↔ '\\' ∉ value.toList) ∧
      ((∀ character, (escapes.meaning? character).isSome) →
        ((∃ other, escapes.read? (quote value ++ rest) = some (other, rest)) ↔
          EvenRuns [] value.toList)) := by
  constructor
  · rw [read?_quote_eq_some_iff, closes_self_iff]
  · intro total
    have runs : (∃ other, escapes.Closes false value.toList rest.toList other) ↔
        EvenRuns [] value.toList := escapes.exists_closes_iff total rfl
    rw [← runs]
    simp only [read?_quote_eq_some_iff]
    constructor
    · rintro ⟨other, closes⟩
      exact ⟨other.toList, closes⟩
    · rintro ⟨other, closes⟩
      refine ⟨String.ofList other, ?_⟩
      rwa [String.toList_ofList]

/-- Every character behind a backslash stands for itself. -/
def literal : Escapes := ⟨some, rfl, rfl⟩

/-- Escaped quotes come back, and an even run in front of a quote does not end the literal early. -/
theorem read?_quote_iff_runs :
    literal.read? (quote "a \" b" ++ " ]") = some ("a \" b", " ]") ∧
      (∀ character, (literal.meaning? character).isSome) ∧
      ∃ other, literal.read? (quote "\\\\\"" ++ " ]") = some (other, " ]") := by
  have total : ∀ character, (literal.meaning? character).isSome := fun _ => rfl
  have even : EvenRuns [] "\\\\\"".toList := by
    simp [evenRuns_cons, evenRuns_nil, finalBackslashes]
  exact ⟨(literal.read?_quote_iff "a \" b" " ]").1.mpr (by decide), total,
    ((literal.read?_quote_iff "\\\\\"" " ]").2 total).mpr even⟩

/-- A literal whose value ends with a backslash does not end, and a backslash in front of a quote
lets what is behind it out of the literal. -/
theorem read?_quote_backslash :
    (TypedQuery.fieldPattern Sample.country "name" (.string "\\")).text true " " =
        ":where [[ Country :Country/name " ++ quote "\\" ++ " ]]" ∧
      literal.read? (quote "\\" ++ " ]]") = none ∧
      literal.read? (quote "\\\" :limit 0") = some ("\\", " :limit 0\"") := by
  exact ⟨by decide, by decide, by decide⟩

end Escapes

end Bitemporal.Edn
