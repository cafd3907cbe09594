/-
This file says which forms a text writes, wherever in a larger text it stands.
-/
import Bitemporal.Proofs.Edn.Form
import Mathlib.Data.List.Basic

namespace Bitemporal.Edn

open Reading

/-- Reading the text inside any group adds these forms, the last of which may be unfinished. -/
def Written (text : String) (forms : List Form) : Prop :=
  ∀ outer earlier, ∃ later atom,
    text.toList.foldlM step? ⟨outer, earlier, [], .plain⟩ = some ⟨outer, later, atom, .plain⟩ ∧
      flushed later atom = forms.reverse ++ earlier

/-- A text that starts with a delimiter leaves the atom in front of it alone. -/
def Apart (text : String) : Prop :=
  ∀ first ∈ text.toList.head?, isDelimiter first = true

theorem apart_of_cons {text : String} {first : Char} {rest : List Char}
    (starts : text.toList = first :: rest) (delimiter : isDelimiter first = true) : Apart text := by
  intro other found
  rw [starts, List.head?_cons, Option.mem_some_iff] at found
  exact found ▸ delimiter

theorem apart_blank {text : String} (blank : Blank.isBlankText text = true) : Apart text := by
  intro first found
  have member : first ∈ text.toList := List.mem_of_mem_head? found
  simp only [Blank.isBlankText, List.all_eq_true] at blank
  simp [isDelimiter, blank first member]

theorem Apart.append {left right : String} (leftApart : Apart left) (rightApart : Apart right) :
    Apart (left ++ right) := by
  intro first found
  rw [String.toList_append, List.head?_append] at found
  cases head : left.toList.head? with
  | some other =>
      rw [head, Option.some_or, Option.mem_some_iff] at found
      exact found ▸ leftApart other head
  | none =>
      rw [head, Option.none_or] at found
      exact rightApart first found

theorem apart_intercalate {separator : String} (blank : Blank.isBlankText separator = true)
    {texts : List String} (apart : ∀ text ∈ texts, Apart text) :
    Apart (separator.intercalate texts) := by
  induction texts with
  | nil => exact apart_blank rfl
  | cons text rest inductionHypothesis =>
      have first := apart text List.mem_cons_self
      have later := inductionHypothesis fun other member =>
        apart other (List.mem_cons_of_mem _ member)
      cases rest with
      | nil => simpa using first
      | cons next others =>
          rw [String.intercalate_cons_cons]
          exact (first.append (apart_blank blank)).append later

/-! ## One character -/

@[simp] theorem flushed_nil (forms : List Form) : flushed forms [] = forms := rfl

theorem not_quote_of_isDelimiter {character : Char} (delimiter : isDelimiter character = true) :
    character ≠ '"' := by
  rintro rfl
  revert delimiter
  decide

/-- A delimiter ends the atom in front of it before it does anything else. -/
theorem step?_flushed (outer : List (Bracket × List Form)) (forms : List Form) (atom : List Char)
    {character : Char} (delimiter : isDelimiter character = true) :
    step? ⟨outer, forms, atom, .plain⟩ character =
      step? ⟨outer, flushed forms atom, [], .plain⟩ character := by
  have unquoted := not_quote_of_isDelimiter delimiter
  simp only [isDelimiter, Bool.or_eq_true, Option.isSome_iff_exists] at delimiter
  simp only [step?, plainStep?, unquoted, if_false, flush, flushed_nil]
  rcases delimiter with (blank | ⟨bracket, opened⟩) | ⟨bracket, closed⟩
  · simp [blank]
  · simp [opened]
  · cases Bracket.opened? character <;> simp [closed]

theorem step?_blank (outer : List (Bracket × List Form)) (forms : List Form) {character : Char}
    (blank : Blank.isBlank character = true) :
    step? ⟨outer, forms, [], .plain⟩ character = some ⟨outer, forms, [], .plain⟩ := by
  have unquoted : character ≠ '"' := not_quote_of_isDelimiter (by simp [isDelimiter, blank])
  simp [step?, plainStep?, unquoted, blank, flush]

theorem step?_opening (outer : List (Bracket × List Form)) (forms : List Form)
    (bracket : Bracket) :
    step? ⟨outer, forms, [], .plain⟩ bracket.opening =
      some ⟨(bracket, forms) :: outer, [], [], .plain⟩ := by
  cases bracket <;> rfl

theorem step?_closing (outer : List (Bracket × List Form)) (before forms : List Form)
    (atom : List Char) (bracket : Bracket) :
    step? ⟨(bracket, before) :: outer, forms, atom, .plain⟩ bracket.closing =
      some ⟨outer, .group bracket (flushed forms atom).reverse :: before, [], .plain⟩ := by
  cases bracket <;> rfl

theorem step?_token (outer : List (Bracket × List Form)) (forms : List Form) (atom : List Char)
    {character : Char} (inside : isDelimiter character = false) (unquoted : character ≠ '"') :
    step? ⟨outer, forms, atom, .plain⟩ character =
      some ⟨outer, forms, character :: atom, .plain⟩ := by
  simp only [isDelimiter, Bool.or_eq_false_iff, Option.isSome_eq_false_iff,
    Option.isNone_iff_eq_none] at inside
  obtain ⟨⟨unblank, unopened⟩, unclosed⟩ := inside
  simp [step?, plainStep?, unquoted, unblank, unopened, unclosed, push]

/-! ## Atoms -/

theorem foldlM_token (outer : List (Bracket × List Form)) (forms : List Form) (atom : List Char)
    (characters : List Char)
    (inside : ∀ character ∈ characters, isDelimiter character = false ∧ character ≠ '"') :
    characters.foldlM step? ⟨outer, forms, atom, .plain⟩ =
      some ⟨outer, forms, characters.reverse ++ atom, .plain⟩ := by
  induction characters generalizing atom with
  | nil => rfl
  | cons character rest inductionHypothesis =>
      obtain ⟨undelimited, unquoted⟩ := inside character (List.mem_cons_self)
      rw [List.foldlM_cons, step?_token outer forms atom undelimited unquoted]
      simp only [Option.bind_eq_bind, Option.bind_some]
      rw [inductionHypothesis _ fun other member => inside other (List.mem_cons_of_mem _ member)]
      simp

/-- Inside a literal a quote is read behind its backslash, and nothing else is escaped. -/
theorem foldlM_literalCharacters (outer : List (Bracket × List Form)) (forms : List Form)
    (atom : List Char) {character : Char} (unescaped : character ≠ '\\') :
    (literalCharacters character).foldlM step? ⟨outer, forms, atom, .quoted⟩ =
      some ⟨outer, forms, (literalCharacters character).reverse ++ atom, .quoted⟩ := by
  by_cases quoted : character = '"'
  · subst quoted
    rfl
  · simp [literalCharacters, quoted, step?, quotedMode, unescaped, push]

theorem foldlM_literalBody (outer : List (Bracket × List Form)) (forms : List Form)
    (atom : List Char) (value : List Char) (unescaped : '\\' ∉ value) :
    (value.flatMap literalCharacters).foldlM step? ⟨outer, forms, atom, .quoted⟩ =
      some ⟨outer, forms, (value.flatMap literalCharacters).reverse ++ atom, .quoted⟩ := by
  induction value generalizing atom with
  | nil => rfl
  | cons character rest inductionHypothesis =>
      rw [List.mem_cons, not_or] at unescaped
      rw [List.flatMap_cons, List.foldlM_append,
        foldlM_literalCharacters outer forms atom (Ne.symm unescaped.1)]
      simp only [Option.bind_eq_bind, Option.bind_some]
      rw [inductionHypothesis _ unescaped.2]
      simp

/-- The characters of an atom go on with what was read of it before. -/
theorem foldlM_atom (outer : List (Bracket × List Form)) (forms : List Form) (atom : List Char)
    {text : String} (isAtom : IsAtom text) :
    text.toList.foldlM step? ⟨outer, forms, atom, .plain⟩ =
      some ⟨outer, forms, text.toList.reverse ++ atom, .plain⟩ := by
  rcases isAtom with token | ⟨value, unescaped, rfl⟩
  · exact foldlM_token outer forms atom text.toList token.2
  · have opening : step? ⟨outer, forms, atom, .plain⟩ '"' =
        some ⟨outer, forms, '"' :: atom, .quoted⟩ := rfl
    have closing (read : List Char) : step? ⟨outer, forms, read, .quoted⟩ '"' =
        some ⟨outer, forms, '"' :: read, .plain⟩ := rfl
    rw [quote, String.toList_ofList, List.cons_append, List.foldlM_cons, opening]
    simp only [Option.bind_eq_bind, Option.bind_some]
    rw [List.foldlM_append, foldlM_literalBody outer forms _ _ unescaped]
    simp [closing]

theorem IsAtom.toList_ne_nil {text : String} (isAtom : IsAtom text) : text.toList ≠ [] := by
  rcases isAtom with token | ⟨value, _, rfl⟩
  · exact token.1
  · simp [quote]

/-- An atom that starts with token characters is one form with them. -/
theorem written_marked_atom (mark : String) {text : String} (isAtom : IsAtom text)
    (inside : ∀ character ∈ mark.toList, isDelimiter character = false ∧ character ≠ '"') :
    Written (mark ++ text) [.atom (mark ++ text)] := by
  intro outer earlier
  refine ⟨earlier, (mark ++ text).toList.reverse, ?_, ?_⟩
  · rw [String.toList_append, List.foldlM_append, foldlM_token outer earlier [] _ inside]
    simp only [Option.bind_eq_bind, Option.bind_some]
    rw [foldlM_atom outer earlier _ isAtom]
    simp
  · have nonempty : text ≠ "" := fun empty => isAtom.toList_ne_nil (by simp [empty])
    simp [flushed, nonempty]

theorem written_atom {text : String} (isAtom : IsAtom text) : Written text [.atom text] := by
  simpa using written_marked_atom "" isAtom (by simp)

/-! ## Texts of several forms -/

theorem written_empty : Written "" [] := fun _ earlier => ⟨earlier, [], rfl, rfl⟩

theorem Written.forms_eq_nil {forms : List Form} (written : Written "" forms) : forms = [] := by
  obtain ⟨later, atom, read, flushes⟩ := written [] []
  have same : later = [] ∧ atom = [] := by
    simpa [eq_comm] using read
  simpa [same] using flushes

theorem foldlM_blank (outer : List (Bracket × List Form)) (forms : List Form) {text : String}
    (blank : Blank.isBlankText text = true) :
    text.toList.foldlM step? ⟨outer, forms, [], .plain⟩ = some ⟨outer, forms, [], .plain⟩ := by
  simp only [Blank.isBlankText, List.all_eq_true] at blank
  revert blank
  induction text.toList with
  | nil => exact fun _ => rfl
  | cons character rest inductionHypothesis =>
      intro blank
      rw [List.foldlM_cons, step?_blank outer forms (blank character List.mem_cons_self)]
      exact inductionHypothesis fun other member => blank other (List.mem_cons_of_mem _ member)

/-- Blanks write nothing. -/
theorem written_blank {text : String} (blank : Blank.isBlankText text = true) : Written text [] :=
  fun outer earlier => ⟨earlier, [], foldlM_blank outer earlier blank, rfl⟩

theorem Written.after_blank {text : String} {forms : List Form} (written : Written text forms)
    {blank : String} (isBlank : Blank.isBlankText blank = true) :
    Written (blank ++ text) forms := by
  intro outer earlier
  obtain ⟨later, atom, read, flushes⟩ := written outer earlier
  refine ⟨later, atom, ?_, flushes⟩
  rw [String.toList_append, List.foldlM_append, foldlM_blank outer earlier isBlank]
  exact read

/-- The forms of two texts follow one another if a delimiter stands between them. -/
theorem Written.append {left right : String} {leftForms rightForms : List Form}
    (leftWritten : Written left leftForms) (rightWritten : Written right rightForms)
    (apart : Apart right) : Written (left ++ right) (leftForms ++ rightForms) := by
  intro outer earlier
  obtain ⟨later, atom, leftRead, leftFlushes⟩ := leftWritten outer earlier
  rw [String.toList_append, List.foldlM_append, leftRead]
  simp only [Option.bind_eq_bind, Option.bind_some]
  cases characters : right.toList with
  | nil =>
      obtain rfl : right = "" := String.toList_eq_nil_iff.mp characters
      obtain rfl := rightWritten.forms_eq_nil
      exact ⟨later, atom, rfl, by simpa using leftFlushes⟩
  | cons first rest =>
      have delimiter : isDelimiter first = true := apart first (by simp [characters])
      rw [List.foldlM_cons, step?_flushed outer later atom delimiter, ← List.foldlM_cons,
        ← characters]
      obtain ⟨last, lastAtom, rightRead, rightFlushes⟩ := rightWritten outer (flushed later atom)
      exact ⟨last, lastAtom, rightRead, by simp [rightFlushes, leftFlushes]⟩

/-- A text in brackets is one form, and it stands apart from what is in front of it. -/
theorem Written.enclosed {text whole : String} {items : List Form} (written : Written text items)
    (bracket : Bracket)
    (spelled : whole.toList = bracket.opening :: text.toList ++ [bracket.closing]) :
    Apart whole ∧ Written whole [.group bracket items] := by
  refine ⟨apart_of_cons spelled (by cases bracket <;> decide), fun outer earlier => ?_⟩
  obtain ⟨later, atom, read, flushes⟩ := written ((bracket, earlier) :: outer) []
  refine ⟨.group bracket items :: earlier, [], ?_, rfl⟩
  rw [spelled, List.foldlM_append, List.foldlM_cons, step?_opening]
  simp only [Option.bind_eq_bind, Option.bind_some]
  rw [read]
  simp only [Option.bind_some, List.foldlM_cons, List.foldlM_nil]
  rw [step?_closing, flushes]
  simp

/-- Texts that start with delimiters may be joined by any blanks. -/
theorem written_intercalate {separator : String} (blank : Blank.isBlankText separator = true)
    {texts : List String} {forms : List Form}
    (written : List.Forall₂ (fun text form => Written text [form]) texts forms)
    (apart : ∀ text ∈ texts, Apart text) : Written (separator.intercalate texts) forms := by
  induction written with
  | nil => exact written_empty
  | @cons text form texts forms first rest inductionHypothesis =>
      have laterApart : ∀ other ∈ texts, Apart other := fun other member =>
        apart other (List.mem_cons_of_mem _ member)
      cases texts with
      | nil =>
          cases rest
          simpa using first
      | cons next others =>
          rw [String.intercalate_cons_cons]
          have separated : Written (text ++ separator) [form] := by
            simpa using first.append (written_blank blank) (apart_blank blank)
          exact separated.append (inductionHypothesis laterApart)
            (apart_intercalate blank laterApart)

/-- Atoms with a blank in front of each. -/
def spaced (atoms : List String) : String := String.join (atoms.map fun atom => " " ++ atom)

theorem spaced_cons (atom : String) (atoms : List String) :
    spaced (atom :: atoms) = " " ++ atom ++ spaced atoms := by
  simp [spaced]

theorem apart_blank_append (text : String) : Apart (" " ++ text) :=
  apart_of_cons (String.toList_append) (by decide)

theorem apart_spaced (atoms : List String) : Apart (spaced atoms) := by
  cases atoms with
  | nil => exact apart_blank rfl
  | cons atom rest =>
      rw [spaced_cons, String.append_assoc]
      exact apart_blank_append _

theorem written_spaced {atoms : List String} (written : ∀ atom ∈ atoms, Written atom [.atom atom]) :
    Written (spaced atoms) (atoms.map .atom) := by
  induction atoms with
  | nil => exact written_empty
  | cons atom rest inductionHypothesis =>
      rw [spaced_cons, List.map_cons]
      exact ((written atom List.mem_cons_self).after_blank rfl).append
        (inductionHypothesis fun other member => written other (List.mem_cons_of_mem _ member))
        (apart_spaced rest)

/-- Reading a whole text gives the forms that it writes. -/
theorem Written.read? {text : String} {forms : List Form} (written : Written text forms) :
    read? text = some forms := by
  obtain ⟨later, atom, reads, flushes⟩ := written [] []
  simp only [Edn.read?, start, reads, Option.bind_some, finish?]
  simp [flushes]

end Bitemporal.Edn
