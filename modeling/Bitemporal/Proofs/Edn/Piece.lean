/-
This file shows that pieces of query text can be told apart where they follow one another.
-/
import Bitemporal.Key.Binding
import Bitemporal.Proofs.Edn.Written
import Bitemporal.Proofs.Text.Digits

namespace Bitemporal.Edn

/-- How many brackets are open, and whether a literal is. -/
structure Outline where
  depth : Nat
  mode : Mode
deriving DecidableEq, Repr

namespace Outline

/-- Nothing is open. -/
def start : Outline := ⟨0, .plain⟩

/-- Outside of literals a blank needs an open bracket, and so does a closing one. -/
def plainStep? (depth : Nat) (character : Char) : Option Outline :=
  if character = '"' then some ⟨depth, .quoted⟩
  else if Blank.isBlank character then if depth = 0 then none else some ⟨depth, .plain⟩
  else if (Bracket.opened? character).isSome then some ⟨depth + 1, .plain⟩
  else if (Bracket.closed? character).isSome then
    if depth = 0 then none else some ⟨depth - 1, .plain⟩
  else some ⟨depth, .plain⟩

/-- One more character of the same piece. -/
def step? (outline : Outline) (character : Char) : Option Outline :=
  match outline.mode with
  | .plain => plainStep? outline.depth character
  | .quoted => some ⟨outline.depth, Reading.quotedMode character⟩
  | .escaped => some ⟨outline.depth, .quoted⟩

/-- The same inside of more brackets. -/
def deepen (outer : Nat) (outline : Outline) : Outline := ⟨outline.depth + outer, outline.mode⟩

/-- Brackets around a piece do not matter outside of its literals. -/
theorem plainStep?_deepen (outer : Nat) {depth : Nat} {next : Outline} {character : Char}
    (read : plainStep? depth character = some next) :
    plainStep? (depth + outer) character = some (next.deepen outer) := by
  unfold plainStep? at read ⊢
  split at read
  · next quoted =>
      cases read
      rw [if_pos quoted]
      rfl
  next unquoted =>
  rw [if_neg unquoted]
  split at read
  · next blank =>
      split at read
      · cases read
      · next inside =>
          cases read
          rw [if_pos blank, if_neg (by omega)]
          rfl
  next unblank =>
  rw [if_neg unblank]
  split at read
  · next opens =>
      cases read
      rw [if_pos opens, Nat.add_right_comm]
      rfl
  next unopened =>
  rw [if_neg unopened]
  split at read
  · next closes =>
      split at read
      · cases read
      · next inside =>
          cases read
          rw [if_pos closes, if_neg (by omega), Nat.sub_add_comm (by omega)]
          rfl
  · next unclosed =>
      cases read
      rw [if_neg unclosed]
      rfl

/-- Brackets around a piece do not matter to it. -/
theorem step?_deepen (outer : Nat) {outline next : Outline} {character : Char}
    (stepped : outline.step? character = some next) :
    (outline.deepen outer).step? character = some (next.deepen outer) := by
  obtain ⟨depth, mode⟩ := outline
  cases mode with
  | plain => exact plainStep?_deepen outer stepped
  | quoted | escaped =>
      cases stepped
      rfl

theorem foldlM_deepen (outer : Nat) {outline next : Outline} {characters : List Char}
    (read : characters.foldlM step? outline = some next) :
    characters.foldlM step? (outline.deepen outer) = some (next.deepen outer) := by
  induction characters generalizing outline with
  | nil =>
      cases read
      rfl
  | cons character rest inductionHypothesis =>
      rw [List.foldlM_cons] at read ⊢
      obtain ⟨middle, stepped, later⟩ := Option.bind_eq_some_iff.mp read
      rw [step?_deepen outer stepped]
      exact inductionHypothesis later

end Outline

/-- A piece goes on until a blank or a closing bracket that belongs to none of its own: it is an
atom, a text in brackets or several of these without blanks between them. -/
def IsPiece (text : String) : Prop :=
  text.toList ≠ [] ∧ text.toList.foldlM Outline.step? .start = some .start

instance (text : String) : Decidable (IsPiece text) := inferInstanceAs (Decidable (_ ∧ _))

/-- Inside of brackets the text leaves as many of them open as it found. -/
def Balanced (text : String) : Prop :=
  text.toList.foldlM Outline.step? ⟨1, .plain⟩ = some ⟨1, .plain⟩

instance (text : String) : Decidable (Balanced text) := inferInstanceAs (Decidable (_ = _))

/-! ## Texts that are pieces -/

theorem IsPiece.balanced {text : String} (piece : IsPiece text) : Balanced text :=
  Outline.foldlM_deepen 1 piece.2

theorem Balanced.append {left right : String} (leftBalanced : Balanced left)
    (rightBalanced : Balanced right) : Balanced (left ++ right) := by
  rw [Balanced, String.toList_append, List.foldlM_append, leftBalanced]
  exact rightBalanced

/-- A balanced text in brackets is a piece. -/
theorem Balanced.enclosed {text whole : String} (balanced : Balanced text) (bracket : Bracket)
    (spelled : whole.toList = bracket.opening :: text.toList ++ [bracket.closing]) :
    IsPiece whole := by
  have opening : Outline.start.step? bracket.opening = some ⟨1, .plain⟩ := by
    cases bracket <;> rfl
  have closing : Outline.step? ⟨1, .plain⟩ bracket.closing = some .start := by
    cases bracket <;> rfl
  rw [IsPiece, spelled]
  refine ⟨by simp, ?_⟩
  rw [List.foldlM_append, List.foldlM_cons, opening]
  simp only [Option.bind_eq_bind, Option.bind_some]
  rw [show text.toList.foldlM Outline.step? ⟨1, .plain⟩ = some ⟨1, .plain⟩ from balanced]
  simp only [Option.bind_some, List.foldlM_cons, closing]
  rfl

/-- Outside of literals reading opens and closes brackets as their outline says. -/
theorem Reading.plainStep?_outline {reading next : Reading} {character : Char}
    (plain : reading.mode = .plain) (read : reading.plainStep? character = some next) :
    Outline.plainStep? (reading.outer.length + 1) character =
      some ⟨next.outer.length + 1, next.mode⟩ := by
  obtain ⟨outer, forms, atom, mode⟩ := reading
  obtain rfl : mode = .plain := plain
  simp only [Reading.plainStep?] at read
  simp only [Outline.plainStep?]
  split at read
  · next quoted =>
      cases read
      rw [if_pos quoted]
      rfl
  next unquoted =>
  rw [if_neg unquoted]
  split at read
  · next blank =>
      cases read
      rw [if_pos blank]
      rfl
  next unblank =>
  rw [if_neg unblank]
  split at read
  · next opened =>
      cases read
      rw [opened]
      rfl
  · next bracket opened closed =>
      rw [opened, closed]
      cases outer with
      | nil => cases read
      | cons group rest =>
          obtain ⟨open_, before⟩ := group
          simp only [Reading.flush, Reading.leave?] at read
          split at read
          · cases read
            rfl
          · cases read
  · next opened closed =>
      cases read
      rw [opened, closed]
      rfl

/-- Reading forms opens and closes brackets as their outline says. -/
theorem Reading.step?_outline {reading next : Reading} {character : Char}
    (read : reading.step? character = some next) :
    Outline.step? ⟨reading.outer.length + 1, reading.mode⟩ character =
      some ⟨next.outer.length + 1, next.mode⟩ := by
  obtain ⟨outer, forms, atom, mode⟩ := reading
  cases mode with
  | plain => exact Reading.plainStep?_outline rfl read
  | quoted | escaped =>
      cases read
      rfl

theorem Reading.foldlM_outline {reading next : Reading} {characters : List Char}
    (read : characters.foldlM Reading.step? reading = some next) :
    characters.foldlM Outline.step? ⟨reading.outer.length + 1, reading.mode⟩ =
      some ⟨next.outer.length + 1, next.mode⟩ := by
  induction characters generalizing reading with
  | nil =>
      cases read
      rfl
  | cons character rest inductionHypothesis =>
      rw [List.foldlM_cons] at read ⊢
      obtain ⟨middle, stepped, later⟩ := Option.bind_eq_some_iff.mp read
      rw [Reading.step?_outline stepped]
      exact inductionHypothesis later

/-- Forms that are written out are balanced. -/
theorem Written.balanced {text : String} {forms : List Form} (written : Written text forms) :
    Balanced text := by
  obtain ⟨later, atom, read, _⟩ := written [] []
  exact Reading.foldlM_outline read

theorem IsToken.isPiece {text : String} (token : IsToken text) : IsPiece text := by
  refine ⟨token.1, ?_⟩
  have inside := token.2
  revert inside
  induction text.toList with
  | nil => exact fun _ => rfl
  | cons character rest inductionHypothesis =>
      intro inside
      obtain ⟨⟨undelimited, unquoted⟩, later⟩ := List.forall_mem_cons.mp inside
      simp only [isDelimiter, Bool.or_eq_false_iff] at undelimited
      obtain ⟨⟨unblank, unopened⟩, unclosed⟩ := undelimited
      have stepped : Outline.start.step? character = some .start := by
        simp [Outline.step?, Outline.plainStep?, Outline.start, unquoted, unblank, unopened,
          unclosed]
      rw [List.foldlM_cons, stepped]
      exact inductionHypothesis later

/-- The characters of a literal are escaped so that it stays open. -/
theorem foldlM_outline_literalBody {value : List Char} (unescaped : '\\' ∉ value) :
    (value.flatMap literalCharacters).foldlM Outline.step? ⟨0, .quoted⟩ = some ⟨0, .quoted⟩ := by
  induction value with
  | nil => rfl
  | cons character rest inductionHypothesis =>
      rw [List.mem_cons, not_or] at unescaped
      have stepped : (literalCharacters character).foldlM Outline.step? ⟨0, .quoted⟩ =
          some ⟨0, .quoted⟩ := by
        by_cases quoted : character = '"'
        · subst quoted
          rfl
        · simp [literalCharacters, quoted, Outline.step?, Reading.quotedMode,
            Ne.symm unescaped.1]
      rw [List.flatMap_cons, List.foldlM_append, stepped]
      exact inductionHypothesis unescaped.2

theorem isPiece_quote {value : String} (unescaped : '\\' ∉ value.toList) :
    IsPiece (quote value) := by
  have opening : Outline.start.step? '"' = some ⟨0, .quoted⟩ := rfl
  rw [IsPiece, quote, String.toList_ofList]
  refine ⟨by simp, ?_⟩
  rw [List.foldlM_append, List.foldlM_cons, opening]
  simp only [Option.bind_eq_bind, Option.bind_some, foldlM_outline_literalBody unescaped]
  rfl

theorem IsAtom.isPiece {text : String} (isAtom : IsAtom text) : IsPiece text := by
  rcases isAtom with token | ⟨value, unescaped, rfl⟩
  · exact token.isPiece
  · exact isPiece_quote unescaped

theorem balanced_spaced {texts : List String} (balanced : ∀ text ∈ texts, Balanced text) :
    Balanced (spaced texts) := by
  induction texts with
  | nil => rfl
  | cons text rest inductionHypothesis =>
      obtain ⟨first, later⟩ := List.forall_mem_cons.mp balanced
      have blank : Balanced " " := by decide
      rw [spaced_cons]
      exact (blank.append first).append (inductionHypothesis later)

/-- All but the first text follow a blank. -/
theorem intercalate_cons_spaced (first : String) (rest : List String) :
    " ".intercalate (first :: rest) = first ++ spaced rest := by
  induction rest generalizing first with
  | nil => simp [spaced]
  | cons second rest inductionHypothesis =>
      rw [String.intercalate_cons_cons, inductionHypothesis, spaced_cons]
      simp only [String.append_assoc]

theorem balanced_intercalate {texts : List String} (balanced : ∀ text ∈ texts, Balanced text) :
    Balanced (" ".intercalate texts) := by
  rcases texts with _ | ⟨first, rest⟩
  · rfl
  · obtain ⟨firstBalanced, later⟩ := List.forall_mem_cons.mp balanced
    rw [intercalate_cons_spaced]
    exact firstBalanced.append (balanced_spaced later)

theorem isPiece_bracketed {texts : List String} (pieces : ∀ text ∈ texts, IsPiece text) :
    IsPiece (Binding.bracketed texts) :=
  (balanced_intercalate fun text member => (pieces text member).balanced).enclosed .square
    (by simp [Binding.bracketed, Bracket.opening, Bracket.closing])

/-! ## Telling pieces apart -/

/-- No piece goes on with this text. -/
def Stops (text : String) : Prop :=
  ∀ first ∈ text.toList.head?, Outline.start.step? first = none

/-- The text closes a bracket, if there is any. -/
def Closes (text : String) : Prop :=
  ∀ first ∈ text.toList.head?, (Bracket.closed? first).isSome = true

theorem closes_append {text rest : String} (bracket : Bracket)
    (spelled : text.toList = [bracket.closing]) : Closes (text ++ rest) := by
  intro first found
  rw [String.toList_append, spelled, List.singleton_append, List.head?_cons,
    Option.mem_some_iff] at found
  subst found
  cases bracket <;> rfl

theorem Closes.stops {text : String} (closes : Closes text) : Stops text := by
  intro first found
  obtain ⟨bracket, closed⟩ := Option.isSome_iff_exists.mp (closes first found)
  have character : bracket.closing = first := by
    simpa using List.find?_some closed
  subst character
  cases bracket <;> rfl

theorem stops_spaced {texts : List String} {after : String} (closes : Closes after) :
    Stops (spaced texts ++ after) := by
  cases texts with
  | nil => simpa [spaced] using closes.stops
  | cons text rest =>
      intro first found
      rw [spaced_cons] at found
      simp only [String.toList_append] at found
      cases found
      rfl

/-- What stops a piece is no part of a longer one. -/
theorem IsPiece.eq_of_longer {left right after later : String} (leftPiece : IsPiece left)
    (rightPiece : IsPiece right) (stops : Stops after) {more : List Char}
    (longer : right.toList = left.toList ++ more) (rest : after.toList = more ++ later.toList) :
    left = right ∧ after = later := by
  cases more with
  | nil =>
      rw [List.append_nil] at longer
      exact ⟨String.toList_inj.mp longer.symm, String.toList_inj.mp rest⟩
  | cons first others =>
      have stopped : Outline.start.step? first = none := stops first (by rw [rest]; rfl)
      have whole := rightPiece.2
      rw [longer, List.foldlM_append, leftPiece.2] at whole
      simp only [Option.bind_eq_bind, Option.bind_some, List.foldlM_cons, stopped] at whole
      cases whole

/-- A text starts with at most one piece that is stopped. -/
theorem IsPiece.append_inj {left right after later : String} (leftPiece : IsPiece left)
    (rightPiece : IsPiece right) (stops : Stops after) (laterStops : Stops later)
    (same : left ++ after = right ++ later) : left = right ∧ after = later := by
  have characters : left.toList ++ after.toList = right.toList ++ later.toList := by
    rw [← String.toList_append, same, String.toList_append]
  rcases List.append_eq_append_iff.mp characters with
    ⟨more, longer, rest⟩ | ⟨more, longer, rest⟩
  · exact leftPiece.eq_of_longer rightPiece stops longer rest
  · exact (rightPiece.eq_of_longer leftPiece laterStops longer rest).imp Eq.symm Eq.symm

theorem not_closes_spaced (text : String) (rest : List String) (after : String) :
    ¬ Closes (spaced (text :: rest) ++ after) := by
  intro closes
  have blank : (Bracket.closed? ' ').isSome = true := by
    apply closes
    rw [spaced_cons]
    simp only [String.toList_append]
    rfl
  revert blank
  decide

/-- A list of pieces up to the bracket that closes it. -/
theorem spaced_append_inj {left right : List String} (leftPieces : ∀ text ∈ left, IsPiece text)
    (rightPieces : ∀ text ∈ right, IsPiece text) {after later : String} (closes : Closes after)
    (laterCloses : Closes later) (same : spaced left ++ after = spaced right ++ later) :
    left = right ∧ after = later := by
  induction left generalizing right with
  | nil =>
      cases right with
      | nil => simpa [spaced] using same
      | cons second rest =>
          have opened : spaced [] ++ after = after := by simp [spaced]
          rw [opened] at same
          exact absurd (same ▸ closes) (not_closes_spaced second rest later)
  | cons first others inductionHypothesis =>
      cases right with
      | nil =>
          have opened : spaced [] ++ later = later := by simp [spaced]
          rw [opened] at same
          exact absurd (same ▸ laterCloses) (not_closes_spaced first others after)
      | cons second rest =>
          obtain ⟨firstPiece, otherPieces⟩ := List.forall_mem_cons.mp leftPieces
          obtain ⟨secondPiece, restPieces⟩ := List.forall_mem_cons.mp rightPieces
          simp only [spaced_cons, String.append_assoc, String.append_right_inj] at same
          obtain ⟨rfl, others_⟩ := firstPiece.append_inj secondPiece (stops_spaced closes)
            (stops_spaced laterCloses) same
          obtain ⟨rfl, ends⟩ := inductionHypothesis otherPieces restPieces others_
          exact ⟨rfl, ends⟩

theorem closes_empty : Closes "" := by
  intro first found
  cases found

/-- A text behind a blank, or none at all. -/
theorem stops_spaced_only (texts : List String) : Stops (spaced texts) := by
  simpa only [String.append_empty] using @stops_spaced texts "" closes_empty

/-- What comes last need not be a piece, if it is known how many pieces come before it. -/
theorem spaced_concat_inj {left right : List String} {leftLast rightLast : String}
    (leftPieces : ∀ text ∈ left, IsPiece text) (rightPieces : ∀ text ∈ right, IsPiece text)
    (sameLength : left.length = right.length)
    (same : spaced (left ++ [leftLast]) = spaced (right ++ [rightLast])) :
    left = right ∧ leftLast = rightLast := by
  induction left generalizing right with
  | nil =>
      obtain rfl := List.length_eq_zero_iff.mp sameLength.symm
      simpa [spaced] using same
  | cons first others inductionHypothesis =>
      obtain ⟨second, rest, rfl⟩ := List.exists_cons_of_length_eq_add_one sameLength.symm
      obtain ⟨firstPiece, otherPieces⟩ := List.forall_mem_cons.mp leftPieces
      obtain ⟨secondPiece, restPieces⟩ := List.forall_mem_cons.mp rightPieces
      simp only [List.cons_append, spaced_cons, String.append_assoc, String.append_right_inj]
        at same
      obtain ⟨rfl, later⟩ := firstPiece.append_inj secondPiece (stops_spaced_only _)
        (stops_spaced_only _) same
      obtain ⟨rfl, lastSame⟩ :=
        inductionHypothesis otherPieces restPieces (Nat.succ.inj sameLength) later
      exact ⟨rfl, lastSame⟩

/-- Pieces in brackets can be told apart. -/
theorem bracketed_inj {left right : List String} (leftPieces : ∀ text ∈ left, IsPiece text)
    (rightPieces : ∀ text ∈ right, IsPiece text)
    (same : Binding.bracketed left = Binding.bracketed right) : left = right := by
  have inner : " ".intercalate left = " ".intercalate right := by
    simpa [Binding.bracketed, String.append_left_inj, String.append_right_inj] using same
  have filled : ∀ (first : String) (rest : List String), IsPiece first →
      " ".intercalate (first :: rest) ≠ "" := by
    intro first rest piece empty
    rw [intercalate_cons_spaced] at empty
    have characters := congrArg String.toList empty
    rw [String.toList_append] at characters
    exact piece.1 (List.append_eq_nil_iff.mp characters).1
  cases left with
  | nil =>
      cases right with
      | nil => rfl
      | cons second rest =>
          exact absurd inner.symm (filled second rest (rightPieces second List.mem_cons_self))
  | cons first others =>
      cases right with
      | nil => exact absurd inner (filled first others (leftPieces first List.mem_cons_self))
      | cons second rest =>
          rw [intercalate_cons_spaced, intercalate_cons_spaced] at inner
          have spread : spaced (first :: others) ++ "" = spaced (second :: rest) ++ "" := by
            simp only [spaced_cons, String.append_assoc, inner, String.append_empty]
          exact (spaced_append_inj leftPieces rightPieces closes_empty closes_empty spread).1

/-! ## Numbers -/

theorem isToken_of_isDigit {character : Char} (digit : character.isDigit = true) :
    isDelimiter character = false ∧ character ≠ '"' := by
  have unblank := Digits.not_isBlank_of_isDigit digit
  have other : ∀ mark : Char, mark.isDigit = false → mark ≠ character := by
    rintro mark unmarked rfl
    rw [digit] at unmarked
    cases unmarked
  have unopened : Bracket.opened? character = none := by
    simp [Bracket.opened?, Bracket.all, Bracket.opening, other '(' rfl, other '[' rfl,
      other '{' rfl]
  have unclosed : Bracket.closed? character = none := by
    simp [Bracket.closed?, Bracket.all, Bracket.closing, other ')' rfl, other ']' rfl,
      other '}' rfl]
  exact ⟨by simp [isDelimiter, unblank, unopened, unclosed], (other '"' rfl).symm⟩

theorem isToken_toString (number : Nat) : IsToken (toString number) := by
  rw [IsToken, Digits.toList_toString]
  refine ⟨Nat.toDigits_ne_nil, fun character member => ?_⟩
  exact isToken_of_isDigit (Digits.isDigit_of_mem_toDigits number character member)

end Bitemporal.Edn
