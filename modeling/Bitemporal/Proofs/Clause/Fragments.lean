/-
This file says how the fragments of conditions start and when they are pieces of query text.
-/
import Bitemporal.Proofs.Clause.Disjunction
import Bitemporal.Proofs.Clause.Sections
import Bitemporal.Proofs.Edn.Piece

namespace Bitemporal.Clause

open Edn

/-! ## First characters -/

/-- Leaves start with a square bracket, and all that groups other conditions with a round one. -/
theorem head?_text {clause : Clause} (condition : clause.kind = .condition)
    (single : clause.isConjunction = false) :
    (clause.text false " ").toList.head? = some (if clause.isLeaf then '[' else '(') := by
  cases clause with
  | pattern document field value => simp [text, conditionText, patternText, isLeaf]
  | predicate operation arguments result =>
      cases result <;> simp [text, conditionText, predicateText, isLeaf]
  | conjunction part clauses => cases single
  | projection expression | key entry | query find filter keys => cases condition
  | _ => simp [text, conditionText, isLeaf]

/-- The name of a disjunction is that of no other group. -/
theorem take_text_iff {clause : Clause} (condition : clause.kind = .condition)
    (single : clause.isConjunction = false) :
    (clause.text false " ").toList.take 4 = ['(', 'o', 'r', ' '] ↔ clause.isDisjunction = true := by
  cases clause with
  | pattern document field value => simp [text, conditionText, patternText, isDisjunction]
  | predicate operation arguments result =>
      cases result <;> simp [text, conditionText, predicateText, isDisjunction]
  | conjunction part clauses => cases single
  | projection expression | key entry | query find filter keys => cases condition
  | _ => simp [text, conditionText, isDisjunction]

/-- No pattern of a condition starts with a blank. -/
theorem head?_of_mem_conjuncts (clauses : List Clause)
    (conditions : areConditions clauses = true) {fragment : String}
    (member : fragment ∈ conjuncts .condition clauses) :
    fragment.toList.head? = some '[' ∨ fragment.toList.head? = some '(' := by
  cases clauses with
  | nil => cases member
  | cons clause rest =>
      simp only [areConditions, Bool.and_eq_true] at conditions
      have alone : clause.isConjunction = false →
          (clause.text false " ").toList.head? = some '[' ∨
            (clause.text false " ").toList.head? = some '(' := by
        intro single
        rw [head?_text (kind_of_isCondition conditions.1) single]
        cases clause.isLeaf <;> simp
      have later : fragment ∈ conjuncts .condition rest → _ :=
        head?_of_mem_conjuncts rest conditions.2
      cases clause with
      | conjunction part inner =>
          simp only [isCondition, Bool.and_eq_true, beq_iff_eq] at conditions
          obtain ⟨⟨rfl, innerConditions⟩, _⟩ := conditions
          rw [conjuncts, if_pos rfl] at member
          rcases List.mem_append.mp member with first | behind
          · exact head?_of_mem_conjuncts inner innerConditions first
          · exact later behind
      | _ =>
          rcases List.mem_cons.mp member with rfl | behind
          · exact alone rfl
          · exact later behind

/-- A single pattern is not taken for several ones, which follow a blank. -/
theorem intercalate_ne_of_single {clause : Clause} (condition : clause.isCondition = true)
    (single : clause.patterns.length = 1) (behind : String) :
    " ".intercalate clause.patterns ≠ " " ++ behind := by
  obtain ⟨fragment, alone⟩ := List.length_eq_one_iff.mp single
  have member : fragment ∈ conjuncts .condition (parts .condition clause) :=
    mem_patterns.mp (alone ▸ List.mem_singleton_self fragment)
  intro same
  rw [alone, String.intercalate_singleton] at same
  rcases head?_of_mem_conjuncts _ (areConditions_parts condition) member with head | head <;>
    simp [same] at head

/-- Conditions that are the same have the same fragment. -/
theorem text_eq_of_same {left right : Clause} (leftCondition : left.isCondition = true)
    (rightCondition : right.isCondition = true) (same : left.same right = true) :
    left.text false " " = right.text false " " := by
  have lines : left.line = right.line := beq_iff_eq.mp same
  rw [line, line, text_eq_patterns (kind_of_isCondition leftCondition),
    text_eq_patterns (kind_of_isCondition rightCondition), conjunctionText_eq, conjunctionText_eq,
    String.append_left_inj, String.append_right_inj] at lines
  rw [text_eq_patterns (kind_of_isCondition leftCondition),
    text_eq_patterns (kind_of_isCondition rightCondition)]
  show " ".intercalate left.patterns = " ".intercalate right.patterns
  by_cases leftSingle : left.patterns.length = 1 <;>
    by_cases rightSingle : right.patterns.length = 1 <;>
    simp only [listGap, leftSingle, rightSingle, if_true, if_false, String.empty_append] at lines
  · exact lines
  · exact absurd lines (intercalate_ne_of_single leftCondition leftSingle _)
  · exact absurd lines.symm (intercalate_ne_of_single rightCondition rightSingle _)
  · exact (String.append_right_inj _).mp lines

/-! ## Pieces -/

theorem balanced_blank : Balanced " " := by decide

theorem isPiece_patternText {document field value : String} (documentBalanced : Balanced document)
    (fieldBalanced : Balanced field) (valueBalanced : Balanced value) :
    IsPiece (patternText document field value) := by
  have mark : Balanced " :" := by decide
  have inner : Balanced (" " ++ document ++ " :" ++ field ++ " " ++ value ++ " ") :=
    (((((balanced_blank.append documentBalanced).append mark).append fieldBalanced).append
      balanced_blank).append valueBalanced).append balanced_blank
  exact inner.enclosed .square (by simp [patternText, Bracket.opening, Bracket.closing])

theorem isPiece_predicateText {operation : String} {arguments : List String}
    {result : Option String} (operationBalanced : Balanced operation)
    (argumentsBalanced : ∀ argument ∈ arguments, Balanced argument)
    (resultBalanced : ∀ name ∈ result, Balanced name) :
    IsPiece (predicateText operation arguments result) := by
  have call : IsPiece ("(" ++ operation ++ spaced arguments ++ ")") :=
    (operationBalanced.append (balanced_spaced argumentsBalanced)).enclosed .round
      (by simp [Bracket.opening, Bracket.closing])
  have behind : Balanced (spaced result.toList) :=
    balanced_spaced fun name member => resultBalanced name (Option.mem_toList.mp member)
  have inner : Balanced (" " ++ ("(" ++ operation ++ spaced arguments ++ ")") ++
      spaced result.toList ++ " ") :=
    ((balanced_blank.append call.balanced).append behind).append balanced_blank
  exact inner.enclosed .square (by
    cases result <;> simp [predicateText, spaced, Bracket.opening, Bracket.closing])

/-- Pieces behind the name of their group form a piece together, whether sorted or not. -/
theorem isPiece_group {name : String} (named : Balanced name) {fragments : List String}
    (pieces : ∀ fragment ∈ fragments, IsPiece fragment) (commutative idempotent : Bool) :
    IsPiece ("(" ++ name ++ " ".intercalate (canonical commutative idempotent fragments) ++
      ")") := by
  have listed : Balanced (" ".intercalate (canonical commutative idempotent fragments)) :=
    balanced_intercalate fun fragment member => (pieces fragment (mem_canonical.mp member)).balanced
  exact (named.append listed).enclosed .round (by simp [Bracket.opening, Bracket.closing])

/-- The name of a join and its shared variable. -/
def joinName (name shared : String) : String := name ++ " [" ++ shared ++ "] "

theorem balanced_joinName {name shared : String} (named : Balanced name)
    (sharedBalanced : Balanced shared) : Balanced (joinName name shared) := by
  have variable_ : IsPiece ("[" ++ shared ++ "]") :=
    sharedBalanced.enclosed .square (by simp [Bracket.opening, Bracket.closing])
  have spelled : joinName name shared = name ++ " " ++ ("[" ++ shared ++ "]") ++ " " := by
    simp [joinName, ← String.toList_inj]
  rw [spelled]
  exact ((named.append balanced_blank).append variable_.balanced).append balanced_blank

theorem text_negationJoin (shared : String) (clauses : List Clause) :
    (negationJoin shared clauses).text false " " = "(" ++ joinName "not-join" shared ++
      " ".intercalate (canonical false (allIdempotent clauses) (conjuncts .condition clauses)) ++
        ")" := by
  simp [text, conditionText, joinName, ← String.toList_inj]

theorem text_disjunctionJoin (shared : String) (clauses : List Clause) :
    (disjunctionJoin shared clauses).text false " " = "(" ++ joinName "or-join" shared ++
      " ".intercalate (canonical false (allIdempotent clauses) (alternatives clauses)) ++ ")" := by
  simp [text, conditionText, joinName, ← String.toList_inj]

mutual

/-- A condition that is no conjunction is a piece if its leaves and shared variables close the
brackets and literals that they open. -/
theorem isPiece_text (clause : Clause) (condition : clause.isCondition = true)
    (balanced : ∀ text ∈ clause.texts, Balanced text) (single : clause.isConjunction = false) :
    IsPiece (clause.text false " ") := by
  cases clause with
  | pattern document field value =>
      simp only [texts, List.forall_mem_cons] at balanced
      exact isPiece_patternText balanced.1 balanced.2.1 balanced.2.2.1
  | predicate operation arguments result =>
      simp only [texts, List.cons_append, List.forall_mem_cons, List.forall_mem_append,
        Option.mem_toList] at balanced
      exact isPiece_predicateText balanced.1 balanced.2.1 balanced.2.2
  | conjunction part clauses => cases single
  | disjunction clauses =>
      have name : Balanced "or " := by decide
      exact isPiece_group name (isPiece_of_mem_disjuncts clauses condition balanced) _ _
  | negation clauses =>
      have name : Balanced "not " := by decide
      exact isPiece_group name (isPiece_of_mem_conjuncts clauses condition balanced) _ _
  | negationJoin shared clauses =>
      simp only [texts, List.forall_mem_cons] at balanced
      have name := balanced_joinName (by decide : Balanced "not-join") balanced.1
      have piece := isPiece_group name (isPiece_of_mem_conjuncts clauses condition balanced.2) false
        (allIdempotent clauses)
      rwa [text_negationJoin]
  | disjunctionJoin shared clauses =>
      simp only [texts, List.forall_mem_cons] at balanced
      have name := balanced_joinName (by decide : Balanced "or-join") balanced.1
      have piece := isPiece_group name
        (isPiece_of_mem_alternatives clauses condition balanced.2) false (allIdempotent clauses)
      rwa [text_disjunctionJoin]
  | projection expression | key entry | query find filter keys => cases condition

theorem isPiece_of_mem_conjuncts (clauses : List Clause)
    (conditions : areConditions clauses = true)
    (balanced : ∀ text ∈ allTexts clauses, Balanced text) :
    ∀ fragment ∈ conjuncts .condition clauses, IsPiece fragment := by
  cases clauses with
  | nil => exact List.forall_mem_nil _
  | cons clause rest =>
      simp only [areConditions, Bool.and_eq_true] at conditions
      simp only [allTexts, List.forall_mem_append] at balanced
      have later := isPiece_of_mem_conjuncts rest conditions.2 balanced.2
      cases clause with
      | conjunction part inner =>
          simp only [isCondition, Bool.and_eq_true, beq_iff_eq] at conditions
          obtain ⟨⟨rfl, innerConditions⟩, _⟩ := conditions
          rw [conjuncts, if_pos rfl]
          exact List.forall_mem_append.mpr
            ⟨isPiece_of_mem_conjuncts inner innerConditions balanced.1, later⟩
      | _ =>
          exact List.forall_mem_cons.mpr
            ⟨isPiece_text _ conditions.1 balanced.1 rfl, later⟩

theorem isPiece_of_mem_disjuncts (clauses : List Clause)
    (conditions : areConditions clauses = true)
    (balanced : ∀ text ∈ allTexts clauses, Balanced text) :
    ∀ fragment ∈ disjuncts clauses, IsPiece fragment := by
  cases clauses with
  | nil => exact List.forall_mem_nil _
  | cons clause rest =>
      simp only [areConditions, Bool.and_eq_true] at conditions
      simp only [allTexts, List.forall_mem_append] at balanced
      have later := isPiece_of_mem_disjuncts rest conditions.2 balanced.2
      cases clause with
      | conjunction part inner =>
          simp only [isCondition, Bool.and_eq_true, beq_iff_eq] at conditions
          obtain ⟨⟨rfl, innerConditions⟩, _⟩ := conditions
          have name : Balanced "and " := by decide
          have pieces := isPiece_of_mem_conjuncts inner innerConditions balanced.1
          exact List.forall_mem_cons.mpr ⟨isPiece_group name pieces _ _, later⟩
      | disjunction inner =>
          rw [disjuncts]
          exact List.forall_mem_append.mpr
            ⟨isPiece_of_mem_disjuncts inner conditions.1 balanced.1, later⟩
      | _ =>
          exact List.forall_mem_cons.mpr
            ⟨isPiece_text _ conditions.1 balanced.1 rfl, later⟩

theorem isPiece_of_mem_alternatives (clauses : List Clause)
    (conditions : areConditions clauses = true)
    (balanced : ∀ text ∈ allTexts clauses, Balanced text) :
    ∀ fragment ∈ alternatives clauses, IsPiece fragment := by
  cases clauses with
  | nil => exact List.forall_mem_nil _
  | cons clause rest =>
      simp only [areConditions, Bool.and_eq_true] at conditions
      simp only [allTexts, List.forall_mem_append] at balanced
      have later := isPiece_of_mem_alternatives rest conditions.2 balanced.2
      cases clause with
      | conjunction part inner =>
          simp only [isCondition, Bool.and_eq_true, beq_iff_eq] at conditions
          obtain ⟨⟨rfl, innerConditions⟩, _⟩ := conditions
          have name : Balanced "and " := by decide
          have pieces := isPiece_of_mem_conjuncts inner innerConditions balanced.1
          exact List.forall_mem_cons.mpr ⟨isPiece_group name pieces _ _, later⟩
      | _ =>
          exact List.forall_mem_cons.mpr
            ⟨isPiece_text _ conditions.1 balanced.1 rfl, later⟩

end

end Bitemporal.Clause
