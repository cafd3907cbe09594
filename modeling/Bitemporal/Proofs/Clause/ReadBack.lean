/-
This file shows that the text of a condition reads back as a condition of the same meaning.
-/
import Bitemporal.Proofs.Clause.Canonical
import Bitemporal.Proofs.Clause.Condition
import Bitemporal.Proofs.Clause.Patterns
import Bitemporal.Proofs.Edn.Written

namespace Bitemporal

open Edn

/-! ## Fragments -/

/-- A fragment stands apart from what is in front of it and is read as this condition. -/
def Reads (fragment : String) (condition : Condition) : Prop :=
  Apart fragment ∧ ∃ form, Written fragment [form] ∧ Condition.ofForm? form = some condition

/-- A fragment is read in one way only. -/
theorem Reads.unique {fragment : String} {first second : Condition}
    (firstReads : Reads fragment first) (secondReads : Reads fragment second) :
    first = second := by
  obtain ⟨_, firstForm, firstWritten, firstFound⟩ := firstReads
  obtain ⟨_, secondForm, secondWritten, secondFound⟩ := secondReads
  have same : firstForm = secondForm := by
    simpa using firstWritten.read?.symm.trans secondWritten.read?
  subst same
  exact Option.some.inj (firstFound.symm.trans secondFound)

/-- Fragments that can be read are read as a list of conditions. -/
theorem exists_conditions {fragments : List String}
    (readable : ∀ fragment ∈ fragments, ∃ condition, Reads fragment condition) :
    ∃ forms conditions,
      List.Forall₂ (fun fragment form => Written fragment [form]) fragments forms ∧
      Condition.ofForms? forms = some conditions ∧ List.Forall₂ Reads fragments conditions := by
  induction fragments with
  | nil => exact ⟨[], [], .nil, rfl, .nil⟩
  | cons fragment rest inductionHypothesis =>
      obtain ⟨forms, conditions, written, found, reads⟩ :=
        inductionHypothesis fun other member => readable other (List.mem_cons_of_mem _ member)
      obtain ⟨condition, first⟩ := readable fragment List.mem_cons_self
      obtain ⟨_, form, firstWritten, firstFound⟩ := id first
      refine ⟨form :: forms, condition :: conditions, .cons firstWritten written, ?_,
        .cons first reads⟩
      simp [Condition.ofForms?, firstFound, found]

section Truth

variable {World : Type} (meaning : Meaning World)

/-- The fragment is read as a condition that holds. -/
def FragmentHolds (world : World) (fragment : String) : Prop :=
  ∃ condition, Reads fragment condition ∧ condition.holds meaning world = true

theorem Reads.fragmentHolds_iff {fragment : String} {condition : Condition}
    (reads : Reads fragment condition) (world : World) :
    FragmentHolds meaning world fragment ↔ condition.holds meaning world = true := by
  constructor
  · rintro ⟨other, otherReads, holds⟩
    rwa [reads.unique otherReads]
  · exact fun holds => ⟨condition, reads, holds⟩

theorem allHold_iff_fragments {fragments : List String} {conditions : List Condition}
    (reads : List.Forall₂ Reads fragments conditions) (world : World) :
    Condition.allHold meaning conditions world = true ↔
      ∀ fragment ∈ fragments, FragmentHolds meaning world fragment := by
  induction reads with
  | nil => simp [Condition.allHold]
  | cons first _ inductionHypothesis =>
      rw [List.forall_mem_cons, first.fragmentHolds_iff, ← inductionHypothesis,
        Condition.allHold, Bool.and_eq_true]

theorem someHolds_iff_fragments {fragments : List String} {conditions : List Condition}
    (reads : List.Forall₂ Reads fragments conditions) (world : World) :
    Condition.someHolds meaning conditions world = true ↔
      ∃ fragment ∈ fragments, FragmentHolds meaning world fragment := by
  induction reads with
  | nil => simp [Condition.someHolds]
  | cons first _ inductionHypothesis =>
      rw [List.exists_mem_cons_iff, first.fragmentHolds_iff, ← inductionHypothesis,
        Condition.someHolds, Bool.or_eq_true]

/-- A fragment is read as a condition that holds in these worlds. -/
def Expresses (fragment : String) (truth : World → Bool) : Prop :=
  ∃ condition, Reads fragment condition ∧ condition.holds meaning = truth

/-- All fragments are read, and they hold together in these worlds. -/
def Conjoins (fragments : List String) (truth : World → Bool) : Prop :=
  (∀ fragment ∈ fragments, ∃ condition, Reads fragment condition) ∧
    ∀ world, truth world = true ↔ ∀ fragment ∈ fragments, FragmentHolds meaning world fragment

/-- All fragments are read, and one of them holds in these worlds. -/
def Disjoins (fragments : List String) (truth : World → Bool) : Prop :=
  (∀ fragment ∈ fragments, ∃ condition, Reads fragment condition) ∧
    ∀ world, truth world = true ↔ ∃ fragment ∈ fragments, FragmentHolds meaning world fragment

variable {meaning}

theorem Expresses.fragmentHolds_iff {fragment : String} {truth : World → Bool}
    (expressed : Expresses meaning fragment truth) (world : World) :
    FragmentHolds meaning world fragment ↔ truth world = true := by
  obtain ⟨condition, reads, rfl⟩ := expressed
  exact reads.fragmentHolds_iff meaning world

theorem Expresses.readable {fragment : String} {truth : World → Bool}
    (expressed : Expresses meaning fragment truth) : ∃ condition, Reads fragment condition :=
  expressed.imp fun _ pair => pair.1

theorem conjoins_nil : Conjoins meaning [] fun _ => true := by
  simp [Conjoins]

theorem Conjoins.cons {fragment : String} {fragments : List String} {first later : World → Bool}
    (expressed : Expresses meaning fragment first) (conjoins : Conjoins meaning fragments later) :
    Conjoins meaning (fragment :: fragments) fun world => first world && later world := by
  refine ⟨List.forall_mem_cons.mpr ⟨expressed.readable, conjoins.1⟩, fun world => ?_⟩
  rw [Bool.and_eq_true, List.forall_mem_cons, expressed.fragmentHolds_iff, conjoins.2]

theorem Expresses.alone {fragment : String} {truth : World → Bool}
    (expressed : Expresses meaning fragment truth) : Conjoins meaning [fragment] truth := by
  simpa using conjoins_nil.cons expressed

theorem Conjoins.append {left right : List String} {first later : World → Bool}
    (leftConjoins : Conjoins meaning left first) (rightConjoins : Conjoins meaning right later) :
    Conjoins meaning (left ++ right) fun world => first world && later world := by
  refine ⟨List.forall_mem_append.mpr ⟨leftConjoins.1, rightConjoins.1⟩, fun world => ?_⟩
  rw [Bool.and_eq_true, List.forall_mem_append, leftConjoins.2, rightConjoins.2]

/-- Dropping and sorting fragments does not change what they say together. -/
theorem Conjoins.canonical {fragments : List String} {truth : World → Bool}
    (conjoins : Conjoins meaning fragments truth) (commutative idempotent : Bool) :
    Conjoins meaning (canonical commutative idempotent fragments) truth := by
  simpa only [Conjoins, mem_canonical] using conjoins

theorem disjoins_nil : Disjoins meaning [] fun _ => false := by
  simp [Disjoins]

theorem Disjoins.cons {fragment : String} {fragments : List String} {first later : World → Bool}
    (expressed : Expresses meaning fragment first) (disjoins : Disjoins meaning fragments later) :
    Disjoins meaning (fragment :: fragments) fun world => first world || later world := by
  refine ⟨List.forall_mem_cons.mpr ⟨expressed.readable, disjoins.1⟩, fun world => ?_⟩
  rw [Bool.or_eq_true, List.exists_mem_cons_iff, expressed.fragmentHolds_iff, disjoins.2]

theorem Disjoins.append {left right : List String} {first later : World → Bool}
    (leftDisjoins : Disjoins meaning left first) (rightDisjoins : Disjoins meaning right later) :
    Disjoins meaning (left ++ right) fun world => first world || later world := by
  refine ⟨List.forall_mem_append.mpr ⟨leftDisjoins.1, rightDisjoins.1⟩, fun world => ?_⟩
  simp only [Bool.or_eq_true, List.mem_append, or_and_right, exists_or, leftDisjoins.2,
    rightDisjoins.2]

/-- Nor does it change what one of them expressed. -/
theorem Disjoins.canonical {fragments : List String} {truth : World → Bool}
    (disjoins : Disjoins meaning fragments truth) (commutative idempotent : Bool) :
    Disjoins meaning (canonical commutative idempotent fragments) truth := by
  simpa only [Disjoins, mem_canonical] using disjoins

/-! ## Groups of fragments -/

theorem blank_space : Blank.isBlankText " " = true := by decide

theorem blank_listGap {separator : String} (blank : Blank.isBlankText separator = true)
    (fragments : List String) : Blank.isBlankText (Clause.listGap separator fragments) = true := by
  unfold Clause.listGap
  split
  · rfl
  · exact blank

/-- Joined fragments write one form each. -/
theorem Conjoins.written {fragments : List String} {truth : World → Bool}
    (conjoins : Conjoins meaning fragments truth) {separator : String}
    (blank : Blank.isBlankText separator = true) :
    ∃ forms conditions, Written (separator.intercalate fragments) forms ∧
      Condition.ofForms? forms = some conditions ∧
      Condition.allHold meaning conditions = truth := by
  obtain ⟨forms, conditions, written, found, reads⟩ := exists_conditions conjoins.1
  have apart : ∀ fragment ∈ fragments, Apart fragment := fun fragment member =>
    (conjoins.1 fragment member).elim fun _ reads => reads.1
  refine ⟨forms, conditions, written_intercalate blank written apart, found, ?_⟩
  funext world
  rw [Bool.eq_iff_iff, allHold_iff_fragments meaning reads, conjoins.2]

theorem Disjoins.written {fragments : List String} {truth : World → Bool}
    (disjoins : Disjoins meaning fragments truth) {separator : String}
    (blank : Blank.isBlankText separator = true) :
    ∃ forms conditions, Written (separator.intercalate fragments) forms ∧
      Condition.ofForms? forms = some conditions ∧
      Condition.someHolds meaning conditions = truth := by
  obtain ⟨forms, conditions, written, found, reads⟩ := exists_conditions disjoins.1
  have apart : ∀ fragment ∈ fragments, Apart fragment := fun fragment member =>
    (disjoins.1 fragment member).elim fun _ reads => reads.1
  refine ⟨forms, conditions, written_intercalate blank written apart, found, ?_⟩
  funext world
  rw [Bool.eq_iff_iff, someHolds_iff_fragments meaning reads, disjoins.2]

end Truth

/-! ## Texts in brackets -/

/-- What stands in round brackets behind a name. -/
theorem written_named (opening name : String) {body : String} {items : List Form}
    (spelled : opening = "(" ++ name ++ " ") (token : IsToken name) (written : Written body items) :
    Apart (opening ++ body ++ ")") ∧
      Written (opening ++ body ++ ")") [.group .round (.atom name :: items)] := by
  have inner : Written (name ++ (" " ++ body)) (.atom name :: items) :=
    (written_atom (.inl token)).append (written.after_blank blank_space) (apart_blank_append body)
  exact inner.enclosed .round (by simp [spelled, Bracket.opening, Bracket.closing])

@[simp] theorem mapM_atom? (texts : List String) :
    texts.mapM (Condition.atom? ∘ Form.atom) = some texts := by
  induction texts with
  | nil => rfl
  | cons text rest inductionHypothesis =>
      simp [Condition.atom?, inductionHypothesis]

theorem fieldName?_marked {field : String} (nonempty : field.toList ≠ []) :
    Condition.fieldName? (":" ++ field) = some field := by
  obtain ⟨first, rest, characters⟩ := List.exists_cons_of_ne_nil nonempty
  have spelled : (":" ++ field).toList = ':' :: first :: rest := by simp [characters]
  rw [Condition.fieldName?, spelled]
  exact congrArg some (by rw [← characters, String.ofList_toList])

/-- A triple is read as the leaf of its three parts. -/
theorem reads_pattern {document field value : String} (documentAtom : IsAtom document)
    (fieldAtom : IsAtom field) (valueAtom : IsAtom value) :
    Reads (Clause.patternText document field value) (.leaf (.pattern document field value)) := by
  have mark : IsToken ":" := by decide
  have parts : ∀ atom ∈ [document, ":" ++ field, value], Written atom [.atom atom] := by
    simp only [List.forall_mem_cons]
    exact ⟨written_atom documentAtom, written_marked_atom ":" fieldAtom mark.2,
      written_atom valueAtom, by simp⟩
  have inner : Written (spaced [document, ":" ++ field, value] ++ " ")
      [.atom document, .atom (":" ++ field), .atom value] := by
    simpa using (written_spaced parts).append (written_blank blank_space) (apart_blank blank_space)
  have outer : Apart (Clause.patternText document field value) ∧
      Written (Clause.patternText document field value)
        [.group .square [.atom document, .atom (":" ++ field), .atom value]] :=
    inner.enclosed .square (by simp [Clause.patternText, spaced, Bracket.opening, Bracket.closing])
  refine ⟨outer.1, _, outer.2, ?_⟩
  simp [Condition.ofForm?, Condition.leaf?, fieldName?_marked fieldAtom.toList_ne_nil]

/-- A call is read as the leaf of its operation, its arguments and its result. -/
theorem reads_predicate {operation : String} {arguments : List String} {result : Option String}
    (operationAtom : IsAtom operation) (argumentAtoms : ∀ argument ∈ arguments, IsAtom argument)
    (resultAtom : ∀ name ∈ result, IsAtom name) :
    Reads (Clause.predicateText operation arguments result)
      (.leaf (.call operation arguments result)) := by
  have head : Written (operation ++ spaced arguments) (.atom operation :: arguments.map .atom) :=
    (written_atom operationAtom).append
      (written_spaced fun argument member => written_atom (argumentAtoms argument member))
      (apart_spaced arguments)
  have call : Written ("(" ++ (operation ++ spaced arguments) ++ ")")
      [.group .round (.atom operation :: arguments.map .atom)] :=
    (head.enclosed .round (by simp [Bracket.opening, Bracket.closing])).2
  -- the name of the result, if there is one, and the blank in front of the closing bracket
  have behind : Written (spaced result.toList ++ " ") (result.toList.map .atom) := by
    have written : Written (spaced result.toList) (result.toList.map .atom) :=
      written_spaced fun name member =>
        written_atom (resultAtom name (Option.mem_toList.mp member))
    simpa using written.append (written_blank blank_space) (apart_blank blank_space)
  have inner : Written (" " ++ ("(" ++ (operation ++ spaced arguments) ++ ")" ++
      (spaced result.toList ++ " "))) ([.group .round (.atom operation :: arguments.map .atom)] ++
        result.toList.map .atom) :=
    (call.append behind ((apart_spaced _).append (apart_blank blank_space))).after_blank blank_space
  have outer : Apart (Clause.predicateText operation arguments result) ∧
      Written (Clause.predicateText operation arguments result)
        [.group .square (.group .round (.atom operation :: arguments.map .atom) ::
          result.toList.map .atom)] :=
    inner.enclosed .square (by
      cases result <;>
        simp [Clause.predicateText, spaced, Bracket.opening, Bracket.closing])
  refine ⟨outer.1, _, outer.2, ?_⟩
  cases result <;> simp [Condition.ofForm?, Condition.leaf?]

/-- What stands in round brackets behind a name and a shared variable. -/
theorem written_joined (opening name : String) {shared body : String} {items : List Form}
    (spelled : opening = "(" ++ name ++ " [") (token : IsToken name) (sharedAtom : IsAtom shared)
    (written : Written body items) :
    Apart (opening ++ shared ++ "] " ++ body ++ ")") ∧
      Written (opening ++ shared ++ "] " ++ body ++ ")")
        [.group .round (.atom name :: .group .square [.atom shared] :: items)] := by
  have variable_ : Written ("[" ++ shared ++ "]") [.group .square [.atom shared]] :=
    ((written_atom sharedAtom).enclosed .square
      (by simp [Bracket.opening, Bracket.closing])).2
  have behind : Written ("[" ++ shared ++ "]" ++ (" " ++ body))
      (.group .square [.atom shared] :: items) :=
    variable_.append (written.after_blank blank_space) (apart_blank_append body)
  have whole := written_named _ name rfl token behind
  have same : "(" ++ name ++ " " ++ ("[" ++ shared ++ "]" ++ (" " ++ body)) ++ ")" =
      opening ++ shared ++ "] " ++ body ++ ")" := by
    simp [spelled, ← String.toList_inj]
  rwa [same] at whole

section Truth

variable {World : Type} {meaning : Meaning World} {fragments : List String}
  {truth : World → Bool}

theorem Conjoins.grouped (conjoins : Conjoins meaning fragments truth) :
    Expresses meaning (Clause.groupedText (" ".intercalate fragments)) truth := by
  obtain ⟨forms, conditions, written, found, rfl⟩ := conjoins.written blank_space
  obtain ⟨apart, whole⟩ := written_named "(and " "and" rfl (by decide) written
  exact ⟨.all conditions, ⟨apart, _, whole, by simp [Condition.ofForm?, found]⟩, rfl⟩

theorem Disjoins.grouped (disjoins : Disjoins meaning fragments truth) :
    Expresses meaning ("(or " ++ " ".intercalate fragments ++ ")") truth := by
  obtain ⟨forms, conditions, written, found, rfl⟩ := disjoins.written blank_space
  obtain ⟨apart, whole⟩ := written_named "(or " "or" rfl (by decide) written
  exact ⟨.any conditions, ⟨apart, _, whole, by simp [Condition.ofForm?, found]⟩, rfl⟩

theorem Conjoins.negated (conjoins : Conjoins meaning fragments truth) :
    Expresses meaning ("(not " ++ " ".intercalate fragments ++ ")") fun world => !truth world := by
  obtain ⟨forms, conditions, written, found, rfl⟩ := conjoins.written blank_space
  obtain ⟨apart, whole⟩ := written_named "(not " "not" rfl (by decide) written
  exact ⟨.negation conditions, ⟨apart, _, whole, by simp [Condition.ofForm?, found]⟩, rfl⟩

theorem Conjoins.negatedJoin (conjoins : Conjoins meaning fragments truth) {shared : String}
    (sharedAtom : IsAtom shared) :
    Expresses meaning ("(not-join [" ++ shared ++ "] " ++ " ".intercalate fragments ++ ")")
      fun world => !meaning.join shared truth world := by
  obtain ⟨forms, conditions, written, found, rfl⟩ := conjoins.written blank_space
  obtain ⟨apart, whole⟩ :=
    written_joined "(not-join [" "not-join" rfl (by decide) sharedAtom written
  exact ⟨.negationJoin shared conditions,
    ⟨apart, _, whole, by simp [Condition.ofForm?, found]⟩, rfl⟩

theorem Disjoins.groupedJoin (disjoins : Disjoins meaning fragments truth) {shared : String}
    (sharedAtom : IsAtom shared) :
    Expresses meaning ("(or-join [" ++ shared ++ "] " ++ " ".intercalate fragments ++ ")")
      (meaning.join shared truth) := by
  obtain ⟨forms, conditions, written, found, rfl⟩ := disjoins.written blank_space
  obtain ⟨apart, whole⟩ :=
    written_joined "(or-join [" "or-join" rfl (by decide) sharedAtom written
  exact ⟨.disjunctionJoin shared conditions,
    ⟨apart, _, whole, by simp [Condition.ofForm?, found]⟩, rfl⟩

/-! ## Whole conditions -/

mutual

/-- The fragment of a condition that is no conjunction is read with the meaning of the condition. -/
theorem expresses_text (clause : Clause) (condition : clause.isCondition = true)
    (atoms : ∀ text ∈ clause.texts, IsAtom text)
    (single : ∀ part clauses, clause ≠ .conjunction part clauses) :
    Expresses meaning (clause.text false " ") (clause.holds meaning) := by
  cases clause with
  | pattern document field value =>
      simp only [Clause.texts, List.forall_mem_cons] at atoms
      exact ⟨_, reads_pattern atoms.1 atoms.2.1 atoms.2.2.1, rfl⟩
  | predicate operation arguments result =>
      simp only [Clause.texts, List.cons_append, List.forall_mem_cons, List.forall_mem_append,
        Option.mem_toList] at atoms
      exact ⟨_, reads_predicate atoms.1 atoms.2.1 atoms.2.2, rfl⟩
  | conjunction part clauses => exact absurd rfl (single part clauses)
  | disjunction clauses =>
      exact ((disjoins_disjuncts clauses condition atoms).canonical _ _).grouped
  | negation clauses =>
      exact ((conjoins_conjuncts clauses condition atoms).canonical _ _).negated
  | negationJoin shared clauses =>
      simp only [Clause.texts, List.forall_mem_cons] at atoms
      exact ((conjoins_conjuncts clauses condition atoms.2).canonical _ _).negatedJoin atoms.1
  | disjunctionJoin shared clauses =>
      simp only [Clause.texts, List.forall_mem_cons] at atoms
      exact ((disjoins_alternatives clauses condition atoms.2).canonical _ _).groupedJoin atoms.1
  | projection expression => simp [Clause.isCondition] at condition
  | key entry => simp [Clause.isCondition] at condition
  | query find filter keys => simp [Clause.isCondition] at condition

/-- The fragments of conditions that hold together; a conjunction among them is opened. -/
theorem conjoins_conjuncts (clauses : List Clause)
    (conditions : Clause.areConditions clauses = true)
    (atoms : ∀ text ∈ Clause.allTexts clauses, IsAtom text) :
    Conjoins meaning (Clause.conjuncts .condition clauses) (Clause.allHold meaning clauses) := by
  cases clauses with
  | nil => exact conjoins_nil
  | cons clause rest =>
      simp only [Clause.areConditions, Bool.and_eq_true] at conditions
      simp only [Clause.allTexts, List.forall_mem_append] at atoms
      have later := conjoins_conjuncts rest conditions.2 atoms.2
      cases clause with
      | conjunction part inner =>
          simp only [Clause.isCondition, Bool.and_eq_true, beq_iff_eq] at conditions
          obtain ⟨⟨rfl, innerConditions⟩, _⟩ := conditions
          exact (conjoins_conjuncts inner innerConditions atoms.1).append later
      | _ => exact later.cons (expresses_text _ conditions.1 atoms.1 (by simp))

/-- The fragments of conditions one of which holds; a disjunction among them is opened. -/
theorem disjoins_disjuncts (clauses : List Clause)
    (conditions : Clause.areConditions clauses = true)
    (atoms : ∀ text ∈ Clause.allTexts clauses, IsAtom text) :
    Disjoins meaning (Clause.disjuncts clauses) (Clause.someHolds meaning clauses) := by
  cases clauses with
  | nil => exact disjoins_nil
  | cons clause rest =>
      simp only [Clause.areConditions, Bool.and_eq_true] at conditions
      simp only [Clause.allTexts, List.forall_mem_append] at atoms
      have later := disjoins_disjuncts rest conditions.2 atoms.2
      cases clause with
      | conjunction part inner =>
          simp only [Clause.isCondition, Bool.and_eq_true, beq_iff_eq] at conditions
          obtain ⟨⟨rfl, innerConditions⟩, _⟩ := conditions
          have held := conjoins_conjuncts inner innerConditions atoms.1
          exact later.cons (held.canonical _ _).grouped
      | disjunction inner =>
          exact (disjoins_disjuncts inner conditions.1 atoms.1).append later
      | _ => exact later.cons (expresses_text _ conditions.1 atoms.1 (by simp))

/-- The fragments of conditions one of which holds, each of them left as it is. -/
theorem disjoins_alternatives (clauses : List Clause)
    (conditions : Clause.areConditions clauses = true)
    (atoms : ∀ text ∈ Clause.allTexts clauses, IsAtom text) :
    Disjoins meaning (Clause.alternatives clauses) (Clause.someHolds meaning clauses) := by
  cases clauses with
  | nil => exact disjoins_nil
  | cons clause rest =>
      simp only [Clause.areConditions, Bool.and_eq_true] at conditions
      simp only [Clause.allTexts, List.forall_mem_append] at atoms
      have later := disjoins_alternatives rest conditions.2 atoms.2
      cases clause with
      | conjunction part inner =>
          simp only [Clause.isCondition, Bool.and_eq_true, beq_iff_eq] at conditions
          obtain ⟨⟨rfl, innerConditions⟩, _⟩ := conditions
          have held := conjoins_conjuncts inner innerConditions atoms.1
          exact later.cons (held.canonical _ _).grouped
      | _ => exact later.cons (expresses_text _ conditions.1 atoms.1 (by simp))

end

/-- The patterns of a condition say together what the condition means. -/
theorem conjoins_patterns (clause : Clause) (condition : clause.isCondition = true)
    (atoms : ∀ text ∈ clause.texts, IsAtom text) :
    Conjoins meaning clause.patterns (clause.holds meaning) := by
  cases clause with
  | conjunction part clauses =>
      simp only [Clause.isCondition, Bool.and_eq_true, beq_iff_eq] at condition
      obtain ⟨rfl, conditions⟩ := condition
      exact (conjoins_conjuncts clauses conditions atoms).canonical _ _
  | _ => exact (expresses_text _ condition atoms (by simp)).alone

/-- A list of conditions behind its keyword is read as their conjunction. -/
theorem ofText?_list {inner : String} {forms : List Form} {conditions : List Condition}
    (written : Written inner forms) (found : Condition.ofForms? forms = some conditions) :
    Condition.ofText? (":where [" ++ inner ++ "]") = some (.all conditions) := by
  have list : Apart ("[" ++ inner ++ "]") ∧ Written ("[" ++ inner ++ "]") [.group .square forms] :=
    written.enclosed .square (by simp [Bracket.opening, Bracket.closing])
  have keyword : Written ":where" [.atom ":where"] := written_atom (.inl (by decide))
  have whole : Written (":where" ++ (" " ++ ("[" ++ inner ++ "]")))
      [.atom ":where", .group .square forms] :=
    keyword.append (list.2.after_blank blank_space) (apart_blank_append _)
  have same : ":where" ++ (" " ++ ("[" ++ inner ++ "]")) = ":where [" ++ inner ++ "]" := by
    simp [← String.toList_inj]
  rw [same] at whole
  simp [Condition.ofText?, whole.read?, Condition.ofSection?, found]

theorem Conjoins.ofText? (conjoins : Conjoins meaning fragments truth) {separator : String}
    (blank : Blank.isBlankText separator = true) :
    (Condition.ofText? (Clause.conjunctionText .condition true separator fragments)).map
      (Condition.holds meaning) = some truth := by
  obtain ⟨forms, conditions, written, found, rfl⟩ := conjoins.written blank
  rw [Clause.conjunctionText_eq, ofText?_list (written.after_blank (blank_listGap blank _)) found]
  rfl

end Truth

/-- Writing a condition and reading it back gives a condition with the same meaning. -/
theorem holds_ofText?_text {World : Type} (meaning : Meaning World) {clause : Clause}
    (condition : clause.isCondition = true) (atoms : ∀ text ∈ clause.texts, IsAtom text)
    {separator : String} (blank : Blank.isBlankText separator = true) :
    (Condition.ofText? (clause.text true separator)).map (Condition.holds meaning) =
      some (clause.holds meaning) := by
  rw [Clause.text_eq_patterns (Clause.kind_of_isCondition condition)]
  exact (conjoins_patterns clause condition atoms).ofText? blank

/-- No banned city that is named with a blank, or is large or lies in no country. -/
def bannedCity : Clause :=
  .negationJoin "?city" [
    .conjunction .condition [
      .pattern "?city" "name" (quote "Den \"Haag\""),
      .pattern "?city" "banned" "true"],
    .disjunction [
      .conjunction .condition [
        .pattern "?city" "size" "?size",
        .predicate ">" ["?size", "3"] (some "?large")],
      .negation [.pattern "?city" "country" "?country", .pattern "?city" "country" "?country"]],
    .disjunctionJoin "?city" [
      .conjunction .condition [.pattern "?city" "banned" "true"],
      .predicate "old?" ["?city"] none]]

theorem holds_ofText?_text_bannedCity :
    bannedCity.isCondition = true ∧ (∀ text ∈ bannedCity.texts, IsAtom text) ∧
      Blank.isBlankText "\n    " = true ∧
      (Condition.ofText? (bannedCity.text true "\n    ")).map
        (Condition.holds (.ofAssignment fun leaf => leaf == .pattern "?city" "banned" "true")) =
          some (bannedCity.holds
            (.ofAssignment fun leaf => leaf == .pattern "?city" "banned" "true")) ∧
      bannedCity.holds
        (.ofAssignment fun leaf => leaf == .pattern "?city" "banned" "true") () = true := by
  have condition : bannedCity.isCondition = true := by decide
  have tokens : ∀ text ∈ bannedCity.texts, IsToken text ∨ text = quote "Den \"Haag\"" := by decide
  have atoms : ∀ text ∈ bannedCity.texts, IsAtom text := fun text member =>
    (tokens text member).imp_right fun same => ⟨"Den \"Haag\"", by decide, same⟩
  have blank : Blank.isBlankText "\n    " = true := by decide
  exact ⟨condition, atoms, blank, holds_ofText?_text _ condition atoms blank, by decide⟩

end Bitemporal
