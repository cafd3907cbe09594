/-
This file says which conditions that are the same can replace each other in disjunctions.
-/
import Bitemporal.Proofs.Clause.Fragments

namespace Bitemporal.Clause

open Edn

/-! ## Fragments of disjunctions -/

/-- The fragments that a condition adds to a disjunction. -/
def branchFragments (clause : Clause) : List String := disjuncts (branches clause)

theorem branchFragments_of_not_isDisjunction {clause : Clause}
    (single : clause.isDisjunction = false) : clause.branchFragments = [clause.branchText] := by
  rw [branchFragments, branches_of_not_isDisjunction single, disjuncts_cons single]
  rfl

/-- Disjunctions of the same fragments are the same. -/
theorem same_disjunction {clauses others : List Clause}
    (commutes : allCommutative clauses = true) (otherCommutes : allCommutative others = true)
    (members : ∀ fragment, fragment ∈ disjuncts clauses ↔ fragment ∈ disjuncts others) :
    (disjunction clauses).same (disjunction others) = true := by
  apply beq_iff_eq.mpr
  rw [line, line, text_disjunction commutes, text_disjunction otherCommutes,
    canonical_congr members]

/-- The fragments of two disjoined conditions follow one another. -/
theorem text_disjoined {left right : Clause} (leftKind : left.kind = .condition)
    (rightKind : right.kind = .condition) (leftSectioned : left.WellSectioned)
    (rightSectioned : right.WellSectioned) (atRoot : Bool) (separator : String) :
    (disjunction (branches left ++ branches right)).text atRoot separator =
      conditionText atRoot ("(or " ++ " ".intercalate
        (canonical true true (left.branchFragments ++ right.branchFragments)) ++ ")") := by
  have leftConditions := (someConditions_branches leftKind leftSectioned).1
  have rightConditions := (someConditions_branches rightKind rightSectioned).1
  rw [text_disjunction (leftConditions.append rightConditions.2).allCommutative, disjuncts_append]
  rfl

theorem conditionText_inj {atRoot : Bool} {left right : String} :
    conditionText atRoot ("(or " ++ left ++ ")") = conditionText atRoot ("(or " ++ right ++ ")") ↔
      left = right := by
  cases atRoot <;>
    simp [conditionText, String.append_left_inj, String.append_right_inj]

/-- Every fragment of a disjunction is that of one of its branches, at any depth. -/
theorem exists_branch (clauses : List Clause) (each : WellSectionedAll .condition clauses)
    {fragment : String} (member : fragment ∈ disjuncts clauses) :
    ∃ branch : Clause, branch.kind = .condition ∧ branch.WellSectioned ∧
      branch.isDisjunction = false ∧ branch.branchText = fragment := by
  cases clauses with
  | nil => cases member
  | cons clause rest =>
      obtain ⟨⟨condition, sectioned⟩, others⟩ := List.forall_mem_cons.mp each
      have later : fragment ∈ disjuncts rest → _ := exists_branch rest others
      cases clause with
      | disjunction inner =>
          rcases List.mem_append.mp member with first | behind
          · exact exists_branch inner
              (fun other inside => ⟨sectioned.holds.2 other inside, sectioned.child inside⟩) first
          · exact later behind
      | _ =>
          rcases List.mem_cons.mp member with rfl | behind
          · exact ⟨_, condition, sectioned, rfl, rfl⟩
          · exact later behind

theorem length_branchText_pos {clause : Clause} (condition : clause.kind = .condition) :
    0 < clause.branchText.length := by
  rw [branchText]
  split
  · have name : "(and ".length = 5 := rfl
    simp only [groupedText, String.length_append]
    omega
  · next single =>
      have head := head?_text condition (Bool.eq_false_of_not_eq_true single)
      rw [← String.length_toList, List.length_pos_iff]
      intro empty
      simp [empty] at head

/-! ## Conditions that are the same -/

/-- Conditions that are the same have the same form, apart from conjunctions. -/
theorem form_eq_of_same {left right : Clause} (leftKind : left.kind = .condition)
    (rightKind : right.kind = .condition)
    (texts : left.text false " " = right.text false " ")
    (forms : left.isConjunction = right.isConjunction) :
    left.isLeaf = right.isLeaf ∧ left.isDisjunction = right.isDisjunction := by
  cases conjunctions : right.isConjunction with
  | true =>
      rw [conjunctions] at forms
      have neither : ∀ clause : Clause, clause.isConjunction = true →
          clause.isLeaf = false ∧ clause.isDisjunction = false := by
        intro clause isConjunction
        cases clause with
        | conjunction part clauses => exact ⟨rfl, rfl⟩
        | _ => cases isConjunction
      obtain ⟨leftLeaf, leftDisjunction⟩ := neither left forms
      obtain ⟨rightLeaf, rightDisjunction⟩ := neither right conjunctions
      exact ⟨leftLeaf.trans rightLeaf.symm, leftDisjunction.trans rightDisjunction.symm⟩
  | false =>
      rw [conjunctions] at forms
      constructor
      · have heads := congrArg (fun text => text.toList.head?) texts
        simp only [head?_text leftKind forms, head?_text rightKind conjunctions] at heads
        revert heads
        cases left.isLeaf <;> cases right.isLeaf <;> decide
      · rw [Bool.eq_iff_iff, ← take_text_iff leftKind forms, texts,
          take_text_iff rightKind conjunctions]

/-- Both conditions add the same set of fragments to a disjunction. -/
def SameBranches (left right : Clause) : Prop :=
  ∀ fragment, fragment ∈ left.branchFragments ↔ fragment ∈ right.branchFragments

theorem sameBranches_of_single {left right : Clause}
    (texts : left.text false " " = right.text false " ")
    (forms : left.isConjunction = right.isConjunction) (leftSingle : left.isDisjunction = false)
    (rightSingle : right.isDisjunction = false) : SameBranches left right := by
  intro fragment
  rw [branchFragments_of_not_isDisjunction leftSingle,
    branchFragments_of_not_isDisjunction rightSingle, branchText, branchText, texts, forms]

/-- Conditions that are the same can only differ in their branches if both are disjunctions. -/
theorem sameBranches_of_same {left right : Clause} (leftKind : left.kind = .condition)
    (rightKind : right.kind = .condition)
    (texts : left.text false " " = right.text false " ")
    (forms : left.isConjunction = right.isConjunction)
    (several : left.isDisjunction = true → right.isDisjunction = true → SameBranches left right) :
    SameBranches left right := by
  have disjunctions := (form_eq_of_same leftKind rightKind texts forms).2
  cases rightDisjunction : right.isDisjunction with
  | false =>
      exact sameBranches_of_single texts forms (disjunctions.trans rightDisjunction)
        rightDisjunction
  | true => exact several (disjunctions.trans rightDisjunction) rightDisjunction

/-- Disjunctions that are the same list fragments which are the same when they are joined. -/
theorem intercalate_eq_of_same {left right : Clause} (leftSectioned : left.WellSectioned)
    (rightSectioned : right.WellSectioned) (texts : left.text false " " = right.text false " ")
    (leftDisjunction : left.isDisjunction = true) (rightDisjunction : right.isDisjunction = true) :
    " ".intercalate (canonical true true left.branchFragments) =
      " ".intercalate (canonical true true right.branchFragments) := by
  cases left with
  | disjunction clauses =>
      cases right with
      | disjunction others =>
          have conditions : SomeConditions clauses := leftSectioned.holds
          have otherConditions : SomeConditions others := rightSectioned.holds
          rw [text_disjunction conditions.allCommutative,
            text_disjunction otherConditions.allCommutative, conditionText_inj] at texts
          exact texts
      | _ => cases rightDisjunction
  | _ => cases leftDisjunction

/-- The fragments can be told apart if brackets and literals are closed where they are opened. -/
theorem sameBranches_of_balanced {left right : Clause} (leftSectioned : left.WellSectioned)
    (rightSectioned : right.WellSectioned) (texts_ : left.text false " " = right.text false " ")
    (leftDisjunction : left.isDisjunction = true) (rightDisjunction : right.isDisjunction = true)
    (leftBalanced : ∀ text ∈ left.texts, Balanced text)
    (rightBalanced : ∀ text ∈ right.texts, Balanced text) : SameBranches left right := by
  have pieces : ∀ clause : Clause, clause.WellSectioned → clause.isDisjunction = true →
      (∀ text ∈ clause.texts, Balanced text) →
      ∀ fragment ∈ canonical true true clause.branchFragments, IsPiece fragment := by
    intro clause sectioned disjunction_ balanced fragment member
    cases clause with
    | disjunction clauses =>
        exact isPiece_of_mem_disjuncts clauses (sectioned.isCondition rfl) balanced fragment
          (mem_canonical.mp member)
    | _ => cases disjunction_
  have joined := intercalate_eq_of_same leftSectioned rightSectioned texts_ leftDisjunction
    rightDisjunction
  have listed : canonical true true left.branchFragments =
      canonical true true right.branchFragments :=
    bracketed_inj (pieces left leftSectioned leftDisjunction leftBalanced)
      (pieces right rightSectioned rightDisjunction rightBalanced)
      (congrArg (fun fragments => "[" ++ fragments ++ "]") joined)
  intro fragment
  rw [← mem_canonical, listed, mem_canonical]

/-! ## Replacement -/

/-- Both fail, or both give clauses that are the same. -/
def SameOutcome : Outcome Clause → Outcome Clause → Prop
  | .ok left, .ok right => left.same right = true
  | .error _, .error _ => True
  | .ok _, .error _ | .error _, .ok _ => False

/-- It does not matter which of the two conditions is disjoined with any other one. -/
def Replaceable (left right : Clause) : Prop :=
  ∀ other : Clause, other.kind = .condition → other.WellSectioned →
    SameOutcome (left.disjoin other) (right.disjoin other) ∧
      SameOutcome (other.disjoin left) (other.disjoin right)

theorem SameOutcome.symm {left right : Outcome Clause} (same : SameOutcome left right) :
    SameOutcome right left := by
  cases left with
  | ok left =>
      cases right with
      | ok right => exact (beq_iff_eq.trans eq_comm).mpr (beq_iff_eq.mp same)
      | error fault => cases same
  | error fault =>
      cases right with
      | ok right => cases same
      | error other => trivial

theorem Replaceable.symm {left right : Clause} (replaceable : Replaceable left right) :
    Replaceable right left := fun other condition sectioned =>
  (replaceable other condition sectioned).imp .symm .symm

section Conditions

variable {left right : Clause} (leftKind : left.kind = .condition)
  (rightKind : right.kind = .condition) (leftSectioned : left.WellSectioned)
  (rightSectioned : right.WellSectioned)

include leftKind rightKind

/-- A leaf can stand in front of one of the conditions, and so in front of the other one. -/
theorem isConjunction_of_replaceable (replaceable : Replaceable left right)
    (conjunction : left.isConjunction = true) : right.isConjunction = true := by
  have leaf : (pattern "" "" "").WellSectioned := (Built.pattern _ _ _).wellSectioned
  have outcome := (replaceable (.pattern "" "" "") rfl leaf).2
  rw [disjoin_eq rfl leftKind, disjoin_eq rfl rightKind, conjunction] at outcome
  cases single : right.isConjunction with
  | true => rfl
  | false =>
      rw [single] at outcome
      cases outcome

include leftSectioned rightSectioned

/-- Disjoining both with a branch of one of them shows whether the other one has it as well. -/
theorem mem_branchFragments_of_replaceable (replaceable : Replaceable left right)
    (joined : " ".intercalate (canonical true true left.branchFragments) =
      " ".intercalate (canonical true true right.branchFragments)) {fragment : String}
    (member : fragment ∈ left.branchFragments) : fragment ∈ right.branchFragments := by
  obtain ⟨conditions, sectioned⟩ := someConditions_branches leftKind leftSectioned
  obtain ⟨branch, branchKind, branchSectioned, single, rfl⟩ := exists_branch (branches left)
    (fun clause inside => ⟨conditions.2 clause inside, sectioned clause inside⟩) member
  -- the branch alone is no conjunction in a disjunction of its own, so that it is never refused
  have otherSectioned : (disjunction [branch]).WellSectioned :=
    ⟨someConditions_singleton branchKind, List.forall_mem_singleton.mpr branchSectioned⟩
  have outcome := (replaceable (.disjunction [branch]) rfl otherSectioned).1
  have open_ : (disjunction [branch]).isConjunction = false := rfl
  rw [disjoin_eq leftKind rfl, disjoin_eq rightKind rfl, open_, Bool.and_false,
    Bool.and_false] at outcome
  have lines := beq_iff_eq.mp outcome
  have own : (disjunction [branch]).branchFragments = [branch.branchText] :=
    disjuncts_cons single []
  rw [line, line, text_disjoined leftKind rfl leftSectioned otherSectioned,
    text_disjoined rightKind rfl rightSectioned otherSectioned, conditionText_inj, own] at lines
  have present : canonical true true (left.branchFragments ++ [branch.branchText]) =
      canonical true true left.branchFragments := by
    refine canonical_congr fun fragment => ?_
    rw [List.mem_append, List.mem_singleton]
    exact or_iff_left_of_imp fun same => same ▸ member
  rw [present, joined] at lines
  exact mem_of_intercalate_eq (length_branchText_pos branchKind) lines.symm

/-- Neither the refusals nor the fragments of a disjunction tell such conditions apart. -/
theorem replaceable_of_sameBranches (leaves : left.isLeaf = right.isLeaf)
    (conjunctions : left.isConjunction = right.isConjunction)
    (branches_ : SameBranches left right) : Replaceable left right := by
  intro other otherKind otherSectioned
  rw [disjoin_eq leftKind otherKind, disjoin_eq rightKind otherKind, disjoin_eq otherKind leftKind,
    disjoin_eq otherKind rightKind, leaves, conjunctions]
  have before : canonical true true (left.branchFragments ++ other.branchFragments) =
      canonical true true (right.branchFragments ++ other.branchFragments) :=
    canonical_congr fun fragment => by rw [List.mem_append, List.mem_append, branches_]
  have behind : canonical true true (other.branchFragments ++ left.branchFragments) =
      canonical true true (other.branchFragments ++ right.branchFragments) :=
    canonical_congr fun fragment => by rw [List.mem_append, List.mem_append, branches_]
  constructor
  · split
    · trivial
    · apply beq_iff_eq.mpr
      rw [line, line, text_disjoined leftKind otherKind leftSectioned otherSectioned,
        text_disjoined rightKind otherKind rightSectioned otherSectioned, before]
  · split
    · trivial
    · apply beq_iff_eq.mpr
      rw [line, line, text_disjoined otherKind leftKind otherSectioned leftSectioned,
        text_disjoined otherKind rightKind otherSectioned rightSectioned, behind]

end Conditions

/-- Conditions that are the same can replace each other in disjunctions exactly if both or none of
them are conjunctions and both have the same branches. The branches only differ if both are
disjunctions in which some text does not close the brackets or literals that it opens. -/
theorem replaceable_iff {left right : Clause} (leftKind : left.kind = .condition)
    (rightKind : right.kind = .condition) (leftSectioned : left.WellSectioned)
    (rightSectioned : right.WellSectioned) (same : left.same right = true) :
    (Replaceable left right ↔
      left.isConjunction = right.isConjunction ∧ SameBranches left right) ∧
    (left.isConjunction = right.isConjunction →
      left.isDisjunction = false ∨ right.isDisjunction = false ∨
        (∀ text ∈ left.texts, Balanced text) ∧ (∀ text ∈ right.texts, Balanced text) →
      SameBranches left right) := by
  have texts_ := text_eq_of_same (leftSectioned.isCondition leftKind)
    (rightSectioned.isCondition rightKind) same
  refine ⟨⟨fun replaceable => ?_, fun ⟨conjunctions, branches_⟩ => ?_⟩,
    fun conjunctions plain => ?_⟩
  · have conjunctions : left.isConjunction = right.isConjunction := by
      rw [Bool.eq_iff_iff]
      exact ⟨isConjunction_of_replaceable leftKind rightKind replaceable,
        isConjunction_of_replaceable rightKind leftKind replaceable.symm⟩
    refine ⟨conjunctions, sameBranches_of_same leftKind rightKind texts_ conjunctions ?_⟩
    intro leftDisjunction rightDisjunction fragment
    have joined := intercalate_eq_of_same leftSectioned rightSectioned texts_ leftDisjunction
      rightDisjunction
    exact ⟨mem_branchFragments_of_replaceable leftKind rightKind leftSectioned rightSectioned
        replaceable joined,
      mem_branchFragments_of_replaceable rightKind leftKind rightSectioned leftSectioned
        replaceable.symm joined.symm⟩
  · exact replaceable_of_sameBranches leftKind rightKind leftSectioned rightSectioned
      (form_eq_of_same leftKind rightKind texts_ conjunctions).1 conjunctions branches_
  · refine sameBranches_of_same leftKind rightKind texts_ conjunctions ?_
    intro leftDisjunction rightDisjunction
    rcases plain with single | single | ⟨leftBalanced, rightBalanced⟩
    · cases leftDisjunction.symm.trans single
    · cases rightDisjunction.symm.trans single
    · exact sameBranches_of_balanced leftSectioned rightSectioned texts_ leftDisjunction
        rightDisjunction leftBalanced rightBalanced

/-- Someone has a name. -/
def named : Clause := .pattern "?e" "name" "?name"

/-- Someone is old. -/
def old : Clause := .pattern "?e" "old" "true"

/-- Someone has a name or is old. -/
def namedOrOld : Clause := .disjunction [named, old]

def oldOrNamed : Clause := .disjunction [old, named, old]

theorem built_named : Built named := .pattern _ _ _

theorem built_old : Built old := .pattern _ _ _

theorem line_namedOrOld :
    namedOrOld.line = ":where [(or [ ?e :name ?name ] [ ?e :old true ])]" := by
  have before : "[ ?e :name ?name ]" < "[ ?e :old true ]" := by decide
  have listed : namedOrOld.line = _ :=
    line_disjunction rfl (List.pairwise_pair.mpr before) fun _ => Iff.rfl
  rw [listed]
  decide

theorem replaceable_iff_namedOrOld :
    namedOrOld.same oldOrNamed = true ∧ namedOrOld.isConjunction = oldOrNamed.isConjunction ∧
      (∀ text ∈ namedOrOld.texts, Balanced text) ∧ (∀ text ∈ oldOrNamed.texts, Balanced text) ∧
      SameBranches namedOrOld oldOrNamed ∧ Replaceable namedOrOld oldOrNamed := by
  have built : Built namedOrOld := built_named.disjoin built_old rfl
  have other : Built oldOrNamed := (built_old.disjoin built_named rfl).disjoin built_old rfl
  have same : namedOrOld.same oldOrNamed = true :=
    same_disjunction rfl rfl fun fragment => by
      simp only [named, old, disjuncts, List.mem_cons, List.not_mem_nil, or_false]
      rw [or_left_comm, or_self]
  have balanced : (∀ text ∈ namedOrOld.texts, Balanced text) ∧
      ∀ text ∈ oldOrNamed.texts, Balanced text := by decide
  have kinds : namedOrOld.kind = .condition ∧ oldOrNamed.kind = .condition := ⟨rfl, rfl⟩
  obtain ⟨exactly, plain⟩ := replaceable_iff kinds.1 kinds.2 built.wellSectioned
    other.wellSectioned same
  have branches_ := plain rfl (.inr (.inr balanced))
  exact ⟨same, rfl, balanced.1, balanced.2, branches_, exactly.mpr ⟨rfl, branches_⟩⟩

/-- Someone has a name and has it once more. -/
def namedTwice : Clause := .conjunction .condition [named, named]

/-- A disjunction keeps the conjunction together, even if it has only one pattern. -/
theorem not_sameOutcome_namedTwice :
    ¬ SameOutcome (namedTwice.disjoin old) (named.disjoin old) := by
  have texts_ : disjuncts [namedTwice, old] =
      ["(and [ ?e :name ?name ])", "[ ?e :old true ]"] := by decide +kernel
  have before : "(and [ ?e :name ?name ])" < "[ ?e :old true ]" := by decide
  have grouped : (disjunction [namedTwice, old]).line = _ :=
    line_disjunction rfl (List.pairwise_pair.mpr before) fun _ => by rw [texts_]
  intro outcome
  have lines : (disjunction [namedTwice, old]).line = namedOrOld.line := beq_iff_eq.mp outcome
  rw [grouped, line_namedOrOld] at lines
  exact absurd lines (by decide)

/-- The value closes its triple and opens another one. -/
def merged : Clause := .disjunction [.pattern "?e" "name" "?name ] [ ?e :old true"]

theorem same_merged : merged.same namedOrOld = true := by
  have alone : merged.line = _ :=
    line_disjunction rfl (List.pairwise_singleton _ _) fun _ => Iff.rfl
  apply beq_iff_eq.mpr
  rw [alone, line_namedOrOld]
  decide

/-- The first branch is listed once more where it is only a part of the merged text. -/
theorem not_sameOutcome_merged :
    ¬ SameOutcome (merged.disjoin named) (namedOrOld.disjoin named) := by
  have texts_ : disjuncts [.pattern "?e" "name" "?name ] [ ?e :old true", named] =
      ["[ ?e :name ?name ] [ ?e :old true ]", "[ ?e :name ?name ]"] := by decide
  have before : "[ ?e :name ?name ]" < "[ ?e :name ?name ] [ ?e :old true ]" := by decide
  have both : (disjunction [.pattern "?e" "name" "?name ] [ ?e :old true", named]).line = _ :=
    line_disjunction rfl (List.pairwise_pair.mpr before) fun _ => by simp [texts_, or_comm]
  have repeated : (disjunction [named, old, named]).same namedOrOld = true :=
    same_disjunction rfl rfl fun fragment => by
      simp only [named, old, disjuncts, List.mem_cons, List.not_mem_nil, or_false]
      rw [or_left_comm, or_self, or_comm]
  intro outcome
  have lines : (disjunction [.pattern "?e" "name" "?name ] [ ?e :old true", named]).line =
      (disjunction [named, old, named]).line := beq_iff_eq.mp outcome
  rw [both, beq_iff_eq.mp repeated, line_namedOrOld] at lines
  exact absurd lines (by decide)

/-- Conditions that are the same need not replace each other: a conjunction is refused and grouped
where its only part is not, and a value that holds brackets hides the branches in it. -/
theorem same_not_replaceable :
    (named.conjoin named = .ok namedTwice ∧ namedTwice.WellSectioned ∧ named.WellSectioned ∧
      old.WellSectioned ∧ namedTwice.same named = true ∧
      ¬ SameOutcome (namedTwice.disjoin old) (named.disjoin old) ∧
      ¬ SameOutcome (old.disjoin namedTwice) (old.disjoin named) ∧
      ¬ Replaceable namedTwice named) ∧
    merged.WellSectioned ∧ namedOrOld.WellSectioned ∧ merged.same namedOrOld = true ∧
      merged.isConjunction = namedOrOld.isConjunction ∧
      ¬ SameOutcome (merged.disjoin named) (namedOrOld.disjoin named) ∧
      ¬ Replaceable merged namedOrOld := by
  have twice : namedTwice.WellSectioned := (built_named.conjoin built_named rfl).wellSectioned
  have single : merged.WellSectioned :=
    ⟨someConditions_singleton rfl,
      List.forall_mem_singleton.mpr (Built.pattern _ _ _).wellSectioned⟩
  refine ⟨⟨rfl, twice, built_named.wellSectioned, built_old.wellSectioned, by decide +kernel,
    not_sameOutcome_namedTwice, fun outcome => outcome, fun replaceable => ?_⟩, single,
    (built_named.disjoin built_old rfl).wellSectioned, same_merged, rfl, not_sameOutcome_merged,
    fun replaceable => ?_⟩
  · exact not_sameOutcome_namedTwice (replaceable old rfl built_old.wellSectioned).1
  · exact not_sameOutcome_merged (replaceable named rfl built_named.wellSectioned).1

end Bitemporal.Clause
