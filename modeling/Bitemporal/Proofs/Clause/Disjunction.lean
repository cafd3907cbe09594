/-
This file shows that disjunctions of branches form a set of fragments.
-/
import Bitemporal.Proofs.Clause.Combinators
import Bitemporal.Proofs.Clause.Conjunction

namespace Bitemporal

namespace Clause

/-! ## Fragments of branches -/

/-- A clause as one of the branches of a disjunction, which keeps conjunctions together. -/
def branchText (clause : Clause) : String :=
  if clause.isConjunction then groupedText (clause.text false " ") else clause.text false " "

theorem disjuncts_cons {clause : Clause} (single : clause.isDisjunction = false)
    (rest : List Clause) : disjuncts (clause :: rest) = clause.branchText :: disjuncts rest := by
  cases clause with
  | disjunction clauses => cases single
  | _ => rfl

theorem disjuncts_append (left right : List Clause) :
    disjuncts (left ++ right) = disjuncts left ++ disjuncts right := by
  induction left with
  | nil => rfl
  | cons clause rest inductionHypothesis =>
      cases clause with
      | disjunction clauses => simp [disjuncts, inductionHypothesis]
      | _ => simp [disjuncts, inductionHypothesis]

/-- A disjunction lists the canonical form of its fragments if these may be sorted. -/
theorem text_disjunction {clauses : List Clause} (commutes : allCommutative clauses = true)
    (atRoot : Bool) (separator : String) :
    (disjunction clauses).text atRoot separator =
      conditionText atRoot
        ("(or " ++ " ".intercalate (canonical true true (disjuncts clauses)) ++ ")") := by
  have idempotent : allIdempotent clauses = true := commutes
  rw [text, commutes, idempotent]

/-- A disjunction lists the only increasing list of its fragments. -/
theorem text_disjunction_of_sorted {clauses : List Clause}
    (commutes : allCommutative clauses = true) {listed : List String}
    (sorted : listed.Pairwise (· < ·))
    (members : ∀ fragment, fragment ∈ listed ↔ fragment ∈ disjuncts clauses) (atRoot : Bool)
    (separator : String) :
    (disjunction clauses).text atRoot separator =
      conditionText atRoot ("(or " ++ " ".intercalate listed ++ ")") := by
  rw [text_disjunction commutes, ← eq_canonical sorted members]

theorem line_disjunction {clauses : List Clause} (commutes : allCommutative clauses = true)
    {listed : List String} (sorted : listed.Pairwise (· < ·))
    (members : ∀ fragment, fragment ∈ listed ↔ fragment ∈ disjuncts clauses) :
    (disjunction clauses).line =
      ":where [" ++ ("(or " ++ " ".intercalate listed ++ ")") ++ "]" :=
  text_disjunction_of_sorted commutes sorted members true " "

/-- Conditions that a disjunction takes as they are. -/
def isBranch : Clause → Bool
  | .pattern _ _ _ | .predicate _ _ _ | .negation _ => true
  | .negationJoin _ _ | .disjunctionJoin _ _ => true
  | .conjunction part _ => part == .condition
  | .disjunction _ | .projection _ | .key _ | .query _ _ _ => false

/-- A branch is a condition of its own that may be sorted. -/
theorem condition_of_isBranch {clause : Clause} (branch : clause.isBranch = true) :
    clause.kind = .condition ∧ clause.isDisjunction = false ∧ clause.commutative = true := by
  cases clause with
  | conjunction part clauses =>
      cases part with
      | condition => exact ⟨rfl, rfl, rfl⟩
      | projection => cases branch
  | disjunction clauses | projection expression | key entry | query find filter keys => cases branch
  | _ => exact ⟨rfl, rfl, rfl⟩

theorem disjuncts_of_isBranch {clauses : List Clause}
    (branch : ∀ clause ∈ clauses, clause.isBranch = true) :
    disjuncts clauses = clauses.map branchText := by
  induction clauses with
  | nil => rfl
  | cons clause rest inductionHypothesis =>
      obtain ⟨first, later⟩ := List.forall_mem_cons.mp branch
      rw [disjuncts_cons (condition_of_isBranch first).2.1, inductionHypothesis later,
        List.map_cons]

end Clause

namespace Combination

/-- Somewhere a leaf is disjoined with a conjunction on its right. -/
inductive Refused : Combination Clause.isBranch → Prop where
  | here {leaf conjunction : Clause} (leafFits : leaf.isBranch = true)
      (conjunctionFits : conjunction.isBranch = true) (isLeaf : leaf.isLeaf = true)
      (isConjunction : conjunction.isConjunction = true) :
      Refused (.both (.operand leaf leafFits) (.operand conjunction conjunctionFits))
  | left {left right : Combination Clause.isBranch} (refused : Refused left) :
      Refused (.both left right)
  | right {left right : Combination Clause.isBranch} (refused : Refused right) :
      Refused (.both left right)

/-- The operands as branches of one disjunction, unless there is only one. -/
def disjunction : Combination Clause.isBranch → Clause
  | .operand clause _ => clause
  | .both left right => .disjunction (left.operands ++ right.operands)

/-- The operands as they stand in a disjunction. -/
def branchTexts (tree : Combination Clause.isBranch) : List String :=
  tree.operands.map Clause.branchText

theorem kind_disjunction (tree : Combination Clause.isBranch) :
    tree.disjunction.kind = .condition := by
  cases tree with
  | operand clause fits => exact (Clause.condition_of_isBranch fits).1
  | both left right => rfl

theorem branches_disjunction (tree : Combination Clause.isBranch) :
    Clause.branches tree.disjunction = tree.operands := by
  cases tree with
  | operand clause fits =>
      exact Clause.branches_of_not_isDisjunction (Clause.condition_of_isBranch fits).2.1
  | both left right => rfl

/-- Only operands can be leaves and conjunctions, since all else is a disjunction. -/
theorem refused_both {left right : Combination Clause.isBranch}
    (isLeaf : left.disjunction.isLeaf = true)
    (isConjunction : right.disjunction.isConjunction = true) : Refused (.both left right) := by
  cases left with
  | both first second => cases isLeaf
  | operand leaf leafFits =>
      cases right with
      | both first second => cases isConjunction
      | operand conjunction conjunctionFits =>
          exact .here leafFits conjunctionFits isLeaf isConjunction

/-- What is not refused makes one disjunction of all operands. -/
theorem evaluate_disjoin {tree : Combination Clause.isBranch} (accepted : ¬ tree.Refused) :
    tree.evaluate Clause.disjoin = .ok tree.disjunction := by
  induction tree with
  | operand clause fits => rfl
  | both left right leftHypothesis rightHypothesis =>
      have leftValue := leftHypothesis fun refused => accepted (.left refused)
      have rightValue := rightHypothesis fun refused => accepted (.right refused)
      have open_ : (left.disjunction.isLeaf && right.disjunction.isConjunction) = false := by
        rw [Bool.eq_false_iff, ne_eq, Bool.and_eq_true]
        exact fun both => accepted (refused_both both.1 both.2)
      simp only [evaluate, leftValue, rightValue]
      show Clause.disjoin left.disjunction right.disjunction = _
      rw [Clause.disjoin_eq left.kind_disjunction right.kind_disjunction, open_,
        branches_disjunction, branches_disjunction]
      rfl

/-- A combination that is refused fails for the one reason that there is. -/
theorem evaluate_refused {tree : Combination Clause.isBranch} (refused : tree.Refused) :
    tree.evaluate Clause.disjoin = .error .disjunctionOfConjunction := by
  induction tree with
  | operand clause fits => cases refused
  | both left right leftHypothesis rightHypothesis =>
      -- the left side is evaluated first, so it decides if it is refused as well
      by_cases leftRefused : left.Refused
      · rw [evaluate, leftHypothesis leftRefused]
        rfl
      rw [evaluate, evaluate_disjoin leftRefused]
      cases refused with
      | left refused => exact absurd refused leftRefused
      | right refused =>
          rw [rightHypothesis refused]
          rfl
      | @here leaf conjunction leafFits conjunctionFits isLeaf isConjunction =>
          show Clause.disjoin leaf conjunction = _
          rw [Clause.disjoin_eq (Clause.condition_of_isBranch leafFits).1
            (Clause.condition_of_isBranch conjunctionFits).1, isLeaf, isConjunction]
          rfl

theorem evaluate_disjoin_eq_ok_iff {tree : Combination Clause.isBranch} {clause : Clause} :
    tree.evaluate Clause.disjoin = .ok clause ↔ ¬ tree.Refused ∧ clause = tree.disjunction := by
  by_cases refused : tree.Refused
  · simp [evaluate_refused refused, refused]
  · simp [evaluate_disjoin refused, refused, eq_comm]

/-- A disjunction of several operands lists the canonical form of their fragments. -/
theorem text_disjunction (left right : Combination Clause.isBranch) (atRoot : Bool)
    (separator : String) :
    (both left right).disjunction.text atRoot separator = Clause.conditionText atRoot
      ("(or " ++ " ".intercalate (canonical true true (both left right).branchTexts) ++ ")") := by
  have branch : ∀ operand ∈ (both left right).operands, operand.isBranch = true :=
    fun operand member => (both left right).allowed_of_mem_operands member
  have commutes : Clause.allCommutative (both left right).operands = true := by
    rw [Clause.allCommutative, List.all_eq_true]
    exact fun operand member => (Clause.condition_of_isBranch (branch operand member)).2.2
  rw [branchTexts, ← Clause.disjuncts_of_isBranch branch]
  exact Clause.text_disjunction commutes atRoot separator

/-- A disjunction of several branches is refused only where a leaf stands in front of a
conjunction. Otherwise its text is given by the set of the fragments of its operands, listed once
each in the order of their bytes, so that grouping, order and repetition do not matter. -/
theorem disjunction_canonical :
    (∀ left right : Combination Clause.isBranch,
      ((∃ clause, (both left right).evaluate Clause.disjoin = .ok clause) ↔
        ¬ (both left right).Refused) ∧
      ((both left right).Refused →
        (both left right).evaluate Clause.disjoin = .error .disjunctionOfConjunction) ∧
      ∀ clause, (both left right).evaluate Clause.disjoin = .ok clause →
        ∃ fragments : List String, fragments.Pairwise (fun left right => utf8 left < utf8 right) ∧
          (∀ fragment, fragment ∈ fragments ↔
            ∃ operand ∈ (both left right).operands, operand.branchText = fragment) ∧
          ∀ separator,
            clause.text false separator = "(or " ++ " ".intercalate fragments ++ ")" ∧
            clause.text true separator =
              ":where [" ++ ("(or " ++ " ".intercalate fragments ++ ")") ++ "]") ∧
    ∀ (left right otherLeft otherRight : Combination Clause.isBranch) (clause other : Clause),
      (both left right).evaluate Clause.disjoin = .ok clause →
      (both otherLeft otherRight).evaluate Clause.disjoin = .ok other →
      (∀ fragment, fragment ∈ (both left right).branchTexts ↔
        fragment ∈ (both otherLeft otherRight).branchTexts) →
      ∀ atRoot separator, clause.text atRoot separator = other.text atRoot separator := by
  refine ⟨fun left right => ⟨?_, evaluate_refused, fun clause value => ?_⟩, ?_⟩
  · simp only [evaluate_disjoin_eq_ok_iff, exists_and_left, exists_eq, and_true]
  · obtain ⟨_, rfl⟩ := evaluate_disjoin_eq_ok_iff.mp value
    refine ⟨canonical true true (both left right).branchTexts,
      (pairwise_canonical _).imp utf8_lt_of_lt, fun fragment => ?_, fun separator => ⟨?_, ?_⟩⟩
    · rw [mem_canonical, branchTexts, List.mem_map]
    · exact text_disjunction left right false separator
    · exact text_disjunction left right true separator
  · intro left right otherLeft otherRight clause other value otherValue same atRoot separator
    obtain ⟨_, rfl⟩ := evaluate_disjoin_eq_ok_iff.mp value
    obtain ⟨_, rfl⟩ := evaluate_disjoin_eq_ok_iff.mp otherValue
    rw [text_disjunction, text_disjunction, canonical_congr same]

/-- A city is banned. -/
def bannedBranch : Combination Clause.isBranch :=
  .operand (.pattern "?city" "banned" "true") rfl

/-- A city is old and has no country. -/
def strayBranch : Combination Clause.isBranch :=
  .operand (.conjunction .condition
    [.predicate "old?" ["?city"] none, .negation [.pattern "?city" "country" "?country"]]) rfl

/-- A city that is stray or banned, with one of the two said twice. -/
def strayOrBanned : Combination Clause.isBranch :=
  .both strayBranch (.both bannedBranch bannedBranch)

theorem disjunction_canonical_strayOrBanned :
    ¬ strayOrBanned.Refused ∧
      (∀ fragment, fragment ∈ strayOrBanned.branchTexts ↔
        fragment ∈ (both (both strayBranch bannedBranch) strayBranch).branchTexts) ∧
      (∃ clause other, strayOrBanned.evaluate Clause.disjoin = .ok clause ∧
        (both (both strayBranch bannedBranch) strayBranch).evaluate Clause.disjoin = .ok other ∧
        clause.text true "\n" = other.text true "\n" ∧
        ∃ fragments, "[ ?city :banned true ]" ∈ fragments ∧
          clause.text true "\n" =
            ":where [" ++ ("(or " ++ " ".intercalate fragments ++ ")") ++ "]") ∧
      (both bannedBranch strayBranch).Refused ∧
      (both bannedBranch strayBranch).evaluate Clause.disjoin =
        .error .disjunctionOfConjunction := by
  obtain ⟨each, alike⟩ := disjunction_canonical
  have accepted : ∃ clause, strayOrBanned.evaluate Clause.disjoin = .ok clause := ⟨_, rfl⟩
  have otherAccepted : ∃ other,
      (both (both strayBranch bannedBranch) strayBranch).evaluate Clause.disjoin = .ok other :=
    ⟨_, rfl⟩
  have same : ∀ fragment, fragment ∈ strayOrBanned.branchTexts ↔
      fragment ∈ (both (both strayBranch bannedBranch) strayBranch).branchTexts := by
    intro fragment
    simp only [strayOrBanned, branchTexts, operands, List.map_append, List.mem_append]
    tauto
  have refused : (both bannedBranch strayBranch).Refused := .here rfl rfl rfl rfl
  obtain ⟨clause, value⟩ := accepted
  obtain ⟨other, otherValue⟩ := otherAccepted
  obtain ⟨fragments, _, members, text⟩ :=
    (each strayBranch (both bannedBranch bannedBranch)).2.2 clause value
  have banned : Clause.pattern "?city" "banned" "true" ∈ strayOrBanned.operands :=
    List.mem_cons_of_mem _ List.mem_cons_self
  refine ⟨(each strayBranch (both bannedBranch bannedBranch)).1.mp ⟨clause, value⟩, same,
    ⟨clause, other, value, otherValue, alike _ _ _ _ clause other value otherValue same true "\n",
      fragments, (members _).mpr ⟨_, banned, rfl⟩, (text "\n").2⟩, refused,
    (each bannedBranch strayBranch).2.1 refused⟩

end Combination

end Bitemporal
