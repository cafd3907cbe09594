/-
This file shows that combined conditions mean what their combination says.
-/
import Bitemporal.Proofs.Clause.Conjunction
import Bitemporal.Proofs.Clause.Meaning
import Bitemporal.Proofs.Clause.Sections

namespace Bitemporal

namespace Clause

/-! ## Single combinations -/

section Truth

variable {World : Type} (meaning : Meaning World)

theorem allHold_append (left right : List Clause) (world : World) :
    allHold meaning (left ++ right) world =
      (allHold meaning left world && allHold meaning right world) := by
  induction left with
  | nil => rfl
  | cons clause rest inductionHypothesis =>
      simp only [List.cons_append, allHold, inductionHypothesis, Bool.and_assoc]

theorem someHolds_append (left right : List Clause) (world : World) :
    someHolds meaning (left ++ right) world =
      (someHolds meaning left world || someHolds meaning right world) := by
  induction left with
  | nil => rfl
  | cons clause rest inductionHypothesis =>
      simp only [List.cons_append, someHolds, inductionHypothesis, Bool.or_assoc]

/-- A clause holds where all of its parts do. -/
theorem allHold_parts (part : Section) (clause : Clause) (world : World) :
    allHold meaning (parts part clause) world = clause.holds meaning world := by
  cases clause with
  | conjunction inner clauses =>
      by_cases same : inner = part
      · rw [parts, if_pos same, holds]
      · simp only [parts, if_neg same, allHold, Bool.and_true]
  | _ => simp only [parts, allHold, Bool.and_true]

/-- A clause holds where one of its branches does. -/
theorem someHolds_branches (clause : Clause) (world : World) :
    someHolds meaning (branches clause) world = clause.holds meaning world := by
  cases clause with
  | disjunction clauses => rfl
  | _ => simp only [branches, someHolds, Bool.or_false]

theorem holds_append (part : Section) (left right : Clause) (world : World) :
    (append part left right).holds meaning world =
      (left.holds meaning world && right.holds meaning world) := by
  rw [append, holds, allHold_append, allHold_parts, allHold_parts]

theorem holds_disjoin {left right either : Clause} (accepted : left.disjoin right = .ok either)
    (world : World) :
    either.holds meaning world = (left.holds meaning world || right.holds meaning world) := by
  obtain ⟨_, _, rfl⟩ := eq_disjunction_of_disjoin accepted
  rw [holds, someHolds_append, someHolds_branches, someHolds_branches]

/-- Without a conjunction around it a single clause means the same. -/
theorem holds_unnegated (clauses : List Clause) (world : World) :
    (unnegated clauses).holds meaning world = allHold meaning clauses world := by
  rcases clauses with _ | ⟨single, _ | ⟨second, rest⟩⟩
  · rfl
  · exact (Bool.and_true _).symm
  · rfl

theorem holds_negate {clause negation : Clause} (accepted : clause.negate = .ok negation)
    (world : World) : negation.holds meaning world = !clause.holds meaning world := by
  cases negated_of_negate accepted with
  | pattern document field value => exact congrArg not (Bool.and_true _)
  | predicate operation arguments result => exact congrArg not (Bool.and_true _)
  | conjunction clauses => rfl
  | negation clauses => rw [holds_unnegated, holds, Bool.not_not]

end Truth

/-! ## Clauses without joins -/

/-- No join is in the clause, at any depth. -/
def JoinFree (clause : Clause) : Prop := ∀ part, Inside part clause → part.isJoin = false

theorem JoinFree.child {clause child : Clause} (free : clause.JoinFree)
    (member : child ∈ clause.children) : child.JoinFree :=
  fun part inside => free part (.child member inside)

theorem joinFree_of_children {clause : Clause} (open_ : clause.isJoin = false)
    (free : ∀ child ∈ clause.children, child.JoinFree) : clause.JoinFree := by
  intro part inside
  cases inside with
  | self => exact open_
  | child member inside => exact free _ member part inside

theorem JoinFree.append {left right : Clause} (leftFree : left.JoinFree)
    (rightFree : right.JoinFree) (part : Section) : (append part left right).JoinFree := by
  have inParts : ∀ clause : Clause, clause.JoinFree →
      ∀ inner ∈ parts part clause, inner.JoinFree := by
    intro clause free
    have single : ∀ inner ∈ [clause], inner.JoinFree := List.forall_mem_singleton.mpr free
    cases clause with
    | conjunction inner clauses =>
        rw [parts]
        split
        · exact fun _ member => free.child member
        · exact single
    | _ => exact single
  exact joinFree_of_children rfl
    (List.forall_mem_append.mpr ⟨inParts left leftFree, inParts right rightFree⟩)

theorem JoinFree.conjoin {left right both : Clause} (leftFree : left.JoinFree)
    (rightFree : right.JoinFree) (accepted : left.conjoin right = .ok both) : both.JoinFree := by
  cases conjoined_of_conjoin accepted with
  | key find filter keys entry =>
      exact joinFree_of_children rfl fun _ member => leftFree.child member
  | negationJoin shared clauses _ => exact absurd (leftFree _ .self) (by simp [isJoin])
  | disjunctionJoin shared clauses _ => exact absurd (leftFree _ .self) (by simp [isJoin])
  | query _ _ =>
      exact joinFree_of_children rfl
        (List.forall_mem_cons.mpr ⟨leftFree, List.forall_mem_singleton.mpr rightFree⟩)
  | append part _ _ => exact leftFree.append rightFree part

theorem JoinFree.disjoin {left right either : Clause} (leftFree : left.JoinFree)
    (rightFree : right.JoinFree) (accepted : left.disjoin right = .ok either) :
    either.JoinFree := by
  have inBranches : ∀ clause : Clause, clause.JoinFree →
      ∀ branch ∈ branches clause, branch.JoinFree := by
    intro clause free
    cases clause with
    | disjunction clauses => exact fun _ member => free.child member
    | _ => exact List.forall_mem_singleton.mpr free
  obtain ⟨_, _, rfl⟩ := eq_disjunction_of_disjoin accepted
  exact joinFree_of_children rfl
    (List.forall_mem_append.mpr ⟨inBranches left leftFree, inBranches right rightFree⟩)

theorem JoinFree.negate {clause negation : Clause} (free : clause.JoinFree)
    (accepted : clause.negate = .ok negation) : negation.JoinFree := by
  cases negated_of_negate accepted with
  | pattern document field value =>
      exact joinFree_of_children rfl (List.forall_mem_singleton.mpr free)
  | predicate operation arguments result =>
      exact joinFree_of_children rfl (List.forall_mem_singleton.mpr free)
  | conjunction clauses => exact joinFree_of_children rfl fun _ member => free.child member
  | negation clauses =>
      have inside : ∀ clause ∈ clauses, clause.JoinFree := fun _ member => free.child member
      rcases clauses with _ | ⟨single, _ | ⟨second, rest⟩⟩
      · exact joinFree_of_children rfl inside
      · exact inside single List.mem_cons_self
      · exact joinFree_of_children rfl inside

end Clause

/-! ## Formulas -/

/-- Clauses that are combined by conjunction, disjunction and negation. -/
inductive Formula where
  | operand (clause : Clause)
  | both (left right : Formula)
  | either (left right : Formula)
  | denial (formula : Formula)

namespace Formula

/-- The clause that the combinators make of a formula, if they accept it. -/
def evaluate : Formula → Outcome Clause
  | .operand clause => .ok clause
  | .both left right => do
      let first ← left.evaluate
      let second ← right.evaluate
      first.conjoin second
  | .either left right => do
      let first ← left.evaluate
      let second ← right.evaluate
      first.disjoin second
  | .denial formula => do
      let clause ← formula.evaluate
      clause.negate

/-- The clauses that a formula combines. -/
def operands : Formula → List Clause
  | .operand clause => [clause]
  | .both left right | .either left right => left.operands ++ right.operands
  | .denial formula => formula.operands

/-- Conjunction, disjunction and negation of truth values. -/
def truth {World : Type} (meaning : Meaning World) : Formula → World → Bool
  | .operand clause => clause.holds meaning
  | .both left right => fun world => left.truth meaning world && right.truth meaning world
  | .either left right => fun world => left.truth meaning world || right.truth meaning world
  | .denial formula => fun world => !formula.truth meaning world

/-- No conjunction in the formula has a join on its left, which would take in the other side. -/
def KeepsJoins : Formula → Prop
  | .operand _ => True
  | .both left right =>
      left.KeepsJoins ∧ right.KeepsJoins ∧
        ∀ clause, left.evaluate = .ok clause → clause.isJoin = false
  | .either left right => left.KeepsJoins ∧ right.KeepsJoins
  | .denial formula => formula.KeepsJoins

/-- The formula combines well-sectioned conditions. -/
def OverConditions (formula : Formula) : Prop :=
  Clause.WellSectionedAll .condition formula.operands

/-! ## Values of formulas -/

/-- What the operands have and every combinator keeps is had by the value of a formula. -/
theorem invariant_of_evaluate {invariant : Clause → Prop}
    (conjoin : ∀ {left right both}, invariant left → invariant right →
      left.conjoin right = .ok both → invariant both)
    (disjoin : ∀ {left right either}, invariant left → invariant right →
      left.disjoin right = .ok either → invariant either)
    (negate : ∀ {clause negation}, invariant clause → clause.negate = .ok negation →
      invariant negation)
    {formula : Formula} (operands : ∀ operand ∈ formula.operands, invariant operand)
    {clause : Clause} (value : formula.evaluate = .ok clause) : invariant clause := by
  induction formula generalizing clause with
  | operand single =>
      cases value
      exact operands _ (List.mem_singleton_self _)
  | both left right leftHypothesis rightHypothesis =>
      obtain ⟨leftOperands, rightOperands⟩ := List.forall_mem_append.mp operands
      obtain ⟨first, leftValue, later⟩ := bind_eq_ok.mp value
      obtain ⟨second, rightValue, accepted⟩ := bind_eq_ok.mp later
      exact conjoin (leftHypothesis leftOperands leftValue)
        (rightHypothesis rightOperands rightValue) accepted
  | either left right leftHypothesis rightHypothesis =>
      obtain ⟨leftOperands, rightOperands⟩ := List.forall_mem_append.mp operands
      obtain ⟨first, leftValue, later⟩ := bind_eq_ok.mp value
      obtain ⟨second, rightValue, accepted⟩ := bind_eq_ok.mp later
      exact disjoin (leftHypothesis leftOperands leftValue)
        (rightHypothesis rightOperands rightValue) accepted
  | denial inner inductionHypothesis =>
      obtain ⟨positive, innerValue, accepted⟩ := bind_eq_ok.mp value
      exact negate (inductionHypothesis operands innerValue) accepted

/-- Well-sectioned conditions are combined to such conditions. -/
theorem condition_of_evaluate {formula : Formula} (conditions : formula.OverConditions)
    {clause : Clause} (value : formula.evaluate = .ok clause) :
    clause.kind = .condition ∧ clause.WellSectioned := by
  refine invariant_of_evaluate ?_ ?_ ?_ conditions value
  · rintro left right both ⟨leftKind, leftSectioned⟩ ⟨rightKind, rightSectioned⟩ accepted
    have kinds := Clause.kind_conjoin left right
    rw [accepted, leftKind, rightKind] at kinds
    exact ⟨Option.some.inj kinds, leftSectioned.conjoin rightSectioned accepted⟩
  · rintro left right either ⟨_, leftSectioned⟩ ⟨_, rightSectioned⟩ accepted
    have sectioned := leftSectioned.disjoin rightSectioned accepted
    obtain ⟨_, _, rfl⟩ := Clause.eq_disjunction_of_disjoin accepted
    exact ⟨rfl, sectioned⟩
  · rintro clause negation ⟨_, sectioned⟩ accepted
    exact (sectioned.negate accepted).2

/-- A formula over conditions is as true as its parts make it, unless a join is extended. -/
theorem holds_evaluate {World : Type} (meaning : Meaning World) {formula : Formula}
    (conditions : formula.OverConditions) (keeps : formula.KeepsJoins) {clause : Clause}
    (value : formula.evaluate = .ok clause) (world : World) :
    clause.holds meaning world = formula.truth meaning world := by
  induction formula generalizing clause with
  | operand single =>
      cases value
      rfl
  | both left right leftHypothesis rightHypothesis =>
      obtain ⟨leftConditions, rightConditions⟩ := List.forall_mem_append.mp conditions
      obtain ⟨leftKeeps, rightKeeps, open_⟩ := keeps
      obtain ⟨first, leftValue, later⟩ := bind_eq_ok.mp value
      obtain ⟨second, rightValue, accepted⟩ := bind_eq_ok.mp later
      rw [Clause.conjoin_eq_append (condition_of_evaluate leftConditions leftValue).1
        (condition_of_evaluate rightConditions rightValue).1 (open_ first leftValue)] at accepted
      cases accepted
      rw [Clause.holds_append, leftHypothesis leftConditions leftKeeps leftValue,
        rightHypothesis rightConditions rightKeeps rightValue, truth]
  | either left right leftHypothesis rightHypothesis =>
      obtain ⟨leftConditions, rightConditions⟩ := List.forall_mem_append.mp conditions
      obtain ⟨first, leftValue, later⟩ := bind_eq_ok.mp value
      obtain ⟨second, rightValue, accepted⟩ := bind_eq_ok.mp later
      rw [Clause.holds_disjoin meaning accepted, leftHypothesis leftConditions keeps.1 leftValue,
        rightHypothesis rightConditions keeps.2 rightValue, truth]
  | denial inner inductionHypothesis =>
      obtain ⟨positive, innerValue, accepted⟩ := bind_eq_ok.mp value
      rw [Clause.holds_negate meaning accepted, inductionHypothesis conditions keeps innerValue,
        truth]

/-- Without a join in one of the operands there is none that could be extended. -/
theorem keepsJoins_of_joinFree {formula : Formula}
    (free : ∀ operand ∈ formula.operands, operand.JoinFree) : formula.KeepsJoins := by
  induction formula with
  | operand single => trivial
  | both left right leftHypothesis rightHypothesis =>
      obtain ⟨leftFree, rightFree⟩ := List.forall_mem_append.mp free
      refine ⟨leftHypothesis leftFree, rightHypothesis rightFree, fun clause value => ?_⟩
      have clauseFree : clause.JoinFree :=
        invariant_of_evaluate .conjoin .disjoin .negate leftFree value
      exact clauseFree clause .self
  | either left right leftHypothesis rightHypothesis =>
      obtain ⟨leftFree, rightFree⟩ := List.forall_mem_append.mp free
      exact ⟨leftHypothesis leftFree, rightHypothesis rightFree⟩
  | denial inner inductionHypothesis => exact inductionHypothesis free

end Formula

/-- Conjunction, disjunction and negation of conditions mean what they say wherever they are
accepted, and so does every formula in which no conjunction has a join on its left. Such a join
would take the other clause into its body; without joins among the operands there is none. With a
single world and joins that pass on their bodies this is so for every assignment of truth values. -/
theorem combinators_truth {World : Type} (meaning : Meaning World) :
    (∀ left right : Clause, left.kind = .condition → right.kind = .condition →
      (left.isJoin = false → ∃ both, left.conjoin right = .ok both ∧ ∀ world,
        both.holds meaning world = (left.holds meaning world && right.holds meaning world)) ∧
      ((∃ either, left.disjoin right = .ok either) ↔
        ¬ (left.isLeaf = true ∧ right.isConjunction = true)) ∧
      ∀ either, left.disjoin right = .ok either → ∀ world,
        either.holds meaning world = (left.holds meaning world || right.holds meaning world)) ∧
    (∀ clause : Clause, clause.kind = .condition →
      ((∃ negation, clause.negate = .ok negation) ↔ clause.isGroup = false) ∧
      ∀ negation, clause.negate = .ok negation → ∀ world,
        negation.holds meaning world = !clause.holds meaning world) ∧
    (∀ (formula : Formula) (clause : Clause), formula.OverConditions →
      formula.evaluate = .ok clause → formula.KeepsJoins → ∀ world,
        clause.holds meaning world = formula.truth meaning world) ∧
    ∀ formula : Formula, (∀ operand ∈ formula.operands, operand.JoinFree) →
      formula.KeepsJoins := by
  refine ⟨fun left right leftKind rightKind => ⟨fun open_ => ?_, ?_, ?_⟩,
    fun clause condition => ⟨Clause.exists_negate_iff condition, fun _ accepted world =>
      Clause.holds_negate meaning accepted world⟩,
    fun formula clause conditions value keeps world =>
      Formula.holds_evaluate meaning conditions keeps value world,
    fun formula free => Formula.keepsJoins_of_joinFree free⟩
  · exact ⟨_, Clause.conjoin_eq_append leftKind rightKind open_, fun world =>
      Clause.holds_append meaning .condition left right world⟩
  · rw [Clause.disjoin_eq leftKind rightKind, ← Bool.and_eq_true]
    cases left.isLeaf && right.isConjunction <;> simp
  · exact fun either accepted world => Clause.holds_disjoin meaning accepted world

/-- Someone is gone nowhere. -/
def nowhereGone : Clause := .negationJoin "?e" [.pattern "?e" "gone" "?place"]

/-- Someone who is banned or has no name is gone nowhere, or someone is old. -/
def bannedOrOld : Formula :=
  .either
    (.both
      (.denial (.both (.operand (.pattern "?e" "name" "?name"))
        (.denial (.operand (.pattern "?e" "banned" "true")))))
      (.operand nowhereGone))
    (.operand (.predicate "old?" ["?e"] none))

theorem combinators_truth_bannedOrOld :
    bannedOrOld.OverConditions ∧ bannedOrOld.KeepsJoins ∧
      (∃ clause, bannedOrOld.evaluate = .ok clause ∧ ∀ assignment : Leaf → Bool,
        clause.holds (.ofAssignment assignment) () =
          bannedOrOld.truth (.ofAssignment assignment) ()) ∧
      (∃ both, (Clause.pattern "?e" "name" "?name").conjoin nowhereGone = .ok both ∧
        both.holds (.ofAssignment fun leaf => leaf == .pattern "?e" "name" "?name") () = true) ∧
      (¬ ∃ either, (Clause.pattern "?e" "old" "true").disjoin
        (.conjunction .condition [nowhereGone]) = .ok either) ∧
      (¬ ∃ negation, nowhereGone.negate = .ok negation) ∧
      (Formula.both (.operand (.pattern "?e" "name" "?name"))
        (.operand (.predicate "old?" ["?e"] none))).KeepsJoins := by
  have single : ∀ document field value, (Clause.pattern document field value).WellSectioned :=
    fun document field value => (Clause.Built.pattern document field value).wellSectioned
  have nowhere : nowhereGone.WellSectioned :=
    (Clause.Built.negationJoin "?e" (List.cons_ne_nil _ _)
      (List.forall_mem_singleton.mpr ⟨rfl, single _ _ _⟩)).wellSectioned
  have conditions : bannedOrOld.OverConditions := by
    simp only [Formula.OverConditions, Clause.WellSectionedAll, bannedOrOld, Formula.operands,
      List.cons_append, List.nil_append, List.forall_mem_cons]
    exact ⟨⟨rfl, single _ _ _⟩, ⟨rfl, single _ _ _⟩, ⟨rfl, nowhere⟩,
      ⟨rfl, (Clause.Built.predicate _ _ _).wellSectioned⟩, List.forall_mem_nil _⟩
  have keeps : bannedOrOld.KeepsJoins := by
    refine ⟨⟨⟨trivial, trivial, ?_⟩, trivial, ?_⟩, trivial⟩
    · rintro clause ⟨⟩
      rfl
    · rintro clause ⟨⟩
      rfl
  have free : ∀ clause ∈ [Clause.pattern "?e" "name" "?name", .predicate "old?" ["?e"] none],
      clause.JoinFree := by
    simp only [List.forall_mem_cons]
    exact ⟨Clause.joinFree_of_children rfl (List.forall_mem_nil _),
      Clause.joinFree_of_children rfl (List.forall_mem_nil _), List.forall_mem_nil _⟩
  obtain ⟨pairs, negations, _, joinFree⟩ := combinators_truth
    (.ofAssignment fun leaf => leaf == .pattern "?e" "name" "?name")
  obtain ⟨both, value, truth⟩ := (pairs (.pattern "?e" "name" "?name") nowhereGone rfl rfl).1 rfl
  refine ⟨conditions, keeps, ⟨_, rfl, fun assignment => ?_⟩, ⟨both, value, ?_⟩, ?_, ?_,
    joinFree (.both (.operand _) (.operand _)) free⟩
  · exact (combinators_truth (.ofAssignment assignment)).2.2.1 bannedOrOld _ conditions rfl keeps ()
  · rw [truth]
    decide
  · exact fun accepted => (pairs (.pattern "?e" "old" "true")
      (.conjunction .condition [nowhereGone]) rfl rfl).2.1.mp accepted ⟨rfl, rfl⟩
  · exact fun accepted => absurd ((negations nowhereGone rfl).1.mp accepted) (by decide)

end Bitemporal
