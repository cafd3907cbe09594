/-
This file shows that combined clauses keep conditions and projections in their sections.
-/
import Bitemporal.Clause.Text
import Bitemporal.Proofs.Clause.Canonical
import Bitemporal.Proofs.Clause.Combinators
import Bitemporal.Proofs.Clause.Meaning
import Bitemporal.Proofs.Text.ByteOrder

namespace Bitemporal.Clause

/-! ## Trees of clauses -/

/-- The clauses directly inside a clause. -/
def children : Clause → List Clause
  | .conjunction _ clauses | .disjunction clauses | .negation clauses => clauses
  | .negationJoin _ clauses | .disjunctionJoin _ clauses => clauses
  | .query find filter _ => [find, filter]
  | .pattern _ _ _ | .predicate _ _ _ | .projection _ | .key _ => []

/-- A clause inside another one, at any depth; each clause is inside itself. -/
inductive Inside (part : Clause) : Clause → Prop where
  | self : Inside part part
  | child {child clause : Clause} (member : child ∈ clause.children) (inside : Inside part child) :
      Inside part clause

/-- Some clauses, all of which are conditions. -/
def SomeConditions (clauses : List Clause) : Prop :=
  clauses ≠ [] ∧ ∀ clause ∈ clauses, clause.kind = .condition

/-- The clauses directly inside a clause belong to its section. -/
def HoldsSection : Clause → Prop
  | .conjunction .condition clauses | .disjunction clauses | .negation clauses =>
      SomeConditions clauses
  | .negationJoin _ clauses | .disjunctionJoin _ clauses => SomeConditions clauses
  | .conjunction .projection clauses => ∀ clause ∈ clauses, clause.kind = .projection
  | .query find filter _ => find.kind = .projection ∧ filter.kind = .condition
  | .pattern _ _ _ | .predicate _ _ _ | .projection _ | .key _ => True

/-- All clauses of a tree hold their sections. -/
inductive WellSectioned : Clause → Prop where
  | intro {clause : Clause} (holds : clause.HoldsSection)
      (later : ∀ child ∈ clause.children, WellSectioned child) : WellSectioned clause

theorem wellSectioned_of_childless {clause : Clause} (alone : clause.children = [])
    (holds : clause.HoldsSection) : clause.WellSectioned := by
  refine ⟨holds, fun child member => ?_⟩
  rw [alone] at member
  cases member

theorem WellSectioned.holds {clause : Clause} (sectioned : clause.WellSectioned) :
    clause.HoldsSection := by
  cases sectioned with
  | intro holds _ => exact holds

theorem WellSectioned.child {clause child : Clause} (sectioned : clause.WellSectioned)
    (member : child ∈ clause.children) : child.WellSectioned := by
  cases sectioned with
  | intro _ later => exact later child member

theorem WellSectioned.inside {clause part : Clause} (sectioned : clause.WellSectioned)
    (inside : Inside part clause) : part.WellSectioned := by
  induction inside with
  | self => exact sectioned
  | child member _ inductionHypothesis => exact inductionHypothesis (sectioned.child member)

/-- Every part of a well-sectioned condition is a condition. -/
theorem WellSectioned.isCondition {clause : Clause} (sectioned : clause.WellSectioned)
    (condition : clause.kind = .condition) : clause.isCondition = true := by
  induction sectioned with
  | @intro clause holds _ inductionHypothesis =>
      have inside : ∀ {clauses : List Clause}, clause.children = clauses →
          SomeConditions clauses → areConditions clauses = true := by
        rintro clauses rfl conditions
        rw [areConditions_iff]
        exact fun child member => inductionHypothesis child member (conditions.2 child member)
      cases clause with
      | pattern _ _ _ | predicate _ _ _ => rfl
      | conjunction part clauses =>
          cases part with
          | condition => exact inside rfl holds
          | projection => cases condition
      | disjunction clauses | negation clauses => exact inside rfl holds
      | negationJoin shared clauses | disjunctionJoin shared clauses => exact inside rfl holds
      | projection _ | key _ | query _ _ _ => cases condition

theorem SomeConditions.append {left right : List Clause} (leftConditions : SomeConditions left)
    (rightConditions : ∀ clause ∈ right, clause.kind = .condition) :
    SomeConditions (left ++ right) :=
  ⟨List.append_ne_nil_of_left_ne_nil leftConditions.1 right,
    List.forall_mem_append.mpr ⟨leftConditions.2, rightConditions⟩⟩

theorem someConditions_singleton {clause : Clause} (condition : clause.kind = .condition) :
    SomeConditions [clause] := ⟨List.cons_ne_nil _ _, List.forall_mem_singleton.mpr condition⟩

/-! ## Combinators -/

/-- Clauses of a section that are well-sectioned themselves. -/
def WellSectionedAll (kind : Kind) (clauses : List Clause) : Prop :=
  ∀ clause ∈ clauses, clause.kind = kind ∧ clause.WellSectioned

theorem wellSectioned_conjunction {part : Section} {clauses : List Clause}
    (filled : part = .condition → clauses ≠ [])
    (inside : WellSectionedAll part.kind clauses) : (conjunction part clauses).WellSectioned := by
  refine ⟨?_, fun child member => (inside child member).2⟩
  cases part with
  | condition => exact ⟨filled rfl, fun clause member => (inside clause member).1⟩
  | projection => exact fun clause member => (inside clause member).1

/-- The parts of a clause belong to its section. -/
theorem wellSectionedAll_parts {part : Section} {clause : Clause} (ofPart : clause.kind = part.kind)
    (sectioned : clause.WellSectioned) :
    (part = .condition → parts part clause ≠ []) ∧
      WellSectionedAll part.kind (parts part clause) := by
  have each : WellSectionedAll part.kind [clause] := by
    intro other member
    cases List.mem_singleton.mp member
    exact ⟨ofPart, sectioned⟩
  have single : (part = .condition → [clause] ≠ []) ∧ WellSectionedAll part.kind [clause] :=
    ⟨fun _ => List.cons_ne_nil _ _, each⟩
  cases clause with
  | conjunction inner clauses =>
      have same : inner = part := by
        rw [kind_conjunction] at ofPart
        cases inner <;> cases part <;> first | rfl | cases ofPart
      subst same
      rw [parts, if_pos rfl]
      have holds := sectioned.holds
      cases inner with
      | condition =>
          exact ⟨fun _ => holds.1,
            fun child member => ⟨holds.2 child member, sectioned.child member⟩⟩
      | projection =>
          exact ⟨fun condition => absurd condition (by decide),
            fun child member => ⟨holds child member, sectioned.child member⟩⟩
  | _ => exact single

theorem WellSectioned.append {part : Section} {left right : Clause}
    (leftKind : left.kind = part.kind) (rightKind : right.kind = part.kind)
    (leftSectioned : left.WellSectioned) (rightSectioned : right.WellSectioned) :
    (append part left right).WellSectioned := by
  obtain ⟨filled, leftParts⟩ := wellSectionedAll_parts leftKind leftSectioned
  obtain ⟨_, rightParts⟩ := wellSectionedAll_parts rightKind rightSectioned
  apply wellSectioned_conjunction
  · exact fun condition => List.append_ne_nil_of_left_ne_nil (filled condition) _
  · exact List.forall_mem_append.mpr ⟨leftParts, rightParts⟩

theorem WellSectioned.query {find filter : Clause} (findKind : find.kind = .projection)
    (filterKind : filter.kind = .condition) (findSectioned : find.WellSectioned)
    (filterSectioned : filter.WellSectioned) (keys : QueryKeys) :
    (query find filter keys).WellSectioned := by
  refine ⟨⟨findKind, filterKind⟩, ?_⟩
  exact List.forall_mem_cons.mpr ⟨findSectioned, List.forall_mem_singleton.mpr filterSectioned⟩

/-- A join takes a condition into its body. -/
theorem someConditions_body {clauses : List Clause} {right : Clause}
    (conditions : SomeConditions clauses) (condition : right.kind = .condition)
    (each : ∀ clause ∈ clauses, clause.WellSectioned) (rightSectioned : right.WellSectioned) :
    SomeConditions (clauses ++ [right]) ∧ ∀ clause ∈ clauses ++ [right], clause.WellSectioned :=
  ⟨conditions.append (List.forall_mem_singleton.mpr condition),
    List.forall_mem_append.mpr ⟨each, List.forall_mem_singleton.mpr rightSectioned⟩⟩

theorem WellSectioned.conjoin {left right clause : Clause} (leftSectioned : left.WellSectioned)
    (rightSectioned : right.WellSectioned) (accepted : left.conjoin right = .ok clause) :
    clause.WellSectioned := by
  cases conjoined_of_conjoin accepted with
  | key find filter keys entry =>
      obtain ⟨findKind, filterKind⟩ := leftSectioned.holds
      exact .query findKind filterKind (leftSectioned.child List.mem_cons_self)
        (leftSectioned.child (List.mem_cons_of_mem _ List.mem_cons_self)) _
  | negationJoin shared clauses condition =>
      obtain ⟨holds, later⟩ := someConditions_body leftSectioned.holds condition
        (fun _ member => leftSectioned.child member) rightSectioned
      exact ⟨holds, later⟩
  | disjunctionJoin shared clauses condition =>
      obtain ⟨holds, later⟩ := someConditions_body leftSectioned.holds condition
        (fun _ member => leftSectioned.child member) rightSectioned
      exact ⟨holds, later⟩
  | query projection condition =>
      exact .query projection condition leftSectioned rightSectioned _
  | append part leftKind rightKind => exact leftSectioned.append leftKind rightKind rightSectioned

/-- The branches of a condition are conditions. -/
theorem someConditions_branches {clause : Clause} (condition : clause.kind = .condition)
    (sectioned : clause.WellSectioned) :
    SomeConditions (branches clause) ∧ ∀ branch ∈ branches clause, branch.WellSectioned := by
  cases clause with
  | disjunction clauses => exact ⟨sectioned.holds, fun _ member => sectioned.child member⟩
  | _ =>
      exact ⟨someConditions_singleton condition, List.forall_mem_singleton.mpr sectioned⟩

theorem WellSectioned.disjoin {left right clause : Clause} (leftSectioned : left.WellSectioned)
    (rightSectioned : right.WellSectioned) (accepted : left.disjoin right = .ok clause) :
    clause.WellSectioned := by
  obtain ⟨leftKind, rightKind, rfl⟩ := eq_disjunction_of_disjoin accepted
  obtain ⟨leftConditions, leftEach⟩ := someConditions_branches leftKind leftSectioned
  obtain ⟨rightConditions, rightEach⟩ := someConditions_branches rightKind rightSectioned
  exact ⟨leftConditions.append rightConditions.2, List.forall_mem_append.mpr ⟨leftEach, rightEach⟩⟩

/-- A single clause under a negation is a condition, and several ones form a conjunction. -/
theorem unnegated_sectioned {clauses : List Clause} (conditions : SomeConditions clauses)
    (each : ∀ clause ∈ clauses, clause.WellSectioned) :
    (unnegated clauses).kind = .condition ∧ (unnegated clauses).WellSectioned := by
  have whole : (conjunction .condition clauses).WellSectioned := ⟨conditions, each⟩
  rcases clauses with _ | ⟨first, _ | ⟨second, rest⟩⟩
  · exact absurd rfl conditions.1
  · exact ⟨conditions.2 first List.mem_cons_self, each first List.mem_cons_self⟩
  · exact ⟨rfl, whole⟩

theorem WellSectioned.negate {clause negation : Clause} (sectioned : clause.WellSectioned)
    (accepted : clause.negate = .ok negation) :
    clause.kind = .condition ∧ negation.kind = .condition ∧ negation.WellSectioned := by
  cases negated_of_negate accepted with
  | pattern document field value =>
      exact ⟨rfl, rfl, someConditions_singleton rfl, List.forall_mem_singleton.mpr sectioned⟩
  | predicate operation arguments result =>
      exact ⟨rfl, rfl, someConditions_singleton rfl, List.forall_mem_singleton.mpr sectioned⟩
  | conjunction clauses =>
      exact ⟨rfl, rfl, sectioned.holds, fun _ member => sectioned.child member⟩
  | negation clauses =>
      exact ⟨rfl, unnegated_sectioned sectioned.holds fun _ member => sectioned.child member⟩

theorem complete_eq_ok_iff {find filter clause : Clause} :
    complete find filter = .ok clause ↔
      find.kind = .projection ∧ filter.kind = .condition ∧ clause = .query find filter .empty := by
  unfold complete
  split
  · next kinds => simp [kinds, eq_comm]
  · next kinds =>
      simp only [reduceCtorEq, false_iff]
      exact fun all => kinds ⟨all.1, all.2.1⟩

/-! ## Canonical siblings -/

theorem SomeConditions.allCommutative {clauses : List Clause}
    (conditions : SomeConditions clauses) : allCommutative clauses = true :=
  List.all_eq_true.mpr fun clause member => commutative_of_kind (conditions.2 clause member)

theorem SomeConditions.allIdempotent {clauses : List Clause}
    (conditions : SomeConditions clauses) : allIdempotent clauses = true :=
  conditions.allCommutative

/-- The text of a clause lists exactly these members, each pair of them in order. -/
def Lists (clause : Clause) (inOrder : String → String → Prop) (members : List String)
    (group : Bool → String → List String → String) : Prop :=
  ∃ fragments : List String, fragments.Pairwise inOrder ∧
    (∀ fragment, fragment ∈ fragments ↔ fragment ∈ members) ∧
    ∀ atRoot separator, clause.text atRoot separator = group atRoot separator fragments

/-- A group in round brackets that starts in this way. -/
def roundText (opening : String) (atRoot : Bool) (_separator : String) (fragments : List String) :
    String :=
  conditionText atRoot (opening ++ " ".intercalate fragments ++ ")")

/-- Conjunctions and disjunctions list their fragments in the order of their bytes, and no group
repeats a fragment. -/
def ListsCanonically (clause : Clause) : Prop :=
  match clause with
  | .conjunction .condition clauses =>
      clause.Lists (fun left right => utf8 left < utf8 right) (conjuncts .condition clauses)
        (conjunctionText .condition)
  | .disjunction clauses =>
      clause.Lists (fun left right => utf8 left < utf8 right) (disjuncts clauses) (roundText "(or ")
  | .negation clauses =>
      clause.Lists (· ≠ ·) (conjuncts .condition clauses) (roundText "(not ")
  | .negationJoin shared clauses =>
      clause.Lists (· ≠ ·) (conjuncts .condition clauses)
        (roundText ("(not-join [" ++ shared ++ "] "))
  | .disjunctionJoin shared clauses =>
      clause.Lists (· ≠ ·) (alternatives clauses) (roundText ("(or-join [" ++ shared ++ "] "))
  | _ => True

theorem lists_increasing {clause : Clause} {members : List String}
    {group : Bool → String → List String → String}
    (text : ∀ atRoot separator,
      clause.text atRoot separator = group atRoot separator (canonical true true members)) :
    clause.Lists (fun left right => utf8 left < utf8 right) members group :=
  ⟨canonical true true members, (pairwise_canonical members).imp utf8_lt_of_lt,
    fun _ => mem_canonical, text⟩

theorem lists_distinct {clause : Clause} {members : List String}
    {group : Bool → String → List String → String}
    (text : ∀ atRoot separator,
      clause.text atRoot separator = group atRoot separator (canonical false true members)) :
    clause.Lists (· ≠ ·) members group :=
  ⟨canonical false true members, nodup_eraseDups members, fun _ => mem_canonical, text⟩

/-- Nothing keeps the fragments of a well-sectioned clause from being sorted and told apart. -/
theorem WellSectioned.listsCanonically {clause : Clause} (sectioned : clause.WellSectioned) :
    clause.ListsCanonically := by
  cases clause with
  | conjunction part clauses =>
      cases part with
      | condition =>
          have conditions : SomeConditions clauses := sectioned.holds
          apply lists_increasing
          intro atRoot separator
          rw [text, conjunctionFragments, conditions.allCommutative, conditions.allIdempotent]
          rfl
      | projection => trivial
  | disjunction clauses =>
      have conditions : SomeConditions clauses := sectioned.holds
      apply lists_increasing
      intro atRoot separator
      rw [text, conditions.allCommutative, conditions.allIdempotent]
      rfl
  | negation clauses | negationJoin shared clauses | disjunctionJoin shared clauses =>
      have conditions : SomeConditions clauses := sectioned.holds
      apply lists_distinct
      intro atRoot separator
      rw [text, conditions.allIdempotent]
      rfl
  | _ => trivial

/-! ## Clauses that are built -/

/-- What can be built from leaves, and from joins over conditions, by combining clauses. -/
inductive Built : Clause → Prop where
  | pattern (document field value : String) : Built (.pattern document field value)
  | predicate (operation : String) (arguments : List String) (result : Option String) :
      Built (.predicate operation arguments result)
  | projection (expression : String) : Built (.projection expression)
  | key (entry : QueryKey) : Built (.key entry)
  | negationJoin (shared : String) {clauses : List Clause} (filled : clauses ≠ [])
      (inside : WellSectionedAll .condition clauses) : Built (.negationJoin shared clauses)
  | disjunctionJoin (shared : String) {clauses : List Clause} (filled : clauses ≠ [])
      (inside : WellSectionedAll .condition clauses) : Built (.disjunctionJoin shared clauses)
  | conjoin {left right clause : Clause} (leftBuilt : Built left) (rightBuilt : Built right)
      (accepted : left.conjoin right = .ok clause) : Built clause
  | disjoin {left right clause : Clause} (leftBuilt : Built left) (rightBuilt : Built right)
      (accepted : left.disjoin right = .ok clause) : Built clause
  | negate {clause negation : Clause} (built : Built clause)
      (accepted : clause.negate = .ok negation) : Built negation
  | complete {find filter clause : Clause} (findBuilt : Built find) (filterBuilt : Built filter)
      (accepted : complete find filter = .ok clause) : Built clause

theorem Built.wellSectioned {clause : Clause} (built : Built clause) : clause.WellSectioned := by
  induction built with
  | pattern document field value => exact ⟨trivial, fun _ member => nomatch member⟩
  | predicate operation arguments result => exact ⟨trivial, fun _ member => nomatch member⟩
  | projection expression => exact ⟨trivial, fun _ member => nomatch member⟩
  | key entry => exact ⟨trivial, fun _ member => nomatch member⟩
  | negationJoin shared filled inside | disjunctionJoin shared filled inside =>
      exact ⟨⟨filled, fun clause member => (inside clause member).1⟩,
        fun clause member => (inside clause member).2⟩
  | conjoin _ _ accepted left right => exact left.conjoin right accepted
  | disjoin _ _ accepted left right => exact left.disjoin right accepted
  | negate _ accepted inductionHypothesis => exact (inductionHypothesis.negate accepted).2.2
  | complete _ _ accepted find filter =>
      obtain ⟨findKind, filterKind, rfl⟩ := complete_eq_ok_iff.mp accepted
      exact .query findKind filterKind find filter _

/-- Whatever is built is well-sectioned, so that every group in it is in canonical form, and the
kinds of clauses alone decide how they go together. -/
theorem built_sections :
    (∀ clause, Built clause → clause.WellSectioned ∧
      ∀ part, Inside part clause → part.ListsCanonically) ∧
    (∀ left right : Clause,
      (left.conjoin right).toOption.map kind = conjoinedKind? left.kind right.kind) ∧
    (∀ left right clause : Clause, left.disjoin right = .ok clause →
      left.kind = .condition ∧ right.kind = .condition ∧ clause.kind = .condition) ∧
    (∀ clause negation : Clause, Built clause → clause.negate = .ok negation →
      clause.kind = .condition ∧ negation.kind = .condition) ∧
    ∀ find filter clause : Clause, complete find filter = .ok clause →
      find.kind = .projection ∧ filter.kind = .condition ∧ clause.kind = .query := by
  refine ⟨?_, kind_conjoin, ?_, ?_, ?_⟩
  · intro clause built
    have sectioned := built.wellSectioned
    exact ⟨sectioned, fun part inside => (sectioned.inside inside).listsCanonically⟩
  · intro left right clause accepted
    obtain ⟨leftKind, rightKind, rfl⟩ := eq_disjunction_of_disjoin accepted
    exact ⟨leftKind, rightKind, rfl⟩
  · intro clause negation built accepted
    obtain ⟨kind, negationKind, _⟩ := built.wellSectioned.negate accepted
    exact ⟨kind, negationKind⟩
  · intro find filter clause accepted
    obtain ⟨findKind, filterKind, rfl⟩ := complete_eq_ok_iff.mp accepted
    exact ⟨findKind, filterKind, rfl⟩

/-- The name of someone who is not both gone and banned. -/
def nameOfAllowed : Clause :=
  .conjunction .condition [.pattern "?e" "name" "?n",
    .negation [.pattern "?e" "gone" "true", .pattern "?e" "banned" "true"]]

/-- At most three names. -/
def namesOfAllowed : Clause :=
  .query (.projection "?n") nameOfAllowed (QueryKeys.empty.set (.limit 3))

theorem built_sections_namesOfAllowed :
    Built namesOfAllowed ∧ namesOfAllowed.WellSectioned ∧
      Inside nameOfAllowed namesOfAllowed ∧ nameOfAllowed.ListsCanonically ∧
      (∃ either, nameOfAllowed.disjoin (.pattern "?e" "free" "true") = .ok either ∧
        either.kind = .condition) ∧
      (∃ negation, nameOfAllowed.negate = .ok negation ∧ negation.kind = .condition) ∧
      ∃ query, complete (.projection "?n") nameOfAllowed = .ok query ∧ query.kind = .query := by
  have name : Built (.pattern "?e" "name" "?n") := .pattern _ _ _
  have gone : Built (.pattern "?e" "gone" "true") := .pattern _ _ _
  have banned : Built (.pattern "?e" "banned" "true") := .pattern _ _ _
  have conditions : Built nameOfAllowed :=
    name.conjoin ((gone.conjoin banned rfl).negate rfl) rfl
  have built : Built namesOfAllowed :=
    ((Built.projection "?n").conjoin conditions rfl).conjoin (.key (.limit 3)) rfl
  have inside : Inside nameOfAllowed namesOfAllowed :=
    .child (List.mem_cons_of_mem _ List.mem_cons_self) .self
  obtain ⟨whole, _, disjoined, negated, completed⟩ := built_sections
  obtain ⟨sectioned, lists⟩ := whole namesOfAllowed built
  exact ⟨built, sectioned, inside, lists _ inside,
    ⟨_, rfl, (disjoined nameOfAllowed (.pattern "?e" "free" "true") _ rfl).2.2⟩,
    ⟨_, rfl, (negated nameOfAllowed _ conditions rfl).2⟩,
    _, rfl, (completed (.projection "?n") nameOfAllowed _ rfl).2.2⟩

end Bitemporal.Clause
