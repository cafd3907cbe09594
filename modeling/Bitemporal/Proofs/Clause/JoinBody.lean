/-
This file gives the fragments in the body of a negation or of a join, which stand there once each,
in the order of the conditions.
-/
import Bitemporal.Proofs.Clause.Disjunction
import Bitemporal.Proofs.Clause.NormalForm

namespace Bitemporal

/-- Fragments that are listed already are dropped when they come again. -/
theorem firstOccurrences_append_known {fragments repeated : List String}
    (known : repeated ⊆ fragments) :
    firstOccurrences (fragments ++ repeated) = firstOccurrences fragments := by
  have dropped : repeated.removeAll fragments = [] := by
    rw [List.removeAll, List.filter_eq_nil_iff]
    intro fragment member
    simpa using known member
  rw [← eraseDups_eq_firstOccurrences, List.eraseDups_append, dropped, List.eraseDups_nil,
    List.append_nil, eraseDups_eq_firstOccurrences]

namespace Clause

/-! ## Opened conjunctions -/

mutual

/-- The conditions that a condition stands for where conjunctions are opened, at any depth. -/
def opened : Clause → List Clause
  | .conjunction .condition clauses => allOpened clauses
  | clause => [clause]

def allOpened : List Clause → List Clause
  | [] => []
  | clause :: rest => opened clause ++ allOpened rest

end

theorem allOpened_eq_flatMap (clauses : List Clause) :
    allOpened clauses = clauses.flatMap opened := by
  induction clauses with
  | nil => rfl
  | cons clause rest inductionHypothesis =>
      rw [allOpened, List.flatMap_cons, inductionHypothesis]

theorem conjuncts_eq_map_allOpened (clauses : List Clause) :
    conjuncts .condition clauses = (allOpened clauses).map (text false " ") := by
  cases clauses with
  | nil => rfl
  | cons clause rest =>
      have later := conjuncts_eq_map_allOpened rest
      cases clause with
      | conjunction part inner =>
          cases part with
          | condition =>
              rw [conjuncts, if_pos rfl, conjuncts_eq_map_allOpened inner, later, allOpened,
                opened, List.map_append]
          | projection => simp [conjuncts, allOpened, opened, later]
      | _ => simp [conjuncts, allOpened, opened, later]

theorem alternatives_eq_map (clauses : List Clause) :
    alternatives clauses = clauses.map branchText := by
  induction clauses with
  | nil => rfl
  | cons clause rest inductionHypothesis =>
      rw [List.map_cons, ← inductionHypothesis]
      cases clause <;> rfl

theorem alternatives_append (left right : List Clause) :
    alternatives (left ++ right) = alternatives left ++ alternatives right := by
  simp only [alternatives_eq_map, List.map_append]

theorem allIdempotent_of_kind {clauses : List Clause}
    (conditions : ∀ clause ∈ clauses, clause.kind = .condition) : allIdempotent clauses = true :=
  List.all_eq_true.mpr fun clause member => commutative_of_kind (conditions clause member)

/-! ## Bodies -/

/-- A group that keeps the order of its conditions. -/
inductive Group where
  | negation
  | negationJoin (shared : String)
  | disjunctionJoin (shared : String)

namespace Group

def isJoin : Group → Bool
  | .negation => false
  | .negationJoin _ | .disjunctionJoin _ => true

/-- The group of these conditions. -/
def of : Group → List Clause → Clause
  | .negation => .negation
  | .negationJoin shared => .negationJoin shared
  | .disjunctionJoin shared => .disjunctionJoin shared

/-- What stands in front of the body. -/
def opening : Group → String
  | .negation => "(not "
  | .negationJoin shared => "(not-join [" ++ shared ++ "] "
  | .disjunctionJoin shared => "(or-join [" ++ shared ++ "] "

/-- The fragments of all conditions. A negation opens conjunctions, and a disjunction keeps them
together. -/
def members : Group → List Clause → List String
  | .negation, clauses | .negationJoin _, clauses =>
      (clauses.flatMap opened).map (text false " ")
  | .disjunctionJoin _, clauses => clauses.map branchText

/-- The fragments that the group lists. -/
def body (group : Group) (clauses : List Clause) : List String :=
  firstOccurrences (group.members clauses)

theorem members_append (group : Group) (left right : List Clause) :
    group.members (left ++ right) = group.members left ++ group.members right := by
  cases group <;> simp [members]

theorem members_subset (group : Group) {clauses others : List Clause} (known : clauses ⊆ others) :
    group.members clauses ⊆ group.members others := by
  cases group with
  | negation | negationJoin shared =>
      apply List.map_subset
      intro clause member
      obtain ⟨whole, present, inside⟩ := List.mem_flatMap.mp member
      exact List.mem_flatMap.mpr ⟨whole, known present, inside⟩
  | disjunctionJoin shared => exact List.map_subset _ known

/-- Neither the separator nor a repetition reaches the body of a group of conditions. -/
theorem text_of (group : Group) {clauses : List Clause}
    (conditions : ∀ clause ∈ clauses, clause.kind = .condition) (atRoot : Bool)
    (separator : String) :
    (group.of clauses).text atRoot separator =
      conditionText atRoot (group.opening ++ " ".intercalate (group.body clauses) ++ ")") := by
  have idempotent := allIdempotent_of_kind conditions
  have distinct : ∀ fragments, canonical false true fragments = firstOccurrences fragments :=
    eraseDups_eq_firstOccurrences
  cases group with
  | negation | negationJoin shared =>
      rw [of, text, idempotent, distinct, conjuncts_eq_map_allOpened, allOpened_eq_flatMap]
      rfl
  | disjunctionJoin shared =>
      rw [of, text, idempotent, distinct, alternatives_eq_map]
      rfl

/-- Conditions whose fragments are in the body already add nothing to it. -/
theorem text_of_append_known (group : Group) {clauses repeated : List Clause}
    (conditions : ∀ clause ∈ clauses ++ repeated, clause.kind = .condition)
    (known : group.members repeated ⊆ group.members clauses) (atRoot : Bool)
    (separator : String) :
    (group.of (clauses ++ repeated)).text atRoot separator =
      (group.of clauses).text atRoot separator := by
  have earlier := (List.forall_mem_append.mp conditions).1
  have sameBody : group.body (clauses ++ repeated) = group.body clauses := by
    rw [body, body, members_append, firstOccurrences_append_known known]
  rw [text_of group conditions, text_of group earlier, sameBody]

/-- A join takes conditions into its body, and stays the same join. -/
theorem conjoin_of {group : Group} (join : group.isJoin = true) (clauses : List Clause)
    {clause : Clause} (condition : clause.kind = .condition) :
    (group.of clauses).conjoin clause = .ok (group.of (clauses ++ [clause])) := by
  cases group with
  | negation => cases join
  | negationJoin shared => exact conjoin_eq_join (.inl rfl) clauses condition
  | disjunctionJoin shared => exact conjoin_eq_join (.inr rfl) clauses condition

theorem conjoinAll_of {group : Group} (join : group.isJoin = true) {clauses rest : List Clause}
    (conditions : ∀ clause ∈ rest, clause.kind = .condition) :
    conjoinAll (group.of clauses) rest = .ok (group.of (clauses ++ rest)) := by
  induction rest generalizing clauses with
  | nil => rw [List.append_nil]; rfl
  | cons clause rest inductionHypothesis =>
      obtain ⟨first, later⟩ := List.forall_mem_cons.mp conditions
      rw [conjoinAll, List.foldlM_cons, conjoin_of join clauses first]
      show conjoinAll (group.of (clauses ++ [clause])) rest = _
      rw [inductionHypothesis later, List.append_assoc, List.singleton_append]

/-- The body lists the fragments of all conditions in their order, each of them once, with a blank
between neighbours. -/
structure ListsBody (group : Group) (clauses : List Clause) : Prop where
  once : (group.body clauses).Nodup
  complete : ∀ fragment, fragment ∈ group.body clauses ↔ fragment ∈ group.members clauses
  text : ∀ atRoot separator, (group.of clauses).text atRoot separator =
    conditionText atRoot (group.opening ++ " ".intercalate (group.body clauses) ++ ")")

theorem listsBody (group : Group) {clauses : List Clause}
    (conditions : ∀ clause ∈ clauses, clause.kind = .condition) : group.ListsBody clauses where
  once := nodup_firstOccurrences _
  complete _ := mem_firstOccurrences
  text := text_of group conditions

end Group

/-- A negation or a join lists the first occurrences of the fragments of its conditions, however
deep conjunctions are nested. A join stays the same join with the same variable when conditions are
conjoined to it one after another, lists their fragments behind those it has, and is written as
before if it has all of them already. -/
theorem bodies_keep_order :
    (∀ (group : Group) (clauses : List Clause),
      (∀ clause ∈ clauses, clause.kind = .condition) → group.ListsBody clauses) ∧
    ∀ group : Group, group.isJoin = true → ∀ clauses : List Clause,
      (∀ clause ∈ clauses, clause.kind = .condition) →
      (∀ rest : List Clause, (∀ clause ∈ rest, clause.kind = .condition) →
        conjoinAll (group.of clauses) rest = .ok (group.of (clauses ++ rest)) ∧
          group.ListsBody (clauses ++ rest)) ∧
      ∀ clause : Clause, clause.kind = .condition →
        (∀ fragment ∈ group.members [clause], fragment ∈ group.body clauses) →
        ∃ joined, (group.of clauses).conjoin clause = .ok joined ∧
          ∀ atRoot separator,
            joined.text atRoot separator = (group.of clauses).text atRoot separator := by
  refine ⟨fun group clauses conditions => group.listsBody conditions,
    fun group join clauses conditions => ⟨fun rest others => ?_, fun clause condition known => ?_⟩⟩
  · have all := List.forall_mem_append.mpr ⟨conditions, others⟩
    exact ⟨Group.conjoinAll_of join others, group.listsBody all⟩
  · have all : ∀ other ∈ clauses ++ [clause], other.kind = .condition :=
      List.forall_mem_append.mpr ⟨conditions, List.forall_mem_singleton.mpr condition⟩
    have inside : group.members [clause] ⊆ group.members clauses := fun fragment member =>
      mem_firstOccurrences.mp (known fragment member)
    exact ⟨_, Group.conjoin_of join clauses condition, group.text_of_append_known all inside⟩

/-- A conjunction that says the same again in a conjunction inside of it. -/
def namedAndBanned : Clause :=
  .conjunction .condition [.pattern "?e" "name" "?n",
    .conjunction .condition [.pattern "?e" "banned" "true", .pattern "?e" "name" "?n"]]

theorem text_namedAndBanned :
    namedAndBanned.text false " " = "[ ?e :banned true ] [ ?e :name ?n ]" := by
  have listed : ["[ ?e :banned true ]", "[ ?e :name ?n ]"] = namedAndBanned.patterns := by
    rw [patterns_eq_canonical (by rfl)]
    apply eq_canonical (by decide)
    intro fragment
    show _ ↔ fragment ∈ ["[ ?e :name ?n ]", "[ ?e :banned true ]", "[ ?e :name ?n ]"]
    simp only [List.mem_cons, List.not_mem_nil, or_false]
    tauto
  rw [text_eq_patterns rfl, ← listed]
  decide

/-- A negated join opens the conjunction, and a disjunction keeps it together. -/
theorem bodies_keep_order_namedAndBanned :
    namedAndBanned.kind = .condition ∧
    (negation [namedAndBanned]).text true "\n" =
      ":where [(not [ ?e :name ?n ] [ ?e :banned true ])]" ∧
    conjoinAll (negationJoin "?e" [namedAndBanned]) [.pattern "?e" "old" "true", namedAndBanned] =
      .ok (negationJoin "?e" [namedAndBanned, .pattern "?e" "old" "true", namedAndBanned]) ∧
    (negationJoin "?e" [namedAndBanned, .pattern "?e" "old" "true", namedAndBanned]).text false
      "\n" = "(not-join [?e] [ ?e :name ?n ] [ ?e :banned true ] [ ?e :old true ])" ∧
    conjoinAll (disjunctionJoin "?e" [.pattern "?e" "old" "true"]) [namedAndBanned] =
      .ok (disjunctionJoin "?e" [.pattern "?e" "old" "true", namedAndBanned]) ∧
    (disjunctionJoin "?e" [.pattern "?e" "old" "true", namedAndBanned]).text false "\n" =
      "(or-join [?e] [ ?e :old true ] (and [ ?e :banned true ] [ ?e :name ?n ]))" ∧
    ∃ joined, (negationJoin "?e" [namedAndBanned]).conjoin (.pattern "?e" "name" "?n") =
        .ok joined ∧
      ∀ atRoot separator, joined.text atRoot separator =
        (negationJoin "?e" [namedAndBanned]).text atRoot separator := by
  obtain ⟨listed, joined⟩ := bodies_keep_order
  have whole : ∀ clause ∈ [namedAndBanned], clause.kind = .condition :=
    List.forall_mem_singleton.mpr rfl
  have old : ∀ clause ∈ [Clause.pattern "?e" "old" "true"], clause.kind = .condition :=
    List.forall_mem_singleton.mpr rfl
  have both : ∀ clause ∈ [Clause.pattern "?e" "old" "true", namedAndBanned],
      clause.kind = .condition := List.forall_mem_cons.mpr ⟨rfl, whole⟩
  obtain ⟨chain, repeated⟩ := joined (.negationJoin "?e") rfl [namedAndBanned] whole
  obtain ⟨taken, takenBody⟩ := chain _ both
  obtain ⟨kept, keptBody⟩ := (joined (.disjunctionJoin "?e") rfl _ old).1 _ whole
  have negationText := (listed .negation _ whole).text true "\n"
  have branches : (Group.disjunctionJoin "?e").body [.pattern "?e" "old" "true", namedAndBanned] =
      ["[ ?e :old true ]", "(and [ ?e :banned true ] [ ?e :name ?n ])"] := by
    show firstOccurrences [_, groupedText (namedAndBanned.text false " ")] = _
    rw [text_namedAndBanned]
    decide
  refine ⟨rfl, negationText.trans ?_, taken, (takenBody.text false "\n").trans ?_, kept,
    (keptBody.text false "\n").trans ?_, repeated _ rfl ?_⟩
  · decide
  · decide
  · rw [List.singleton_append, branches]
    decide
  · decide

end Clause

end Bitemporal
