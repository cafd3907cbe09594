/-
This file shows that a query is built by calls as it is by conjoining clauses.
-/
import Bitemporal.Proofs.Clause.Combinators
import Bitemporal.Proofs.Clause.Disjunction
import Bitemporal.Proofs.Key.Attachment
import Bitemporal.Proofs.TypedQuery.Patterns
import Bitemporal.Sample.Schema

namespace Bitemporal

namespace TypedQuery

/-- The projection of whole documents. -/
def wholeDocument (resultType : EntityType) : String := "(pull " ++ resultType.label ++ " [*])"

/-- Projections are conjoined, and whole documents are projected if there are none. -/
def conjoinedFind (resultType : EntityType) : List String → Outcome Clause
  | [] => .ok (.projection (wholeDocument resultType))
  | first :: rest => Clause.conjoinAll (.projection first) (rest.map .projection)

/-- Conditions are conjoined, and the one on the type comes last. -/
def conjoinedFilter (resultType : EntityType) : List Clause → Outcome Clause
  | [] => .ok (typeCondition resultType)
  | first :: rest => Clause.conjoinAll first (rest ++ [typeCondition resultType])

/-- The query that is built by conjoining clauses alone. -/
def conjoinedQuery (resultType : EntityType) (projections : List String)
    (conditions : List Clause) (keys : List QueryKey) : Outcome Clause := do
  let find ← conjoinedFind resultType projections
  let filter ← conjoinedFilter resultType conditions
  let query ← find.conjoin filter
  Clause.conjoinAll query (keys.map .key)

theorem addProjection_eq_append (find : Clause) (expression : String) :
    addProjection (some find) expression = .append .projection find (.projection expression) := by
  cases find with
  | conjunction part clauses => cases part <;> rfl
  | _ => rfl

theorem foldl_addProjection (find : Clause) (expressions : List String) :
    expressions.foldl (fun find expression => some (addProjection find expression)) (some find) =
      some ((expressions.map .projection).foldl (.append .projection) find) := by
  induction expressions generalizing find with
  | nil => rfl
  | cons expression rest inductionHypothesis =>
      rw [List.foldl_cons, addProjection_eq_append, inductionHypothesis]
      rfl

/-- Projecting one expression after another conjoins them. -/
theorem conjoinedFind_eq (resultType : EntityType) (calls : List BuilderCall) :
    conjoinedFind resultType (projectionsOf calls) =
        .ok ((ofType resultType).after calls).completeFind ∧
      ((ofType resultType).after calls).completeFind.kind = .projection := by
  rw [completeFind, after]
  rcases projectionsOf calls with _ | ⟨first, rest⟩
  · exact ⟨rfl, rfl⟩
  · have kinds : ∀ clause ∈ rest.map Clause.projection, clause.kind = .projection := by
      intro clause member
      obtain ⟨expression, _, rfl⟩ := List.mem_map.mp member
      rfl
    have firstKind : (Clause.projection first).kind = Section.projection.kind := rfl
    have alone : addProjection (ofType resultType).find first = .projection first := rfl
    rw [List.foldl_cons, alone, foldl_addProjection]
    exact Clause.conjoinAll_eq_append .projection firstKind kinds rfl

theorem completeFilter_eq_append {query : TypedQuery} {filter : Clause}
    (present : query.filter = some filter) :
    query.completeFilter = .append .condition filter (typeCondition query.resultType) := by
  have type := (Clause.parts_of_isSingle (isSingle_typeCondition query.resultType)).2.2.1
  rw [completeFilter, present, Clause.append, type]
  cases filter with
  | conjunction part clauses => cases part <;> rfl
  | _ => rfl

theorem foldl_conjoined_eq_append {first : Clause} (open_ : first.isJoin = false)
    (rest : List Clause) :
    rest.foldl (fun filter clause => some (conjoined filter clause)) (some first) =
      some (rest.foldl (.append .condition) first) := by
  induction rest generalizing first with
  | nil => rfl
  | cons clause rest inductionHypothesis =>
      rw [List.foldl_cons, conjoined_of_open open_]
      exact inductionHypothesis rfl

/-- Adding one condition after another conjoins them, unless the first one is a join. -/
theorem conjoinedFilter_eq (resultType : EntityType) {calls : List BuilderCall}
    (conditions : ∀ clause ∈ conditionsOf calls, clause.kind = .condition)
    (open_ : opensWithJoin (conditionsOf calls) = false) :
    conjoinedFilter resultType (conditionsOf calls) =
      .ok ((ofType resultType).after calls).completeFilter := by
  rcases present : conditionsOf calls with _ | ⟨first, rest⟩
  · rw [completeFilter, after, present]
    rfl
  · rw [present] at conditions open_
    obtain ⟨firstKind, kinds⟩ := List.forall_mem_cons.mp conditions
    have firstOpen : first.isJoin = false := open_
    have filter : ((ofType resultType).after calls).filter =
        some (rest.foldl (.append .condition) first) := by
      rw [after, present]
      exact foldl_conjoined_eq_append firstOpen rest
    have typeKind := (Clause.parts_of_isSingle (isSingle_typeCondition resultType)).1
    have allKinds : ∀ clause ∈ rest ++ [typeCondition resultType], clause.kind = .condition := by
      rw [List.forall_mem_append, List.forall_mem_singleton]
      exact ⟨kinds, typeKind⟩
    rw [completeFilter_eq_append filter, conjoinedFilter,
      (Clause.conjoinAll_eq_append .condition firstKind allKinds firstOpen).1,
      List.foldl_append]
    rfl

/-- The last keys may be conjoined in any order. -/
theorem conjoinedQuery_eq (resultType : EntityType) {calls : List BuilderCall}
    (conditions : ∀ clause ∈ conditionsOf calls, clause.kind = .condition)
    (open_ : opensWithJoin (conditionsOf calls) = false) {keys : List QueryKey}
    (permuted : keys.Perm (lastKeys (keysOf calls))) :
    conjoinedQuery resultType (projectionsOf calls) (conditionsOf calls) keys =
      .ok ((ofType resultType).after calls).clause := by
  obtain ⟨find, findKind⟩ := conjoinedFind_eq resultType calls
  have filter := conjoinedFilter_eq resultType conditions open_
  have entries := QueryKeys.foldl_set_of_perm_lastKeys .empty permuted
  calc conjoinedQuery resultType (projectionsOf calls) (conditionsOf calls) keys
      = (((ofType resultType).after calls).completeFind.conjoin
            ((ofType resultType).after calls).completeFilter >>= fun query =>
          Clause.conjoinAll query (keys.map .key)) := by
        rw [conjoinedQuery, find, filter]
        rfl
    _ = Clause.conjoinAll
          (.query ((ofType resultType).after calls).completeFind
            ((ofType resultType).after calls).completeFilter .empty) (keys.map .key) := by
        rw [Clause.conjoin_eq_query findKind (kind_completeFilter _)]
        rfl
    _ = .ok ((ofType resultType).after calls).clause := by
        rw [Clause.conjoinAll_keys, entries]
        rfl

/-- Calls that add the same constraints, the same projections and the same last keys build the same
clause, whatever their order. -/
theorem clause_after_congr (query : TypedQuery) {calls others : List BuilderCall}
    (constraints : constraintsOf others = constraintsOf calls)
    (projections : projectionsOf others = projectionsOf calls)
    (permuted : (lastKeys (keysOf others)).Perm (lastKeys (keysOf calls))) :
    (query.after others).clause = (query.after calls).clause := by
  have conditions : conditionsOf others = conditionsOf calls := by
    rw [conditionsOf_eq_flatMap, conditionsOf_eq_flatMap, constraints]
  have entries : (keysOf others).foldl QueryKeys.set query.keys =
      (keysOf calls).foldl QueryKeys.set query.keys := by
    rw [← QueryKeys.foldl_set_lastKeys]
    exact QueryKeys.foldl_set_of_perm_lastKeys query.keys permuted
  simp only [clause, completeFind, completeFilter, after, conditions, projections, entries]

/-- Under each form there is the last key that a call set. -/
theorem lookup_keys_after (resultType : EntityType) (calls : List BuilderCall) (form : String) :
    ((ofType resultType).after calls).keys.lookup form = lastOf? form (keysOf calls) := by
  have nothing : QueryKeys.empty.lookup form = none := by
    unfold QueryKeys.lookup
    split <;> rfl
  have listed := QueryKeys.empty.lookup_foldl_set (keysOf calls) form
  rw [nothing, Option.or_none] at listed
  exact listed

/-- Whatever order calls come in, they build the conjunction of their projections, their conditions
and the condition on the type, and the last key of each form, the keys in any order. Only the order
among projections and the order among conditions counts. -/
theorem run_eq_conjoinedQuery {resultType : EntityType} {calls : List BuilderCall}
    {query : TypedQuery} (reached : (ofType resultType).run calls = .ok query) :
    (opensWithJoin (conditionsOf calls) = false →
      ∀ keys : List QueryKey, keys.Perm (lastKeys (keysOf calls)) →
        ∃ clause, conjoinedQuery resultType (projectionsOf calls) (conditionsOf calls) keys =
            .ok clause ∧
          ∀ separator, query.text separator = clause.text true separator) ∧
    (∀ others : List BuilderCall, constraintsOf others = constraintsOf calls →
      projectionsOf others = projectionsOf calls →
      (lastKeys (keysOf others)).Perm (lastKeys (keysOf calls)) →
      ∃ other, (ofType resultType).run others = .ok other ∧
        ∀ separator, other.text separator = query.text separator) ∧
    ∀ form, query.keys.lookup form = lastOf? form (keysOf calls) := by
  obtain ⟨accepted, rfl⟩ := (run_eq_ok_iff (hasCondition_ofType resultType)).mp reached
  refine ⟨?_, ?_, lookup_keys_after resultType calls⟩
  · intro open_ keys permuted
    have conditions := kind_of_mem_conditionsOf accepted
    exact ⟨_, conjoinedQuery_eq resultType conditions open_ permuted, fun separator => rfl⟩
  · intro others constraints projections permuted
    have othersReached : (ofType resultType).run others =
        .ok ((ofType resultType).after others) := by
      rw [run_eq_ok_iff (hasCondition_ofType resultType), constraints]
      exact ⟨accepted, rfl⟩
    refine ⟨_, othersReached, fun separator => ?_⟩
    rw [text, clause_after_congr _ constraints projections permuted, text]

/-- Calls of all sorts in turn, one of which sets a key again. -/
def namedPets : List BuilderCall :=
  [.setKey (.limit 5), .constrain (.whereField Sample.pet "name" (.string "x")), .project "?name",
    .constrain (.whereClause (.negationJoin "?e" [.pattern "?e" "banned" "true"])),
    .setKey (.offset 2), .aggregate (.count "?e"),
    .constrain (.whereFields Sample.pet [("owner", .entity Sample.user)]), .setKey (.limit 7)]

theorem text_petOwners :
    (Clause.disjunction [.pattern "Pet" "Cat/owner" "User",
        .pattern "Pet" "Dog/owner" "User"]).text false " " =
      "(or [ Pet :Cat/owner User ] [ Pet :Dog/owner User ])" := by
  have sorted : ["[ Pet :Cat/owner User ]", "[ Pet :Dog/owner User ]"].Pairwise (· < ·) := by decide
  rw [Clause.text_disjunction_of_sorted rfl sorted fun _ => Iff.rfl]
  rfl

theorem typePattern_pet :
    typePattern Sample.pet = "(or [ Pet :type \"Cat\" ] [ Pet :type \"Dog\" ])" := by
  have sorted : ["[ Pet :type \"Cat\" ]", "[ Pet :type \"Dog\" ]"].Pairwise (· < ·) := by decide
  show (Clause.disjunction [.pattern "Pet" "type" (quote "Cat"),
    .pattern "Pet" "type" (quote "Dog")]).text false " " = _
  rw [Clause.text_disjunction_of_sorted rfl sorted fun _ => Iff.rfl]
  rfl

theorem patterns_namedPets : ((ofType Sample.pet).after namedPets).patterns =
    canonical true true ["(not-join [?e] [ ?e :banned true ])",
      "(or [ Pet :Cat/owner User ] [ Pet :Dog/owner User ])",
      "(or [ Pet :type \"Cat\" ] [ Pet :type \"Dog\" ])", "[ Pet :Pet/name \"x\" ]"] := by
  rw [patterns_eq_canonical rfl, ← text_petOwners, ← typePattern_pet]
  apply canonical_congr
  intro fragment
  show fragment ∈ ["[ Pet :Pet/name \"x\" ]", "(not-join [?e] [ ?e :banned true ])", _, _] ↔ _
  simp only [List.mem_cons, List.not_mem_nil, or_false]
  tauto

theorem text_namedPets : ((ofType Sample.pet).after namedPets).text " " =
    "\x7b:query \x7b:find [?name (count ?e)] :where [ (not-join [?e] [ ?e :banned true ]) " ++
      "(or [ Pet :Cat/owner User ] [ Pet :Dog/owner User ]) " ++
      "(or [ Pet :type \"Cat\" ] [ Pet :type \"Dog\" ]) " ++
      "[ Pet :Pet/name \"x\" ]] :limit 7 :offset 2\x7d\x7d" := by
  rw [text_of_patterns (by decide) patterns_namedPets]
  decide +kernel

/-- The keys come first and each of them once, and constraints come last. -/
theorem run_eq_conjoinedQuery_namedPets :
    ∃ query clause other,
      (ofType Sample.pet).run namedPets = .ok query ∧
      opensWithJoin (conditionsOf namedPets) = false ∧
      [QueryKey.limit 7, .offset 2].Perm (lastKeys (keysOf namedPets)) ∧
      conjoinedQuery Sample.pet ["?name", "(count ?e)"] (conditionsOf namedPets)
        [.limit 7, .offset 2] = .ok clause ∧
      (∀ separator, query.text separator = clause.text true separator) ∧
      clause.text true " " =
        "\x7b:query \x7b:find [?name (count ?e)] :where [ (not-join [?e] [ ?e :banned true ]) " ++
          "(or [ Pet :Cat/owner User ] [ Pet :Dog/owner User ]) " ++
          "(or [ Pet :type \"Cat\" ] [ Pet :type \"Dog\" ]) " ++
          "[ Pet :Pet/name \"x\" ]] :limit 7 :offset 2\x7d\x7d" ∧
      query.keys.lookup "limit" = some (.limit 7) ∧
      (ofType Sample.pet).run
        [.setKey (.limit 7), .setKey (.offset 2), .project "?name", .project "(count ?e)",
          .constrain (.whereField Sample.pet "name" (.string "x")),
          .constrain (.whereClause (.negationJoin "?e" [.pattern "?e" "banned" "true"])),
          .constrain (.whereFields Sample.pet [("owner", .entity Sample.user)])] = .ok other ∧
      ∀ separator, other.text separator = query.text separator := by
  have reached : (ofType Sample.pet).run namedPets = .ok ((ofType Sample.pet).after namedPets) :=
    rfl
  have permuted : [QueryKey.limit 7, .offset 2].Perm (lastKeys (keysOf namedPets)) :=
    .swap _ _ _
  obtain ⟨conjoins, reorders, lasts⟩ := run_eq_conjoinedQuery reached
  obtain ⟨clause, accepted, texts⟩ := conjoins rfl _ permuted
  obtain ⟨other, otherReached, otherTexts⟩ := reorders
    [.setKey (.limit 7), .setKey (.offset 2), .project "?name", .project "(count ?e)",
      .constrain (.whereField Sample.pet "name" (.string "x")),
      .constrain (.whereClause (.negationJoin "?e" [.pattern "?e" "banned" "true"])),
      .constrain (.whereFields Sample.pet [("owner", .entity Sample.user)])] rfl rfl permuted
  have limit : lastOf? "limit" (keysOf namedPets) = some (.limit 7) := rfl
  have written : clause.text true " " = _ := (texts " ").symm.trans text_namedPets
  exact ⟨_, clause, other, reached, rfl, permuted, accepted, texts, written,
    (lasts "limit").trans limit, otherReached, otherTexts⟩

end TypedQuery

end Bitemporal
