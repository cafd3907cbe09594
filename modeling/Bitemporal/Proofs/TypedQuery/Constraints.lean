/-
This file shows when constraints only add patterns to a query.
-/
import Bitemporal.Proofs.TypedQuery.Order
import Bitemporal.Sample.Schema

namespace Bitemporal.TypedQuery

/-- All patterns are kept, and those of the new conditions are added. -/
def Extends (query : TypedQuery) (constraint : Constraint) (next : TypedQuery) : Prop :=
  query.patterns ⊆ next.patterns ∧
    ∀ clause ∈ constraint.conditions, clause.patterns ⊆ next.patterns

/-- Without a join in front every constraint extends the query. -/
theorem extends_of_open {resultType : EntityType} {calls : List BuilderCall}
    {query next : TypedQuery} (reached : (ofType resultType).run calls = .ok query)
    (open_ : opensWithJoin (conditionsOf calls) = false) {constraint : Constraint}
    (applied : constraint.apply query = .ok next) : Extends query constraint next := by
  have nextReached : (ofType resultType).run (calls ++ [.constrain constraint]) = .ok next := by
    rw [run_append reached, run_singleton]
    exact applied
  have conditions : conditionsOf (calls ++ [.constrain constraint]) =
      conditionsOf calls ++ constraint.conditions := by
    simp [conditionsOf, BuilderCall.conditions]
  have free := noneBehindJoin_append constraint open_
  rw [← conditions] at free
  constructor
  · intro fragment member
    rw [mem_patterns_run nextReached free, conditions]
    refine ((mem_patterns_run reached (noneBehindJoin_of_open open_)).mp member).imp_left ?_
    rintro ⟨clause, present, inside⟩
    exact ⟨clause, List.mem_append_left _ present, inside⟩
  · intro clause present fragment inside
    rw [mem_patterns_run nextReached free, conditions]
    exact .inl ⟨clause, List.mem_append_right _ present, inside⟩

/-- The pattern of empty texts does not become a pattern of a query that is held by a join. -/
theorem not_extends_of_join {resultType : EntityType} {calls : List BuilderCall}
    {query : TypedQuery} (reached : (ofType resultType).run calls = .ok query)
    (opening : opensWithJoin (conditionsOf calls) = true) :
    ∃ next, (Constraint.whereClause (.pattern "" "" "")).apply query = .ok next ∧
      ¬ Extends query (.whereClause (.pattern "" "" "")) next := by
  obtain ⟨filtered, _, _⟩ := run_calls (hasCondition_ofType resultType) reached
  obtain ⟨shared, join, body, kind, _, taken⟩ := filter_apply_of_join reached opening
  have applied := (Constraint.apply_eq_ok_iff filtered (.whereClause (.pattern "" "" ""))).mpr
    ⟨rfl, rfl⟩
  refine ⟨_, applied, ?_⟩
  rintro ⟨_, added⟩
  have member := added _ List.mem_cons_self (List.mem_singleton.mpr rfl)
  rw [mem_patterns, taken _ _ applied] at member
  rcases member with ⟨filter, present, inside⟩ | same
  · cases present
    rcases kind with rfl | rfl <;>
    · have heads := congrArg (fun text => text.toList.head?) (List.mem_singleton.mp inside)
      simp [Clause.text, Clause.conditionText, Clause.patternText] at heads
  · exact emptyPattern_ne_typePattern _ same

/-- Any two constraints can change places if what came first is no join. -/
theorem swappable_iff {resultType : EntityType} {calls : List BuilderCall} {query : TypedQuery}
    (reached : (ofType resultType).run calls = .ok query)
    (built : ∀ clause ∈ conditionsOf calls, clause.isCondition = true) :
    query.Swappable ↔ ∃ first rest, conditionsOf calls = first :: rest ∧ first.isJoin = false := by
  constructor
  · intro swappable
    rcases conditions : conditionsOf calls with _ | ⟨first, rest⟩
    · exact absurd swappable (not_swappable_of_nil reached conditions)
    · refine ⟨first, rest, rfl, ?_⟩
      by_contra joined
      have opening : opensWithJoin (conditionsOf calls) = true := by
        rw [conditions]
        exact Bool.eq_true_of_not_eq_false joined
      exact not_swappable_of_join reached opening swappable
  · rintro ⟨earliest, rest, conditions, open_⟩ first second next later applied
    apply swap_constraints reached built later _ _ applied
    · rw [conditions]
      exact open_
    · rw [conditions]
      exact open_

/-- Constraints extend a query unless the first condition of all is a join, which takes them in.
They can change places unless one of them falls into a join on one side. -/
theorem constraints_add_patterns {resultType : EntityType} {calls : List BuilderCall}
    {query : TypedQuery} (reached : (ofType resultType).run calls = .ok query) :
    (∀ separator, query.text separator =
      Clause.queryText (query.completeFind.text true " ")
        (Clause.conjunctionText .condition true separator query.patterns) query.keys) ∧
    ((∀ (constraint : Constraint) (next : TypedQuery), constraint.apply query = .ok next →
        Extends query constraint next) ↔
      opensWithJoin (conditionsOf calls) = false) ∧
    (opensWithJoin (conditionsOf calls) = true →
      ∃ shared join body, (join = Clause.negationJoin shared ∨ join = .disjunctionJoin shared) ∧
        query.filter = some (join body) ∧
        ∀ (constraint : Constraint) (next : TypedQuery), constraint.apply query = .ok next →
          next.filter = some (join (body ++ constraint.conditions))) ∧
    ((∀ clause ∈ conditionsOf calls, clause.isCondition = true) →
      (query.Swappable ↔
        ∃ first rest, conditionsOf calls = first :: rest ∧ first.isJoin = false) ∧
      ∀ (first second : Constraint) (next : TypedQuery),
        (∀ clause ∈ first.conditions ++ second.conditions, clause.isCondition = true) →
        opensWithJoin (conditionsOf calls ++ first.conditions ++ second.conditions) = false →
        opensWithJoin (conditionsOf calls ++ second.conditions ++ first.conditions) = false →
        query.run [.constrain first, .constrain second] = .ok next →
        ∃ other, query.run [.constrain second, .constrain first] = .ok other ∧
          ∀ separator, other.text separator = next.text separator) := by
  refine ⟨query.text_eq_patterns, ⟨?_, ?_⟩, filter_apply_of_join reached, ?_⟩
  · intro extended
    by_contra joined
    obtain ⟨next, applied, notExtended⟩ :=
      not_extends_of_join reached (Bool.eq_true_of_not_eq_false joined)
    exact notExtended (extended _ next applied)
  · intro open_ constraint next applied
    exact extends_of_open reached open_ applied
  · intro built
    refine ⟨swappable_iff reached built, ?_⟩
    intro first second next later inOrder swapped applied
    exact swap_constraints reached built later inOrder swapped applied

/-- Nothing that is looked for is banned. -/
def bannedJoin : Clause := .negationJoin "?e" [.pattern "?e" "banned" "true"]

/-- A join that follows another condition is extended. -/
theorem constraints_add_patterns_country :
    ∃ query next, (ofType Sample.country).run
        [.constrain (.whereField Sample.country "name" (.string "x")), .project "?e",
          .constrain (.whereClause bannedJoin)] = .ok query ∧
      (Constraint.whereField Sample.country "name" .nil).apply query = .ok next ∧
      opensWithJoin (conditionsOf [.constrain (.whereField Sample.country "name" (.string "x")),
        .project "?e", .constrain (.whereClause bannedJoin)]) = false ∧
      Extends query (.whereField Sample.country "name" .nil) next ∧ query.Swappable := by
  have reached : (ofType Sample.country).run
      [.constrain (.whereField Sample.country "name" (.string "x")), .project "?e",
        .constrain (.whereClause bannedJoin)] = .ok _ := rfl
  have laws := constraints_add_patterns reached
  refine ⟨_, _, reached, rfl, rfl, laws.2.1.mpr rfl _ _ rfl, ?_⟩
  refine (laws.2.2.2 ?_).1.mpr ⟨_, _, rfl, rfl⟩
  decide

/-- Countries, as long as nothing is banned. -/
def unbanned : TypedQuery := (ofType Sample.country).withConditions [bannedJoin]

def namedX : Clause := fieldPattern Sample.country "name" (.string "x")

/-- The name is compared behind the join. -/
def namedBehindJoin : TypedQuery := (ofType Sample.country).withConditions [bannedJoin, namedX]

/-- The name is compared in front of the join. -/
def namedBeforeJoin : TypedQuery := (ofType Sample.country).withConditions [namedX, bannedJoin]

theorem patterns_unbanned : unbanned.patterns =
    canonical true true
      ["(not-join [?e] [ ?e :banned true ])", "[ Country :type \"Country\" ]"] := by
  have held : unbanned.filter = some (.negationJoin "?e" [.pattern "?e" "banned" "true"]) := rfl
  exact patterns_of_join (.inl rfl) held

theorem patterns_namedBehindJoin : namedBehindJoin.patterns =
    canonical true true ["(not-join [?e] [ ?e :banned true ] [ Country :Country/name \"x\" ])",
      "[ Country :type \"Country\" ]"] := by
  have held : namedBehindJoin.filter =
      some (.negationJoin "?e" [.pattern "?e" "banned" "true", namedX]) := rfl
  exact patterns_of_join (.inl rfl) held

theorem patterns_namedBeforeJoin : namedBeforeJoin.patterns =
    canonical true true ["(not-join [?e] [ ?e :banned true ])",
      "[ Country :Country/name \"x\" ]", "[ Country :type \"Country\" ]"] := by
  rw [patterns_eq_canonical rfl]
  apply canonical_congr
  intro fragment
  show fragment ∈ ["[ Country :Country/name \"x\" ]", "(not-join [?e] [ ?e :banned true ])",
    "[ Country :type \"Country\" ]"] ↔ _
  simp only [List.mem_cons, or_left_comm]

/-- The join as it was is lost. -/
theorem not_extends_unbanned :
    ¬ Extends unbanned (.whereField Sample.country "name" (.string "x")) namedBehindJoin := by
  rintro ⟨kept, _⟩
  have inside : "(not-join [?e] [ ?e :banned true ])" ∈ unbanned.patterns := by
    rw [patterns_unbanned, mem_canonical]
    exact List.mem_cons_self
  have member := kept inside
  rw [patterns_namedBehindJoin, mem_canonical] at member
  revert member
  decide

/-- A field that is compared behind a join falls into it, and it stays outside in front of it. -/
theorem field_falls_into_join :
    ∃ query next other,
      (ofType Sample.country).run [.constrain (.whereClause bannedJoin)] = .ok query ∧
      (Constraint.whereField Sample.country "name" (.string "x")).apply query = .ok next ∧
      (ofType Sample.country).run [.constrain (.whereField Sample.country "name" (.string "x")),
        .constrain (.whereClause bannedJoin)] = .ok other ∧
      ¬ Extends query (.whereField Sample.country "name" (.string "x")) next ∧
      query.line = "\x7b:query \x7b:find [(pull Country [*])] :where [ (not-join [?e] " ++
        "[ ?e :banned true ]) [ Country :type \"Country\" ]]\x7d\x7d" ∧
      next.line = "\x7b:query \x7b:find [(pull Country [*])] :where [ (not-join [?e] " ++
        "[ ?e :banned true ] [ Country :Country/name \"x\" ]) " ++
        "[ Country :type \"Country\" ]]\x7d\x7d" ∧
      other.line = "\x7b:query \x7b:find [(pull Country [*])] :where [ (not-join [?e] " ++
        "[ ?e :banned true ]) [ Country :Country/name \"x\" ] " ++
        "[ Country :type \"Country\" ]]\x7d\x7d" := by
  refine ⟨unbanned, namedBehindJoin, namedBeforeJoin, rfl, rfl, rfl, not_extends_unbanned,
    ?_, ?_, ?_⟩
  · rw [line, text_of_patterns (by decide) patterns_unbanned]
    rfl
  · rw [line, text_of_patterns (by decide) patterns_namedBehindJoin]
    rfl
  · rw [line, text_of_patterns (by decide) patterns_namedBeforeJoin]
    rfl

end Bitemporal.TypedQuery
