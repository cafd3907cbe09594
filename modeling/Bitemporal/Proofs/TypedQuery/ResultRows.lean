/-
This file says what the rows of a query hold, and when a session takes them for documents.
-/
import Bitemporal.Proofs.Aggregate.CallText
import Bitemporal.Proofs.Clause.Projections
import Bitemporal.Proofs.Edn.Piece
import Bitemporal.Proofs.TypedQuery.Routes
import Bitemporal.Session

namespace Bitemporal

/-! ## Expressions -/

/-- The name of the function follows a parenthesis. -/
theorem Aggregate.exists_text_eq (aggregate : Aggregate) :
    ∃ later, aggregate.text = "(" ++ (aggregate.function.name ++ later) := by
  rw [text_eq, List.cons_append, Edn.intercalate_cons_spaced, String.append_assoc,
    String.append_assoc]
  exact ⟨_, rfl⟩

/-- No function is called as the one that pulls documents, and none starts with its letter. -/
theorem AggregateFunction.name_append_ne (function : AggregateFunction) (left right : String) :
    function.name ++ left ≠ "pull " ++ right := by
  intro same
  have characters := congrArg (fun text => text.toList.head?) same
  cases function <;> simp [name, String.toList_append] at characters

theorem Aggregate.text_append_ne (aggregate : Aggregate) (resultType : EntityType)
    (left right : String) :
    aggregate.text ++ left ≠ TypedQuery.wholeDocument resultType ++ right := by
  obtain ⟨later, text⟩ := aggregate.exists_text_eq
  have pulls : TypedQuery.wholeDocument resultType ++ right =
      "(" ++ ("pull " ++ (resultType.label ++ " [*])" ++ right)) := by
    unfold TypedQuery.wholeDocument
    simp only [← String.append_assoc]
    rfl
  rw [text, pulls, String.append_assoc, String.append_assoc]
  intro same
  exact aggregate.function.name_append_ne _ _ ((String.append_right_inj _).mp same)

/-- A session decodes the rows of queries whose flag is set, as documents of their own type. -/
theorem Session.queryFault?_eq_none_iff {wanted : EntityType} {query : TypedQuery} :
    Session.queryFault? wanted query = none ↔
      query.keepsDocuments = true ∧ query.resultType.label = wanted.label := by
  unfold Session.queryFault?
  cases query.keepsDocuments with
  | false => simp
  | true => simp [EntityType.same]

namespace TypedQuery

/-- The expressions of each row: those that are projected, or whole documents if there are none. -/
def rowsOf (resultType : EntityType) (calls : List BuilderCall) : List String :=
  match projectionsOf calls with
  | [] => [wholeDocument resultType]
  | expressions => expressions

theorem expressions_foldl {find : Clause} (projection : find.kind = .projection)
    (expressions : List String) :
    ((expressions.map .projection).foldl (.append .projection) find).expressions =
      find.expressions ++ expressions := by
  induction expressions generalizing find with
  | nil => exact (List.append_nil _).symm
  | cons expression rest inductionHypothesis =>
      have alone : (Clause.projection expression).expressions = [expression] := rfl
      rw [List.map_cons, List.foldl_cons, inductionHypothesis rfl,
        Clause.expressions_append projection rfl, alone, List.append_assoc, List.singleton_append]

theorem expressions_completeFind (resultType : EntityType) (calls : List BuilderCall) :
    ((ofType resultType).after calls).completeFind.expressions = rowsOf resultType calls := by
  rw [completeFind, after, rowsOf]
  rcases projectionsOf calls with _ | ⟨first, rest⟩
  · rfl
  · have alone : addProjection (ofType resultType).find first = .projection first := rfl
    rw [List.foldl_cons, alone, foldl_addProjection]
    exact expressions_foldl rfl rest

/-! ## Rows of reached queries -/

/-- Calls without a projection of their own project aggregates alone. -/
theorem exists_aggregate_of_mem_projectionsOf {calls : List BuilderCall}
    (unprojected : ∀ expression, BuilderCall.project expression ∉ calls) {expression : String}
    (member : expression ∈ projectionsOf calls) :
    ∃ operation, BuilderCall.aggregate operation ∈ calls ∧ expression = operation.text := by
  obtain ⟨call, present, inside⟩ := List.mem_flatMap.mp member
  cases call with
  | project other => exact absurd present (unprojected other)
  | aggregate operation => exact ⟨operation, present, List.mem_singleton.mp inside⟩
  | constrain _ | setKey _ => cases inside

theorem keepsDocuments_after (resultType : EntityType) (calls : List BuilderCall) :
    ((ofType resultType).after calls).keepsDocuments = true ↔
      ∀ operation, BuilderCall.aggregate operation ∉ calls := by
  have flag : ((ofType resultType).after calls).keepsDocuments =
      !calls.any BuilderCall.isAggregate := rfl
  rw [flag, Bool.not_eq_true', List.any_eq_false]
  constructor
  · intro none_ operation present
    exact none_ _ present rfl
  · intro none_ call present
    cases call with
    | aggregate operation => exact absurd present (none_ operation)
    | _ => exact Bool.false_ne_true

/-- Unless expressions are projected, rows hold whole documents or start with an aggregate. -/
theorem rowsOf_cases (resultType : EntityType) {calls : List BuilderCall}
    (unprojected : ∀ expression, BuilderCall.project expression ∉ calls) :
    (((ofType resultType).after calls).keepsDocuments = true ∧
        rowsOf resultType calls = [wholeDocument resultType]) ∨
      (((ofType resultType).after calls).keepsDocuments = false ∧
        ∃ (operation : Aggregate) (rest : List String),
          rowsOf resultType calls = operation.text :: rest) := by
  rcases projected : projectionsOf calls with _ | ⟨first, rest⟩
  · left
    refine ⟨(keepsDocuments_after resultType calls).mpr fun operation present => ?_, ?_⟩
    · have member : operation.text ∈ projectionsOf calls :=
        List.mem_flatMap.mpr ⟨_, present, List.mem_singleton_self _⟩
      rw [projected] at member
      cases member
    · rw [rowsOf, projected]
  · right
    have member : first ∈ projectionsOf calls := projected ▸ List.mem_cons_self
    obtain ⟨operation, present, rfl⟩ := exists_aggregate_of_mem_projectionsOf unprojected member
    refine ⟨?_, operation, rest, by rw [rowsOf, projected]⟩
    rw [← Bool.not_eq_true, keepsDocuments_after]
    exact fun none_ => none_ operation present

/-- The section of a query that says what its rows hold. -/
def findText (query : TypedQuery) : String := query.completeFind.text true " "

theorem findText_after (resultType : EntityType) (calls : List BuilderCall) :
    ((ofType resultType).after calls).findText =
      ":find [" ++ (" ".intercalate (rowsOf resultType calls) ++ "]") := by
  have projection := (conjoinedFind_eq resultType calls).2
  rw [findText, Clause.text_eq_expressions projection, expressions_completeFind,
    String.append_assoc]

/-- The section stands in front of all conditions. -/
theorem exists_text_eq (query : TypedQuery) (separator : String) :
    ∃ later, query.text separator =
      "\x7b:query \x7b" ++ (query.findText ++ (" :where [" ++ later)) := by
  refine ⟨Clause.listGap separator query.patterns ++ (separator.intercalate query.patterns ++
    ("]" ++ (query.keys.text ++ ("\x7d" ++ (query.keys.valuesText ++ "\x7d"))))), ?_⟩
  have between : " :where [" = " " ++ ":where [" := rfl
  rw [text_eq_patterns, Clause.conjunctionText_eq, Clause.queryText_eq, between]
  simp only [String.append_assoc, findText]

/-- The section for whole documents differs early from one that starts with an aggregate. -/
theorem findText_append_ne {resultType otherType : EntityType} {calls others : List BuilderCall}
    (documents : rowsOf resultType calls = [wholeDocument resultType]) {operation : Aggregate}
    {rest : List String} (aggregated : rowsOf otherType others = operation.text :: rest)
    (left right : String) :
    ((ofType otherType).after others).findText ++ left ≠
      ((ofType resultType).after calls).findText ++ right := by
  rw [findText_after, findText_after, documents, aggregated, Edn.intercalate_cons_spaced,
    String.intercalate_singleton]
  simp only [String.append_assoc, Ne, String.append_right_inj]
  exact operation.text_append_ne resultType _ _

/-- Unless expressions are projected, a query has the section for whole documents exactly if its
flag is set. -/
theorem keepsDocuments_iff_findText (resultType : EntityType) {calls : List BuilderCall}
    (unprojected : ∀ expression, BuilderCall.project expression ∉ calls) :
    ((ofType resultType).after calls).keepsDocuments = true ↔
      ((ofType resultType).after calls).findText =
        ":find [" ++ (wholeDocument resultType ++ "]") := by
  have whole : ((ofType resultType).after []).findText =
      ":find [" ++ (wholeDocument resultType ++ "]") := by
    rw [findText_after, rowsOf, projectionsOf, List.flatMap_nil, String.intercalate_singleton]
  rcases rowsOf_cases resultType unprojected with
    ⟨keeps, documents⟩ | ⟨loses, operation, rest, aggregated⟩
  · rw [findText_after, documents, String.intercalate_singleton]
    exact iff_of_true keeps rfl
  · rw [loses, ← whole]
    refine iff_of_false Bool.false_ne_true fun same => ?_
    have none_ : rowsOf resultType [] = [wholeDocument resultType] := rfl
    exact findText_append_ne none_ aggregated "" "" (congrArg (· ++ "") same)

/-- Queries that are written alike have the same flag unless expressions are projected. -/
theorem keepsDocuments_of_text {resultType otherType : EntityType}
    {calls others : List BuilderCall}
    (unprojected : ∀ expression, BuilderCall.project expression ∉ calls)
    (otherUnprojected : ∀ expression, BuilderCall.project expression ∉ others)
    {separator : String}
    (same : ((ofType resultType).after calls).text separator =
      ((ofType otherType).after others).text separator) :
    ((ofType resultType).after calls).keepsDocuments =
      ((ofType otherType).after others).keepsDocuments := by
  obtain ⟨later, text⟩ := exists_text_eq ((ofType resultType).after calls) separator
  obtain ⟨otherLater, otherText⟩ := exists_text_eq ((ofType otherType).after others) separator
  rw [text, otherText, String.append_right_inj] at same
  rcases rowsOf_cases resultType unprojected with
    ⟨keeps, documents⟩ | ⟨loses, operation, rest, aggregated⟩
  · rcases rowsOf_cases otherType otherUnprojected with
      ⟨otherKeeps, _⟩ | ⟨_, operation, rest, aggregated⟩
    · rw [keeps, otherKeeps]
    · exact absurd same.symm (findText_append_ne documents aggregated _ _)
  · rcases rowsOf_cases otherType otherUnprojected with
      ⟨_, documents⟩ | ⟨otherLoses, _⟩
    · exact absurd same (findText_append_ne documents aggregated _ _)
    · rw [loses, otherLoses]

/-- The flag tells whether an aggregate was applied. Unless expressions are projected, which leaves
the flag as it is, it also tells whether rows hold whole documents and nothing else: those of the
type that a session may decode, and the same for all queries that are written alike. -/
theorem keepsDocuments_run {resultType : EntityType} {calls : List BuilderCall}
    {query : TypedQuery} (reached : (ofType resultType).run calls = .ok query) :
    (query.keepsDocuments = true ↔ ∀ operation, BuilderCall.aggregate operation ∉ calls) ∧
    query.findText = ":find [" ++ (" ".intercalate (rowsOf resultType calls) ++ "]") ∧
    (∀ separator, ∃ later, query.text separator =
      "\x7b:query \x7b" ++ (query.findText ++ (" :where [" ++ later))) ∧
    ((∀ expression, BuilderCall.project expression ∉ calls) →
      (query.keepsDocuments = true ↔
        query.findText = ":find [(pull " ++ (resultType.label ++ " [*])]")) ∧
      (∀ wanted : EntityType, Session.queryFault? wanted query = none →
        query.findText = ":find [(pull " ++ (wanted.label ++ " [*])]")) ∧
      ∀ (otherType : EntityType) (others : List BuilderCall) (other : TypedQuery),
        (ofType otherType).run others = .ok other →
        (∀ expression, BuilderCall.project expression ∉ others) →
        query.same other = true → query.keepsDocuments = other.keepsDocuments) := by
  obtain ⟨_, rfl⟩ := (run_eq_ok_iff (hasCondition_ofType resultType)).mp reached
  refine ⟨keepsDocuments_after resultType calls, findText_after resultType calls,
    exists_text_eq _, fun unprojected => ?_⟩
  have documents : ∀ entityType : EntityType,
      ":find [" ++ (wholeDocument entityType ++ "]") =
        ":find [(pull " ++ (entityType.label ++ " [*])]") := by
    intro entityType
    have opening : ":find [(pull " = ":find [" ++ "(pull " := rfl
    have closing : " [*])]" = " [*])" ++ "]" := rfl
    rw [opening, closing, wholeDocument]
    simp only [String.append_assoc]
  have sound := keepsDocuments_iff_findText resultType unprojected
  rw [documents] at sound
  refine ⟨sound, fun wanted decoded => ?_, fun otherType others other otherReached => ?_⟩
  · obtain ⟨keeps, label⟩ := Session.queryFault?_eq_none_iff.mp decoded
    rw [← label]
    exact sound.mp keeps
  · obtain ⟨_, rfl⟩ := (run_eq_ok_iff (hasCondition_ofType otherType)).mp otherReached
    intro otherUnprojected same
    exact keepsDocuments_of_text unprojected otherUnprojected (beq_iff_eq.mp same)

/-- Cities are counted by a second query. -/
theorem keepsDocuments_run_city :
    ∃ query other counted,
      (ofType Sample.city).run
        [.setKey (.limit 3), .constrain (.whereField Sample.city "name" (.string "x"))] =
          .ok query ∧
      (ofType Sample.city).run
        [.constrain (.whereField Sample.city "name" (.string "x")), .setKey (.limit 3)] =
          .ok other ∧
      (ofType Sample.city).run
        [.constrain (.whereField Sample.city "name" (.string "x")), .aggregate (.count "City")] =
          .ok counted ∧
      Session.queryFault? Sample.city query = none ∧
      query.findText = ":find [(pull City [*])]" ∧
      query.keepsDocuments = other.keepsDocuments ∧
      counted.keepsDocuments = false ∧ counted.findText = ":find [(count City)]" := by
  have reached : (ofType Sample.city).run
      [.setKey (.limit 3), .constrain (.whereField Sample.city "name" (.string "x"))] = .ok _ :=
    rfl
  have otherReached : (ofType Sample.city).run
      [.constrain (.whereField Sample.city "name" (.string "x")), .setKey (.limit 3)] = .ok _ :=
    rfl
  have countedReached : (ofType Sample.city).run
      [.constrain (.whereField Sample.city "name" (.string "x")),
        .aggregate (.count "City")] = .ok _ := rfl
  obtain ⟨_, _, _, decoded⟩ := keepsDocuments_run reached
  obtain ⟨_, section_, _, _⟩ := keepsDocuments_run countedReached
  obtain ⟨_, typed, alike⟩ := decoded (by simp)
  have same := alike Sample.city _ _ otherReached (by simp) (beq_self_eq_true _)
  exact ⟨_, _, _, reached, otherReached, countedReached, rfl, typed Sample.city rfl, same, rfl,
    section_⟩

/-- A projected name is taken for documents, and a projected aggregate is written like an applied
one. -/
theorem projected_keepsDocuments :
    ∃ named projected aggregated,
      (ofType Sample.city).run [.project "?name"] = .ok named ∧
      named.keepsDocuments = true ∧ named.findText = ":find [?name]" ∧
      Session.queryFault? Sample.city named = none ∧
      (ofType Sample.city).run [.project "(count ?name)"] = .ok projected ∧
      (ofType Sample.city).run [.aggregate (.count "?name")] = .ok aggregated ∧
      projected.same aggregated = true ∧
      projected.keepsDocuments = true ∧ aggregated.keepsDocuments = false :=
  ⟨_, _, _, rfl, rfl, rfl, rfl, rfl, rfl, beq_self_eq_true _, rfl, rfl⟩

end TypedQuery

end Bitemporal
