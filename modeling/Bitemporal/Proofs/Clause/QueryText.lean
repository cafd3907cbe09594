/-
This file shows that the text of a complete query determines its parts.
-/
import Bitemporal.Proofs.Clause.ReadBack
import Bitemporal.Proofs.Clause.Sections
import Bitemporal.Proofs.Key.KeysText
import Bitemporal.Sample.Schema
import Bitemporal.TypedQuery

namespace Bitemporal

open Edn

namespace Clause

/-- Projections are pieces, conditions keep to their sections and are made of atoms, and the keys
can be told apart. -/
structure Legible (find filter : Clause) (keys : QueryKeys) : Prop where
  projection : find.kind = .projection
  pieces : ∀ expression ∈ find.expressions, IsPiece expression
  condition : filter.kind = .condition
  sectioned : filter.WellSectioned
  atoms : ∀ text ∈ filter.texts, IsAtom text
  keys : keys.Legible

/-- The list of conditions is one piece. -/
theorem exists_whereText {filter : Clause} (condition : filter.isCondition = true)
    (atoms : ∀ text ∈ filter.texts, IsAtom text) :
    ∃ conditions, IsPiece conditions ∧ filter.text true " " = ":where " ++ conditions := by
  have conjoins : Conjoins (.ofAssignment fun _ => true) filter.patterns _ :=
    conjoins_patterns filter condition atoms
  obtain ⟨forms, _, written, _⟩ := conjoins.written blank_space
  have balanced := (written.after_blank (blank_listGap blank_space filter.patterns)).balanced
  have opening : ":where [" = ":where " ++ "[" := rfl
  refine ⟨"[" ++ (listGap " " filter.patterns ++ " ".intercalate filter.patterns) ++ "]",
    balanced.enclosed .square (by simp [Bracket.opening, Bracket.closing]), ?_⟩
  rw [text_eq_patterns (kind_of_isCondition condition), conjunctionText_eq, opening]
  simp only [String.append_assoc]

/-- What follows the first keyword of a query, piece by piece. -/
def queryPieces (find : Clause) (conditions : String) (keys : QueryKeys) : List String :=
  Binding.bracketed find.expressions :: ":where" :: conditions ::
    QueryKeys.entryPieces keys.entries

/-- A query lists its sections and its keys between two brackets. -/
theorem line_query {find filter : Clause} {keys : QueryKeys} (projection : find.kind = .projection)
    {conditions : String} (listed : filter.text true " " = ":where " ++ conditions) :
    (query find filter keys).line =
      "\x7b:query \x7b:find" ++ (spaced (queryPieces find conditions keys) ++
        ("\x7d" ++ (keys.valuesText ++ "\x7d"))) := by
  have opening : "\x7b:query \x7b:find" = "\x7b:query \x7b" ++ ":find" := rfl
  have bracket : ":find [" = ":find" ++ (" " ++ "[") := rfl
  have keyword : ":where " = ":where" ++ " " := rfl
  rw [line, text, queryText_eq, text_eq_expressions projection, listed, opening, bracket, keyword,
    keys.text_eq_spaced]
  simp only [queryPieces, spaced_cons, Binding.bracketed, String.append_assoc]

theorem isPiece_queryPieces {find filter : Clause} {keys : QueryKeys}
    (legible : Legible find filter keys) {conditions : String} (piece : IsPiece conditions) :
    ∀ text ∈ queryPieces find conditions keys, IsPiece text := by
  have keyword : IsPiece ":where" := by decide
  simp only [queryPieces, List.forall_mem_cons]
  exact ⟨isPiece_bracketed legible.pieces, keyword, piece,
    QueryKeys.isPiece_entryPieces legible.keys⟩

/-- The pieces of a query and the values behind them give its parts. -/
theorem line_query_iff {find filter otherFind otherFilter : Clause} {keys otherKeys : QueryKeys}
    (legible : Legible find filter keys) (otherLegible : Legible otherFind otherFilter otherKeys) :
    (query find filter keys).line = (query otherFind otherFilter otherKeys).line ↔
      find.expressions = otherFind.expressions ∧
        filter.text true " " = otherFilter.text true " " ∧ keys = otherKeys := by
  obtain ⟨conditions, piece, listed⟩ := exists_whereText
    (legible.sectioned.isCondition legible.condition) legible.atoms
  obtain ⟨otherConditions, otherPiece, otherListed⟩ := exists_whereText
    (otherLegible.sectioned.isCondition otherLegible.condition) otherLegible.atoms
  constructor
  · intro same
    rw [line_query legible.projection listed, line_query otherLegible.projection otherListed,
      String.append_right_inj] at same
    obtain ⟨pieces, behind⟩ := spaced_append_inj (isPiece_queryPieces legible piece)
      (isPiece_queryPieces otherLegible otherPiece) (closes_append .curly rfl)
      (closes_append .curly rfl) same
    obtain ⟨expressions, later⟩ := List.cons.inj pieces
    obtain ⟨rfl, entries⟩ := List.cons.inj (List.cons.inj later).2
    have values : keys.valuesText = otherKeys.valuesText := by
      rwa [String.append_right_inj, String.append_left_inj] at behind
    refine ⟨bracketed_inj legible.pieces otherLegible.pieces expressions,
      listed.trans otherListed.symm, ?_⟩
    exact QueryKeys.eq_of_entries legible.keys otherLegible.keys
      (QueryKeys.entryPieces_inj entries) values
  · rintro ⟨expressions, conditions_, rfl⟩
    simp only [line, text, text_eq_expressions legible.projection,
      text_eq_expressions otherLegible.projection, expressions, conditions_]

/-- Two complete queries are written alike exactly if they have the same projections in the same
order, the same list of conditions and the same keys, with the same names, values, fields and
counts. This is so for the queries that a builder completes as well. -/
theorem same_query_iff {find filter otherFind otherFilter : Clause} {keys otherKeys : QueryKeys}
    (legible : Legible find filter keys) (otherLegible : Legible otherFind otherFilter otherKeys) :
    ((query find filter keys).same (query otherFind otherFilter otherKeys) = true ↔
      find.expressions = otherFind.expressions ∧
        filter.text true " " = otherFilter.text true " " ∧ keys = otherKeys) ∧
    ∀ left right : TypedQuery, left.clause = query find filter keys →
      right.clause = query otherFind otherFilter otherKeys →
      (left.same right = true ↔ left.completeFind.expressions = right.completeFind.expressions ∧
        left.completeFilter.text true " " = right.completeFilter.text true " " ∧
        left.keys = right.keys) := by
  have told := line_query_iff legible otherLegible
  refine ⟨beq_iff_eq.trans told, fun left right leftClause rightClause => ?_⟩
  obtain ⟨rfl, rfl, rfl⟩ := query.inj leftClause
  obtain ⟨rfl, rfl, rfl⟩ := query.inj rightClause
  exact beq_iff_eq.trans told

end Clause

/-- Cities that are neither named with a blank nor large or banned, for some other names. -/
def namedCities (values : List String) : TypedQuery where
  resultType := Sample.city
  find := some (.conjunction .projection [.projection "?name", .projection "(pull City [*])"])
  filter := some (.negationJoin "?city" [
    .pattern "?city" "name" (quote "Den \"Haag\""),
    .disjunction [.pattern "?city" "banned" "true", .predicate ">" ["?size", "3"] none]])
  keys := {
    binding := some ⟨.sequence ["?name", Binding.marker], .sequence values⟩
    order := some ⟨[("?name", .descending), ("?size", .ascending)]⟩
    limit := some 5
    offset := none
    timeout := some 5 }
  keepsDocuments := true

theorem wellSectioned_largeOrBanned : (Clause.disjunction
    [.pattern "?city" "banned" "true", .predicate ">" ["?size", "3"] none]).WellSectioned := by
  refine ⟨⟨List.cons_ne_nil _ _, by decide⟩, ?_⟩
  simp only [Clause.children, List.forall_mem_cons]
  exact ⟨Clause.wellSectioned_of_childless rfl trivial,
    Clause.wellSectioned_of_childless rfl trivial, List.forall_mem_nil _⟩

theorem wellSectioned_unnamed : (Clause.negationJoin "?city"
    [.pattern "?city" "name" (quote "Den \"Haag\""),
      .disjunction [.pattern "?city" "banned" "true",
        .predicate ">" ["?size", "3"] none]]).WellSectioned := by
  refine ⟨⟨List.cons_ne_nil _ _, by decide⟩, ?_⟩
  simp only [Clause.children, List.forall_mem_cons]
  exact ⟨Clause.wellSectioned_of_childless rfl trivial, wellSectioned_largeOrBanned,
    List.forall_mem_nil _⟩

theorem wellSectioned_namedCities (values : List String) :
    (namedCities values).completeFilter.WellSectioned := by
  -- the sections do not depend on the values, which only stand in the keys
  have kinds : ∀ clause ∈ (namedCities []).completeFilter.children, clause.kind = .condition := by
    decide
  refine ⟨⟨List.cons_ne_nil _ _, kinds⟩, ?_⟩
  simp only [namedCities, TypedQuery.completeFilter, Clause.children, List.forall_mem_cons]
  exact ⟨wellSectioned_unnamed, Clause.wellSectioned_of_childless rfl trivial,
    List.forall_mem_nil _⟩

theorem isAtom_namedCities (values : List String) :
    ∀ text ∈ (namedCities values).completeFilter.texts, IsAtom text := by
  have tokens : ∀ text ∈ (namedCities []).completeFilter.texts,
      IsToken text ∨ text = quote "Den \"Haag\"" ∨ text = quote "City" := by decide
  intro text member
  rcases tokens text member with token | rfl | rfl
  · exact .inl token
  · exact .inr ⟨_, by decide, rfl⟩
  · exact .inr ⟨_, by decide, rfl⟩

theorem legible_keys_namedCities {values : List String}
    (unescaped : ∀ value ∈ values, '\\' ∉ value.toList) : (namedCities values).keys.Legible := by
  have names : ∀ name ∈ ["?name", Binding.marker], IsToken name := by decide
  have fields : ∀ name ∈ ["?name", "?size"], IsToken name := by decide
  refine ⟨?_, ?_, ?_, ?_⟩
  · rintro _ ⟨⟩
    rfl
  · rintro _ ⟨⟩
    exact fun name member => .inl (names name member)
  · rintro _ ⟨⟩
    exact unescaped
  · rintro _ ⟨⟩
    intro field member
    exact .inl (fields field.1 (List.mem_map_of_mem member))

theorem legible_namedCities {values : List String}
    (unescaped : ∀ value ∈ values, '\\' ∉ value.toList) :
    Clause.Legible (namedCities values).completeFind (namedCities values).completeFilter
      (namedCities values).keys := by
  have pieces : ∀ expression ∈ (namedCities []).completeFind.expressions, IsPiece expression := by
    decide
  exact ⟨rfl, pieces, rfl, wellSectioned_namedCities values, isAtom_namedCities values,
    legible_keys_namedCities unescaped⟩

/-- A value with quotes and a blank is not taken for two values. -/
theorem same_query_iff_namedCities :
    Clause.Legible (namedCities ["a\" \"b"]).completeFind (namedCities ["a\" \"b"]).completeFilter
        (namedCities ["a\" \"b"]).keys ∧
      Clause.Legible (namedCities ["a", "b"]).completeFind (namedCities ["a", "b"]).completeFilter
        (namedCities ["a", "b"]).keys ∧
      (namedCities ["a\" \"b"]).clause.same (namedCities ["a", "b"]).clause = false ∧
      (namedCities ["a\" \"b"]).same (namedCities ["a", "b"]) = false ∧
      (namedCities ["a\" \"b"]).same (namedCities ["a\" \"b"]) = true := by
  have one : ∀ value ∈ ["a\" \"b"], '\\' ∉ value.toList := by decide
  have two : ∀ value ∈ ["a", "b"], '\\' ∉ value.toList := by decide
  have keys : (namedCities ["a\" \"b"]).keys ≠ (namedCities ["a", "b"]).keys := by decide
  obtain ⟨clauses, queries⟩ := Clause.same_query_iff (legible_namedCities one)
    (legible_namedCities two)
  obtain ⟨_, alike⟩ := Clause.same_query_iff (legible_namedCities one) (legible_namedCities one)
  refine ⟨legible_namedCities one, legible_namedCities two, ?_, ?_, ?_⟩
  · exact Bool.eq_false_of_not_eq_true fun same => keys (clauses.mp same).2.2
  · exact Bool.eq_false_of_not_eq_true fun same => keys ((queries _ _ rfl rfl).mp same).2.2
  · exact (alike _ _ rfl rfl).mpr ⟨rfl, rfl, rfl⟩

end Bitemporal
