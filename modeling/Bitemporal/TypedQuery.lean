/-
This file builds queries for the documents of an entity type.
-/
import Bitemporal.Aggregate
import Bitemporal.Clause.Algebra
import Bitemporal.Clause.Text
import Bitemporal.Entity.Type

namespace Bitemporal

/-- The value that a field is compared with. -/
inductive FieldValue where
  | string (value : String)
  | integer (value : Int)
  | float (value : Binary64)
  | boolean (value : Bool)
  | logic (name : String)
  | nil
  | entity (entityType : EntityType)

namespace FieldValue

/-- The literal of a value; an entity stands for the documents of its type. -/
def literal : FieldValue → String
  | .string value => quote value
  | .integer value => toString value
  | .float value => value.text .literal
  | .boolean value => toString value
  | .logic name => "?" ++ name
  | .nil => "nil"
  | .entity entityType => entityType.label

/-- Only a float can fail to be finite. -/
def nonFinite? : FieldValue → Option Binary64
  | .float value => if value.isFinite then none else some value
  | _ => none

def isEntity : FieldValue → Bool
  | .entity _ => true
  | _ => false

end FieldValue

/-- Rows stay documents of the result type until an aggregate is projected. -/
structure TypedQuery where
  resultType : EntityType
  find : Option Clause
  filter : Option Clause
  keys : QueryKeys
  keepsDocuments : Bool

namespace TypedQuery

/-- A query for all documents of a type. -/
def ofType (resultType : EntityType) : TypedQuery := ⟨resultType, none, none, .empty, true⟩

/-- The fault of comparing a field with a value. -/
def fieldFault? (entityType : EntityType) (field : String) (value : FieldValue) :
    Option FieldFault :=
  if !entityType.declares field then some (.undeclared field entityType.label)
  else
    match value.nonFinite? with
    | some number => some (.notFinite field number)
    | none =>
        if value.isEntity && (entityType.target? field).isNone then
          some (.notRelation field entityType.label)
        else none

/-- An entity is compared in every variant that may be stored, anything else in the type itself. -/
def fieldPattern (entityType : EntityType) (field : String) (value : FieldValue) : Clause :=
  if value.isEntity && !entityType.variants.isEmpty then
    .disjunction (entityType.variants.map fun variant =>
      .pattern entityType.label (variant.qualify field) value.literal)
  else .pattern entityType.label (entityType.qualify field) value.literal

/-- The condition that a field has a value. -/
def fieldCondition (entityType : EntityType) (field : String) (value : FieldValue) :
    Outcome Clause :=
  match fieldFault? entityType field value with
  | some fault => .error (.field fault)
  | none => .ok (fieldPattern entityType field value)

/-- A condition is conjoined to the ones before it. -/
def addCondition (filter : Option Clause) (clause : Clause) : Outcome Clause :=
  match filter with
  | some earlier => earlier.conjoin clause
  | none => .ok clause

/-- One more condition on a field. -/
def whereField (query : TypedQuery) (entityType : EntityType) (field : String)
    (value : FieldValue) : Outcome TypedQuery := do
  let clause ← fieldCondition entityType field value
  let filter ← addCondition query.filter clause
  return { query with filter := some filter }

/-- Conditions on several fields, none of which is kept if one of them fails. -/
def whereFields (query : TypedQuery) (entityType : EntityType)
    (fields : List (String × FieldValue)) : Outcome TypedQuery :=
  fields.foldlM (fun query field => query.whereField entityType field.1 field.2) query

/-- Any condition may be conjoined. -/
def whereClause (query : TypedQuery) (clause : Clause) : Outcome TypedQuery :=
  if clause.kind = .condition then do
    let filter ← addCondition query.filter clause
    return { query with filter := some filter }
  else .error (.incompatibleSections Section.condition.keyword clause.form)

/-- A projection follows the ones before it. -/
def addProjection (find : Option Clause) (expression : String) : Clause :=
  match find with
  | none => .projection expression
  | some (.conjunction .projection clauses) =>
      .conjunction .projection (clauses ++ [.projection expression])
  | some earlier => .conjunction .projection [earlier, .projection expression]

/-- An expression is returned in place of the documents. -/
def project (query : TypedQuery) (expression : String) : TypedQuery :=
  { query with find := some (addProjection query.find expression) }

/-- An aggregate is returned, and rows are no documents any more. -/
def aggregate (query : TypedQuery) (aggregate : Aggregate) : TypedQuery :=
  { query.project aggregate.text with keepsDocuments := false }

/-- A key replaces the earlier one of its kind. -/
def setKey (query : TypedQuery) (key : QueryKey) : TypedQuery :=
  { query with keys := query.keys.set key }

/-- Documents of a type state its label, or that of one of its variants. -/
def typeCondition (entityType : EntityType) : Clause :=
  if entityType.variants.isEmpty then
    .pattern entityType.label typeKey (quote entityType.label)
  else
    .disjunction (entityType.variants.map fun variant =>
      .pattern entityType.label typeKey (quote variant.label))

/-- The condition on the type follows all others. -/
def completeFilter (query : TypedQuery) : Clause :=
  match query.filter with
  | none => typeCondition query.resultType
  | some (.conjunction .condition clauses) =>
      .conjunction .condition (clauses ++ [typeCondition query.resultType])
  | some filter => .conjunction .condition [filter, typeCondition query.resultType]

/-- Without a projection whole documents are returned. -/
def completeFind (query : TypedQuery) : Clause :=
  query.find.getD (.projection ("(pull " ++ query.resultType.label ++ " [*])"))

/-- The complete query. -/
def clause (query : TypedQuery) : Clause :=
  .query query.completeFind query.completeFilter query.keys

/-- The text of the query with a separator in front of each of its conditions. -/
def text (query : TypedQuery) (separator : String) : String := query.clause.text true separator

/-- The text of the query on one line. -/
def line (query : TypedQuery) : String := query.text " "

/-- The text of the query with one condition on each line. -/
def formatted (query : TypedQuery) : String := query.text "\n    "

/-- Queries are the same when they are written in the same way. -/
def same (left right : TypedQuery) : Bool := left.line == right.line

end TypedQuery

end Bitemporal
