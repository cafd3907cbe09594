/-
This file defines stored documents and the fields read from them.
-/
import Bitemporal.Entity.Type
import Bitemporal.Error

namespace Bitemporal

/-- A document is an object; it is created with an id. -/
structure Document where
  members : Json.Members

namespace Document

/-- The key of the id. -/
def idKey : String := "xt/id"

/-- The key of the source of a transaction function. -/
def functionKey : String := "xt/fn"

/-- A value replaces the earlier one under its key. -/
def set (document : Document) (key : String) (value : Json) : Document :=
  ⟨Json.Members.insert key value document.members⟩

def get? (document : Document) (key : String) : Option Json :=
  Json.Members.find? key document.members

/-- A value is found under the key it was stored with. -/
theorem get?_set_self (document : Document) (key : String) (value : Json) :
    (document.set key value).get? key = some value :=
  Json.Members.find?_insert_self key value document.members

/-- The values of other keys are kept. -/
theorem get?_set_of_ne (document : Document) {key other : String} (apart : other ≠ key)
    (value : Json) : (document.set key value).get? other = document.get? other :=
  Json.Members.find?_insert_of_ne apart value document.members

def contains (document : Document) (key : String) : Bool := (document.get? key).isSome

def keys (document : Document) : List String := document.members.map Prod.fst

/-- A document with an id and nothing else. -/
def ofId (id : String) : Document := ⟨[(idKey, .string id)]⟩

/-- A document of an entity type starts with its id and its label. -/
def ofEntity (entityType : EntityType) (id : String) : Document :=
  (ofId id).set typeKey (.string entityType.label)

/-- The id of a document; one that is not a string counts as empty. -/
def id (document : Document) : String :=
  ((document.get? idKey).bind Json.string?).getD ""

@[simp] theorem id_ofId (id : String) : (ofId id).id = id := by
  simp [ofId, Document.id, get?, Json.Members.find?, Json.string?]

/-- The label that a document states. -/
def label? (document : Document) : Option String :=
  (document.get? typeKey).bind Json.string?

/-- The document as a value. -/
def toJson (document : Document) : Json := .object document.members

/-- The compact text of a document. -/
def text (document : Document) : String := document.toJson.text

/-- Only an object whose id is a string is a document. -/
def ofJson : Json → Outcome Document
  | .object members =>
      if ((Json.Members.find? idKey members).bind Json.string?).isSome then .ok ⟨members⟩
      else .error (.document .noId)
  | other => .error (.document (.notObject other))

/-- The value of a declared field is stored under its qualified name. -/
def setField (document : Document) (entityType : EntityType) (field : String) (value : Json) :
    Outcome Document :=
  if entityType.declares field then .ok (document.set (entityType.qualify field) value)
  else .error (.field (.undeclared field entityType.label))

/-- The value stored for a field. -/
def field (document : Document) (entityType : EntityType) (field : String) : Outcome Json :=
  let key := entityType.qualify field
  match document.get? key with
  | some value => .ok value
  | none => .error (.document (.missingKey key document.id))

/-- The value stored for a field, which has to be of an expected type. -/
def fieldOf {Value : Type} (expected : String) (convert : Json → Option Value)
    (document : Document) (entityType : EntityType) (field : String) : Outcome Value := do
  let value ← document.field entityType field
  match convert value with
  | some converted => return converted
  | none => throw (.document (.otherType (entityType.qualify field) expected value))

def stringField : Document → EntityType → String → Outcome String :=
  fieldOf "a string" Json.string?

def integerField : Document → EntityType → String → Outcome Int :=
  fieldOf "an integer" Json.signed?

def floatField : Document → EntityType → String → Outcome Binary64 :=
  fieldOf "a number" Json.float?

def booleanField : Document → EntityType → String → Outcome Bool :=
  fieldOf "a boolean" Json.boolean?

/-- Two documents are the same when they are the same values. -/
def same (left right : Document) : Bool := left.toJson.same right.toJson

end Document

/-- A function that runs inside a transaction. -/
structure TransactionFunction where
  identifier : String
  source : String

/-- A function is installed as a document that holds its source. -/
def TransactionFunction.document (function : TransactionFunction) : Document :=
  (Document.ofId function.identifier).set Document.functionKey (.string function.source)

end Bitemporal
