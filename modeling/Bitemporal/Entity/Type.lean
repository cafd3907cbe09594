/-
This file describes the types of stored entities.
-/
namespace Bitemporal

/-- A relation holds the id of an entity of its target type. -/
structure Field where
  name : String
  target : Option String
deriving DecidableEq, Repr

namespace Field

def scalar (name : String) : Field := ⟨name, none⟩

def relation (name target : String) : Field := ⟨name, some target⟩

end Field

/-- The variants of a type are the concrete types that are stored in its place. -/
structure EntityType where
  label : String
  fields : List Field
  variants : List EntityType

namespace EntityType

/-- This function finds a declared field by its name. -/
def field? (entityType : EntityType) (name : String) : Option Field :=
  entityType.fields.find? fun field => field.name == name

/-- The type declares a field of this name. -/
def declares (entityType : EntityType) (name : String) : Bool := (entityType.field? name).isSome

/-- The label of the type that a relation leads to. -/
def target? (entityType : EntityType) (name : String) : Option String :=
  (entityType.field? name).bind Field.target

/-- The fields that are relations. -/
def relations (entityType : EntityType) : List Field :=
  entityType.fields.filter fun field => field.target.isSome

/-- The key under which a field is stored. -/
def qualify (entityType : EntityType) (field : String) : String :=
  entityType.label ++ "/" ++ field

/-- Types are told apart by their label alone. -/
def same (left right : EntityType) : Bool := left.label == right.label

end EntityType

/-- The key of the label of a stored entity. -/
def typeKey : String := "type"

end Bitemporal
