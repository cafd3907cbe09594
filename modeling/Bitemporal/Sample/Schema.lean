/-
This file holds a small schema of entity types.
-/
import Bitemporal.Entity.Type

namespace Bitemporal.Sample

def firstEntity : EntityType := ⟨"FirstEntity", [.scalar "name"], []⟩

def secondEntity : EntityType :=
  ⟨"SecondEntity", [.scalar "age", .relation "first_entity" "FirstEntity"], []⟩

def country : EntityType := ⟨"Country", [.scalar "name"], []⟩

def city : EntityType :=
  ⟨"City", [.relation "country" "Country", .scalar "population", .scalar "name"], []⟩

def user : EntityType :=
  ⟨"User", [.relation "city" "City", .relation "country" "Country", .scalar "name"], []⟩

def cat : EntityType := ⟨"Cat", [.scalar "name", .relation "owner" "User"], []⟩

def dog : EntityType := ⟨"Dog", [.scalar "name", .relation "owner" "User"], []⟩

/-- Cats and dogs are stored in place of pets. -/
def pet : EntityType := ⟨"Pet", [.scalar "name", .relation "owner" "User"], [cat, dog]⟩

/-- All types of the schema. -/
def schema : List EntityType :=
  [firstEntity, secondEntity, country, city, user, cat, dog, pet]

/-- The type that was declared last under a label. -/
def find? (types : List EntityType) (label : String) : Option EntityType :=
  types.reverse.find? fun entityType => entityType.label == label

end Bitemporal.Sample
