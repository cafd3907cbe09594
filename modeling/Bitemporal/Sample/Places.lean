/-
This file stores countries and cities as entities of the sample schema.
-/
import Bitemporal.Sample.Schema
import Bitemporal.Session

namespace Bitemporal.Sample

structure Country where
  id : String
  name : String
deriving DecidableEq, Repr

namespace Country

def document (value : Country) : Document :=
  (Document.ofEntity country value.id).set (country.qualify "name") (.string value.name)

def ofDocument (document : Document) : Outcome Country := do
  let name ← document.stringField country "name"
  return ⟨document.id, name⟩

instance : Entity Country := ⟨country, Country.id, document, ofDocument⟩

end Country

/-- The country of a city is known by its id. -/
structure City where
  id : String
  country : String
  population : Int
  name : String
deriving DecidableEq, Repr

namespace City

def document (value : City) : Document :=
  (((Document.ofEntity city value.id).set (city.qualify "country") (.string value.country)).set
    (city.qualify "population") (.integer value.population)).set
    (city.qualify "name") (.string value.name)

def ofDocument (document : Document) : Outcome City := do
  let country ← document.stringField city "country"
  let population ← document.integerField city "population"
  let name ← document.stringField city "name"
  return ⟨document.id, country, population, name⟩

instance : Entity City := ⟨city, City.id, document, ofDocument⟩

end City

end Bitemporal.Sample
