/-
This file says when documents that were written to are read back with their ids.
-/
import Bitemporal.Proofs.Transaction.RoundTrip
import Bitemporal.Sample.Schema

namespace Bitemporal

namespace Operation

/-! ## Operations that hold documents -/

/-- An operation without a valid time is stamped with the time of the clock. -/
theorem ofJson_toJson_put {document : Document} (hasId : HasId document) {clock : Instant}
    {time : Option Instant} (stamped : document.contains Document.functionKey = true ∨
      HasTimestamp (some (time.getD clock))) :
    ofJson (toJson clock.text (.put document time)) =
      .ok (.stored (.put document (some (time.getD clock)))) := by
  have sameForm : toJson clock.text (.put document time) =
      toJson clock.text (.put document (some (time.getD clock))) := by
    cases time <;> rfl
  rw [sameForm]
  exact ofJson_toJson clock.text ⟨hasId, stamped⟩

theorem ofJson_toJson_compare {document : Document} (hasId : HasId document) {clock : Instant}
    {time : Option Instant} (stamped : HasTimestamp (some (time.getD clock))) :
    ofJson (toJson clock.text (.compare document time)) =
      .ok (.stored (.compare document (some (time.getD clock)))) := by
  have sameForm : toJson clock.text (.compare document time) =
      toJson clock.text (.compare document (some (time.getD clock))) := by
    cases time <;> rfl
  rw [sameForm]
  exact ofJson_toJson clock.text ⟨hasId, stamped⟩

section Refused

variable {document : Document} {fault : Error}
  (refused : Document.ofJson document.toJson = .error fault)
include refused

/-- The document is read before anything that follows it. -/
theorem ofJson_toJson_put_of_refused (now : String) (time : Option Instant) :
    ofJson (toJson now (.put document time)) = .error fault := by
  show readPut _ (storedItems now (.put document time)) = _
  rw [storedItems]
  split
  · rw [readPut, refused]
    rfl
  · rw [readPut, refused]
    rfl

theorem ofJson_toJson_compare_of_refused (now : String) (time : Option Instant) :
    ofJson (toJson now (.compare document time)) = .error fault := by
  show readCompare _ (storedItems now (.compare document time)) = _
  rw [storedItems, readCompare, refused]
  rfl

end Refused

end Operation

namespace Document

open Operation (HasId HasTimestamp)

/-! ## The id of a written document -/

/-- The entry under the key of the id: the last one written, or else the id given at first. -/
def idEntry (origin : Origin) (writes : List Write) : Json :=
  (lastUnder? idKey writes).getD (.string origin.givenId)

variable {origin : Origin} {writes : List Write} {document : Document}

theorem get?_idKey_of_write (written : origin.write writes = .ok document) :
    document.get? idKey = some (idEntry origin writes) := by
  obtain ⟨first, created, later⟩ := bind_eq_ok.mp written
  rw [get?_of_writes later, Origin.get?_idKey_of_create created, Option.or_some, idEntry]

/-- The entry is the id that was given, unless another value is the last one written there. -/
theorem idEntry_eq_givenId_iff :
    idEntry origin writes = .string origin.givenId ↔
      ∀ value ∈ lastUnder? idKey writes, value = .string origin.givenId := by
  unfold idEntry
  cases lastUnder? idKey writes <;> simp

/-- The document is read back from what is written of it, and so are a put and a match of it. -/
structure IsReadBack (document : Document) : Prop where
  ofJson_toJson : ofJson document.toJson = .ok document
  put (clock : Instant) (time : Option Instant)
    (stamped : document.contains functionKey = true ∨ HasTimestamp (some (time.getD clock))) :
    Operation.ofJson (Operation.toJson clock.text (.put document time)) =
      .ok (.stored (.put document (some (time.getD clock))))
  compare (clock : Instant) (time : Option Instant)
    (stamped : HasTimestamp (some (time.getD clock))) :
    Operation.ofJson (Operation.toJson clock.text (.compare document time)) =
      .ok (.stored (.compare document (some (time.getD clock))))

theorem isReadBack_of_hasId (hasId : HasId document) : document.IsReadBack where
  ofJson_toJson := Operation.ofJson_toJson_document hasId
  put _ _ stamped := Operation.ofJson_toJson_put hasId stamped
  compare _ _ stamped := Operation.ofJson_toJson_compare hasId stamped

/-- What is written of the document is refused, and so are a put and a match of it. -/
structure IsRefused (document : Document) : Prop where
  ofJson_toJson : ofJson document.toJson = .error (.document .noId)
  put (now : String) (time : Option Instant) :
    Operation.ofJson (Operation.toJson now (.put document time)) = .error (.document .noId)
  compare (now : String) (time : Option Instant) :
    Operation.ofJson (Operation.toJson now (.compare document time)) = .error (.document .noId)

theorem isRefused_of_no_id (missing : (document.get? idKey).bind Json.string? = none) :
    document.IsRefused :=
  have refused := ofJson_toJson_of_no_id missing
  { ofJson_toJson := refused
    put := Operation.ofJson_toJson_put_of_refused refused
    compare := Operation.ofJson_toJson_compare_of_refused refused }

/-- A written document holds, under the key of its id, the last value that was written there, or
else the id that it was created with. If that value is a string it is the id, and the document is
read back; otherwise the id counts as empty, and the document is refused. -/
theorem isReadBack_of_write (written : origin.write writes = .ok document) :
    document.get? idKey = some (idEntry origin writes) ∧
    (document.get? idKey = some (.string origin.givenId) ∧ document.id = origin.givenId ↔
      ∀ value ∈ lastUnder? idKey writes, value = .string origin.givenId) ∧
    (∀ id, idEntry origin writes = .string id → document.id = id ∧ document.IsReadBack) ∧
    ((idEntry origin writes).string? = none → document.id = "" ∧ document.IsRefused) := by
  have entry := get?_idKey_of_write written
  refine ⟨entry, ?_, fun id isString => ?_, fun noString => ?_⟩
  · rw [entry, Option.some_inj, ← idEntry_eq_givenId_iff]
    exact ⟨And.left, fun given => ⟨given, id_of_get? (given ▸ entry)⟩⟩
  · have found : document.get? idKey = some (.string id) := isString ▸ entry
    exact ⟨id_of_get? found, isReadBack_of_hasId ⟨id, found⟩⟩
  · have missing : (document.get? idKey).bind Json.string? = none := by
      rw [entry]
      exact noString
    have empty : document.id = "" := by
      rw [Document.id, missing]
      rfl
    exact ⟨empty, isRefused_of_no_id missing⟩

/-- A city is given a name and, under its raw key, another id. -/
def renamedCity : List Write :=
  [.setField Sample.city "name" (.string "Roma"), .set "xt/id" (.string "roma")]

theorem isReadBack_of_write_city :
    Origin.write (.ofEntity Sample.city "rome") renamedCity =
        .ok ⟨[("City/name", .string "Roma"), ("type", .string "City"),
          ("xt/id", .string "roma")]⟩ ∧
      ∃ document, Origin.write (.ofEntity Sample.city "rome") renamedCity = .ok document ∧
        document.id = "roma" ∧ document.IsReadBack := by
  have written : Origin.write (.ofEntity Sample.city "rome") renamedCity =
      .ok ⟨[("City/name", .string "Roma"), ("type", .string "City"),
        ("xt/id", .string "roma")]⟩ := by rfl
  exact ⟨written, _, written, (isReadBack_of_write written).2.2.1 "roma" rfl⟩

/-- A type whose label makes a field share the key of the id. -/
def systemType : EntityType := ⟨"xt", [.scalar "id"], []⟩

/-- No write is kept from replacing the id by a value that is no string, and what is left is not
a document any more. -/
theorem number_replaces_id :
    Origin.write (.ofId "a") [.set "xt/id" (.integer 5)] = .ok ⟨[("xt/id", .integer 5)]⟩ ∧
      Origin.write (.ofId "a") [.setField systemType "id" (.integer 5)] =
        .ok ⟨[("xt/id", .integer 5)]⟩ ∧
      Document.id ⟨[("xt/id", .integer 5)]⟩ = "" ∧
      ofJson (.object [("xt/id", .integer 5)]) = .error (.document .noId) ∧
      Operation.ofJson (.array [.string "match", .string "", .object [("xt/id", .integer 5)],
        .string "2024-01-01T10:00:00+00:00"]) = .error (.document .noId) ∧
      Operation.toJson "now" (.compare ⟨[("xt/id", .integer 5)]⟩ (some ⟨1704103200, 0⟩)) =
        .array [.string "match", .string "", .object [("xt/id", .integer 5)],
          .string "2024-01-01T10:00:00+00:00"] :=
  ⟨rfl, rfl, rfl, rfl, rfl, rfl⟩

end Document

end Bitemporal
