/-
This file says what documents hold once they are created and written to.
-/
import Bitemporal.Entity.Document

namespace Bitemporal.Document

/-! ## Single writes -/

/-- A field is stored exactly by the types that declare it, and under its qualified name. -/
theorem setField_eq_ok_iff {document stored : Document} {entityType : EntityType} {field : String}
    {value : Json} :
    document.setField entityType field value = .ok stored ↔
      entityType.declares field = true ∧
        stored = document.set (entityType.qualify field) value := by
  unfold setField
  split
  · next declared => simp [declared, eq_comm]
  · next undeclared => simp [undeclared]

theorem contains_set_self (document : Document) (key : String) (value : Json) :
    (document.set key value).contains key = true := by
  rw [contains, get?_set_self]
  rfl

/-- An empty document shows the key that a value was stored under. -/
theorem key_of_set {key other : String} {value : Json}
    (same : (Document.mk []).set key value = (Document.mk []).set other value) : key = other := by
  cases same
  rfl

/-- A value is stored under a key of any spelling, or under the qualified name of a field. -/
inductive Write where
  | set (key : String) (value : Json)
  | setField (entityType : EntityType) (field : String) (value : Json)

namespace Write

def key : Write → String
  | .set key _ => key
  | .setField entityType field _ => entityType.qualify field

def value : Write → Json
  | .set _ value | .setField _ _ value => value

/-- Only a field that is not declared is refused. -/
def apply (document : Document) : Write → Outcome Document
  | .set key value => .ok (document.set key value)
  | .setField entityType field value => document.setField entityType field value

theorem eq_set_of_apply {document next : Document} {write : Write}
    (applied : apply document write = .ok next) : next = document.set write.key write.value := by
  cases write with
  | set key value =>
      cases applied
      rfl
  | setField entityType field value => exact (setField_eq_ok_iff.mp applied).2

theorem get?_of_apply {document next : Document} {write : Write}
    (applied : apply document write = .ok next) (key : String) :
    next.get? key = if write.key = key then some write.value else document.get? key := by
  rw [eq_set_of_apply applied]
  split
  · next same => rw [← same, get?_set_self]
  · next apart => exact get?_set_of_ne document (Ne.symm apart) write.value

end Write

/-! ## Successive writes -/

/-- The last value that was written under a key. -/
def lastUnder? (key : String) (writes : List Write) : Option Json :=
  ((writes.filter fun write => write.key == key).getLast?).map Write.value

theorem lastUnder?_cons (key : String) (write : Write) (rest : List Write) :
    lastUnder? key (write :: rest) =
      (lastUnder? key rest).or (if write.key = key then some write.value else none) := by
  unfold lastUnder?
  by_cases same : write.key = key
  · rw [List.filter_cons_of_pos (by simpa using same), List.getLast?_cons, if_pos same]
    cases (rest.filter fun write => write.key == key).getLast? <;> rfl
  · rw [List.filter_cons_of_neg (by simpa using same), if_neg same, Option.or_none]

/-- A key holds the last value that was written under it, or else what it held at first. -/
theorem get?_of_writes {first document : Document} {writes : List Write}
    (written : writes.foldlM Write.apply first = .ok document) (key : String) :
    document.get? key = (lastUnder? key writes).or (first.get? key) := by
  induction writes generalizing first with
  | nil =>
      cases written
      rfl
  | cons write rest inductionHypothesis =>
      rw [List.foldlM_cons] at written
      obtain ⟨next, applied, later⟩ := bind_eq_ok.mp written
      rw [inductionHypothesis later, Write.get?_of_apply applied, lastUnder?_cons, Option.or_assoc]
      split <;> rfl

/-! ## Ids -/

theorem id_of_get? {document : Document} {id : String}
    (found : document.get? idKey = some (.string id)) : document.id = id := by
  rw [Document.id, found]
  rfl

/-- A document is read from exactly the value it is written as, if its id is a string. -/
theorem ofJson_eq_ok_iff {value : Json} {document : Document} :
    ofJson value = .ok document ↔
      value = document.toJson ∧ document.get? idKey = some (.string document.id) := by
  constructor
  · intro read
    unfold ofJson at read
    split at read
    · next members =>
        split at read
        · next found =>
            cases read
            refine ⟨rfl, ?_⟩
            obtain ⟨id, isId⟩ := Option.isSome_iff_exists.mp found
            obtain ⟨stored, present, string⟩ := Option.bind_eq_some_iff.mp isId
            cases stored with
            | string text =>
                have entry : get? ⟨members⟩ idKey = some (.string text) := present
                rw [entry, id_of_get? entry]
            | _ => cases string
        · cases read
    · cases read
  · rintro ⟨rfl, found⟩
    have present : ((Json.Members.find? idKey document.members).bind Json.string?).isSome := by
      rw [show Json.Members.find? idKey document.members = _ from found]
      rfl
    exact if_pos present

theorem ofJson_toJson_of_id {document : Document} {id : String}
    (found : document.get? idKey = some (.string id)) :
    ofJson document.toJson = .ok document :=
  ofJson_eq_ok_iff.mpr ⟨rfl, by rw [id_of_get? found, found]⟩

/-- Nothing is read from what is written of a document whose id is not a string. -/
theorem ofJson_toJson_of_no_id {document : Document}
    (missing : (document.get? idKey).bind Json.string? = none) :
    ofJson document.toJson = .error (.document .noId) := by
  have absent : ¬ ((Json.Members.find? idKey document.members).bind Json.string?).isSome := by
    rw [show (Json.Members.find? idKey document.members).bind Json.string? = none from missing]
    exact Bool.false_ne_true
  exact if_neg absent

/-! ## Created documents -/

/-- A document starts from an id, an entity, a function or a value. -/
inductive Origin where
  | ofId (id : String)
  | ofEntity (entityType : EntityType) (id : String)
  | ofFunction (function : TransactionFunction)
  | ofJson (value : Json)

namespace Origin

def create : Origin → Outcome Document
  | .ofId id => .ok (Document.ofId id)
  | .ofEntity entityType id => .ok (Document.ofEntity entityType id)
  | .ofFunction function => .ok function.document
  | .ofJson value => Document.ofJson value

/-- The id that a document is created with. -/
def givenId : Origin → String
  | .ofId id | .ofEntity _ id => id
  | .ofFunction function => function.identifier
  | .ofJson (.object members) => (Document.mk members).id
  | .ofJson _ => ""

/-- The document that is created and then written to; no write follows a refused one. -/
def write (origin : Origin) (writes : List Write) : Outcome Document := do
  let first ← origin.create
  writes.foldlM Write.apply first

theorem get?_idKey_of_create {origin : Origin} {first : Document}
    (created : origin.create = .ok first) :
    first.get? idKey = some (.string origin.givenId) := by
  cases origin with
  | ofId id =>
      cases created
      rfl
  | ofEntity entityType id =>
      cases created
      exact get?_set_of_ne (Document.ofId id) (by decide) _
  | ofFunction function =>
      cases created
      exact get?_set_of_ne (Document.ofId function.identifier) (by decide) _
  | ofJson value =>
      obtain ⟨rfl, found⟩ := ofJson_eq_ok_iff.mp created
      exact found

end Origin

end Bitemporal.Document
