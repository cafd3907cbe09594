/-
This file shows that transactions are read back from their wire form.
-/
import Bitemporal.Proofs.Entity.Writes
import Bitemporal.Proofs.Json.RoundTrip
import Bitemporal.Proofs.Time.Timestamp
import Bitemporal.Transaction.Basic

namespace Bitemporal

namespace Operation

/-! ## Operations that can be stored -/

/-- The values that an operation carries. -/
def values : Operation → List Json
  | .put document _ | .compare document _ => [document.toJson]
  | .delete _ _ | .evict _ _ => []
  | .call _ arguments => arguments

/-- A time is given, and its timestamp has four digits for the year. -/
def HasTimestamp (time : Option Instant) : Prop :=
  ∃ instant ∈ time, instant.IsReal ∧ instant.HasFourDigitYear

/-- The id of a document is a string. -/
def HasId (document : Document) : Prop := ∃ id, document.get? Document.idKey = some (.string id)

/-- Documents have an id, and only the installation of a function can do without a time. -/
def IsStorable : Operation → Prop
  | .put document time =>
      HasId document ∧ (document.contains Document.functionKey = true ∨ HasTimestamp time)
  | .compare document time => HasId document ∧ HasTimestamp time
  | .delete _ time | .evict _ time => HasTimestamp time
  | .call _ _ => True

/-- The operation as its stored form has it. -/
def stored : Operation → Operation
  | .put document time =>
      .put document
        (if document.contains Document.functionKey then none else time.map Instant.truncated)
  | .compare document time => .compare document (time.map Instant.truncated)
  | .delete id time => .delete id (time.map Instant.truncated)
  | .evict id time => .evict id (time.map Instant.truncated)
  | .call identifier arguments => .call identifier arguments

/-! ## Reading operations -/

/-- A timestamp is read down to its microseconds. -/
theorem readTime_timeJson (now : String) {time : Option Instant} (stamped : HasTimestamp time) :
    ∃ instant, readTime (timeJson now time) = .ok instant ∧
      some instant = time.map Instant.truncated := by
  obtain ⟨instant, present, real, fourDigits⟩ := stamped
  cases present
  refine ⟨instant.truncated, ?_, rfl⟩
  simp only [timeJson, Option.map_some, Option.getD_some, readTime,
    Instant.read_text real fourDigits]

theorem ofJson_toJson_document {document : Document} (hasId : HasId document) :
    Document.ofJson document.toJson = .ok document := by
  obtain ⟨id, found⟩ := hasId
  exact Document.ofJson_toJson_of_id found

section Items

variable (malformed : Error) {document : Document} {stamp : Json} {instant : Instant}

theorem readPut_document (readDocument : Document.ofJson document.toJson = .ok document) :
    readPut malformed [document.toJson] = .ok (.put document none) := by
  rw [readPut, readDocument]
  rfl

theorem readPut_stamped (readDocument : Document.ofJson document.toJson = .ok document)
    (readStamp : readTime stamp = .ok instant) :
    readPut malformed [document.toJson, stamp] = .ok (.put document (some instant)) := by
  rw [readPut, readDocument, readStamp]
  rfl

/-- The repeated id is the one of the document. -/
theorem readCompare_stamped (readDocument : Document.ofJson document.toJson = .ok document)
    (readStamp : readTime stamp = .ok instant) :
    readCompare malformed [.string document.id, document.toJson, stamp] =
      .ok (.compare document (some instant)) := by
  rw [readCompare, readDocument, readStamp]
  show (if (some document.id : Option String) ≠ some document.id then _ else _) = _
  rw [if_neg (by simp)]
  rfl

theorem readRemoval_stamped (operation : String → Option Instant → Operation) (id : String)
    (readStamp : readTime stamp = .ok instant) :
    readRemoval malformed operation [.string id, stamp] = .ok (operation id (some instant)) := by
  rw [readRemoval, readStamp]
  rfl

end Items

/-- An operation is read back from its stored form. -/
theorem ofJson_toJson (now : String) {operation : Operation} (storable : operation.IsStorable) :
    ofJson (operation.toJson now) = .ok operation.stored := by
  cases operation with
  | put document time =>
      obtain ⟨hasId, timed⟩ := storable
      have readDocument := ofJson_toJson_document hasId
      by_cases installs : document.contains Document.functionKey = true
      · rw [toJson, storedItems, if_pos installs, stored, if_pos installs]
        exact readPut_document
          (.document (.malformedOperation "put" (.array [.string "put", document.toJson])))
          readDocument
      · obtain ⟨instant, readStamp, same⟩ := readTime_timeJson now (timed.resolve_left installs)
        rw [toJson, storedItems, if_neg installs, stored, if_neg installs, ← same]
        exact readPut_stamped
          (.document (.malformedOperation "put"
            (.array [.string "put", document.toJson, timeJson now time])))
          readDocument readStamp
  | compare document time =>
      obtain ⟨hasId, timed⟩ := storable
      obtain ⟨instant, readStamp, same⟩ := readTime_timeJson now timed
      rw [stored, ← same]
      exact readCompare_stamped _ (ofJson_toJson_document hasId) readStamp
  | delete id time =>
      obtain ⟨instant, readStamp, same⟩ := readTime_timeJson now storable
      rw [stored, ← same]
      exact readRemoval_stamped
        (.document (.malformedOperation "delete"
          (.array [.string "delete", .string id, timeJson now time])))
        .delete id readStamp
  | evict id time =>
      obtain ⟨instant, readStamp, same⟩ := readTime_timeJson now storable
      rw [stored, ← same]
      exact readRemoval_stamped
        (.document (.malformedOperation "evict"
          (.array [.string "evict", .string id, timeJson now time])))
        .evict id readStamp
  | call identifier arguments => rfl

/-! ## Stored forms as values -/

/-- Beside the values of the operation a stored form holds strings alone. -/
theorem mem_storedItems {now : String} {operation : Operation} {item : Json}
    (member : item ∈ operation.storedItems now) :
    item ∈ operation.values ∨ ∃ text, item = .string text := by
  cases operation with
  | put document time =>
      rw [storedItems] at member
      split at member
      · exact .inl member
      · rcases List.mem_cons.mp member with first | later
        · exact .inl (List.mem_singleton.mpr first)
        · exact .inr ⟨_, List.mem_singleton.mp later⟩
  | compare document time =>
      simp only [storedItems, List.mem_cons, List.not_mem_nil, or_false] at member
      rcases member with id | document_ | stamp
      · exact .inr ⟨_, id⟩
      · exact .inl (List.mem_singleton.mpr document_)
      · exact .inr ⟨_, stamp⟩
  | delete id time =>
      simp only [storedItems, List.mem_cons, List.not_mem_nil, or_false] at member
      exact .inr (member.elim (fun same => ⟨_, same⟩) fun same => ⟨_, same⟩)
  | evict id time =>
      simp only [storedItems, List.mem_cons, List.not_mem_nil, or_false] at member
      exact .inr (member.elim (fun same => ⟨_, same⟩) fun same => ⟨_, same⟩)
  | call identifier arguments =>
      rcases List.mem_cons.mp member with name | argument
      · exact .inr ⟨_, name⟩
      · exact .inl argument

/-- What holds of strings and of the values of an operation holds of all parts of its form. -/
theorem forall_mem_form {now : String} {operation : Operation} {property : Json → Prop}
    (strings : ∀ text, property (.string text))
    (values : ∀ value ∈ operation.values, property value) :
    ∀ item ∈ Json.string operation.kind.name :: operation.storedItems now, property item := by
  intro item member
  rcases List.mem_cons.mp member with rfl | later
  · exact strings _
  · rcases mem_storedItems later with inside | ⟨text, rfl⟩
    · exact values item inside
    · exact strings text

end Operation

/-! ## Transactions -/

namespace Transaction

/-- All values that the operations carry. -/
def values (transaction : Transaction) : List Json :=
  transaction.operations.flatMap Operation.values

/-- The brackets of the record, of its list and of an operation stand around each value. -/
def bracketsAround : Nat := 3

/-- The values of a transaction have texts of their own, and there is room around them for the
brackets. -/
structure IsReadable (transaction : Transaction) : Prop where
  wellFormed : ∀ value ∈ transaction.values, value.WellFormed
  shallow : ∀ value ∈ transaction.values, value.depth + bracketsAround ≤ Json.depthLimit
  readsBack : ∀ value ∈ transaction.values, ∀ number ∈ value.floats, Json.ReadsBack number

/-- The wire form as a value. -/
theorem text_eq (clock : Clock) (transaction : Transaction) :
    transaction.text clock =
      (Json.object [(operationsKey, .array (transaction.forms clock))]).text := rfl

section Form

variable {clock : Clock} {transaction : Transaction}

/-- Each form is the one of some operation at the time that the clock showed for it. -/
theorem mem_forms {form : Json} (member : form ∈ transaction.forms clock) :
    ∃ operation ∈ transaction.operations, ∃ now, form = operation.toJson now := by
  obtain ⟨place, inside, rfl⟩ := List.mem_mapIdx.mp member
  exact ⟨_, List.getElem_mem inside, _, rfl⟩

theorem mapM_ofJson (storable : ∀ operation ∈ transaction.operations, operation.IsStorable) :
    (transaction.forms clock).mapM Operation.ofJson =
      .ok (transaction.operations.map Operation.stored) := by
  obtain ⟨operations⟩ := transaction
  induction operations generalizing clock with
  | nil => rfl
  | cons operation rest inductionHypothesis =>
      obtain ⟨first, later⟩ := List.forall_mem_cons.mp storable
      have behind : (forms ⟨fun place => clock.shown (place + 1)⟩ ⟨rest⟩).mapM Operation.ofJson =
          .ok (rest.map Operation.stored) := inductionHypothesis later
      rw [forms] at behind ⊢
      rw [List.mapIdx_cons, List.mapM_cons, Operation.ofJson_toJson _ first, behind]
      rfl

/-- What holds of the values of a transaction holds of those of each operation. -/
theorem forall_mem_values {property : Json → Prop}
    (all : ∀ value ∈ transaction.values, property value) :
    ∀ operation ∈ transaction.operations, ∀ value ∈ operation.values, property value :=
  fun _ member value inside => all value (List.mem_flatMap.mpr ⟨_, member, inside⟩)

theorem wellFormed_form (wellFormed : ∀ value ∈ transaction.values, value.WellFormed) :
    (Json.array (transaction.forms clock)).WellFormed := by
  rw [Json.WellFormed, Json.wellFormedItems_iff]
  intro form inside
  obtain ⟨operation, member, now, rfl⟩ := mem_forms inside
  rw [Operation.toJson, Json.WellFormed, Json.wellFormedItems_iff]
  apply Operation.forall_mem_form
  · intro text
    exact trivial
  · exact forall_mem_values wellFormed operation member

theorem readsBack_form
    (readsBack : ∀ value ∈ transaction.values, ∀ number ∈ value.floats, Json.ReadsBack number) :
    ∀ number ∈ (Json.array (transaction.forms clock)).floats, Json.ReadsBack number := by
  intro number found
  rw [Json.floats, Json.mem_floatsOfItems] at found
  obtain ⟨form, member, inForm⟩ := found
  obtain ⟨operation, present, now, rfl⟩ := mem_forms member
  rw [Operation.toJson, Json.floats, Json.mem_floatsOfItems] at inForm
  obtain ⟨item, inside, inItem⟩ := inForm
  have strings : ∀ text, ∀ number ∈ (Json.string text).floats, Json.ReadsBack number := by
    intro text number nothing
    cases nothing
  exact Operation.forall_mem_form strings (forall_mem_values readsBack operation present) item
    inside number inItem

theorem depth_form
    (shallow : ∀ value ∈ transaction.values, value.depth + bracketsAround ≤ Json.depthLimit) :
    (Json.array (transaction.forms clock)).depth + 1 ≤ Json.depthLimit := by
  have inner : Json.depthOfItems (transaction.forms clock) ≤ Json.depthLimit - 2 := by
    rw [Json.depthOfItems_le_iff]
    intro form inside
    obtain ⟨operation, member, now, rfl⟩ := mem_forms inside
    have items : Json.depthOfItems (.string operation.kind.name :: operation.storedItems now) ≤
        Json.depthLimit - bracketsAround := by
      rw [Json.depthOfItems_le_iff]
      apply Operation.forall_mem_form
      · intro text
        exact Nat.zero_le _
      · intro value inside
        exact Nat.le_sub_of_add_le (forall_mem_values shallow operation member value inside)
    rw [Operation.toJson, Json.depth]
    unfold bracketsAround Json.depthLimit at *
    omega
  rw [Json.depth]
  unfold Json.depthLimit at *
  omega

/-- The wire form lists the stored forms of all operations in their order. -/
theorem storedOperations_text (readable : transaction.IsReadable) :
    storedOperations (transaction.text clock) = some (transaction.forms clock) := by
  have record : Json.readRecord [operationsKey] (transaction.text clock) =
      some [(operationsKey, .array (transaction.forms clock))] := by
    rw [text_eq]
    apply Json.readRecord_text
    · simp
    · intro number found
      simp only [Json.floats, Json.floatsOfMembers, List.append_nil] at found
      exact readsBack_form readable.readsBack number found
    · exact ⟨List.pairwise_singleton _ _, wellFormed_form readable.wellFormed, trivial⟩
    · simp only [Json.depth, Json.depthOfMembers, Nat.max_zero]
      exact depth_form readable.shallow
  rw [storedOperations, record]
  rfl

end Form

/-- A text is read as the operations of the forms that it lists. -/
theorem ofText_of_storedOperations {text : String} {forms : List Json}
    {operations : List Operation} (listed : storedOperations text = some forms)
    (read : forms.mapM Operation.ofJson = .ok operations) : ofText text = .ok ⟨operations⟩ := by
  rw [ofText, listed]
  show (forms.mapM Operation.ofJson >>=
    fun operations => (Except.ok (Transaction.mk operations) : Outcome Transaction)) = _
  rw [read]
  rfl

/-- A transaction is read back from its wire form: the operations are the same and in the same
order, their times are cut to microseconds, and the installation of a function has none. -/
theorem ofText_text (clock : Clock) {transaction : Transaction}
    (storable : ∀ operation ∈ transaction.operations, operation.IsStorable)
    (wellFormed : ∀ value ∈ transaction.values, value.WellFormed)
    (shallow : ∀ value ∈ transaction.values, value.depth + bracketsAround ≤ Json.depthLimit)
    (readsBack : ∀ value ∈ transaction.values, ∀ number ∈ value.floats, Json.ReadsBack number) :
    ofText (transaction.text clock) = .ok ⟨transaction.operations.map Operation.stored⟩ := by
  have readable : transaction.IsReadable := ⟨wellFormed, shallow, readsBack⟩
  have listed : storedOperations (transaction.text clock) = some (transaction.forms clock) :=
    storedOperations_text readable
  exact ofText_of_storedOperations listed (mapM_ofJson storable)

/-- A city is put in the leap second at the end of 2016. -/
def everyKind : Transaction :=
  ⟨[.put (TransactionFunction.document ⟨"grow", "(fn [ctx id] [])"⟩) none,
    .put ⟨[("City/area", .float (.ofDecimal false 25 (-1))), ("xt/id", .string "rome")]⟩
      (some ⟨1483228799, 1999999999⟩),
    .compare (Document.ofId "rome") (some ⟨-1, 5⟩),
    .delete "oslo" (some ⟨0, 0⟩),
    .evict "oslo" (some ⟨951782400, 123456789⟩),
    .call "grow" [.string "rome", .array [.integer (-7), .null], .object [("by", .boolean true)]]]⟩

theorem isStorable_everyKind : ∀ operation ∈ everyKind.operations, operation.IsStorable := by
  have installed : (TransactionFunction.document ⟨"grow", "(fn [ctx id] [])"⟩).contains
      Document.functionKey = true := by decide
  simp only [everyKind, List.forall_mem_cons]
  refine ⟨⟨⟨"grow", rfl⟩, .inl installed⟩, ⟨⟨"rome", rfl⟩, .inr ⟨_, rfl, ?_, ?_⟩⟩,
    ⟨⟨"rome", rfl⟩, _, rfl, ?_, ?_⟩, ⟨_, rfl, ?_, ?_⟩, ⟨_, rfl, ?_, ?_⟩, trivial,
    List.forall_mem_nil _⟩
  all_goals decide

theorem isReadable_everyKind : everyKind.IsReadable where
  wellFormed := by
    have inOrder : "City/area" < "xt/id" ∧ "xt/fn" < "xt/id" := by decide
    simp [everyKind, values, Operation.values, Document.toJson, TransactionFunction.document,
      Document.ofId, Document.set, Document.idKey, Document.functionKey, Json.Members.insert,
      Json.WellFormed, Json.WellFormedItems, Json.WellFormedMembers, inOrder, Json.signedLimit,
      Json.unsignedLimit, -String.lt_iff_ltb]
  shallow := by decide
  readsBack := by
    intro value member number found
    have only : number ∈ everyKind.values.flatMap Json.floats :=
      List.mem_flatMap.mpr ⟨value, member, found⟩
    have listed : everyKind.values.flatMap Json.floats = [.ofDecimal false 25 (-1)] := by rfl
    rw [listed, List.mem_singleton] at only
    rw [only]
    exact Json.readsBack_half

theorem ofText_text_everyKind :
    (∀ operation ∈ everyKind.operations, operation.IsStorable) ∧
      (∀ value ∈ everyKind.values, value.WellFormed) ∧
      (∀ value ∈ everyKind.values, value.depth + bracketsAround ≤ Json.depthLimit) ∧
      (∀ value ∈ everyKind.values, ∀ number ∈ value.floats, Json.ReadsBack number) ∧
      ofText (everyKind.text "now") = .ok
        ⟨[.put (TransactionFunction.document ⟨"grow", "(fn [ctx id] [])"⟩) none,
          .put ⟨[("City/area", .float (.ofDecimal false 25 (-1))), ("xt/id", .string "rome")]⟩
            (some ⟨1483228799, 1999999000⟩),
          .compare (Document.ofId "rome") (some ⟨-1, 0⟩),
          .delete "oslo" (some ⟨0, 0⟩),
          .evict "oslo" (some ⟨951782400, 123456000⟩),
          .call "grow"
            [.string "rome", .array [.integer (-7), .null], .object [("by", .boolean true)]]]⟩ := by
  obtain ⟨wellFormed, shallow, readsBack⟩ := isReadable_everyKind
  exact ⟨isStorable_everyKind, wellFormed, shallow, readsBack,
    ofText_text "now" isStorable_everyKind wellFormed shallow readsBack⟩

end Transaction

end Bitemporal
