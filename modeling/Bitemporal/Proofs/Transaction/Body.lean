/-
This file says what the body of a submission holds: the operations of the transaction in their
order, each at its valid time or at the time that the clock showed for it.
-/
import Bitemporal.Proofs.Transaction.RoundTrip

namespace Bitemporal

/-- A clock that shows the timestamps of these instants. -/
def Clock.ofInstants (instants : Nat → Instant) : Clock := ⟨fun place => (instants place).text⟩

namespace Operation

/-- The operation with this valid time, unless it has one of its own or needs none. -/
def stampedAt (now : Instant) : Operation → Operation
  | .put document time => .put document (some (time.getD now))
  | .delete id time => .delete id (some (time.getD now))
  | .compare document time => .compare document (some (time.getD now))
  | .evict id time => .evict id (some (time.getD now))
  | .call identifier arguments => .call identifier arguments

theorem timeJson_getD (now : Instant) (later : String) (time : Option Instant) :
    timeJson later (some (time.getD now)) = timeJson now.text time := by
  cases time <;> rfl

/-- Whoever stamps an operation before it is written writes the same. -/
theorem toJson_stampedAt (now : Instant) (later : String) (operation : Operation) :
    (operation.stampedAt now).toJson later = operation.toJson now.text := by
  cases operation with
  | call identifier arguments => rfl
  | _ => simp only [toJson, kind, stampedAt, storedItems, timeJson_getD]

end Operation

namespace Transaction

/-- The operations with the time that is shown for their place, unless they have one. -/
def stampedAt (instants : Nat → Instant) (transaction : Transaction) : Transaction :=
  ⟨transaction.operations.mapIdx fun place operation => operation.stampedAt (instants place)⟩

theorem forms_stampedAt (instants : Nat → Instant) (clock : Clock) (transaction : Transaction) :
    (transaction.stampedAt instants).forms clock = transaction.forms (.ofInstants instants) := by
  simp only [forms, stampedAt, List.mapIdx_mapIdx]
  congr 1
  funext place operation
  exact Operation.toJson_stampedAt (instants place) (clock.shown place) operation

/-- A body is an object with a list of the stored forms. If the values of the transaction have texts
of their own the forms are read from it, and so are the operations if they can be stored. -/
structure IsBody (clock : Clock) (transaction : Transaction) (body : String) : Prop where
  written : body = "\x7b\"tx-ops\":[" ++
    ",".intercalate ((transaction.forms clock).map Json.text) ++ "]\x7d"
  listed : transaction.IsReadable → storedOperations body = some (transaction.forms clock)
  readBack : ∀ instants : Nat → Instant, clock = .ofInstants instants →
    transaction.IsReadable →
    (∀ operation ∈ (transaction.stampedAt instants).operations, operation.IsStorable) →
    ofText body = .ok ⟨(transaction.stampedAt instants).operations.map Operation.stored⟩

theorem text_eq_listed (clock : Clock) (transaction : Transaction) :
    transaction.text clock = "\x7b\"tx-ops\":[" ++
      ",".intercalate ((transaction.forms clock).map Json.text) ++ "]\x7d" := by
  have member : (Json.object [(operationsKey, .array (transaction.forms clock))]).text =
      "\x7b\"tx-ops\":" ++ (Json.array (transaction.forms clock)).text ++ "\x7d" := by
    apply String.toList_inj.mp
    simp only [Json.text, String.toList_append, String.toList_ofList]
    rfl
  have opening : "\x7b\"tx-ops\":[" = "\x7b\"tx-ops\":" ++ "[" := by decide
  have closing : "]\x7d" = "]" ++ "\x7d" := by decide
  rw [text_eq, member, Json.text_array, opening, closing]
  simp only [String.append_assoc]

/-- What is submitted is a body of the transaction. -/
theorem isBody_text (clock : Clock) (transaction : Transaction) :
    transaction.IsBody clock (transaction.text clock) where
  written := text_eq_listed clock transaction
  listed := storedOperations_text
  readBack := by
    rintro instants rfl readable storable
    have listed : storedOperations (transaction.text (.ofInstants instants)) =
        some (transaction.forms (.ofInstants instants)) := storedOperations_text readable
    rw [← forms_stampedAt instants (.ofInstants instants)] at listed
    exact ofText_of_storedOperations listed (mapM_ofJson storable)

end Transaction

end Bitemporal
