/-
This file defines transactions and their wire form.
-/
import Bitemporal.Json.Reader
import Bitemporal.Transaction.Operation

namespace Bitemporal

/-- What a clock shows while the operation at each place of a transaction is written. -/
structure Clock where
  shown : Nat → String

namespace Clock

/-- A clock that stands still. -/
def still (text : String) : Clock := ⟨fun _ => text⟩

instance : Coe String Clock := ⟨still⟩

end Clock

/-- The operations of a transaction take effect together, in this order. -/
structure Transaction where
  operations : List Operation

namespace Transaction

def empty : Transaction := ⟨[]⟩

def isEmpty (transaction : Transaction) : Bool := transaction.operations.isEmpty

def size (transaction : Transaction) : Nat := transaction.operations.length

/-- An operation follows the ones before it. -/
def add (transaction : Transaction) (operation : Operation) : Transaction :=
  ⟨transaction.operations ++ [operation]⟩

/-- The key of the operations. -/
def operationsKey : String := "tx-ops"

/-- The stored forms of the operations in their order. The clock is read again for each of them that
has no valid time. -/
def forms (clock : Clock) (transaction : Transaction) : List Json :=
  transaction.operations.mapIdx fun place operation => operation.toJson (clock.shown place)

/-- The wire form holds the stored forms of the operations. -/
def text (clock : Clock) (transaction : Transaction) : String :=
  (Json.object [(operationsKey, .array (transaction.forms clock))]).text

/-- The value of the only field of the wire form. -/
def storedOperations (text : String) : Option (List Json) := do
  let members ← Json.readRecord [operationsKey] text
  let value ← members.lookup operationsKey
  value.array?

/-- This function reads the wire form. -/
def ofText (text : String) : Outcome Transaction :=
  match storedOperations text with
  | some values => do
      let operations ← values.mapM Operation.ofJson
      return ⟨operations⟩
  | none => .error .json

def sameOperations : List Operation → List Operation → Bool
  | [], [] => true
  | left :: leftRest, right :: rightRest => left.same right && sameOperations leftRest rightRest
  | _, _ => false

/-- Transactions are the same when their operations are, one by one. -/
def same (left right : Transaction) : Bool := sameOperations left.operations right.operations

end Transaction

end Bitemporal
