/-
This file defines the operations of transactions and their stored form.
-/
import Bitemporal.Entity.Document
import Bitemporal.Time.Timestamp

namespace Bitemporal

inductive OperationKind where
  | put
  | delete
  | compare
  | evict
  | call
deriving DecidableEq, Repr

namespace OperationKind

def name : OperationKind → String
  | .put => "put"
  | .delete => "delete"
  | .compare => "match"
  | .evict => "evict"
  | .call => "fn"

/-- This function finds a kind of operation by its name. -/
def ofName (name : String) : Outcome OperationKind :=
  if name = "put" then .ok .put
  else if name = "delete" then .ok .delete
  else if name = "match" then .ok .compare
  else if name = "evict" then .ok .evict
  else if name = "fn" then .ok .call
  else .error (.document (.unknownOperation name))

end OperationKind

/-- An operation without a valid time applies when it is written; a call has none. -/
inductive Operation where
  | put (document : Document) (validTime : Option Instant)
  | delete (id : String) (validTime : Option Instant)
  | compare (document : Document) (validTime : Option Instant)
  | evict (id : String) (validTime : Option Instant)
  | call (identifier : String) (arguments : List Json)

namespace Operation

def kind : Operation → OperationKind
  | .put _ _ => .put
  | .delete _ _ => .delete
  | .compare _ _ => .compare
  | .evict _ _ => .evict
  | .call _ _ => .call

def validTime? : Operation → Option Instant
  | .put _ time => time
  | .delete _ time => time
  | .compare _ time => time
  | .evict _ time => time
  | .call _ _ => none

/-- The timestamp of an operation, which is the current one if it has no valid time. -/
def timeJson (now : String) (time : Option Instant) : Json :=
  .string ((time.map Instant.text).getD now)

/-- What follows the name in the stored form; a function is installed without a time. -/
def storedItems (now : String) : Operation → List Json
  | .put document time =>
      if document.contains Document.functionKey then [document.toJson]
      else [document.toJson, timeJson now time]
  | .compare document time => [.string document.id, document.toJson, timeJson now time]
  | .delete id time => [.string id, timeJson now time]
  | .evict id time => [.string id, timeJson now time]
  | .call identifier arguments => .string identifier :: arguments

/-- The stored form of an operation is a list that starts with its name. -/
def toJson (now : String) (operation : Operation) : Json :=
  .array (.string operation.kind.name :: operation.storedItems now)

/-- A stored time is a timestamp. -/
def readTime (value : Json) : Outcome Instant :=
  match value with
  | .string text =>
      match Timestamp.read text with
      | .ok instant => .ok instant
      | .error fault => .error (.document (.malformedTime text fault))
  | other => .error (.document (.notTime other))

/-- A put holds a document and may hold a time. -/
def readPut (malformed : Error) : List Json → Outcome Operation
  | [document] => do
      let document ← Document.ofJson document
      return .put document none
  | [document, time] => do
      let document ← Document.ofJson document
      let time ← readTime time
      return .put document (some time)
  | _ => .error malformed

/-- A match repeats the id of its document. -/
def readCompare (malformed : Error) : List Json → Outcome Operation
  | [id, document, time] => do
      let document ← Document.ofJson document
      if id.string? ≠ some document.id then throw malformed
      let time ← readTime time
      return .compare document (some time)
  | _ => .error malformed

/-- A deletion or an eviction holds an id and a time. -/
def readRemoval (malformed : Error) (operation : String → Option Instant → Operation) :
    List Json → Outcome Operation
  | [.string id, time] => do
      let time ← readTime time
      return operation id (some time)
  | _ => .error malformed

/-- A call holds the identifier of a function and its arguments. -/
def readCall (malformed : Error) : List Json → Outcome Operation
  | .string identifier :: arguments => .ok (.call identifier arguments)
  | _ => .error malformed

/-- This function reads the stored form of an operation. -/
def ofJson (value : Json) : Outcome Operation :=
  match value with
  | .array [] => .error (.document .emptyOperation)
  | .array (.string name :: items) => do
      let kind ← OperationKind.ofName name
      let malformed := Error.document (.malformedOperation name value)
      match kind with
      | .put => readPut malformed items
      | .delete => readRemoval malformed .delete items
      | .compare => readCompare malformed items
      | .evict => readRemoval malformed .evict items
      | .call => readCall malformed items
  | .array (other :: _) => .error (.document (.notOperationName other))
  | other => .error (.document (.notOperation other))

/-- Operations are the same when their documents and arguments are the same values. -/
def same : Operation → Operation → Bool
  | .put left leftTime, .put right rightTime => left.same right && leftTime == rightTime
  | .delete left leftTime, .delete right rightTime => left == right && leftTime == rightTime
  | .compare left leftTime, .compare right rightTime => left.same right && leftTime == rightTime
  | .evict left leftTime, .evict right rightTime => left == right && leftTime == rightTime
  | .call left leftArguments, .call right rightArguments =>
      left == right && Json.sameItems leftArguments rightArguments
  | _, _ => false

end Operation

end Bitemporal
