/-
This file buffers operations on typed entities and commits them together.
-/
import Bitemporal.Node.Client
import Bitemporal.TypedQuery

namespace Bitemporal

/-- Values of this type are stored as documents of an entity type. -/
class Entity (Value : Type) where
  entityType : EntityType
  id : Value → String
  document : Value → Document
  ofDocument : Document → Outcome Value

/-- The operations that wait for the next commit. -/
structure Session where
  pending : Transaction

namespace Session

def empty : Session := ⟨.empty⟩

/-- An operation waits behind the ones before it. -/
def add (session : Session) (operation : Operation) : Session :=
  ⟨session.pending.add operation⟩

section Entities

variable {Value : Type} [Entity Value]

def put (session : Session) (value : Value) (time : Option Instant) : Session :=
  session.add (.put (Entity.document value) time)

def delete (session : Session) (value : Value) (time : Option Instant) : Session :=
  session.add (.delete (Entity.id value) time)

def compare (session : Session) (value : Value) (time : Option Instant) : Session :=
  session.add (.compare (Entity.document value) time)

def evict (session : Session) (value : Value) (time : Option Instant) : Session :=
  session.add (.evict (Entity.id value) time)

end Entities

def putFunction (session : Session) (function : TransactionFunction) : Session :=
  session.add (.put function.document none)

def callFunction (session : Session) (identifier : String) (arguments : List Json) : Session :=
  session.add (.call identifier arguments)

/-- The buffer is emptied whether or not the commit succeeds; an empty one sends nothing. -/
def commit (session : Session) (clock : Clock) : Session × Call (Option Receipt) :=
  if session.pending.isEmpty then (session, pure none)
  else (empty, do
    let receipt ← Client.submit clock session.pending
    return some receipt)

/-- The first item of a row is the document of an entity. -/
def decodeRow (Value : Type) [Entity Value] (row : Json) : Outcome Value :=
  match row with
  | .array (first :: _) => do
      let document ← Document.ofJson first
      Entity.ofDocument document
  | other => .error (.result (.emptyRow other))

/-- Every row of a result is decoded. -/
def decodeRows (Value : Type) [Entity Value] (result : Json) : Outcome (List Value) :=
  match result with
  | .array rows => rows.mapM (decodeRow Value)
  | other => .error (.result (.notRows other))

/-- A query can be decoded if its rows are documents of the wanted type. -/
def queryFault? (wanted : EntityType) (query : TypedQuery) : Option OperationFault :=
  if !query.keepsDocuments then some .untypedRows
  else if !query.resultType.same wanted then
    some (.otherRows query.resultType.label wanted.label)
  else none

/-- The rows of a query as values. -/
def query (Value : Type) [Entity Value] (query : TypedQuery) (time : TimeParameters) :
    Call (List Value) := do
  match queryFault? (Entity.entityType Value) query with
  | some fault => throw (.operation fault)
  | none =>
      let result ← Client.query query.line time
      decodeRows Value result

end Session

end Bitemporal
