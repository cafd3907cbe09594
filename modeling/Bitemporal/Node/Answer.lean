/-
This file reads the answers of a node that have a fixed form.
-/
import Bitemporal.Error
import Bitemporal.Json.Reader

namespace Bitemporal

/-- A field that may be missing or null. -/
def optionalField {Value : Type} (convert : Json → Option Value)
    (members : List (String × Json)) (name : String) : Option (Option Value) :=
  match members.lookup name with
  | none => some none
  | some .null => some none
  | some value => (convert value).map some

/-- A missing value is written as null. -/
def optionalJson {Value : Type} (convert : Value → Json) : Option Value → Json
  | some value => convert value
  | none => .null

def unsignedJson (value : UInt64) : Json := .integer value.toNat

/-- What a node tells about itself. -/
structure NodeStatus where
  version : Option String
  revision : Option String
  indexVersion : Option UInt64
  consumerState : Option Json
  keyValueStore : Option String
  estimatedKeys : Option UInt64
  size : Option UInt64

namespace NodeStatus

def fields : List String :=
  ["version", "revision", "indexVersion", "consumerState", "kvStore", "estimateNumKeys", "size"]

def read (text : String) : Option NodeStatus := do
  let members ← Json.readRecord fields text
  let version ← optionalField Json.string? members "version"
  let revision ← optionalField Json.string? members "revision"
  let indexVersion ← optionalField Json.unsigned? members "indexVersion"
  let consumerState ← optionalField some members "consumerState"
  let keyValueStore ← optionalField Json.string? members "kvStore"
  let estimatedKeys ← optionalField Json.unsigned? members "estimateNumKeys"
  let size ← optionalField Json.unsigned? members "size"
  return ⟨version, revision, indexVersion, consumerState, keyValueStore, estimatedKeys, size⟩

/-- All fields in the order of their declaration. -/
def text (status : NodeStatus) : String :=
  (Json.object (fields.zip [
    optionalJson .string status.version,
    optionalJson .string status.revision,
    optionalJson unsignedJson status.indexVersion,
    status.consumerState.getD .null,
    optionalJson .string status.keyValueStore,
    optionalJson unsignedJson status.estimatedKeys,
    optionalJson unsignedJson status.size])).text

end NodeStatus

/-- The node has accepted a transaction. -/
structure Receipt where
  transactionId : UInt64
  transactionTime : Option String
deriving DecidableEq, Repr

namespace Receipt

def fields : List String := ["txId", "txTime"]

def read (text : String) : Option Receipt := do
  let members ← Json.readRecord fields text
  let id ← (members.lookup "txId").bind Json.unsigned?
  let time ← optionalField Json.string? members "txTime"
  return ⟨id, time⟩

def text (receipt : Receipt) : String :=
  (Json.object (fields.zip [
    unsignedJson receipt.transactionId,
    optionalJson .string receipt.transactionTime])).text

end Receipt

end Bitemporal
