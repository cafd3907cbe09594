/-
This file defines the requests that a node answers.
-/
import Bitemporal.Key.Ordering
import Bitemporal.Time.Instant

namespace Bitemporal

/-- Names and values of a request, encoded the way forms are. -/
abbrev Parameters := List (String × String)

namespace Parameters

/-- These characters stand for themselves. -/
def isUnreserved (byte : UInt8) : Bool :=
  let character := Char.ofNat byte.toNat
  byte.toNat < 128 && (character.isAlphanum || ['*', '-', '.', '_'].contains character)

/-- One hexadecimal digit in upper case. -/
def hexadecimalDigit (digit : Nat) : Char := (Nat.digitChar digit).toUpper

/-- A blank becomes a plus sign, and every other reserved byte two hexadecimal digits. -/
def encodedByte (byte : UInt8) : List Char :=
  if isUnreserved byte then [Char.ofNat byte.toNat]
  else if byte.toNat = 32 then ['+']
  else ['%', hexadecimalDigit (byte.toNat / 16), hexadecimalDigit (byte.toNat % 16)]

def encoded (text : String) : String := String.ofList (text.toUTF8.toList.flatMap encodedByte)

/-- The names and values follow a question mark, if there are any. -/
def text (parameters : Parameters) : String :=
  if parameters.isEmpty then ""
  else
    "?" ++ "&".intercalate
      (parameters.map fun (name, value) => encoded name ++ "=" ++ encoded value)

/-- A parameter that is left out when it has no value. -/
def optional {Value : Type} (name : String) (write : Value → String) :
    Option Value → Parameters
  | some value => [(name, write value)]
  | none => []

def time (name : String) : Option Instant → Parameters := optional name Instant.text

def number (name : String) : Option UInt64 → Parameters :=
  optional name fun value => toString value.toNat

def flag (name : String) : Option Bool → Parameters := optional name fun value => toString value

end Parameters

/-- What a request sends along. -/
structure Body where
  contentType : String
  text : String
deriving DecidableEq, Repr

/-- A request with a body is a post, and one without is a get. -/
structure Request where
  path : String
  parameters : Parameters
  body : Option Body
deriving DecidableEq, Repr

namespace Request

def method (request : Request) : String := if request.body.isSome then "POST" else "GET"

/-- Every answer is asked for in this form. -/
def accept : String := "application/json"

/-- The path under a base, followed by the parameters. -/
def target (request : Request) (base : String) : String :=
  base ++ "/" ++ request.path ++ request.parameters.text

end Request

/-- The point in time that a read looks at; what is missing means the latest. -/
structure TimeParameters where
  validTime : Option Instant
  transactionTime : Option Instant
  transactionId : Option UInt64

namespace TimeParameters

def latest : TimeParameters := ⟨none, none, none⟩

def parameters (time : TimeParameters) : Parameters :=
  Parameters.time "valid-time" time.validTime ++
    Parameters.time "tx-time" time.transactionTime ++
    Parameters.number "tx-id" time.transactionId

end TimeParameters

/-- The part of a history that is asked for. -/
structure HistoryParameters where
  sortOrder : Direction
  withCorrections : Option Bool
  withDocuments : Option Bool
  startValidTime : Option Instant
  endValidTime : Option Instant
  startTransactionTime : Option Instant
  endTransactionTime : Option Instant
  startTransactionId : Option UInt64
  endTransactionId : Option UInt64

def HistoryParameters.parameters (history : HistoryParameters) : Parameters :=
  ("sort-order", history.sortOrder.keyword) ::
    Parameters.flag "with-corrections" history.withCorrections ++
    Parameters.flag "with-docs" history.withDocuments ++
    Parameters.time "start-valid-time" history.startValidTime ++
    Parameters.time "end-valid-time" history.endValidTime ++
    Parameters.time "start-tx-time" history.startTransactionTime ++
    Parameters.time "end-tx-time" history.endTransactionTime ++
    Parameters.number "start-tx-id" history.startTransactionId ++
    Parameters.number "end-tx-id" history.endTransactionId

end Bitemporal
