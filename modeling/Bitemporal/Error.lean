/-
This file lists what can go wrong and how it is reported.
-/
import Bitemporal.Binary64.Decimal
import Bitemporal.Json.Printer
import Bitemporal.Time.Timestamp

namespace Bitemporal

/-- A field cannot be used in the way it was asked for. -/
inductive FieldFault where
  | undeclared (field label : String)
  | notFinite (field : String) (value : Binary64)
  | notRelation (field label : String)

def FieldFault.message : FieldFault → String
  | .undeclared field label => "\"" ++ field ++ "\" is not a field of " ++ label
  | .notFinite field value =>
      "\"" ++ field ++ "\" cannot hold the non-finite value " ++ value.text .plain
  | .notRelation field label => "\"" ++ field ++ "\" is not a relation of " ++ label

/-- An operation is not available for its operands. -/
inductive OperationFault where
  | disjunctionOfProjections
  | disjunctionOfKeys
  | negationOfGroup (form : String)
  | negationOfSection (form : String)
  | untypedRows
  | otherRows (found wanted : String)

def OperationFault.message : OperationFault → String
  | .disjunctionOfProjections => "cannot use | on find clauses"
  | .disjunctionOfKeys => "cannot use | on query keys/find-where"
  | .negationOfGroup form => "cannot negate " ++ form ++ " clauses"
  | .negationOfSection form => "cannot use ~ on " ++ form ++ " clauses"
  | .untypedRows =>
      "typed queries need the pulled result documents, use XtdbClient::query for aggregates"
  | .otherRows found wanted => "query returns " ++ found ++ " documents, not " ++ wanted

/-- Names and values of a binding do not fit together. -/
inductive BindingFault where
  | noNames
  | emptyName
  | misplacedMarker (names : List String)
  | tupleSize (names values : Nat)
  | rowSize (names values : Nat)
  | otherShape

def BindingFault.message : BindingFault → String
  | .noNames => "no arguments given"
  | .emptyName => "empty argument name"
  | .misplacedMarker names => "misplaced ... in " ++ " ".intercalate names
  | .tupleSize names values =>
      "tuple of " ++ toString names ++ " arguments bound to " ++ toString values ++ " values"
  | .rowSize names values =>
      "relation of " ++ toString names ++ " arguments bound to a row of " ++ toString values ++
        " values"
  | .otherShape => "the shape of the values does not match the arguments"

/-- A document or a stored operation is not what it should be. -/
inductive DocumentFault where
  | notObject (found : Json)
  | noId
  | missingKey (key id : String)
  | otherType (key expected : String) (found : Json)
  | notTime (found : Json)
  | malformedTime (text : String) (fault : Timestamp.Fault)
  | unknownOperation (name : String)
  | notOperation (found : Json)
  | emptyOperation
  | notOperationName (found : Json)
  | malformedOperation (name : String) (found : Json)

def DocumentFault.message : DocumentFault → String
  | .notObject found => "expected an object, found " ++ found.text
  | .noId => "document without a string xt/id"
  | .missingKey key id => "missing key " ++ key ++ " in document " ++ id
  | .otherType key expected found =>
      key ++ " should be " ++ expected ++ ", found " ++ found.text
  | .notTime found => "expected a timestamp, found " ++ found.text
  | .malformedTime text fault => "invalid timestamp " ++ text ++ ": " ++ fault.message
  | .unknownOperation name => "unknown operation " ++ name
  | .notOperation found => "expected an operation list, found " ++ found.text
  | .emptyOperation => "empty operation"
  | .notOperationName found => "expected an operation name, found " ++ found.text
  | .malformedOperation name found => "malformed " ++ name ++ " operation " ++ found.text

/-- The node answered a query with something that is no result. -/
inductive ResultFault where
  | emptyBody
  | invalidBody
  | notRows (found : Json)
  | emptyRow (found : Json)

def ResultFault.message : ResultFault → String
  | .emptyBody => "empty response body"
  | .invalidBody => "invalid response body"
  | .notRows found => "expected a list of rows, found " ++ found.text
  | .emptyRow found => "empty row " ++ found.text

/-- The settings cannot be used. -/
inductive SettingsFault where
  | missingFile
  | malformedFile
  | unusableValue (key : String)

def SettingsFault.message : SettingsFault → String
  | .missingFile => "the configuration file is missing"
  | .malformedFile => "the configuration file is malformed"
  | .unusableValue key => "unusable value for " ++ key

/-- Everything that can go wrong. -/
inductive Error where
  | field (fault : FieldFault)
  | unknownAggregate (name : String)
  | aggregateArity (name : String) (expected given : Nat)
  | operation (fault : OperationFault)
  | incompatibleSections (left right : String)
  | disjunctionOfConjunction
  | combination (left right : String)
  | sortDirection (text : String)
  | binding (fault : BindingFault)
  | document (fault : DocumentFault)
  | incompleteQuery
  | settings (fault : SettingsFault)
  | transport
  | refused (status : Nat) (body : String)
  | result (fault : ResultFault)
  | json
  | input

def Error.message : Error → String
  | .field fault => fault.message
  | .unknownAggregate name => "Invalid aggregate function: " ++ name
  | .aggregateArity name expected given =>
      "Aggregate " ++ name ++ " expects " ++ toString expected ++ " extra argument(s), got " ++
        toString given
  | .operation fault => "Unsupported operation: " ++ fault.message
  | .incompatibleSections left right =>
      "Cannot combine a " ++ left ++ " clause with a " ++ right ++
        " clause, use a find-where instead"
  | .disjunctionOfConjunction =>
      "Cannot use | on a single where clause with an and clause, use & instead"
  | .combination left right =>
      "Unsupported combination: cannot use & on " ++ left ++ " and " ++ right
  | .sortDirection text => "Invalid sort direction: " ++ text ++ " (expected asc or desc)"
  | .binding fault => "Invalid in arguments: " ++ fault.message
  | .document fault => "Invalid document: " ++ fault.message
  | .incompleteQuery => "Cannot query using incomplete clause"
  | .settings fault => "Config error: " ++ fault.message
  | .transport => "Transport error: no usable response"
  | .refused status body => "HTTP " ++ toString status ++ ": " ++ body
  | .result fault => "Remote query error: " ++ fault.message
  | .json => "JSON error: malformed text"
  | .input => "IO error: standard input is not valid text"

/-- The outcome of what can fail. -/
abbrev Outcome := Except Error

/-- What follows a step starts from what the step gives. -/
theorem bind_eq_ok {Fault Value Result : Type} {step : Except Fault Value}
    {next : Value → Except Fault Result} {result : Result} :
    (step >>= next) = .ok result ↔ ∃ value, step = .ok value ∧ next value = .ok result := by
  cases step <;> simp [bind, Except.bind]

end Bitemporal
