/-
This file describes what is asked of a node and how its answers are understood.
-/
import Bitemporal.Clause.Text
import Bitemporal.Node.Answer
import Bitemporal.Node.Exchange
import Bitemporal.Text.Blank
import Bitemporal.Transaction.Basic

namespace Bitemporal.Client

/-- The base of all targets has no slash at its end. -/
def base (uri : String) : String :=
  String.ofList (uri.toList.reverse.dropWhile (· == '/')).reverse

/-- A reply is good if it is a response with a status of success. -/
def bodyOf : Reply → Outcome String
  | none => .error .transport
  | some response =>
      if 200 ≤ response.status ∧ response.status < 300 then .ok response.body
      else .error (.refused response.status response.body)

/-- One request and the body of the response. -/
def send (request : Request) : Call String :=
  .mk (.ask request fun reply => .done (bodyOf reply))

/-- A body that cannot be read is no usable response. -/
def sendFor {Value : Type} (read : String → Option Value) (request : Request) : Call Value := do
  let body ← send request
  match read body with
  | some value => return value
  | none => throw .transport

/-- A request without a body whose answer is any value. -/
def get (path : String) (parameters : Parameters) : Call Json :=
  sendFor Json.read ⟨path, parameters, none⟩

def status : Call NodeStatus := sendFor NodeStatus.read ⟨"status", [], none⟩

def entity (id : String) (time : TimeParameters) : Call Json :=
  get "entity" (("eid", id) :: time.parameters)

def entityTransactions (id : String) (time : TimeParameters) : Call Json :=
  get "entity-tx" (("eid", id) :: time.parameters)

def entityHistory (id : String) (history : HistoryParameters) : Call Json :=
  get "entity" (("eid", id) :: ("history", "true") :: history.parameters)

def attributeStatistics : Call Json := get "attribute-stats" []

/-- The node answers when it has indexed everything submitted so far. -/
def synchronize (timeout : Option UInt64) : Call Json :=
  get "sync" (Parameters.number "timeout" timeout)

/-- The result of a query is any value, and a body without one is an error of the query. -/
def queryResult (body : String) : Outcome Json :=
  if Blank.isBlankText body then .error (.result .emptyBody)
  else
    match Json.read body with
    | some value => .ok value
    | none => .error (.result .invalidBody)

/-- A query is sent as it is written. -/
def query (text : String) (time : TimeParameters) : Call Json := do
  let body ← send ⟨"query", time.parameters, some ⟨"application/edn", text⟩⟩
  queryResult body

/-- Nothing is asked when the clause is no complete query. -/
def queryClause (clause : Clause) (time : TimeParameters) : Call Json := do
  let text ← clause.queryLine
  query text time

def awaitTransaction (id : UInt64) (timeout : Option UInt64) : Call Json :=
  get "await-tx" (Parameters.number "tx-id" (some id) ++ Parameters.number "timeout" timeout)

def awaitTransactionTime (time : Instant) (timeout : Option UInt64) : Call Json :=
  get "await-tx-time" (Parameters.time "tx-time" (some time) ++ Parameters.number "timeout" timeout)

def transactionLog (after : Option UInt64) (withOperations : Option Bool) : Call Json :=
  get "tx-log" (Parameters.number "after-tx-id" after ++ Parameters.flag "with-ops?" withOperations)

/-- A transaction is submitted, and its receipt is given once the node has indexed it. -/
def submit (clock : Clock) (transaction : Transaction) : Call Receipt := do
  let receipt ← sendFor Receipt.read
    ⟨"submit-tx", [], some ⟨"application/json", transaction.text clock⟩⟩
  let _ ← awaitTransaction receipt.transactionId none
  return receipt

def transactionCommitted (id : UInt64) : Call Json :=
  get "tx-committed" (Parameters.number "tx-id" (some id))

def latestCompletedTransaction : Call Json := get "latest-completed-tx" []

def latestSubmittedTransaction : Call Json := get "latest-submitted-tx" []

def activeQueries : Call Json := get "active-queries" []

def recentQueries : Call Json := get "recent-queries" []

def slowestQueries : Call Json := get "slowest-queries" []

end Bitemporal.Client
