/-
This file follows operations from the buffer of a session to the requests that submit them.
-/
import Bitemporal.Proofs.Node.Replies
import Bitemporal.Proofs.Transaction.Body
import Bitemporal.Sample.Places
import Mathlib.Data.List.Induction

namespace Bitemporal

namespace Exchange

/-- Whatever the replies are, only allowed requests are asked. -/
def AsksOnly {Value : Type} (allowed : Request → Bool) : Exchange Value → Prop
  | .done _ => True
  | .ask request next => allowed request = true ∧ ∀ reply, AsksOnly allowed (next reply)

variable {First Second : Type} {allowed : Request → Bool}

theorem AsksOnly.bind {exchange : Exchange First} (asks : exchange.AsksOnly allowed)
    {next : First → Exchange Second} (later : ∀ value, (next value).AsksOnly allowed) :
    (exchange.bind next).AsksOnly allowed := by
  induction exchange with
  | done value => exact later value
  | ask request reply inductionHypothesis =>
      exact ⟨asks.1, fun given => inductionHypothesis given (asks.2 given)⟩

theorem AsksOnly.allowed_of_mem_turns {exchange : Exchange First}
    (asks : exchange.AsksOnly allowed) {script : Script} {turn : Request × Reply}
    (member : turn ∈ (exchange.run script).turns) : allowed turn.1 = true := by
  induction exchange generalizing script with
  | done value => exact absurd member List.not_mem_nil
  | ask request reply inductionHypothesis =>
      rcases List.mem_cons.mp member with rfl | later
      · exact asks.1
      · exact inductionHypothesis _ (asks.2 _) later

end Exchange

namespace Client

/-- The path of requests that submit a transaction. -/
def submissionPath : String := "submit-tx"

/-- The request that submits a transaction. -/
def submission (clock : Clock) (transaction : Transaction) : Request :=
  ⟨submissionPath, [], some ⟨"application/json", transaction.text clock⟩⟩

/-- The path of requests that wait until a transaction is indexed. -/
def awaitingPath : String := "await-tx"

/-- The request that waits until a transaction is indexed. -/
def awaiting (id : UInt64) : Request := ⟨awaitingPath, [("tx-id", toString id.toNat)], none⟩

/-- A receipt is given once the node has answered the second request. -/
def awaited (receipt : Receipt) : Call Receipt :=
  sendFor Json.read (awaiting receipt.transactionId) >>= fun _ => pure receipt

theorem submit_eq (clock : Clock) (transaction : Transaction) :
    submit clock transaction =
      sendFor Receipt.read (submission clock transaction) >>= awaited := rfl

def isSubmission (request : Request) : Bool := request.path == submissionPath

/-- Only other requests are asked. -/
def SubmitsNothing {Value : Type} (call : Call Value) : Prop :=
  Exchange.AsksOnly (fun request => !isSubmission request) call.run

theorem SubmitsNothing.bind {First Second : Type} {call : Call First}
    (first : SubmitsNothing call) {next : First → Call Second}
    (later : ∀ value, SubmitsNothing (next value)) : SubmitsNothing (call >>= next) := by
  apply Exchange.AsksOnly.bind first
  intro outcome
  cases outcome with
  | ok value => exact later value
  | error reason => trivial

theorem submitsNothing_sendFor {Value : Type} (read : String → Option Value) {request : Request}
    (other : isSubmission request = false) : SubmitsNothing (sendFor read request) := by
  rw [SubmitsNothing, run_sendFor]
  exact ⟨by simp [other], fun _ => trivial⟩

theorem submitsNothing_query (text : String) (time : TimeParameters) :
    SubmitsNothing (query text time) := by
  have asked : SubmitsNothing (send ⟨"query", time.parameters, some ⟨"application/edn", text⟩⟩) :=
    ⟨rfl, fun _ => trivial⟩
  apply asked.bind
  intro body
  show SubmitsNothing (liftM (queryResult body))
  cases queryResult body <;> trivial

/-- A transaction is submitted once, before anything else is asked. -/
theorem exists_run_submit (clock : Clock) (transaction : Transaction) :
    ∃ next : Reply → Exchange (Outcome Receipt),
      (submit clock transaction).run = .ask (submission clock transaction) next ∧
        ∀ reply, (next reply).AsksOnly fun request => !isSubmission request := by
  refine ⟨fun reply => ExceptT.bindCont awaited (answer Receipt.read reply), ?_, fun reply => ?_⟩
  · rw [submit_eq]
    show Exchange.bind (sendFor Receipt.read (submission clock transaction)).run _ = _
    rw [run_sendFor]
    rfl
  · show Exchange.AsksOnly _ (ExceptT.bindCont awaited (answer Receipt.read reply))
    rcases answer Receipt.read reply with reason | receipt
    · trivial
    · have waits : SubmitsNothing (sendFor Json.read (awaiting receipt.transactionId)) :=
        submitsNothing_sendFor Json.read rfl
      have silent : SubmitsNothing (pure receipt : Call Receipt) := trivial
      exact waits.bind fun _ => silent

/-- The requests that submitted a transaction, whether or not they were answered. -/
def submissions (turns : List (Request × Reply)) : List Request :=
  (turns.map Prod.fst).filter isSubmission

theorem submissions_append (first second : List (Request × Reply)) :
    submissions (first ++ second) = submissions first ++ submissions second := by
  rw [submissions, List.map_append, List.filter_append]
  rfl

theorem submissions_eq_nil {Value : Type} {exchange : Exchange Value}
    (asks : exchange.AsksOnly fun request => !isSubmission request) (script : Exchange.Script) :
    submissions (exchange.run script).turns = [] := by
  rw [submissions, List.filter_eq_nil_iff]
  intro request member
  obtain ⟨turn, inside, rfl⟩ := List.mem_map.mp member
  simpa using asks.allowed_of_mem_turns inside

/-- A submission with nothing but other requests behind it is the only one. -/
theorem submissions_ask {Value : Type} (clock : Clock) (transaction : Transaction)
    {next : Reply → Exchange Value}
    (later : ∀ reply, (next reply).AsksOnly fun request => !isSubmission request)
    (script : Exchange.Script) :
    submissions ((Exchange.ask (submission clock transaction) next).run script).turns =
      [submission clock transaction] :=
  congrArg (List.cons (submission clock transaction)) (submissions_eq_nil (later _) _)

end Client

theorem Session.submitsNothing_query (Value : Type) [Entity Value] (rows : TypedQuery)
    (time : TimeParameters) : Client.SubmitsNothing (Session.query Value rows time) := by
  unfold Session.query
  rcases Session.queryFault? (Entity.entityType Value) rows with _ | fault
  · apply (Client.submitsNothing_query rows.line time).bind
    intro result
    show Client.SubmitsNothing (liftM (decodeRows Value result))
    cases decodeRows Value result <;> trivial
  · trivial

/-! ## Calls on a session -/

/-- A call on a session; entities may be of any type. -/
inductive SessionCall : Type 1 where
  | put (Value : Type) [Entity Value] (value : Value) (time : Option Instant)
  | delete (Value : Type) [Entity Value] (value : Value) (time : Option Instant)
  | compare (Value : Type) [Entity Value] (value : Value) (time : Option Instant)
  | evict (Value : Type) [Entity Value] (value : Value) (time : Option Instant)
  | putFunction (function : TransactionFunction)
  | callFunction (identifier : String) (arguments : List Json)
  | query (Value : Type) [Entity Value] (rows : TypedQuery) (time : TimeParameters)
  | get (id : String) (time : TimeParameters)
  | commit (clock : Clock)

namespace SessionCall

/-- The conversation of a call, whose outcome is left to the caller. -/
def conversation {Value : Type} (call : Call Value) : Exchange Unit :=
  Exchange.bind call.run fun _ => .done ()

/-- The session after a call, and the conversation of the call with the node. -/
def perform (session : Session) : SessionCall → Session × Exchange Unit
  | @put _ _ value time => (session.put value time, .done ())
  | @delete _ _ value time => (session.delete value time, .done ())
  | @compare _ _ value time => (session.compare value time, .done ())
  | @evict _ _ value time => (session.evict value time, .done ())
  | .putFunction function => (session.putFunction function, .done ())
  | .callFunction identifier arguments => (session.callFunction identifier arguments, .done ())
  | @query Value _ rows time => (session, conversation (Session.query Value rows time))
  | .get id time => (session, conversation (Client.entity id time))
  | .commit clock => ((session.commit clock).1, conversation (session.commit clock).2)

/-- The operations that a call buffers. -/
def buffered : SessionCall → List Operation
  | @put _ _ value time => [.put (Entity.document value) time]
  | @delete _ _ value time => [.delete (Entity.id value) time]
  | @compare _ _ value time => [.compare (Entity.document value) time]
  | @evict _ _ value time => [.evict (Entity.id value) time]
  | .putFunction function => [.put function.document none]
  | .callFunction identifier arguments => [.call identifier arguments]
  | @query _ _ _ _ | .get _ _ | .commit _ => []

/-- The transaction that a call submits: all that is pending, if it is a commit and anything is. -/
def attempts (session : Session) : SessionCall → List (Clock × Transaction)
  | .commit clock => if session.pending.isEmpty then [] else [(clock, session.pending)]
  | _ => []

theorem submissions_conversation {Value : Type} (call : Call Value) (script : Exchange.Script) :
    Client.submissions ((conversation call).run script).turns =
      Client.submissions (call.run.run script).turns := by
  rw [conversation, Exchange.run_bind]
  simp [Exchange.run]

/-- A commit submits all that is pending in one request. -/
theorem submissions_commit (session : Session) (clock : Clock) (script : Exchange.Script) :
    Client.submissions (((session.commit clock).2.run).run script).turns =
      (attempts session (.commit clock)).map fun attempt =>
        Client.submission attempt.1 attempt.2 := by
  unfold Session.commit attempts
  split
  · rfl
  · obtain ⟨next, asked, later⟩ := Client.exists_run_submit clock session.pending
    let answered (receipt : Receipt) : Call (Option Receipt) := return some receipt
    have whole : (Client.submit clock session.pending >>= answered).run =
        .ask (Client.submission clock session.pending) fun reply =>
          Exchange.bind (next reply) (ExceptT.bindCont answered) := by
      show Exchange.bind (Client.submit clock session.pending).run _ = _
      rw [asked]
      rfl
    show Client.submissions ((Client.submit clock session.pending >>= answered).run.run
      script).turns = _
    rw [whole]
    refine Client.submissions_ask clock session.pending (fun reply => ?_) script
    apply (later reply).bind
    intro outcome
    cases outcome <;> trivial

/-- Only commits submit anything. -/
theorem submissions_perform (session : Session) (call : SessionCall) (script : Exchange.Script) :
    Client.submissions ((call.perform session).2.run script).turns =
      (call.attempts session).map fun attempt => Client.submission attempt.1 attempt.2 := by
  cases call with
  | query Value rows time =>
      exact (submissions_conversation _ script).trans
        (Client.submissions_eq_nil (Session.submitsNothing_query Value rows time) script)
  | get id time =>
      have asked : Client.SubmitsNothing (Client.entity id time) :=
        Client.submitsNothing_sendFor Json.read rfl
      exact (submissions_conversation _ script).trans (Client.submissions_eq_nil asked script)
  | commit clock =>
      exact (submissions_conversation _ script).trans (submissions_commit session clock script)
  | _ => rfl

/-- What a call submits leaves the buffer, and what it buffers comes behind the rest. -/
theorem pending_perform (session : Session) (call : SessionCall) :
    (call.attempts session).flatMap (fun attempt => attempt.2.operations) ++
        (call.perform session).1.pending.operations =
      session.pending.operations ++ call.buffered := by
  cases call with
  | commit clock =>
      simp only [attempts, perform, buffered, Session.commit, List.append_nil]
      split
      · rfl
      · simp [Session.empty, Transaction.empty]
  | query Value rows time => exact (List.append_nil _).symm
  | get id time => exact (List.append_nil _).symm
  | _ => rfl

theorem isEmpty_pending_commit (session : Session) (clock : Clock) :
    (perform session (.commit clock)).1.pending.isEmpty = true := by
  simp only [perform, Session.commit]
  split
  · assumption
  · rfl

end SessionCall

/-- What became of some calls: the session, all requests with their replies, and the replies that
are still to come. -/
structure SessionRun where
  session : Session
  turns : List (Request × Reply)
  rest : Exchange.Script

namespace SessionRun

def start (script : Exchange.Script) : SessionRun := ⟨.empty, [], script⟩

/-- One more call takes the replies that the earlier ones left. -/
def step (run : SessionRun) (call : SessionCall) : SessionRun :=
  let (session, exchange) := call.perform run.session
  let record := exchange.run run.rest
  ⟨session, run.turns ++ record.turns, record.rest⟩

/-- Calls are made one after another, whatever the node replies. -/
def ofCalls (script : Exchange.Script) (calls : List SessionCall) : SessionRun :=
  calls.foldl step (start script)

/-- The commits among some calls, each with the calls in front of it. -/
def commits (earlier : List SessionCall) : List SessionCall → List (List SessionCall × Clock)
  | [] => []
  | .commit clock :: rest => (earlier, clock) :: commits (earlier ++ [.commit clock]) rest
  | call :: rest => commits (earlier ++ [call]) rest

/-- Every commit with what was pending in front of it, unless that was nothing. -/
def attempts (script : Exchange.Script) (calls : List SessionCall) : List (Clock × Transaction) :=
  ((commits [] calls).map fun (earlier, clock) =>
    (clock, (ofCalls script earlier).session.pending)).filter fun (_, transaction) =>
      !transaction.isEmpty

theorem ofCalls_append_singleton (script : Exchange.Script) (calls : List SessionCall)
    (call : SessionCall) : ofCalls script (calls ++ [call]) = (ofCalls script calls).step call := by
  simp [ofCalls]

theorem commits_append_singleton (earlier calls : List SessionCall) (call : SessionCall) :
    commits earlier (calls ++ [call]) =
      commits earlier calls ++ commits (earlier ++ calls) [call] := by
  induction calls generalizing earlier with
  | nil => simp [commits]
  | cons first rest inductionHypothesis =>
      have shifted := inductionHypothesis (earlier ++ [first])
      rw [List.append_assoc, List.singleton_append] at shifted
      cases first with
      | commit clock => simp only [List.cons_append, commits, shifted]
      | _ => exact shifted

theorem attempts_append_singleton (script : Exchange.Script) (calls : List SessionCall)
    (call : SessionCall) :
    attempts script (calls ++ [call]) =
      attempts script calls ++ call.attempts (ofCalls script calls).session := by
  have last : (((commits calls [call]).map fun (earlier, clock) =>
      (clock, (ofCalls script earlier).session.pending)).filter fun (_, transaction) =>
        !transaction.isEmpty) = call.attempts (ofCalls script calls).session := by
    cases call with
    | commit clock =>
        simp only [commits, List.map_cons, List.map_nil, List.filter_cons, List.filter_nil,
          SessionCall.attempts]
        cases (ofCalls script calls).session.pending.isEmpty <;> rfl
    | _ => rfl
  rw [attempts, commits_append_singleton, List.nil_append, List.map_append, List.filter_append,
    last]
  rfl

theorem submissions_ofCalls (script : Exchange.Script) (calls : List SessionCall) :
    Client.submissions (ofCalls script calls).turns =
      (attempts script calls).map fun attempt => Client.submission attempt.1 attempt.2 := by
  induction calls using List.reverseRecOn with
  | nil => rfl
  | append_singleton calls call inductionHypothesis =>
      rw [ofCalls_append_singleton, attempts_append_singleton, step, Client.submissions_append,
        inductionHypothesis, SessionCall.submissions_perform, List.map_append]

theorem operations_ofCalls (script : Exchange.Script) (calls : List SessionCall) :
    (attempts script calls).flatMap (fun attempt => attempt.2.operations) ++
        (ofCalls script calls).session.pending.operations =
      calls.flatMap SessionCall.buffered := by
  induction calls using List.reverseRecOn with
  | nil => rfl
  | append_singleton calls call inductionHypothesis =>
      rw [ofCalls_append_singleton, attempts_append_singleton, step, List.flatMap_append,
        List.append_assoc, SessionCall.pending_perform, ← List.append_assoc,
        inductionHypothesis, List.flatMap_append, List.flatMap_singleton]

/-- Whatever the node replies, the submitted transactions and the buffer together hold all
operations in the order of the calls. Each commit submits once what was pending in front of it,
unless that was nothing, and leaves nothing pending. The body of a submission holds these operations
in their order, and they are read back from it. -/
theorem buffer_conserved (script : Exchange.Script) (calls : List SessionCall) :
    Client.submissions (ofCalls script calls).turns =
        (attempts script calls).map (fun attempt => Client.submission attempt.1 attempt.2) ∧
      (attempts script calls).flatMap (fun attempt => attempt.2.operations) ++
          (ofCalls script calls).session.pending.operations =
        calls.flatMap SessionCall.buffered ∧
      (∀ attempt ∈ attempts script calls, attempt.2.operations ≠ [] ∧
        ∃ body,
          (Client.submission attempt.1 attempt.2).body = some ⟨"application/json", body⟩ ∧
          attempt.2.IsBody attempt.1 body) ∧
      ∀ clock, (ofCalls script (calls ++ [.commit clock])).session.pending.operations = [] := by
  refine ⟨submissions_ofCalls script calls, operations_ofCalls script calls, ?_, ?_⟩
  · intro attempt member
    have filled : attempt.2.isEmpty = false := by simpa using (List.mem_filter.mp member).2
    exact ⟨by simpa [Transaction.isEmpty] using filled, _, rfl, attempt.2.isBody_text attempt.1⟩
  · intro clock
    have emptied := SessionCall.isEmpty_pending_commit (ofCalls script calls).session clock
    rw [ofCalls_append_singleton]
    exact List.isEmpty_iff.mp emptied

/-- One second passes between any two operations, and the first one is written as 1972 begins. -/
def ticking : Clock := .ofInstants fun place => ⟨63072000 + place, 0⟩

/-- Two commits with operations in front of them, and one more commit. -/
def movingParis : List SessionCall :=
  [.put Sample.City ⟨"paris", "france", 2102650, "Paris"⟩ none, .commit "1971-01-01T00:00:00+00:00",
    .delete Sample.City ⟨"paris", "france", 2102650, "Paris"⟩ none, .get "paris" .latest,
    .callFunction "move" [.null],
    .evict Sample.City ⟨"paris", "france", 2102650, "Paris"⟩ none, .commit ticking,
    .commit "1973-01-01T00:00:00+00:00"]

/-- What the second commit submits. -/
def moved : Transaction := ⟨[.delete "paris" none, .call "move" [.null], .evict "paris" none]⟩

/-- How it is written as time goes on. -/
def movedForms : List Json :=
  [.array [.string "delete", .string "paris", .string "1972-01-01T00:00:00+00:00"],
    .array [.string "fn", .string "move", .null],
    .array [.string "evict", .string "paris", .string "1972-01-01T00:00:02+00:00"]]

theorem isReadable_moved : moved.IsReadable where
  wellFormed := List.forall_mem_singleton.mpr trivial
  shallow := by decide
  readsBack := by
    intro value member number found
    rw [List.mem_singleton.mp (show value ∈ [Json.null] from member)] at found
    cases found

theorem isStorable_moved :
    ∀ operation ∈ (moved.stampedAt fun place => ⟨63072000 + place, 0⟩).operations,
      operation.IsStorable := by
  show ∀ operation ∈ [Operation.delete "paris" (some ⟨63072000, 0⟩), .call "move" [.null],
    .evict "paris" (some ⟨63072002, 0⟩)], operation.IsStorable
  simp only [List.forall_mem_cons]
  refine ⟨⟨_, rfl, ?_, ?_⟩, trivial, ⟨_, rfl, ?_, ?_⟩, List.forall_mem_nil _⟩
  all_goals decide

/-- The first submission is refused, the second one gets no response, and nothing is left for a
third one. Each operation without a valid time is stamped when it is written. -/
theorem buffer_conserved_movingParis :
    let run := ofCalls ⟨[some ⟨500, "refused"⟩, some ⟨200, "null"⟩], none⟩ movingParis
    run.turns.map Prod.snd = [some ⟨500, "refused"⟩, some ⟨200, "null"⟩, none] ∧
      Client.submissions run.turns =
        [Client.submission "1971-01-01T00:00:00+00:00"
            ⟨[.put (Sample.City.document ⟨"paris", "france", 2102650, "Paris"⟩) none]⟩,
          Client.submission ticking moved] ∧
      (ticking, moved) ∈
        attempts ⟨[some ⟨500, "refused"⟩, some ⟨200, "null"⟩], none⟩ movingParis ∧
      moved.operations ≠ [] ∧
      ∃ body, (Client.submission ticking moved).body = some ⟨"application/json", body⟩ ∧
        body = "\x7b\"tx-ops\":[[\"delete\",\"paris\",\"1972-01-01T00:00:00+00:00\"]," ++
          "[\"fn\",\"move\",null],[\"evict\",\"paris\",\"1972-01-01T00:00:02+00:00\"]]\x7d" ∧
        Transaction.storedOperations body = some movedForms ∧
        Transaction.ofText body = .ok ⟨[.delete "paris" (some ⟨63072000, 0⟩),
          .call "move" [.null], .evict "paris" (some ⟨63072002, 0⟩)]⟩ := by
  obtain ⟨submitted, _, held, _⟩ :=
    buffer_conserved ⟨[some ⟨500, "refused"⟩, some ⟨200, "null"⟩], none⟩ movingParis
  have member : (ticking, moved) ∈
      attempts ⟨[some ⟨500, "refused"⟩, some ⟨200, "null"⟩], none⟩ movingParis :=
    List.mem_cons_of_mem _ List.mem_cons_self
  obtain ⟨filled, body, sent, isBody⟩ := held _ member
  have forms : moved.forms ticking = movedForms := rfl
  have listed := isBody.listed isReadable_moved
  have written := isBody.written
  rw [forms] at listed written
  refine ⟨rfl, submitted, member, filled, body, sent, written.trans ?_, listed,
    isBody.readBack _ rfl isReadable_moved isStorable_moved⟩
  decide

end SessionRun

end Bitemporal
