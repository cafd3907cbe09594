/-
This file says what the reply to a request gives, and what comes of calls that ask for it.
-/
import Bitemporal.Node.Client
import Bitemporal.Proofs.Outcome

namespace Bitemporal

namespace Response

/-- Only these statuses stand for a success. -/
def Succeeds (response : Response) : Prop := 200 ≤ response.status ∧ response.status < 300

end Response

namespace Client

/-! ## Replies -/

variable {Value : Type} {read : String → Option Value} {reply : Reply}

/-- A reply gives a value if it is a success and its body is read as the value. -/
def Gives (read : String → Option Value) (reply : Reply) (value : Value) : Prop :=
  ∃ response, reply = some response ∧ response.Succeeds ∧ read response.body = some value

/-- The reason why a reply gives no value. -/
inductive Fails (read : String → Option Value) : Reply → Error → Prop where
  | unconnected : Fails read none .transport
  | refused {response : Response} (failed : ¬ response.Succeeds) :
      Fails read (some response) (.refused response.status response.body)
  | unreadable {response : Response} (succeeds : response.Succeeds)
      (unread : read response.body = none) : Fails read (some response) .transport

/-- A body that is not read as a value is no usable response. -/
def decoded (read : String → Option Value) (body : String) : Outcome Value :=
  match read body with
  | some value => .ok value
  | none => .error .transport

/-- What a reply comes to. -/
def answer (read : String → Option Value) (reply : Reply) : Outcome Value :=
  bodyOf reply >>= decoded read

theorem bodyOf_of_succeeds {response : Response} (succeeds : response.Succeeds) :
    bodyOf (some response) = .ok response.body := if_pos succeeds

theorem bodyOf_of_not_succeeds {response : Response} (failed : ¬ response.Succeeds) :
    bodyOf (some response) = .error (.refused response.status response.body) := if_neg failed

theorem answer_of_gives {value : Value} (gives : Gives read reply value) :
    answer read reply = .ok value := by
  obtain ⟨response, rfl, succeeds, found⟩ := gives
  rw [answer, bodyOf_of_succeeds succeeds]
  show decoded read response.body = _
  rw [decoded, found]

theorem answer_of_fails {reason : Error} (fails : Fails read reply reason) :
    answer read reply = .error reason := by
  cases fails with
  | unconnected => rfl
  | refused failed =>
      rw [answer, bodyOf_of_not_succeeds failed]
      rfl
  | @unreadable response succeeds unread =>
      rw [answer, bodyOf_of_succeeds succeeds]
      show decoded read response.body = _
      rw [decoded, unread]

/-- Every reply gives a value or a reason for giving none. -/
theorem gives_or_fails (read : String → Option Value) (reply : Reply) :
    (∃ value, Gives read reply value) ∨ ∃ reason, Fails read reply reason := by
  rcases reply with _ | response
  · exact .inr ⟨_, .unconnected⟩
  by_cases succeeds : response.Succeeds
  · rcases found : read response.body with _ | value
    · exact .inr ⟨_, .unreadable succeeds found⟩
    · exact .inl ⟨value, response, rfl, succeeds, found⟩
  · exact .inr ⟨_, .refused succeeds⟩

theorem decides_answer (read : String → Option Value) (reply : Reply) :
    Decides (answer read reply) (Gives read reply) (Fails read reply) :=
  .of_cases (gives_or_fails read reply) (fun _ => answer_of_gives) fun _ => answer_of_fails

theorem Gives.unique {value other : Value} (gives : Gives read reply value)
    (again : Gives read reply other) : value = other :=
  (decides_answer read reply).good_unique gives again

theorem Fails.unique {reason other : Error} (fails : Fails read reply reason)
    (again : Fails read reply other) : reason = other :=
  (decides_answer read reply).bad_unique fails again

theorem Fails.not_gives {reason : Error} (fails : Fails read reply reason) (value : Value) :
    ¬ Gives read reply value :=
  (decides_answer read reply).not_good_of_bad fails value

end Client

/-! ## Calls -/

namespace Call

variable {First Second : Type} {call : Call First} {next : First → Call Second}
  {script : Exchange.Script}

/-- What comes of a call whose requests take the next replies. -/
def record (call : Call First) (script : Exchange.Script) : Exchange.Record (Outcome First) :=
  call.run.run script

theorem record_bind :
    (call >>= next).record script =
      let first := call.record script
      let second := (ExceptT.bindCont next first.value : Exchange (Outcome Second)).run first.rest
      { second with turns := first.turns ++ second.turns } :=
  Exchange.run_bind call.run (ExceptT.bindCont next) script

/-- A call that gave a value is followed by the next one. -/
theorem record_bind_of_ok {value : First} (given : (call.record script).value = .ok value) :
    (call >>= next).record script =
      let second := (next value).record (call.record script).rest
      { second with turns := (call.record script).turns ++ second.turns } := by
  simp only [record_bind, given]
  rfl

/-- Nothing follows a call that failed. -/
theorem record_bind_of_error {reason : Error}
    (failed : (call.record script).value = .error reason) :
    (call >>= next).record script =
      ⟨.error reason, (call.record script).turns, (call.record script).rest⟩ := by
  simp [record_bind, failed, ExceptT.bindCont, pure, Exchange.run]

/-- A last step without a request only decides on the value. -/
theorem record_bind_lift (step : First → Outcome Second) :
    (call >>= fun value => liftM (step value)).record script =
      ⟨(call.record script).value >>= step, (call.record script).turns,
        (call.record script).rest⟩ := by
  rcases outcome : (call.record script).value with reason | value
  · rw [record_bind_of_error outcome]
    rfl
  · rw [record_bind_of_ok outcome]
    show Exchange.Record.mk (step value) ((call.record script).turns ++ []) _ = _
    rw [List.append_nil]
    rfl

theorem record_bind_pure (step : First → Second) :
    (call >>= fun value => pure (step value)).record script =
      ⟨(call.record script).value.map step, (call.record script).turns,
        (call.record script).rest⟩ :=
  record_bind_lift fun value => .ok (step value)

end Call

namespace Client

/-- The conversation of one request is over after the reply. -/
theorem run_sendFor (read : String → Option Value) (request : Request) :
    (sendFor read request).run = .ask request fun reply => .done (answer read reply) := by
  apply congrArg (Exchange.ask request)
  funext reply
  simp only [Exchange.bind]
  rw [answer]
  rcases bodyOf reply with reason | body
  · rfl
  · show (ExceptT.bindCont _ (Except.ok body) : Exchange (Outcome Value)) =
      .done (decoded read body)
    simp only [ExceptT.bindCont, decoded]
    cases read body <;> rfl

theorem record_sendFor {Value : Type} (read : String → Option Value) (request : Request)
    (script : Exchange.Script) :
    (sendFor read request).record script =
      ⟨answer read script.next.1, [(request, script.next.1)], script.next.2⟩ := by
  rw [Call.record, run_sendFor]
  rfl

variable {First Second : Type} {read : String → Option First} {request : Request}
  {next : First → Call Second} {script : Exchange.Script}

/-- A reply that gives a value lets a call go on with it. -/
theorem record_sendFor_bind_of_gives {value : First} (gives : Gives read script.next.1 value) :
    (sendFor read request >>= next).record script =
      let second := (next value).record script.next.2
      { second with turns := (request, script.next.1) :: second.turns } := by
  have asked := record_sendFor read request script
  have given : ((sendFor read request).record script).value = .ok value := by
    rw [asked, answer_of_gives gives]
  rw [Call.record_bind_of_ok given, asked]
  rfl

/-- A reply that gives no value ends a call. -/
theorem record_sendFor_bind_of_fails {reason : Error} (fails : Fails read script.next.1 reason) :
    (sendFor read request >>= next).record script =
      ⟨.error reason, [(request, script.next.1)], script.next.2⟩ := by
  have asked := record_sendFor read request script
  have failed : ((sendFor read request).record script).value = .error reason := by
    rw [asked, answer_of_fails fails]
  rw [Call.record_bind_of_error failed, asked]

end Client

end Bitemporal
