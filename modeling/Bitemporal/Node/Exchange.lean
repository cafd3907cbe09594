/-
This file describes conversations with a node and runs them against given replies.
-/
import Bitemporal.Error
import Bitemporal.Node.Request

namespace Bitemporal

structure Response where
  status : Nat
  body : String
deriving DecidableEq, Repr

/-- There is no response when no connection could be made. -/
abbrev Reply := Option Response

/-- A conversation ends with a value or asks one more request. -/
inductive Exchange (Value : Type) where
  | done (value : Value)
  | ask (request : Request) (next : Reply → Exchange Value)

namespace Exchange

/-- The second conversation follows the first and may depend on its value. -/
def bind {First Second : Type} (exchange : Exchange First) (next : First → Exchange Second) :
    Exchange Second :=
  match exchange with
  | .done value => next value
  | .ask request reply => .ask request fun given => bind (reply given) next

instance : Monad Exchange where
  pure := .done
  bind := bind

/-- The replies that are still to come, and the one that is repeated after them. -/
structure Script where
  replies : List Reply
  afterwards : Reply

/-- No connection can be made. -/
def Script.unreachable : Script := ⟨[], none⟩

def Script.next (script : Script) : Reply × Script :=
  match script.replies with
  | [] => (script.afterwards, script)
  | reply :: rest => (reply, { script with replies := rest })

/-- What came of a conversation: its value, its requests with their replies, and the rest. -/
structure Record (Value : Type) where
  value : Value
  turns : List (Request × Reply)
  rest : Script

/-- Every request takes the next reply. -/
def run {Value : Type} (script : Script) : Exchange Value → Record Value
  | .done value => ⟨value, [], script⟩
  | .ask request next =>
      let (reply, rest) := script.next
      let record := run rest (next reply)
      { record with turns := (request, reply) :: record.turns }

/-- A conversation that follows another one takes the replies that the first one left. -/
theorem run_bind {First Second : Type} (exchange : Exchange First)
    (next : First → Exchange Second) (script : Script) :
    (bind exchange next).run script =
      let first := exchange.run script
      let second := (next first.value).run first.rest
      { second with turns := first.turns ++ second.turns } := by
  induction exchange generalizing script with
  | done value => rfl
  | ask request reply inductionHypothesis =>
      simp only [bind, run, inductionHypothesis, List.cons_append]

end Exchange

/-- A conversation that can fail. -/
abbrev Call := ExceptT Error Exchange

end Bitemporal
