/-
This file defines aggregate calls in projections.
-/
import Bitemporal.Error

namespace Bitemporal

/-- The functions that combine all rows of a group. -/
inductive AggregateFunction where
  | sum
  | min
  | max
  | count
  | countDistinct
  | avg
  | median
  | variance
  | stddev
  | distinct
  | rand
  | sample
deriving DecidableEq, Repr

namespace AggregateFunction

def all : List AggregateFunction :=
  [.sum, .min, .max, .count, .countDistinct, .avg, .median, .variance, .stddev, .distinct,
    .rand, .sample]

def name : AggregateFunction → String
  | .sum => "sum"
  | .min => "min"
  | .max => "max"
  | .count => "count"
  | .countDistinct => "count-distinct"
  | .avg => "avg"
  | .median => "median"
  | .variance => "variance"
  | .stddev => "stddev"
  | .distinct => "distinct"
  | .rand => "rand"
  | .sample => "sample"

/-- The number of arguments in front of the operand. -/
def arity : AggregateFunction → Nat
  | .rand | .sample => 1
  | _ => 0

/-- This function finds a function by its name. -/
def ofName (name : String) : Outcome AggregateFunction :=
  match all.find? fun function => function.name == name with
  | some function => .ok function
  | none => .error (.unknownAggregate name)

end AggregateFunction

/-- A call has as many arguments as its function takes. -/
structure Aggregate where
  function : AggregateFunction
  operand : String
  arguments : List UInt64
  arityAgrees : arguments.length = function.arity

namespace Aggregate

/-- A call with a given function. -/
def ofFunction (function : AggregateFunction) (operand : String) (arguments : List UInt64) :
    Outcome Aggregate :=
  if arityAgrees : arguments.length = function.arity then
    .ok ⟨function, operand, arguments, arityAgrees⟩
  else .error (.aggregateArity function.name function.arity arguments.length)

/-- A call with a function given by name. -/
def create (name operand : String) (arguments : List UInt64) : Outcome Aggregate := do
  let function ← AggregateFunction.ofName name
  ofFunction function operand arguments

/-- A call without arguments. -/
def unary (function : AggregateFunction) (operand : String)
    (arity : function.arity = 0 := by rfl) : Aggregate :=
  ⟨function, operand, [], arity.symm⟩

/-- A call with one argument. -/
def sized (function : AggregateFunction) (operand : String) (size : UInt64)
    (arity : function.arity = 1 := by rfl) : Aggregate :=
  ⟨function, operand, [size], arity.symm⟩

def sum (operand : String) : Aggregate := unary .sum operand
def min (operand : String) : Aggregate := unary .min operand
def max (operand : String) : Aggregate := unary .max operand
def count (operand : String) : Aggregate := unary .count operand
def countDistinct (operand : String) : Aggregate := unary .countDistinct operand
def avg (operand : String) : Aggregate := unary .avg operand
def median (operand : String) : Aggregate := unary .median operand
def variance (operand : String) : Aggregate := unary .variance operand
def stddev (operand : String) : Aggregate := unary .stddev operand
def distinct (operand : String) : Aggregate := unary .distinct operand
def rand (operand : String) (size : UInt64) : Aggregate := sized .rand operand size
def sample (operand : String) (size : UInt64) : Aggregate := sized .sample operand size

/-- The function, its first argument if it has one, and the operand stand in parentheses. -/
def text (aggregate : Aggregate) : String :=
  match aggregate.arguments with
  | [] => "(" ++ aggregate.function.name ++ " " ++ aggregate.operand ++ ")"
  | size :: _ =>
      "(" ++ aggregate.function.name ++ " " ++ toString size.toNat ++ " " ++ aggregate.operand ++
        ")"

end Aggregate

end Bitemporal
