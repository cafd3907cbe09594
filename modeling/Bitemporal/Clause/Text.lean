/-
This file writes clauses as query text.
-/
import Bitemporal.Clause.Basic
import Bitemporal.Clause.Canonical

namespace Bitemporal.Clause

/-- At the root a condition stands in the list of conditions. -/
def conditionText (atRoot : Bool) (fragment : String) : String :=
  if atRoot then ":where [" ++ fragment ++ "]" else fragment

/-- A triple of a document, one of its fields and a value. -/
def patternText (document field value : String) : String :=
  "[ " ++ document ++ " :" ++ field ++ " " ++ value ++ " ]"

/-- A call, followed by the name that its result is bound to. -/
def predicateText (operation : String) (arguments : List String) (result : Option String) :
    String :=
  let call := "(" ++ operation ++ String.join (arguments.map fun argument => " " ++ argument) ++ ")"
  match result with
  | some name => "[ " ++ call ++ " " ++ name ++ " ]"
  | none => "[ " ++ call ++ " ]"

/-- At the root several conditions follow separators, and a single one stands alone. -/
def conjunctionText (part : Section) (atRoot : Bool) (separator : String)
    (fragments : List String) : String :=
  if atRoot then
    match part, fragments with
    | .condition, [fragment] => ":where [" ++ fragment ++ "]"
    | .condition, fragments =>
        ":where [" ++ separator ++ separator.intercalate fragments ++ "]"
    | .projection, fragments => ":find [" ++ " ".intercalate fragments ++ "]"
  else separator.intercalate fragments

/-- A conjunction has this form wherever its parts have to be kept together. -/
def groupedText (fragment : String) : String := "(and " ++ fragment ++ ")"

/-- Siblings may be sorted if all of them commute. -/
def allCommutative (clauses : List Clause) : Bool := clauses.all commutative

/-- Repeated siblings may be dropped if all of them are idempotent. -/
def allIdempotent (clauses : List Clause) : Bool := clauses.all idempotent

/-- Projections are positional, so a conjunction of them is left as it is. -/
def conjunctionFragments (part : Section) (clauses : List Clause) (fragments : List String) :
    List String :=
  canonical (part == .condition && allCommutative clauses)
    (part == .condition && allIdempotent clauses) fragments

/-- A query holds its sections, its keys and, beside it, the values of its binding. -/
def queryText (find filter : String) (keys : QueryKeys) : String :=
  "\x7b:query \x7b" ++ find ++ " " ++ filter ++ keys.text ++ "\x7d" ++ keys.valuesText ++ "\x7d"

mutual

/-- The text of a clause, either as a part of a query or as a fragment of another clause. -/
def text (atRoot : Bool) (separator : String) : Clause → String
  | .pattern document field value => conditionText atRoot (patternText document field value)
  | .predicate operation arguments result =>
      conditionText atRoot (predicateText operation arguments result)
  | .conjunction part clauses =>
      conjunctionText part atRoot separator
        (conjunctionFragments part clauses (conjuncts part clauses))
  | .disjunction clauses =>
      conditionText atRoot ("(or " ++ " ".intercalate
        (canonical (allCommutative clauses) (allIdempotent clauses) (disjuncts clauses)) ++ ")")
  | .negation clauses =>
      conditionText atRoot ("(not " ++ " ".intercalate
        (canonical false (allIdempotent clauses) (conjuncts .condition clauses)) ++ ")")
  | .negationJoin shared clauses =>
      conditionText atRoot ("(not-join [" ++ shared ++ "] " ++ " ".intercalate
        (canonical false (allIdempotent clauses) (conjuncts .condition clauses)) ++ ")")
  | .disjunctionJoin shared clauses =>
      conditionText atRoot ("(or-join [" ++ shared ++ "] " ++ " ".intercalate
        (canonical false (allIdempotent clauses) (alternatives clauses)) ++ ")")
  | .projection expression => if atRoot then ":find [" ++ expression ++ "]" else expression
  | .key entry => if atRoot then entry.text else entry.fragment
  | .query find filter keys => queryText (text true " " find) (text true separator filter) keys

/-- The fragments of clauses that hold together; conjunctions among them are opened. -/
def conjuncts (part : Section) : List Clause → List String
  | [] => []
  | .conjunction inner clauses :: rest =>
      if inner = part then conjuncts part clauses ++ conjuncts part rest
      else text false " " (.conjunction inner clauses) :: conjuncts part rest
  | clause :: rest => text false " " clause :: conjuncts part rest

/-- The fragments of clauses one of which holds; disjunctions among them are opened. -/
def disjuncts : List Clause → List String
  | [] => []
  | .disjunction clauses :: rest => disjuncts clauses ++ disjuncts rest
  | .conjunction part clauses :: rest =>
      groupedText (text false " " (.conjunction part clauses)) :: disjuncts rest
  | clause :: rest => text false " " clause :: disjuncts rest

/-- The fragments of clauses one of which holds, each of them left as it is. -/
def alternatives : List Clause → List String
  | [] => []
  | .conjunction part clauses :: rest =>
      groupedText (text false " " (.conjunction part clauses)) :: alternatives rest
  | clause :: rest => text false " " clause :: alternatives rest

end

/-- The text of a clause on one line. -/
def line (clause : Clause) : String := clause.text true " "

/-- Clauses are the same when they are written in the same way. -/
def same (left right : Clause) : Bool := left.line == right.line

/-- Only a complete query has a text that can be sent. -/
def queryLine (clause : Clause) : Outcome String :=
  if clause.isComplete then .ok clause.line else .error .incompleteQuery

end Bitemporal.Clause
