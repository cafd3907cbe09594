/-
This file writes strings as literals of the query language.
-/
namespace Bitemporal

/-- A quote inside a literal is escaped, and every other character stands for itself. -/
def literalCharacters (character : Char) : List Char :=
  if character = '"' then ['\\', '"'] else [character]

/-- The literal of a string. -/
def quote (value : String) : String :=
  String.ofList ('"' :: value.toList.flatMap literalCharacters ++ ['"'])

end Bitemporal
