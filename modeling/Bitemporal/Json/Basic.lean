/-
This file defines JSON values whose objects list their members in key order.
-/
import Bitemporal.Binary64.Basic

namespace Bitemporal

/-- An integer lies within 64 bits, with or without a sign; every other number is a float. -/
inductive Json where
  | null
  | boolean (value : Bool)
  | integer (value : Int)
  | float (value : Binary64)
  | string (value : String)
  | array (items : List Json)
  | object (members : List (String × Json))

namespace Json

/-- The members of an object, one for each key, in increasing key order. -/
abbrev Members := List (String × Json)

/-- The entry replaces an earlier one with the same key and keeps the keys in order. -/
def Members.insert (key : String) (value : Json) : Members → Members
  | [] => [(key, value)]
  | (other, kept) :: rest =>
      if key < other then (key, value) :: (other, kept) :: rest
      else if key = other then (key, value) :: rest
      else (other, kept) :: Members.insert key value rest

/-- The last entry of a key is the one that stays. -/
def Members.ofEntries (entries : List (String × Json)) : Members :=
  entries.foldl (fun members entry => Members.insert entry.1 entry.2 members) []

/-- This function gives the value stored under a key. -/
def Members.find? (key : String) (members : Members) : Option Json := members.lookup key

/-- A value is found under the key it was inserted with. -/
theorem Members.find?_insert_self (key : String) (value : Json) (members : Members) :
    (members.insert key value).find? key = some value := by
  induction members with
  | nil => simp [Members.insert, Members.find?]
  | cons entry rest inductionHypothesis =>
      obtain ⟨entryKey, kept⟩ := entry
      simp only [Members.find?] at inductionHypothesis ⊢
      simp only [Members.insert]
      split
      · rw [List.lookup_cons, beq_self_eq_true]
      · split
        · rw [List.lookup_cons, beq_self_eq_true]
        · rename_i other
          rw [List.lookup_cons, beq_false_of_ne other, inductionHypothesis]

/-- The values of other keys are kept. -/
theorem Members.find?_insert_of_ne {key other : String} (apart : other ≠ key) (value : Json)
    (members : Members) : (members.insert key value).find? other = members.find? other := by
  have apartTest : (other == key) = false := by simpa using apart
  induction members with
  | nil => simp [Members.insert, Members.find?, List.lookup_cons, apartTest]
  | cons entry rest inductionHypothesis =>
      obtain ⟨entryKey, kept⟩ := entry
      simp only [Members.find?] at inductionHypothesis ⊢
      simp only [Members.insert]
      split
      · rw [List.lookup_cons, apartTest]
      · split
        · rename_i same
          subst same
          rw [List.lookup_cons, List.lookup_cons, apartTest]
        · rw [List.lookup_cons, List.lookup_cons, inductionHypothesis]

mutual

/-- Two values are the same when their numbers are equal by value and all else is identical. -/
def same : Json → Json → Bool
  | .null, .null => true
  | .boolean left, .boolean right => left == right
  | .integer left, .integer right => left == right
  | .float left, .float right => left.sameValue right
  | .string left, .string right => left == right
  | .array left, .array right => sameItems left right
  | .object left, .object right => sameMembers left right
  | _, _ => false

def sameItems : List Json → List Json → Bool
  | [], [] => true
  | left :: leftRest, right :: rightRest => same left right && sameItems leftRest rightRest
  | _, _ => false

def sameMembers : List (String × Json) → List (String × Json) → Bool
  | [], [] => true
  | (leftKey, left) :: leftRest, (rightKey, right) :: rightRest =>
      leftKey == rightKey && same left right && sameMembers leftRest rightRest
  | _, _ => false

end

def string? : Json → Option String
  | .string value => some value
  | _ => none

def boolean? : Json → Option Bool
  | .boolean value => some value
  | _ => none

def array? : Json → Option (List Json)
  | .array items => some items
  | _ => none

/-- Integers with a sign end below this limit. -/
def signedLimit : Int := 9223372036854775808

/-- Integers without a sign end below this limit. -/
def unsignedLimit : Int := 18446744073709551616

/-- This function gives an integer that fits in 64 bits with a sign. -/
def signed? : Json → Option Int
  | .integer value => if -signedLimit ≤ value ∧ value < signedLimit then some value else none
  | _ => none

/-- This function gives an integer that fits in 64 bits without a sign. -/
def unsigned? : Json → Option UInt64
  | .integer value =>
      if 0 ≤ value ∧ value < unsignedLimit then some (UInt64.ofNat value.toNat) else none
  | _ => none

/-- Every number has a nearest binary floating-point number. -/
def float? : Json → Option Binary64
  | .integer value => some (.ofInt value)
  | .float value => some value
  | _ => none

end Json

end Bitemporal
