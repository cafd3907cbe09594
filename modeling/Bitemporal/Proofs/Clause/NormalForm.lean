/-
This file shows that the canonical form of fragments is a normal form, and that it is found with a
set of the fragments that were met so far.
-/
import Bitemporal.Proofs.Clause.Canonical
import Bitemporal.Proofs.Text.ByteOrder
import Mathlib.Data.List.Induction

namespace Bitemporal

/-! ## First occurrences -/

/-- The items in front of this position do not include the one that stands there. -/
def isFirst (items : List String) (entry : String × Nat) : Bool :=
  !(items.take entry.2).contains entry.1

/-- The items that stand somewhere for the first time, in their order. -/
def firstOccurrences (items : List String) : List String :=
  (items.zipIdx.filter (isFirst items)).map Prod.fst

/-- One more item is kept unless it was met before. -/
theorem firstOccurrences_append_singleton (items : List String) (item : String) :
    firstOccurrences (items ++ [item]) =
      firstOccurrences items ++ if item ∈ items then [] else [item] := by
  have earlier : items.zipIdx.filter (isFirst (items ++ [item])) =
      items.zipIdx.filter (isFirst items) := by
    apply List.filter_congr
    intro entry member
    have inside : entry.2 < items.length := (List.mem_zipIdx' member).1
    rw [isFirst, isFirst, List.take_append_of_le_length inside.le]
  rw [firstOccurrences, List.zipIdx_append, List.filter_append, List.map_append, earlier]
  by_cases met : item ∈ items <;> simp [firstOccurrences, isFirst, met]

theorem eraseDups_append_singleton (items : List String) (item : String) :
    (items ++ [item]).eraseDups = items.eraseDups ++ if item ∈ items then [] else [item] := by
  rw [List.eraseDups_append]
  by_cases met : item ∈ items <;> simp [List.removeAll, List.eraseDups_cons, met]

/-- Where repetitions are dropped the first occurrences are left. -/
theorem eraseDups_eq_firstOccurrences (items : List String) :
    items.eraseDups = firstOccurrences items := by
  induction items using List.reverseRecOn with
  | nil => rfl
  | append_singleton items item inductionHypothesis =>
      rw [eraseDups_append_singleton, firstOccurrences_append_singleton, inductionHypothesis]

theorem mem_firstOccurrences {item : String} {items : List String} :
    item ∈ firstOccurrences items ↔ item ∈ items := by
  rw [← eraseDups_eq_firstOccurrences, List.mem_eraseDups]

theorem nodup_firstOccurrences (items : List String) : (firstOccurrences items).Nodup := by
  rw [← eraseDups_eq_firstOccurrences]
  exact nodup_eraseDups items

theorem firstOccurrences_sublist (items : List String) :
    (firstOccurrences items).Sublist items := by
  have kept := (List.filter_sublist (p := isFirst items) (l := items.zipIdx)).map Prod.fst
  rwa [List.zipIdx_map_fst] at kept

/-- Items that differ from one another are all kept. -/
theorem eraseDups_of_nodup {items : List String} (distinct : items.Nodup) :
    items.eraseDups = items := by
  induction items using List.reverseRecOn with
  | nil => rfl
  | append_singleton items item inductionHypothesis =>
      obtain ⟨earlier, _, apart⟩ := List.nodup_append.mp distinct
      have fresh : item ∉ items := fun met => apart item met item List.mem_cons_self rfl
      rw [eraseDups_append_singleton, if_neg fresh, inductionHypothesis earlier]

/-! ## Retention by a set -/

section Retention

variable [Hashable String]

/-- A fragment is put into the set of those that were met, and kept if the set did not hold it. -/
def retained (met : Std.HashSet String) : List String → List String
  | [] => []
  | fragment :: rest =>
      let later := retained (met.insert fragment) rest
      if fragment ∈ met then later else fragment :: later

/-- As long as the set holds what stands in front, the loop goes on with the first occurrences. -/
theorem eraseDups_append_retained {front : List String} {met : Std.HashSet String}
    (holds : ∀ fragment, fragment ∈ met ↔ fragment ∈ front) (rest : List String) :
    (front ++ rest).eraseDups = front.eraseDups ++ retained met rest := by
  induction rest generalizing front met with
  | nil => simp [retained]
  | cons fragment rest inductionHypothesis =>
      have next : ∀ other, other ∈ met.insert fragment ↔ other ∈ front ++ [fragment] := by
        intro other
        rw [Std.HashSet.mem_insert, List.mem_append, List.mem_singleton, holds, beq_iff_eq,
          or_comm, eq_comm]
      have step := inductionHypothesis next
      rw [List.append_assoc, List.singleton_append, eraseDups_append_singleton] at step
      rw [step, retained]
      by_cases known : fragment ∈ front <;> simp [holds, known]

/-- The set finds the first occurrences, whatever its hash function is. -/
theorem retained_eq_firstOccurrences (fragments : List String) :
    retained ∅ fragments = firstOccurrences fragments := by
  have nothing : ∀ fragment : String, fragment ∈ (∅ : Std.HashSet String) ↔ fragment ∈ [] := by
    simp
  have whole := eraseDups_append_retained nothing fragments
  rw [List.nil_append, List.eraseDups_nil, List.nil_append] at whole
  rw [← whole, eraseDups_eq_firstOccurrences]

end Retention

/-! ## Sorted fragments -/

theorem sortFragments_of_pairwise {fragments : List String}
    (sorted : fragments.Pairwise (· ≤ ·)) : sortFragments fragments = fragments :=
  List.mergeSort_of_pairwise (by simpa using sorted)

/-- Sorting gives the only list of these fragments that is in order. -/
theorem eq_sortFragments_iff {fragments listed : List String} :
    listed = sortFragments fragments ↔
      listed.Perm fragments ∧ listed.Pairwise (· ≤ ·) := by
  constructor
  · rintro rfl
    exact ⟨List.mergeSort_perm _ _, pairwise_sortFragments fragments⟩
  · rintro ⟨permuted, sorted⟩
    have same : listed.Perm (sortFragments fragments) :=
      permuted.trans (List.mergeSort_perm fragments _).symm
    exact same.eq_of_pairwise (fun _ _ _ _ before after => le_antisymm before after) sorted
      (pairwise_sortFragments fragments)

/-! ## Normal forms -/

theorem canonical_canonical (commutative idempotent : Bool) (fragments : List String) :
    canonical commutative idempotent (canonical commutative idempotent fragments) =
      canonical commutative idempotent fragments := by
  cases commutative <;> cases idempotent
  case false.false => rfl
  case false.true => exact eraseDups_of_nodup (nodup_eraseDups fragments)
  case true.false => exact sortFragments_of_pairwise (pairwise_sortFragments fragments)
  case true.true => exact canonical_congr fun _ => mem_canonical

/-- Fragments that may be dropped and sorted have the canonical form that lists their set in the
order of their bytes; if they may only be dropped it keeps the first occurrences, if they may only
be sorted it is a permutation, and otherwise it changes nothing. A set of any hash function finds
it, and it is its own canonical form. -/
theorem canonical_normalForm [Hashable String] (fragments : List String) :
    (∀ commutative idempotent, canonical commutative idempotent fragments =
      let kept := if idempotent then retained ∅ fragments else fragments
      if commutative then sortFragments kept else kept) ∧
    (∀ listed, listed = canonical true true fragments ↔
      listed.Pairwise (fun left right => utf8 left < utf8 right) ∧
        ∀ fragment, fragment ∈ listed ↔ fragment ∈ fragments) ∧
    (∀ others, canonical true true others = canonical true true fragments ↔
      ∀ fragment, fragment ∈ others ↔ fragment ∈ fragments) ∧
    canonical false true fragments = firstOccurrences fragments ∧
    (canonical false true fragments).Sublist fragments ∧
    (∀ listed, listed = canonical true false fragments ↔
      listed.Perm fragments ∧ listed.Pairwise fun left right => utf8 left ≤ utf8 right) ∧
    canonical false false fragments = fragments ∧
    ∀ commutative idempotent,
      canonical commutative idempotent (canonical commutative idempotent fragments) =
        canonical commutative idempotent fragments := by
  have dropped : fragments.eraseDups = firstOccurrences fragments :=
    eraseDups_eq_firstOccurrences fragments
  refine ⟨fun commutative idempotent => ?_, fun listed => ?_, fun others => ?_, dropped, ?_,
    fun listed => ?_, rfl, fun commutative idempotent => canonical_canonical _ _ fragments⟩
  · rw [retained_eq_firstOccurrences, ← dropped]
    rfl
  · simp only [utf8_lt_iff]
    constructor
    · rintro rfl
      exact ⟨pairwise_canonical fragments, fun _ => mem_canonical⟩
    · exact fun ⟨sorted, same⟩ => eq_canonical sorted same
  · refine ⟨fun same fragment => ?_, canonical_congr⟩
    have listed : fragment ∈ canonical true true others ↔ fragment ∈ others := mem_canonical
    rw [← listed, same, mem_canonical]
  · show fragments.eraseDups.Sublist fragments
    rw [dropped]
    exact firstOccurrences_sublist fragments
  · simp only [utf8_le_iff]
    exact eq_sortFragments_iff

end Bitemporal
