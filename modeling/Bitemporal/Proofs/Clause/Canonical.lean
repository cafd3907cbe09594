/-
This file shows that the canonical form of fragments depends on the set of fragments alone.
-/
import Bitemporal.Clause.Canonical
import Mathlib.Algebra.Ring.Nat
import Mathlib.Data.List.Sort
import Mathlib.Data.String.Basic

namespace Bitemporal

theorem nodup_eraseDups {Item : Type} [BEq Item] [LawfulBEq Item] (items : List Item) :
    items.eraseDups.Nodup := by
  induction length : items.length using Nat.strong_induction_on generalizing items with
  | _ size inductionHypothesis =>
      cases items with
      | nil => simp
      | cons first rest =>
          have shorter : (rest.filter fun other => !other == first).length < size := by
            have := List.length_filter_le (fun other => !other == first) rest
            simp only [List.length_cons] at length
            omega
          rw [List.eraseDups_cons, List.nodup_cons]
          refine ⟨?_, inductionHypothesis _ shorter _ rfl⟩
          simp [List.mem_eraseDups]

theorem mem_sortFragments {fragment : String} {fragments : List String} :
    fragment ∈ sortFragments fragments ↔ fragment ∈ fragments :=
  (List.mergeSort_perm fragments _).mem_iff

theorem pairwise_sortFragments (fragments : List String) :
    (sortFragments fragments).Pairwise (· ≤ ·) := by
  have transitive : ∀ first second third : String, decide (first ≤ second) = true →
      decide (second ≤ third) = true → decide (first ≤ third) = true := by
    intro first second third before after
    simp only [decide_eq_true_eq] at before after ⊢
    exact le_trans before after
  have total : ∀ first second : String,
      (decide (first ≤ second) || decide (second ≤ first)) = true := by
    intro first second
    simpa using le_total first second
  simpa [sortFragments] using List.pairwise_mergeSort transitive total fragments

/-- No fragment is lost and none is made up. -/
theorem mem_canonical {commutative idempotent : Bool} {fragment : String}
    {fragments : List String} :
    fragment ∈ canonical commutative idempotent fragments ↔ fragment ∈ fragments := by
  cases commutative <;> cases idempotent <;>
    simp [canonical, mem_sortFragments, List.mem_eraseDups]

/-- Where fragments may be dropped and sorted each of them stands once, in increasing order. -/
theorem pairwise_canonical (fragments : List String) :
    (canonical true true fragments).Pairwise (· < ·) := by
  have distinct : (sortFragments fragments.eraseDups).Nodup :=
    (List.mergeSort_perm _ _).nodup_iff.mpr (nodup_eraseDups fragments)
  have sorted := pairwise_sortFragments fragments.eraseDups
  exact (sorted.and distinct).imp fun {_ _} pair => lt_of_le_of_ne pair.1 pair.2

/-- Increasing lists are the same if they have the same fragments. -/
theorem eq_of_pairwise_lt {left right : List String} (leftSorted : left.Pairwise (· < ·))
    (rightSorted : right.Pairwise (· < ·))
    (same : ∀ fragment, fragment ∈ left ↔ fragment ∈ right) : left = right := by
  have permuted : left.Perm right :=
    (List.perm_ext_iff_of_nodup (leftSorted.imp ne_of_lt) (rightSorted.imp ne_of_lt)).mpr same
  exact permuted.eq_of_pairwise (fun _ _ _ _ before after => absurd after (lt_asymm before))
    leftSorted rightSorted

/-- The canonical form is the only increasing list of its fragments. -/
theorem eq_canonical {fragments listed : List String} (sorted : listed.Pairwise (· < ·))
    (same : ∀ fragment, fragment ∈ listed ↔ fragment ∈ fragments) :
    listed = canonical true true fragments :=
  eq_of_pairwise_lt sorted (pairwise_canonical fragments) fun fragment =>
    (same fragment).trans mem_canonical.symm

/-- The same fragments have the same canonical form, however often and in whatever order. -/
theorem canonical_congr {left right : List String}
    (same : ∀ fragment, fragment ∈ left ↔ fragment ∈ right) :
    canonical true true left = canonical true true right :=
  eq_canonical (pairwise_canonical left) fun fragment => mem_canonical.trans (same fragment)

theorem perm_canonical {fragments : List String} (distinct : fragments.Nodup) :
    (canonical true true fragments).Perm fragments :=
  (List.perm_ext_iff_of_nodup ((pairwise_canonical fragments).imp ne_of_lt) distinct).mpr
    fun _ => mem_canonical

/-- Joining fragments takes as many separators as there are places between fragments. -/
theorem length_intercalate (separator : String) (fragments : List String) :
    (separator.intercalate fragments).length =
      (fragments.map String.length).sum + separator.length * (fragments.length - 1) := by
  induction fragments with
  | nil => rfl
  | cons first rest inductionHypothesis =>
      rcases rest with _ | ⟨second, rest⟩
      · rw [String.intercalate_singleton]
        rfl
      · rw [String.intercalate_cons_cons, String.length_append, String.length_append,
          inductionHypothesis]
        simp only [List.map_cons, List.sum_cons, List.length_cons, Nat.add_sub_cancel, Nat.mul_succ]
        omega

/-- A fragment that is not there yet makes the joined list longer. -/
theorem mem_of_intercalate_eq {fragments : List String} {fragment : String}
    (filled : 0 < fragment.length)
    (same : " ".intercalate (canonical true true (fragments ++ [fragment])) =
      " ".intercalate (canonical true true fragments)) : fragment ∈ fragments := by
  by_contra fresh
  have distinct : (fragment :: canonical true true fragments).Nodup :=
    List.nodup_cons.mpr ⟨fun member => fresh (mem_canonical.mp member),
      (pairwise_canonical fragments).imp ne_of_lt⟩
  have permuted : (canonical true true (fragments ++ [fragment])).Perm
      (fragment :: canonical true true fragments) := by
    refine (List.perm_ext_iff_of_nodup ((pairwise_canonical _).imp ne_of_lt) distinct).mpr ?_
    intro other
    rw [mem_canonical, List.mem_append, List.mem_singleton, List.mem_cons, mem_canonical, or_comm]
  have blank : " ".length = 1 := rfl
  have lengths := congrArg String.length same
  rw [length_intercalate, length_intercalate, blank, permuted.length_eq,
    (permuted.map String.length).sum_nat, List.map_cons, List.sum_cons, List.length_cons] at lengths
  omega

end Bitemporal
