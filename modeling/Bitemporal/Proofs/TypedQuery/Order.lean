/-
This file shows when two constraints can change places.
-/
import Bitemporal.Proofs.Clause.JoinBody
import Bitemporal.Proofs.TypedQuery.Patterns
import Mathlib.Algebra.Order.BigOperators.Group.List
import Mathlib.Algebra.Ring.Nat

namespace Bitemporal

/-! ## Different lists of fragments -/

theorem canonical_pair {first second : String} (distinct : first ≠ second) :
    canonical true true [first, second] = [first, second] ∨
      canonical true true [first, second] = [second, first] := by
  rcases lt_or_gt_of_ne distinct with before | after
  · left
    exact (eq_canonical (List.pairwise_pair.mpr before) fun _ => Iff.rfl).symm
  · right
    exact (eq_canonical (List.pairwise_pair.mpr after) fun _ => by simp [or_comm]).symm

/-- Fragments that were not there before are kept at the end. -/
theorem canonical_append_fresh (idempotent : Bool) {fragments : List String}
    {first second : String} (firstFresh : first ∉ fragments) (secondFresh : second ∉ fragments)
    (different : first ≠ second) :
    canonical false idempotent (fragments ++ [first, second]) =
      canonical false idempotent fragments ++ [first, second] := by
  cases idempotent with
  | false => rfl
  | true =>
      have kept : [first, second].removeAll fragments = [first, second] := by
        simp [List.removeAll, firstFresh, secondFresh]
      have once : [first, second].eraseDups = [first, second] := by
        simp [List.eraseDups_cons, different.symm]
      show (fragments ++ [first, second]).eraseDups = fragments.eraseDups ++ [first, second]
      rw [List.eraseDups_append, kept, once]

theorem exists_intercalate_append_singleton (separator last : String) (fragments : List String) :
    ∃ front, separator.intercalate (fragments ++ [last]) = front ++ last := by
  by_cases none : fragments = []
  · exact ⟨"", by simp [none]⟩
  · refine ⟨separator.intercalate fragments ++ separator, ?_⟩
    rw [String.intercalate_append_of_ne_nil none (by simp), String.intercalate_singleton]

/-- The last of two new fragments ends the joined list. -/
theorem exists_intercalate_fresh (separator : String) (idempotent : Bool)
    {fragments : List String} {first second : String} (firstFresh : first ∉ fragments)
    (secondFresh : second ∉ fragments) (different : first ≠ second) :
    ∃ front, separator.intercalate
      (canonical false idempotent (fragments ++ [first, second])) = front ++ second := by
  rw [canonical_append_fresh idempotent firstFresh secondFresh different, List.append_cons]
  exact exists_intercalate_append_singleton separator second _

namespace Clause

theorem length_patternText (document field value : String) :
    (patternText document field value).length =
      document.length + field.length + value.length + 7 := by
  simp only [patternText, String.length_append]
  have lengths : "[ ".length = 2 ∧ " :".length = 2 ∧ " ".length = 1 ∧ " ]".length = 2 := by
    decide
  omega

/-- The length of a list of fragments does not depend on their order. -/
theorem length_conjunctionText_canonical (separator : String) {fragments : List String}
    (distinct : fragments.Nodup) (several : fragments.length ≠ 1) :
    (conjunctionText .condition true separator (canonical true true fragments)).length =
      (fragments.map String.length).sum + separator.length * (fragments.length - 1) +
        separator.length + 9 := by
  have permuted := perm_canonical distinct
  rw [conjunctionText_of_length separator (permuted.length_eq.trans_ne several)]
  simp only [String.length_append, length_intercalate, permuted.length_eq,
    (permuted.map String.length).sum_eq]
  have ends : ":where [".length = 8 ∧ "]".length = 1 := by decide
  omega

theorem queryText_injective {find left right : String} {keys : QueryKeys}
    (same : queryText find left keys = queryText find right keys) : left = right := by
  delta queryText at same
  simpa only [String.append_left_inj, String.append_right_inj] using same

theorem conjunctionText_pair (separator first second : String) :
    conjunctionText .condition true separator [first, second] =
      ":where [" ++ separator ++ (first ++ (separator ++ (second ++ "]"))) := by
  simp [conjunctionText, String.append_assoc]

/-- Changing one of two fragments changes their list if neither can begin like the other one. -/
theorem conjunctionText_pair_ne {left right kept : String} (different : left ≠ right)
    (leftApart : ∀ front back, left ++ front ≠ kept ++ back)
    (rightApart : ∀ front back, right ++ front ≠ kept ++ back) (separator : String) :
    conjunctionText .condition true separator (canonical true true [left, kept]) ≠
      conjunctionText .condition true separator (canonical true true [right, kept]) := by
  have leftOther : left ≠ kept := fun same => leftApart "" "" (congrArg (· ++ "") same)
  have rightOther : right ≠ kept := fun same => rightApart "" "" (congrArg (· ++ "") same)
  rcases canonical_pair leftOther with leftOrder | leftOrder <;>
    rcases canonical_pair rightOther with rightOrder | rightOrder <;>
    rw [leftOrder, rightOrder, conjunctionText_pair, conjunctionText_pair, Ne,
      String.append_right_inj]
  · rw [String.append_left_inj]
    exact different
  · exact leftApart _ _
  · exact fun same => rightApart _ _ same.symm
  · rw [String.append_right_inj, String.append_right_inj, String.append_left_inj]
    exact different

end Clause

namespace TypedQuery

/-! ## Patterns of joins -/

/-- A join has a single pattern that begins with its name. -/
theorem text_join {shared : String} {join : List Clause → Clause}
    (kind : join = .negationJoin shared ∨ join = .disjunctionJoin shared) (body : List Clause) :
    (∃ rest, (join body).text false " " = "(not-join [" ++ rest) ∨
      ∃ rest, (join body).text false " " = "(or-join [" ++ rest := by
  rcases kind with rfl | rfl
  · left
    exact ⟨_, by simp only [Clause.text, Clause.conditionText, String.append_assoc]; rfl⟩
  · right
    exact ⟨_, by simp only [Clause.text, Clause.conditionText, String.append_assoc]; rfl⟩

/-- The pattern on the type is a triple or a disjunction. -/
theorem typePattern_cases (entityType : EntityType) :
    (∃ rest, typePattern entityType = "[ " ++ rest) ∨
      ∃ rest, typePattern entityType = "(or " ++ rest := by
  unfold typePattern typeCondition
  split
  · left
    exact ⟨_, by
      simp only [Clause.text, Clause.conditionText, Clause.patternText, String.append_assoc]; rfl⟩
  · right
    exact ⟨_, by simp only [Clause.text, Clause.conditionText, String.append_assoc]; rfl⟩

/-- The pattern of empty texts is shorter than the one on the type. -/
theorem emptyPattern_ne_typePattern (entityType : EntityType) :
    Clause.patternText "" "" "" ≠ typePattern entityType := by
  intro same
  unfold typePattern typeCondition at same
  split at same
  · have lengths := congrArg String.length same
    rw [Clause.text, Clause.conditionText, if_neg (by decide), Clause.length_patternText,
      Clause.length_patternText] at lengths
    have key : typeKey.length = 4 := rfl
    have empty : "".length = 0 := rfl
    omega
  · rw [Clause.text, Clause.conditionText, if_neg (by decide)] at same
    have heads := congrArg (fun text => text.toList.head?) same
    simp [Clause.patternText] at heads

/-- Joins and the pattern on the type begin differently. -/
theorem text_join_append_ne {shared : String} {join : List Clause → Clause}
    (kind : join = .negationJoin shared ∨ join = .disjunctionJoin shared) (body : List Clause)
    (entityType : EntityType) (front back : String) :
    (join body).text false " " ++ front ≠ typePattern entityType ++ back := by
  intro same
  have heads := congrArg (fun text => text.toList.take 4) same
  rcases text_join kind body with ⟨rest, joined⟩ | ⟨rest, joined⟩ <;>
    rcases typePattern_cases entityType with ⟨typed, type⟩ | ⟨typed, type⟩ <;>
    simp [joined, type] at heads

/-- The query holds its type and the join. -/
theorem patterns_of_join {query : TypedQuery} {shared : String} {join : List Clause → Clause}
    (kind : join = .negationJoin shared ∨ join = .disjunctionJoin shared) {body : List Clause}
    (held : query.filter = some (join body)) :
    query.patterns =
      canonical true true [(join body).text false " ", typePattern query.resultType] := by
  have parts : query.filter.toList.flatMap (Clause.parts .condition) = [join body] := by
    rw [held]
    rcases kind with rfl | rfl <;> rfl
  have commutes : Clause.allCommutative
      (query.filter.toList.flatMap (Clause.parts .condition)) = true := by
    rw [parts]
    rcases kind with rfl | rfl <;> rfl
  rw [patterns_eq_canonical commutes, parts]
  rcases kind with rfl | rfl <;> rfl

/-- The last of two new patterns ends the pattern of the join that takes them in. -/
theorem text_join_end {shared : String} {join : List Clause → Clause}
    (kind : join = .negationJoin shared ∨ join = .disjunctionJoin shared) (body : List Clause)
    {first second : String} (different : first ≠ second)
    (firstFresh : Clause.patternText "" "" first ∉
      Clause.conjuncts .condition body ++ Clause.alternatives body)
    (secondFresh : Clause.patternText "" "" second ∉
      Clause.conjuncts .condition body ++ Clause.alternatives body) :
    ∃ front, (join (body ++ [.pattern "" "" first, .pattern "" "" second])).text false " " =
      front ++ Clause.patternText "" "" second ++ ")" := by
  have apart : Clause.patternText "" "" first ≠ Clause.patternText "" "" second := by
    simpa [Clause.patternText] using different
  rw [List.mem_append, not_or] at firstFresh secondFresh
  rcases kind with rfl | rfl
  · obtain ⟨front, ends⟩ := exists_intercalate_fresh " " (Clause.allIdempotent (body ++
      [.pattern "" "" first, .pattern "" "" second])) firstFresh.1 secondFresh.1 apart
    refine ⟨"(not-join [" ++ shared ++ "] " ++ front, ?_⟩
    rw [Clause.text, Clause.conjuncts_append, Clause.conditionText, if_neg (by decide)]
    show _ ++ String.intercalate _ (canonical _ _ (_ ++
      [Clause.patternText "" "" first, Clause.patternText "" "" second])) ++ _ = _
    rw [ends]
    simp [String.append_assoc]
  · obtain ⟨front, ends⟩ := exists_intercalate_fresh " " (Clause.allIdempotent (body ++
      [.pattern "" "" first, .pattern "" "" second])) firstFresh.2 secondFresh.2 apart
    refine ⟨"(or-join [" ++ shared ++ "] " ++ front, ?_⟩
    rw [Clause.text, Clause.alternatives_append, Clause.conditionText, if_neg (by decide)]
    show _ ++ String.intercalate _ (canonical _ _ (_ ++
      [Clause.patternText "" "" first, Clause.patternText "" "" second])) ++ _ = _
    rw [ends]
    simp [String.append_assoc]

/-- There are two patterns of the same length that are not in a list. -/
theorem exists_fresh_patterns (fragments : List String) :
    ∃ first second : String, first ≠ second ∧
      (Clause.patternText "" "" first).length = (Clause.patternText "" "" second).length ∧
      Clause.patternText "" "" first ∉ fragments ∧
      Clause.patternText "" "" second ∉ fragments := by
  let size := (fragments.map String.length).sum + 1
  have fresh : ∀ mark : Char,
      Clause.patternText "" "" (String.ofList (List.replicate size mark)) ∉ fragments := by
    intro mark member
    have bounded : (Clause.patternText "" "" (String.ofList (List.replicate size mark))).length ≤
        (fragments.map String.length).sum := List.le_sum_of_mem (List.mem_map_of_mem member)
    simp only [Clause.length_patternText, String.length_ofList, List.length_replicate] at bounded
    omega
  refine ⟨_, _, ?_, ?_, fresh 'a', fresh 'b'⟩
  · intro same
    have marks := List.replicate_right_injective (by omega) (String.ofList_injective same)
    exact absurd marks (by decide)
  · simp [Clause.length_patternText]

/-- A join takes a constraint in, whatever it is. -/
theorem filter_apply_of_join {resultType : EntityType} {calls : List BuilderCall}
    {query : TypedQuery} (reached : (ofType resultType).run calls = .ok query)
    (opening : opensWithJoin (conditionsOf calls) = true) :
    ∃ shared join body, (join = Clause.negationJoin shared ∨ join = .disjunctionJoin shared) ∧
      query.filter = some (join body) ∧
      ∀ (constraint : Constraint) (next : TypedQuery), constraint.apply query = .ok next →
        next.filter = some (join (body ++ constraint.conditions)) := by
  obtain ⟨filtered, _, _⟩ := run_calls (hasCondition_ofType resultType) reached
  rw [← isJoin_filter_run reached, Option.any_eq_true] at opening
  obtain ⟨filter, present, isJoin⟩ := opening
  obtain ⟨shared, join, body, kind, rfl⟩ := exists_join isJoin
  refine ⟨shared, join, body, kind, present, ?_⟩
  intro constraint next applied
  obtain ⟨_, rfl⟩ := (constraint.apply_eq_ok_iff filtered).mp applied
  show List.foldl _ query.filter _ = _
  rw [present]
  exact foldl_conjoined_join kind constraint.conditions body

/-- Any two constraints can change places. -/
def Swappable (query : TypedQuery) : Prop :=
  ∀ (first second : Constraint) (next : TypedQuery),
    (∀ clause ∈ first.conditions ++ second.conditions, clause.isCondition = true) →
    query.run [.constrain first, .constrain second] = .ok next →
    ∃ other, query.run [.constrain second, .constrain first] = .ok other ∧
      ∀ separator, other.text separator = next.text separator

theorem conditionsOf_append_pair (calls : List BuilderCall) (left right : Constraint) :
    conditionsOf (calls ++ [.constrain left, .constrain right]) =
      conditionsOf calls ++ left.conditions ++ right.conditions := by
  simp [conditionsOf, BuilderCall.conditions]

section Swap

variable {resultType : EntityType} {calls : List BuilderCall} {query next : TypedQuery}
  (reached : (ofType resultType).run calls = .ok query) {first second : Constraint}
  (built : ∀ clause ∈ conditionsOf calls, clause.isCondition = true)
  (later : ∀ clause ∈ first.conditions ++ second.conditions, clause.isCondition = true)

include reached built later

/-- The patterns of a run are those of its conditions if none of them falls into a join. -/
theorem patterns_pair
    (inOrder : opensWithJoin
      (conditionsOf calls ++ first.conditions ++ second.conditions) = false)
    (applied : query.run [.constrain first, .constrain second] = .ok next) :
    next.patterns = canonical true true
      ((conditionsOf calls ++ first.conditions ++ second.conditions).flatMap Clause.patterns ++
        [typePattern resultType]) := by
  have all : ∀ clause ∈ conditionsOf calls ++ first.conditions ++ second.conditions,
      clause.isCondition = true := by
    rw [List.append_assoc]
    exact List.forall_mem_append.mpr ⟨built, later⟩
  rw [patterns_run ((run_append reached _).trans applied), conditionsOf_append_pair]
  · rw [conditionsOf_append_pair]
    exact noneBehindJoin_of_open inOrder
  · rwa [conditionsOf_append_pair]

/-- Two constraints can change places unless one of them would fall into a join. -/
theorem swap_constraints
    (inOrder : opensWithJoin
      (conditionsOf calls ++ first.conditions ++ second.conditions) = false)
    (swapped : opensWithJoin
      (conditionsOf calls ++ second.conditions ++ first.conditions) = false)
    (applied : query.run [.constrain first, .constrain second] = .ok next) :
    ∃ other, query.run [.constrain second, .constrain first] = .ok other ∧
      ∀ separator, other.text separator = next.text separator := by
  obtain ⟨filtered, _, _⟩ := run_calls (hasCondition_ofType resultType) reached
  obtain ⟨firstAccepted, secondAccepted, rfl⟩ := (run_pair filtered).mp applied
  have otherApplied := (run_pair filtered).mpr ⟨secondAccepted, firstAccepted, rfl⟩
  have otherLater : ∀ clause ∈ second.conditions ++ first.conditions,
      clause.isCondition = true := by
    intro clause member
    exact later clause (List.mem_append.mpr (List.mem_append.mp member).symm)
  have samePatterns : (query.withConditions (second.conditions ++ first.conditions)).patterns =
      (query.withConditions (first.conditions ++ second.conditions)).patterns := by
    rw [patterns_pair reached built later inOrder applied,
      patterns_pair reached built otherLater swapped otherApplied]
    apply canonical_congr
    intro fragment
    simp only [List.flatMap_append, List.mem_append, or_right_comm]
  refine ⟨_, otherApplied, fun separator => ?_⟩
  rw [text_eq_patterns, text_eq_patterns, samePatterns]
  rfl

end Swap

theorem run_whereClauses {query : TypedQuery} (filtered : query.HasCondition)
    {first second : Clause} (firstCondition : first.kind = .condition)
    (secondCondition : second.kind = .condition) :
    query.run [.constrain (.whereClause first), .constrain (.whereClause second)] =
      .ok (query.withConditions [first, second]) :=
  (run_pair filtered).mpr ⟨firstCondition, secondCondition, rfl⟩

/-- Two conditions that can change places are listed in the same way. -/
theorem Swappable.conjunctionText_eq {query : TypedQuery} (swappable : query.Swappable)
    (filtered : query.HasCondition) {first second : Clause}
    (firstCondition : first.isCondition = true) (secondCondition : second.isCondition = true)
    (separator : String) :
    Clause.conjunctionText .condition true separator
        (query.withConditions [second, first]).patterns =
      Clause.conjunctionText .condition true separator
        (query.withConditions [first, second]).patterns := by
  have firstKind := Clause.kind_of_isCondition firstCondition
  have secondKind := Clause.kind_of_isCondition secondCondition
  have built : ∀ clause ∈ [first, second], clause.isCondition = true := by
    simp [firstCondition, secondCondition]
  obtain ⟨other, applied, same⟩ :=
    swappable (.whereClause first) (.whereClause second) _ built
      (run_whereClauses filtered firstKind secondKind)
  rw [run_whereClauses filtered secondKind firstKind] at applied
  cases applied
  have texts := same separator
  rw [text_eq_patterns, text_eq_patterns] at texts
  exact Clause.queryText_injective texts

/-- In a join the order of two new patterns shows. -/
theorem not_swappable_of_join {resultType : EntityType} {calls : List BuilderCall}
    {query : TypedQuery} (reached : (ofType resultType).run calls = .ok query)
    (opening : opensWithJoin (conditionsOf calls) = true) : ¬ query.Swappable := by
  intro swappable
  obtain ⟨filtered, _, _⟩ := run_calls (hasCondition_ofType resultType) reached
  obtain ⟨shared, join, body, kind, held, _⟩ := filter_apply_of_join reached opening
  obtain ⟨first, second, different, sameLength, firstFresh, secondFresh⟩ :=
    exists_fresh_patterns (Clause.conjuncts .condition body ++ Clause.alternatives body)
  have taken : ∀ left right : String,
      (query.withConditions [.pattern "" "" left, .pattern "" "" right]).patterns =
        canonical true true
          [(join (body ++ [.pattern "" "" left, .pattern "" "" right])).text false " ",
            typePattern query.resultType] := by
    intro left right
    apply patterns_of_join kind
    show List.foldl _ query.filter _ = _
    rw [held]
    exact foldl_conjoined_join kind _ _
  have firstClause : (Clause.pattern "" "" first).isCondition = true := rfl
  have secondClause : (Clause.pattern "" "" second).isCondition = true := rfl
  have lists := swappable.conjunctionText_eq filtered firstClause secondClause " "
  rw [taken, taken] at lists
  revert lists
  apply Clause.conjunctionText_pair_ne
  · intro same
    obtain ⟨front, ends⟩ := text_join_end kind body different firstFresh secondFresh
    obtain ⟨otherFront, otherEnds⟩ :=
      text_join_end kind body different.symm secondFresh firstFresh
    rw [ends, otherEnds, String.append_left_inj, ← String.toList_inj, String.toList_append,
      String.toList_append] at same
    rw [← String.length_toList, ← String.length_toList] at sameLength
    have lastSame := String.toList_inj.mp (List.append_inj' same sameLength).2
    exact different (by simpa [Clause.patternText] using lastSame)
  · exact text_join_append_ne kind _ _
  · exact text_join_append_ne kind _ _

section Unfiltered

variable {query : TypedQuery} (unfiltered : query.filter = none)

include unfiltered

/-- A pattern that follows a join is in it. -/
theorem patterns_joinFirst :
    (query.withConditions [.negationJoin "" [], .pattern "" "" ""]).patterns =
      canonical true true ["(not-join [] [  :  ])", typePattern query.resultType] := by
  have held : (query.withConditions [.negationJoin "" [], .pattern "" "" ""]).filter =
      some (.negationJoin "" [.pattern "" "" ""]) := by
    show List.foldl _ query.filter _ = _
    rw [unfiltered]
    rfl
  rw [patterns_of_join (.inl rfl) held]
  rfl

/-- A pattern that comes before a join stands beside it. -/
theorem patterns_joinLast :
    (query.withConditions [.pattern "" "" "", .negationJoin "" []]).patterns =
      canonical true true ["[  :  ]", "(not-join [] )", typePattern query.resultType] := by
  have parts : (query.withConditions
      [.pattern "" "" "", .negationJoin "" []]).filter.toList.flatMap
        (Clause.parts .condition) = [.pattern "" "" "", .negationJoin "" []] := by
    show (List.foldl _ query.filter _).toList.flatMap _ = _
    rw [unfiltered]
    rfl
  rw [patterns_eq_canonical (by rw [parts]; rfl), parts]
  rfl

end Unfiltered

theorem text_join_ne_typePattern (body : List Clause) (entityType : EntityType) :
    (Clause.negationJoin "" body).text false " " ≠ typePattern entityType := by
  intro same
  exact text_join_append_ne (.inl rfl) body entityType "" "" (congrArg (· ++ "") same)

theorem nodup_joinFirst (entityType : EntityType) :
    ["(not-join [] [  :  ])", typePattern entityType].Nodup := by
  have different : "(not-join [] [  :  ])" ≠ typePattern entityType :=
    text_join_ne_typePattern [.pattern "" "" ""] entityType
  simpa using different

theorem nodup_joinLast (entityType : EntityType) :
    ["[  :  ]", "(not-join [] )", typePattern entityType].Nodup := by
  have joinDifferent : "(not-join [] )" ≠ typePattern entityType :=
    text_join_ne_typePattern [] entityType
  have patternDifferent : "[  :  ]" ≠ typePattern entityType :=
    emptyPattern_ne_typePattern entityType
  simp [joinDifferent, patternDifferent]

/-- One more pattern takes one more separator. -/
theorem conjunctionText_joins_ne (entityType : EntityType) :
    Clause.conjunctionText .condition true " "
        (canonical true true ["(not-join [] [  :  ])", typePattern entityType]) ≠
      Clause.conjunctionText .condition true " "
        (canonical true true ["[  :  ]", "(not-join [] )", typePattern entityType]) := by
  intro same
  have lengths := congrArg String.length same
  rw [Clause.length_conjunctionText_canonical " " (nodup_joinLast entityType) (by simp),
    Clause.length_conjunctionText_canonical " " (nodup_joinFirst entityType) (by simp)] at lengths
  have sizes : "[  :  ]".length = 7 ∧ "(not-join [] )".length = 14 ∧
      "(not-join [] [  :  ])".length = 21 ∧ " ".length = 1 := by decide
  simp only [List.map_cons, List.map_nil, List.sum_cons, List.sum_nil, List.length_cons,
    List.length_nil, sizes] at lengths
  omega

/-- A join that comes first takes in what could have come before it. -/
theorem not_swappable_of_nil {resultType : EntityType} {calls : List BuilderCall}
    {query : TypedQuery} (reached : (ofType resultType).run calls = .ok query)
    (none_ : conditionsOf calls = []) : ¬ query.Swappable := by
  intro swappable
  obtain ⟨filtered, filter, _⟩ := run_calls (hasCondition_ofType resultType) reached
  have unfiltered : query.filter = none := by rw [filter, none_]; rfl
  have joinClause : (Clause.negationJoin "" []).isCondition = true := rfl
  have patternClause : (Clause.pattern "" "" "").isCondition = true := rfl
  have lists := swappable.conjunctionText_eq filtered patternClause joinClause " "
  rw [patterns_joinFirst unfiltered, patterns_joinLast unfiltered] at lists
  exact conjunctionText_joins_ne query.resultType lists

end TypedQuery

end Bitemporal
