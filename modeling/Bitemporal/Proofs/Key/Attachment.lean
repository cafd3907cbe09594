/-
This file shows that keys are attached to a query in any order and way, and that of several keys of
one form the last one counts.
-/
import Bitemporal.Clause.Algebra
import Bitemporal.Proofs.Clause.Patterns
import Mathlib.Data.List.Induction
import Mathlib.Data.List.Pairwise
import Mathlib.Data.List.Perm.Basic

namespace Bitemporal

/-! ## Last keys -/

/-- Of the keys of one form the last one counts. -/
def lastKeys : List QueryKey → List QueryKey
  | [] => []
  | key :: later =>
      if later.any fun other => other.form == key.form then lastKeys later
      else key :: lastKeys later

theorem mem_of_mem_lastKeys {key : QueryKey} {keys : List QueryKey}
    (member : key ∈ lastKeys keys) : key ∈ keys := by
  induction keys with
  | nil => exact member
  | cons first later inductionHypothesis =>
      rw [lastKeys] at member
      split at member
      · exact List.mem_cons_of_mem _ (inductionHypothesis member)
      · exact (List.mem_cons.mp member).elim (fun same => same ▸ List.mem_cons_self)
          fun rest => List.mem_cons_of_mem _ (inductionHypothesis rest)

theorem pairwise_lastKeys (keys : List QueryKey) :
    (lastKeys keys).Pairwise fun first second => first.form ≠ second.form := by
  induction keys with
  | nil => exact List.Pairwise.nil
  | cons key later inductionHypothesis =>
      rw [lastKeys]
      split
      · exact inductionHypothesis
      · next last =>
          refine List.pairwise_cons.mpr ⟨fun other member same => ?_, inductionHypothesis⟩
          apply last
          rw [List.any_eq_true]
          exact ⟨other, mem_of_mem_lastKeys member, beq_iff_eq.mpr same.symm⟩

namespace QueryKeys

/-- A key is replaced by a later one of its form. -/
theorem foldl_set_of_replaced {key : QueryKey} {later : List QueryKey} (keys : QueryKeys)
    (replaced : ∃ other ∈ later, other.form = key.form) :
    later.foldl set (keys.set key) = later.foldl set keys := by
  induction later generalizing keys with
  | nil => simp at replaced
  | cons first rest inductionHypothesis =>
      rw [List.foldl_cons, List.foldl_cons]
      by_cases same : first.form = key.form
      · rw [set_set_of_form_eq keys same.symm]
      · rw [set_comm_of_form_ne keys (Ne.symm same)]
        apply inductionHypothesis
        simpa [same] using replaced

theorem foldl_set_lastKeys (keys : QueryKeys) (entries : List QueryKey) :
    (lastKeys entries).foldl set keys = entries.foldl set keys := by
  induction entries generalizing keys with
  | nil => rfl
  | cons key later inductionHypothesis =>
      rw [lastKeys, List.foldl_cons]
      split
      · next replaced =>
          rw [inductionHypothesis, foldl_set_of_replaced]
          simpa using replaced
      · rw [List.foldl_cons, inductionHypothesis]

/-- The last keys may be set in any order. -/
theorem foldl_set_of_perm_lastKeys (keys : QueryKeys) {selected entries : List QueryKey}
    (permuted : selected.Perm (lastKeys entries)) :
    selected.foldl set keys = entries.foldl set keys := by
  rw [← foldl_set_lastKeys keys entries]
  symm
  apply permuted.symm.foldl_eq'
  intro first firstMember second secondMember start
  by_cases same : first = second
  · rw [same]
  · have symmetric : Std.Symm fun one other : QueryKey => one.form ≠ other.form :=
      ⟨fun _ _ => Ne.symm⟩
    have apart := (pairwise_lastKeys entries).forall firstMember secondMember same
    exact set_comm_of_form_ne start apart

end QueryKeys

/-! ## Entries by form -/

/-- The last key of this form. -/
def lastOf? (form : String) (entries : List QueryKey) : Option QueryKey :=
  (entries.filter fun entry => entry.form == form).getLast?

theorem lastOf?_append_singleton (form : String) (entries : List QueryKey) (entry : QueryKey) :
    lastOf? form (entries ++ [entry]) =
      if entry.form = form then some entry else lastOf? form entries := by
  by_cases same : entry.form = form <;> simp [lastOf?, same]

/-- The forms of keys in the order in which a query lists them. -/
def QueryKey.forms : List String := ["in", "order-by", "limit", "offset", "timeout"]

namespace QueryKeys

/-- The entry of this form. -/
def lookup (keys : QueryKeys) : String → Option QueryKey
  | "in" => keys.binding.map .binding
  | "order-by" => keys.order.map .order
  | "limit" => keys.limit.map .limit
  | "offset" => keys.offset.map .offset
  | "timeout" => keys.timeout.map .timeout
  | _ => none

/-- A key is found under its form, and under all others there is what was there before. -/
theorem lookup_set (keys : QueryKeys) (entry : QueryKey) (form : String) :
    (keys.set entry).lookup form = if entry.form = form then some entry else keys.lookup form := by
  cases entry <;> simp only [QueryKey.form, set, lookup] <;> split <;> simp_all [eq_comm]

/-- Under each form there is the last key of this form, if any of them was set. -/
theorem lookup_foldl_set (keys : QueryKeys) (entries : List QueryKey) (form : String) :
    (entries.foldl set keys).lookup form = (lastOf? form entries).or (keys.lookup form) := by
  induction entries using List.reverseRecOn with
  | nil => rfl
  | append_singleton entries entry inductionHypothesis =>
      rw [List.foldl_append, List.foldl_cons, List.foldl_nil, lookup_set, inductionHypothesis,
        lastOf?_append_singleton]
      split <;> rfl

theorem eq_of_lookup {left right : QueryKeys}
    (same : ∀ form ∈ QueryKey.forms, left.lookup form = right.lookup form) : left = right := by
  obtain ⟨binding, order, limit, offset, timeout⟩ := left
  obtain ⟨otherBinding, otherOrder, otherLimit, otherOffset, otherTimeout⟩ := right
  rw [mk.injEq]
  refine ⟨?_, ?_, ?_, ?_, ?_⟩
  · exact Option.map_injective (fun _ _ => QueryKey.binding.inj) (same "in" (by decide))
  · exact Option.map_injective (fun _ _ => QueryKey.order.inj) (same "order-by" (by decide))
  · exact Option.map_injective (fun _ _ => QueryKey.limit.inj) (same "limit" (by decide))
  · exact Option.map_injective (fun _ _ => QueryKey.offset.inj) (same "offset" (by decide))
  · exact Option.map_injective (fun _ _ => QueryKey.timeout.inj) (same "timeout" (by decide))

theorem toList_eq_filterMap_lookup (keys : QueryKeys) :
    keys.toList = QueryKey.forms.filterMap keys.lookup := by
  obtain ⟨binding, order, limit, offset, timeout⟩ := keys
  cases binding <;> cases order <;> cases limit <;> cases offset <;> cases timeout <;> rfl

end QueryKeys

/-- The values that stand beside a query with this entry for its binding. -/
def valuesBeside : Option QueryKey → String
  | some (.binding bound) => " " ++ bound.valuesText
  | _ => ""

theorem QueryKeys.valuesText_eq (keys : QueryKeys) :
    keys.valuesText = valuesBeside (keys.lookup "in") := by
  obtain ⟨binding, order, limit, offset, timeout⟩ := keys
  cases binding <;> rfl

/-! ## Attached keys -/

/-- A key is conjoined to a complete query, added to it or set in it. -/
inductive Attachment where
  | conjoined (entry : QueryKey)
  | added (entry : QueryKey)
  | placed (entry : QueryKey)

namespace Attachment

def entry : Attachment → QueryKey
  | .conjoined entry | .added entry | .placed entry => entry

def apply (query : CompleteQuery) : Attachment → Outcome CompleteQuery
  | .conjoined entry => do
      let clause ← query.clause.conjoin (.key entry)
      CompleteQuery.ofClause clause
  | .added entry => .ok (query.withKey entry)
  | .placed entry => do
      let () ← (query.setKey (.key entry)).2
      return (query.setKey (.key entry)).1

/-- The ways differ in nothing but the call. -/
theorem apply_eq (query : CompleteQuery) (attachment : Attachment) :
    attachment.apply query = .ok (query.withKey attachment.entry) := by
  cases attachment with
  | conjoined entry =>
      rw [apply, CompleteQuery.conjoin_clause]
      rfl
  | added entry | placed entry => rfl

end Attachment

namespace CompleteQuery

/-- Keys are attached one after another. -/
def attachAll (query : CompleteQuery) (attachments : List Attachment) : Outcome CompleteQuery :=
  attachments.foldlM Attachment.apply query

theorem attachAll_eq (query : CompleteQuery) (attachments : List Attachment) :
    query.attachAll attachments =
      .ok { query with
        keys := (attachments.map Attachment.entry).foldl QueryKeys.set query.keys } := by
  induction attachments generalizing query with
  | nil => rfl
  | cons attachment rest inductionHypothesis =>
      rw [attachAll, List.foldlM_cons, Attachment.apply_eq]
      exact inductionHypothesis (query.withKey attachment.entry)

/-- The text of the query with these entries in place of its own. -/
def textWith (query : CompleteQuery) (separator : String) (entryOf : String → Option QueryKey) :
    String :=
  "\x7b:query \x7b" ++ query.find.text true " " ++ " " ++ query.filter.text true separator ++
    String.join ((QueryKey.forms.filterMap entryOf).map fun entry => " " ++ entry.text) ++ "\x7d" ++
    valuesBeside (entryOf "in") ++ "\x7d"

theorem text_clause (query : CompleteQuery) (atRoot : Bool) (separator : String) :
    query.clause.text atRoot separator = query.textWith separator query.keys.lookup := by
  have sections : query.clause.text atRoot separator =
      Clause.queryText (query.find.text true " ") (query.filter.text true separator)
        query.keys := by
    simp only [clause, Clause.text]
  rw [sections, Clause.queryText_eq, QueryKeys.text, QueryKeys.toList_eq_filterMap_lookup,
    QueryKeys.valuesText_eq]
  rfl

/-- A query takes keys in any order and by any way, and each of its entries is the last key of its
form or the one it had before. They are listed in a fixed order, with the values of the same binding
beside them, so that only the last key of each form counts. No other clause can be set, and the
query stays as it was. -/
theorem attached_last (query : CompleteQuery) (attachments : List Attachment) :
    (∃ attached, query.attachAll attachments = .ok attached ∧ attached.find = query.find ∧
      attached.filter = query.filter ∧
      (∀ form, attached.keys.lookup form =
        (lastOf? form (attachments.map Attachment.entry)).or (query.keys.lookup form)) ∧
      ∀ atRoot separator, attached.clause.text atRoot separator =
        query.textWith separator fun form =>
          (lastOf? form (attachments.map Attachment.entry)).or (query.keys.lookup form)) ∧
    (∀ others : List Attachment,
      (∀ form ∈ QueryKey.forms, lastOf? form (others.map Attachment.entry) =
        lastOf? form (attachments.map Attachment.entry)) →
      query.attachAll others = query.attachAll attachments) ∧
    ∀ clause : Clause, clause.kind ≠ .key →
      query.setKey clause = (query, .error (.combination "find-where" clause.form)) := by
  have listed := query.keys.lookup_foldl_set
  refine ⟨⟨_, query.attachAll_eq attachments, rfl, rfl, listed _, fun atRoot separator => ?_⟩,
    fun others same => ?_, fun clause other => ?_⟩
  · rw [text_clause]
    exact congrArg (query.textWith separator) (funext (listed _))
  · have keys : (others.map Attachment.entry).foldl QueryKeys.set query.keys =
        (attachments.map Attachment.entry).foldl QueryKeys.set query.keys := by
      apply QueryKeys.eq_of_lookup
      intro form member
      rw [listed, listed, same form member]
    rw [attachAll_eq, attachAll_eq, keys]
  · cases clause with
    | key entry => exact absurd rfl other
    | _ => rfl

/-- Names with their binding, at most three of them. -/
def boundNames : CompleteQuery :=
  ⟨.projection "?n", .pattern "?e" "name" "?n",
    (QueryKeys.empty.set (.limit 3)).set (.binding ⟨.scalar "?n", .scalar "a"⟩)⟩

/-- The binding and the limit are replaced, each in two ways. -/
def rebound : List Attachment :=
  [.placed (.timeout 9), .conjoined (.binding ⟨.scalar "?n", .scalar "b"⟩), .added (.limit 5),
    .placed (.binding ⟨.scalar "?n", .scalar "c"⟩), .conjoined (.limit 7)]

/-- Each key as it is replaced last, in another order. -/
def reboundOnce : List Attachment :=
  [.added (.limit 7), .conjoined (.binding ⟨.scalar "?n", .scalar "c"⟩), .added (.timeout 9)]

theorem attached_last_rebound :
    ∃ attached, boundNames.attachAll rebound = .ok attached ∧
      attached.clause.text true " " =
        "\x7b:query \x7b:find [?n] :where [[ ?e :name ?n ]] " ++
          ":in [?n] :limit 7 :timeout 9\x7d :in-args [\"c\"]\x7d" ∧
      (∀ form ∈ QueryKey.forms, lastOf? form (reboundOnce.map Attachment.entry) =
        lastOf? form (rebound.map Attachment.entry)) ∧
      boundNames.attachAll reboundOnce = .ok attached ∧
      Clause.kind (.pattern "?e" "old" "true") ≠ .key ∧
      boundNames.setKey (.pattern "?e" "old" "true") =
        (boundNames, .error (.combination "find-where" "where")) := by
  obtain ⟨⟨attached, accepted, _, _, _, text⟩, reordered, refused⟩ :=
    attached_last boundNames rebound
  have lasts : ∀ form ∈ QueryKey.forms,
      lastOf? form (reboundOnce.map Attachment.entry) =
        lastOf? form (rebound.map Attachment.entry) := by
    simp only [QueryKey.forms, List.forall_mem_cons]
    exact ⟨rfl, rfl, rfl, rfl, rfl, List.forall_mem_nil _⟩
  refine ⟨attached, accepted, (text true " ").trans ?_, lasts,
    (reordered reboundOnce lasts).trans accepted, by decide, refused _ (by decide)⟩
  decide

end CompleteQuery

end Bitemporal
