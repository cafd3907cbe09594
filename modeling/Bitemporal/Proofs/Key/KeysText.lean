/-
This file shows that the text of the keys of a query determines them.
-/
import Bitemporal.Key.Keys
import Bitemporal.Proofs.Edn.Piece
import Bitemporal.Proofs.Key.ValuesText
import Bitemporal.Proofs.Text.Digits

namespace Bitemporal

open Edn

/-- Lists are the same if their images are and no two items that occur share an image. -/
theorem eq_of_map_eq {Item Image : Type} {image : Item → Image} {left right : List Item}
    (apart : ∀ item ∈ left, ∀ other ∈ right, image item = image other → item = other)
    (same : left.map image = right.map image) : left = right := by
  induction left generalizing right with
  | nil => exact (List.map_eq_nil_iff.mp same.symm).symm
  | cons first rest inductionHypothesis =>
      obtain ⟨second, others, rfl, firstSame, restSame⟩ := List.map_eq_cons_iff.mp same.symm
      have heads := apart first List.mem_cons_self second List.mem_cons_self firstSame.symm
      have tails := inductionHypothesis (fun item member other present =>
        apart item (List.mem_cons_of_mem _ member) other (List.mem_cons_of_mem _ present))
          restSame.symm
      rw [heads, tails]

/-! ## Bindings -/

/-- The names, one by one. -/
def BindingNames.texts : BindingNames → List String
  | .scalar name => [name]
  | .sequence names | .relation names => names

/-- The values, one by one. -/
def BindingValues.texts : BindingValues → List String
  | .scalar value => [value]
  | .sequence values => values
  | .relation rows => rows.flatten

namespace Binding

/-- A list in brackets is no atom. -/
theorem ne_bracketed_of_isAtom {text : String} (isAtom : IsAtom text) (texts : List String) :
    text ≠ bracketed texts := by
  have opened : (bracketed texts).toList.head? = some '[' := by simp [bracketed]
  rintro rfl
  rcases isAtom with token | ⟨value, _, literal⟩
  · have inside := (token.2 '[' (List.mem_of_head? opened)).1
    revert inside
    decide
  · rw [literal, quote, String.toList_ofList] at opened
    cases opened

theorem isPiece_marker : IsPiece marker := by decide

theorem isPiece_relation {names : List String} (atoms : ∀ name ∈ names, IsAtom name) :
    ∀ text ∈ [bracketed names, marker], IsPiece text := by
  rw [List.forall_mem_cons, List.forall_mem_singleton]
  exact ⟨isPiece_bracketed fun name member => (atoms name member).isPiece, isPiece_marker⟩

theorem fragment_relation (names : List String) (values : BindingValues) :
    fragment ⟨.relation names, values⟩ = bracketed [bracketed names, marker] := by
  simp [fragment, bracketed, String.append_assoc]

theorem isPiece_fragment {binding : Binding}
    (atoms : ∀ name ∈ binding.names.texts, IsAtom name) : IsPiece binding.fragment := by
  obtain ⟨names, values⟩ := binding
  cases names with
  | scalar name => exact (atoms name (List.mem_singleton_self name)).isPiece
  | sequence names => exact isPiece_bracketed fun name member => (atoms name member).isPiece
  | relation names =>
      rw [fragment_relation]
      exact isPiece_bracketed (isPiece_relation atoms)

/-- A relation is told from a sequence by its first name, which is a list. -/
theorem bracketed_ne_relation {names others : List String} (atoms : ∀ name ∈ names, IsAtom name)
    (otherAtoms : ∀ name ∈ others, IsAtom name) :
    bracketed names ≠ bracketed [bracketed others, marker] := by
  intro same
  have listed := bracketed_inj (fun name member => (atoms name member).isPiece)
    (isPiece_relation otherAtoms) same
  subst listed
  exact ne_bracketed_of_isAtom (atoms _ List.mem_cons_self) others rfl

/-- The names can be told from the way they are listed. -/
theorem names_eq_of_fragment {left right : Binding}
    (leftAtoms : ∀ name ∈ left.names.texts, IsAtom name)
    (rightAtoms : ∀ name ∈ right.names.texts, IsAtom name)
    (same : left.fragment = right.fragment) : left.names = right.names := by
  have pieces : ∀ {names : List String}, (∀ name ∈ names, IsAtom name) →
      ∀ name ∈ names, IsPiece name := fun atoms name member => (atoms name member).isPiece
  obtain ⟨leftNames, leftValues⟩ := left
  obtain ⟨rightNames, rightValues⟩ := right
  cases leftNames with
  | scalar name =>
      have isAtom := leftAtoms name (List.mem_singleton_self name)
      cases rightNames with
      | scalar other => exact congrArg BindingNames.scalar same
      | sequence others => exact absurd same (ne_bracketed_of_isAtom isAtom _)
      | relation others =>
          rw [fragment_relation] at same
          exact absurd same (ne_bracketed_of_isAtom isAtom _)
  | sequence names =>
      cases rightNames with
      | scalar other =>
          have isAtom := rightAtoms other (List.mem_singleton_self other)
          exact absurd same.symm (ne_bracketed_of_isAtom isAtom _)
      | sequence others =>
          exact congrArg BindingNames.sequence
            (bracketed_inj (pieces leftAtoms) (pieces rightAtoms) same)
      | relation others =>
          rw [fragment_relation] at same
          exact absurd same (bracketed_ne_relation leftAtoms rightAtoms)
  | relation names =>
      rw [fragment_relation] at same
      cases rightNames with
      | scalar other =>
          have isAtom := rightAtoms other (List.mem_singleton_self other)
          exact absurd same.symm (ne_bracketed_of_isAtom isAtom _)
      | sequence others => exact absurd same.symm (bracketed_ne_relation rightAtoms leftAtoms)
      | relation others =>
          rw [fragment_relation] at same
          have listed := bracketed_inj (isPiece_relation leftAtoms) (isPiece_relation rightAtoms)
            same
          have inner : bracketed names = bracketed others := (List.cons.inj listed).1
          exact congrArg BindingNames.relation
            (bracketed_inj (pieces leftAtoms) (pieces rightAtoms) inner)

end Binding

/-! ## Orders -/

namespace RowOrder

theorem fieldText_eq (field : String × Direction) :
    fieldText field = Binding.bracketed [field.1, ":" ++ field.2.keyword] := by
  have mark : " :" = " " ++ ":" := rfl
  rw [fieldText, Binding.bracketed, String.intercalate_cons_cons, String.intercalate_singleton,
    mark]
  simp only [String.append_assoc]

theorem isPiece_fieldText {field : String × Direction} (isAtom : IsAtom field.1) :
    (∀ text ∈ [field.1, ":" ++ field.2.keyword], IsPiece text) ∧ IsPiece (fieldText field) := by
  have keyword : IsPiece (":" ++ field.2.keyword) := by
    cases field.2 <;> decide
  have pieces : ∀ text ∈ [field.1, ":" ++ field.2.keyword], IsPiece text := by
    rw [List.forall_mem_cons, List.forall_mem_singleton]
    exact ⟨isAtom.isPiece, keyword⟩
  exact ⟨pieces, fieldText_eq field ▸ isPiece_bracketed pieces⟩

/-- A field and its direction can be told from the list they stand in. -/
theorem fieldText_inj {left right : String × Direction} (leftAtom : IsAtom left.1)
    (rightAtom : IsAtom right.1) (same : fieldText left = fieldText right) : left = right := by
  rw [fieldText_eq, fieldText_eq] at same
  have parts := bracketed_inj (isPiece_fieldText leftAtom).1 (isPiece_fieldText rightAtom).1 same
  obtain ⟨name, direction⟩ := left
  obtain ⟨other, otherDirection⟩ := right
  obtain ⟨rfl, keywords⟩ := List.cons.inj parts
  have keyword : ":" ++ direction.keyword = ":" ++ otherDirection.keyword :=
    (List.cons.inj keywords).1
  cases direction <;> cases otherDirection <;> first | rfl | cases keyword

theorem isPiece_fragment {order : RowOrder} (atoms : ∀ field ∈ order.fields, IsAtom field.1) :
    IsPiece order.fragment :=
  isPiece_bracketed <| List.forall_mem_map.mpr fun field member =>
    (isPiece_fieldText (atoms field member)).2

/-- An order can be told from its list of fields. -/
theorem fragment_inj {left right : RowOrder} (leftAtoms : ∀ field ∈ left.fields, IsAtom field.1)
    (rightAtoms : ∀ field ∈ right.fields, IsAtom field.1)
    (same : left.fragment = right.fragment) : left = right := by
  have pieces : ∀ {fields : List (String × Direction)}, (∀ field ∈ fields, IsAtom field.1) →
      ∀ text ∈ fields.map fieldText, IsPiece text :=
    fun atoms => List.forall_mem_map.mpr fun field member =>
      (isPiece_fieldText (atoms field member)).2
  have texts := bracketed_inj (pieces leftAtoms) (pieces rightAtoms) same
  have fields : left.fields = right.fields :=
    eq_of_map_eq (fun field member other present =>
      fieldText_inj (leftAtoms field member) (rightAtoms other present)) texts
  exact congrArg RowOrder.mk fields

end RowOrder

/-! ## Keys -/

namespace QueryKey

/-- What follows each keyword. -/
def payload : QueryKey → String
  | .binding bound => Binding.bracketed [bound.fragment]
  | .order sorted => sorted.fragment
  | .limit count | .offset count | .timeout count => toString count.toNat

theorem text_eq (key : QueryKey) : key.text = ":" ++ key.form ++ " " ++ key.payload := by
  cases key with
  | binding bound =>
      have keyword : ":in [" = ":" ++ "in" ++ " " ++ "[" := rfl
      simp only [text, Binding.text, form, payload, Binding.bracketed, keyword,
        String.intercalate_singleton, String.append_assoc]
  | _ => rfl

end QueryKey

namespace QueryKeys

/-- Names and fields are atoms, values have no backslashes, and names and values fit. -/
structure Legible (keys : QueryKeys) : Prop where
  fits : ∀ bound ∈ keys.binding, Binding.create bound.names bound.values = .ok bound
  names : ∀ bound ∈ keys.binding, ∀ name ∈ bound.names.texts, IsAtom name
  values : ∀ bound ∈ keys.binding, ∀ value ∈ bound.values.texts, '\\' ∉ value.toList
  fields : ∀ sorted ∈ keys.order, ∀ field ∈ sorted.fields, IsAtom field.1

/-- The keywords without their colons and what follows them. -/
def entries (keys : QueryKeys) : List (String × String) :=
  keys.toList.map fun key => (key.form, key.payload)

/-- The pieces of the entries, one after another. -/
def entryPieces (entries : List (String × String)) : List String :=
  entries.flatMap fun entry => [":" ++ entry.1, entry.2]

theorem text_eq_spaced (keys : QueryKeys) : keys.text = spaced (entryPieces keys.entries) := by
  rw [text, entries]
  induction keys.toList with
  | nil => rfl
  | cons key rest inductionHypothesis =>
      have pieces : entryPieces ((key :: rest).map fun key => (key.form, key.payload)) =
          (":" ++ key.form) :: key.payload ::
            entryPieces (rest.map fun key => (key.form, key.payload)) := rfl
      rw [pieces, spaced_cons, spaced_cons, ← inductionHypothesis, List.map_cons,
        String.join_cons, key.text_eq]
      simp only [String.append_assoc]

/-- Entries can be told from their pieces, of which each has two. -/
theorem entryPieces_inj {left right : List (String × String)}
    (same : entryPieces left = entryPieces right) : left = right := by
  induction left generalizing right with
  | nil =>
      cases right with
      | nil => rfl
      | cons second others => cases same
  | cons first rest inductionHypothesis =>
      cases right with
      | nil => cases same
      | cons second others =>
          obtain ⟨keyword, later⟩ := List.cons.inj same
          obtain ⟨value, later⟩ := List.cons.inj later
          rw [inductionHypothesis later]
          exact congrArg (· :: others) (Prod.ext ((String.append_right_inj ":").mp keyword) value)

theorem isPiece_entryPieces {keys : QueryKeys} (legible : keys.Legible) :
    ∀ text ∈ entryPieces keys.entries, IsPiece text := by
  intro text member
  obtain ⟨entry, inEntries, inside⟩ := List.mem_flatMap.mp member
  obtain ⟨key, present, rfl⟩ := List.mem_map.mp inEntries
  have keywords : ∀ form ∈ ["in", "order-by", "limit", "offset", "timeout"],
      IsPiece (":" ++ form) := by decide
  have keyword : IsPiece (":" ++ key.form) := keywords _ (by cases key <;> simp [QueryKey.form])
  have value : IsPiece key.payload := by
    cases key with
    | binding bound =>
        have held : bound ∈ keys.binding := by simpa [toList] using present
        exact isPiece_bracketed (List.forall_mem_singleton.mpr
          (Binding.isPiece_fragment (legible.names bound held)))
    | order sorted =>
        have held : sorted ∈ keys.order := by simpa [toList] using present
        exact RowOrder.isPiece_fragment (legible.fields sorted held)
    | limit count | offset count | timeout count => exact (isToken_toString _).isPiece
  rcases List.mem_cons.mp inside with rfl | last
  · exact keyword
  · rw [List.mem_singleton.mp last]
    exact value

/-- Each entry is found under its keyword. -/
theorem lookup_entries (keys : QueryKeys) :
    keys.entries.lookup "in" = keys.binding.map (fun bound => QueryKey.payload (.binding bound)) ∧
      keys.entries.lookup "order-by" =
        keys.order.map (fun sorted => QueryKey.payload (.order sorted)) ∧
      keys.entries.lookup "limit" =
        keys.limit.map (fun count => QueryKey.payload (.limit count)) ∧
      keys.entries.lookup "offset" =
        keys.offset.map (fun count => QueryKey.payload (.offset count)) ∧
      keys.entries.lookup "timeout" =
        keys.timeout.map (fun count => QueryKey.payload (.timeout count)) := by
  obtain ⟨binding, order, limit, offset, timeout⟩ := keys
  cases binding <;> cases order <;> cases limit <;> cases offset <;> cases timeout <;>
    exact ⟨rfl, rfl, rfl, rfl, rfl⟩

/-- A binding can be told from its names and its values. -/
theorem binding_inj {left right : QueryKeys} (leftLegible : left.Legible)
    (rightLegible : right.Legible)
    (names : left.binding.map (fun bound => QueryKey.payload (.binding bound)) =
      right.binding.map fun bound => QueryKey.payload (.binding bound))
    (values : left.valuesText = right.valuesText) : left.binding = right.binding := by
  rcases leftBound : left.binding with _ | bound
  · rw [leftBound] at names
    exact (Option.map_eq_none_iff.mp names.symm).symm
  · rw [leftBound, Option.map_some] at names
    obtain ⟨other, rightBound, same⟩ := Option.map_eq_some_iff.mp names.symm
    obtain ⟨leftNames, leftValues⟩ := bound
    obtain ⟨rightNames, rightValues⟩ := other
    rw [rightBound]
    have leftFits := (Binding.create_eq_ok_iff _ _ _).mp (leftLegible.fits _ leftBound)
    have rightFits := (Binding.create_eq_ok_iff _ _ _).mp (rightLegible.fits _ rightBound)
    have fragments := bracketed_inj
      (List.forall_mem_singleton.mpr (Binding.isPiece_fragment (rightLegible.names _ rightBound)))
      (List.forall_mem_singleton.mpr (Binding.isPiece_fragment (leftLegible.names _ leftBound)))
      same
    obtain rfl : rightNames = leftNames := Binding.names_eq_of_fragment
      (rightLegible.names _ rightBound) (leftLegible.names _ leftBound) (List.cons.inj fragments).1
    have sent : Binding.valuesFragment leftValues = Binding.valuesFragment rightValues := by
      simpa [valuesText, leftBound, rightBound, Binding.valuesText, String.append_right_inj,
        String.append_left_inj] using values
    have equal : leftValues = rightValues :=
      Binding.values_eq_of_fragment leftFits.1 rightFits.1 sent
    rw [equal]

theorem order_inj {left right : QueryKeys} (leftLegible : left.Legible)
    (rightLegible : right.Legible)
    (same : left.order.map (fun sorted => QueryKey.payload (.order sorted)) =
      right.order.map fun sorted => QueryKey.payload (.order sorted)) :
    left.order = right.order := by
  rcases leftSorted : left.order with _ | sorted
  · rw [leftSorted] at same
    exact (Option.map_eq_none_iff.mp same.symm).symm
  · rw [leftSorted, Option.map_some] at same
    obtain ⟨other, rightSorted, fields⟩ := Option.map_eq_some_iff.mp same.symm
    rw [rightSorted, RowOrder.fragment_inj (leftLegible.fields _ leftSorted)
      (rightLegible.fields _ rightSorted) fields.symm]

/-- Keys can be told from their entries and their values. -/
theorem eq_of_entries {left right : QueryKeys} (leftLegible : left.Legible)
    (rightLegible : right.Legible) (entries : left.entries = right.entries)
    (values : left.valuesText = right.valuesText) : left = right := by
  obtain ⟨leftNames, leftFields, leftLimit, leftOffset, leftTimeout⟩ := left.lookup_entries
  obtain ⟨rightNames, rightFields, rightLimit, rightOffset, rightTimeout⟩ := right.lookup_entries
  have counted : ∀ {first second : Option UInt64},
      first.map (fun count => toString count.toNat) =
        second.map (fun count => toString count.toNat) → first = second :=
    fun same => Option.map_injective Digits.unsignedText_injective same
  rw [entries] at leftNames leftFields leftLimit leftOffset leftTimeout
  have binding := binding_inj leftLegible rightLegible (leftNames.symm.trans rightNames) values
  have order := order_inj leftLegible rightLegible (leftFields.symm.trans rightFields)
  have limit := counted (leftLimit.symm.trans rightLimit)
  have offset := counted (leftOffset.symm.trans rightOffset)
  have timeout := counted (leftTimeout.symm.trans rightTimeout)
  obtain ⟨_, _, _, _, _⟩ := left
  obtain ⟨_, _, _, _, _⟩ := right
  cases binding
  cases order
  cases limit
  cases offset
  cases timeout
  rfl

end QueryKeys

end Bitemporal
