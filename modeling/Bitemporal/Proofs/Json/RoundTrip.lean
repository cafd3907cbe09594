/-
This file shows that JSON values are read back from their texts.
-/
import Bitemporal.Proofs.Json.Token
import Mathlib.Data.String.Basic

namespace Bitemporal.Json

/-! ## Values that have a text of their own -/

/-- The number is read back from its text. -/
def ReadsBack (value : Binary64) : Prop :=
  number (floatText value) = some (some (.float value), [])

theorem readsBack_half : ReadsBack (Binary64.ofDecimal false 25 (-1)) := by
  have written : floatText (Binary64.ofDecimal false 25 (-1)) = ['2', '.', '5'] := by
    decide +kernel
  have value : floatValue false ['2'] ['5'] 0 = some (Binary64.ofDecimal false 25 (-1)) := by
    decide +kernel
  have read : number ['2', '.', '5'] =
      some ((floatValue false ['2'] ['5'] 0).map .float, []) := by
    rfl
  rw [ReadsBack, written, read, value]
  rfl

mutual

/-- All floats of a value. -/
def floats : Json → List Binary64
  | .float value => [value]
  | .array items => floatsOfItems items
  | .object members => floatsOfMembers members
  | .null | .boolean _ | .integer _ | .string _ => []

def floatsOfItems : List Json → List Binary64
  | [] => []
  | item :: rest => floats item ++ floatsOfItems rest

def floatsOfMembers : List (String × Json) → List Binary64
  | [] => []
  | (_, value) :: rest => floats value ++ floatsOfMembers rest

end

mutual

/-- Integers fit in 64 bits, and objects list their members by increasing keys. -/
def WellFormed : Json → Prop
  | .integer value => -signedLimit ≤ value ∧ value < unsignedLimit
  | .array items => WellFormedItems items
  | .object members => (members.map Prod.fst).Pairwise (· < ·) ∧ WellFormedMembers members
  | .null | .boolean _ | .float _ | .string _ => True

def WellFormedItems : List Json → Prop
  | [] => True
  | item :: rest => WellFormed item ∧ WellFormedItems rest

def WellFormedMembers : List (String × Json) → Prop
  | [] => True
  | (_, value) :: rest => WellFormed value ∧ WellFormedMembers rest

end

mutual

/-- The number of brackets around the innermost value. -/
def depth : Json → Nat
  | .array items => depthOfItems items + 1
  | .object members => depthOfMembers members + 1
  | .null | .boolean _ | .integer _ | .float _ | .string _ => 0

def depthOfItems : List Json → Nat
  | [] => 0
  | item :: rest => max (depth item) (depthOfItems rest)

def depthOfMembers : List (String × Json) → Nat
  | [] => 0
  | (_, value) :: rest => max (depth value) (depthOfMembers rest)

end

theorem mem_floatsOfItems {items : List Json} {number : Binary64} :
    number ∈ floatsOfItems items ↔ ∃ item ∈ items, number ∈ item.floats := by
  induction items with
  | nil => simp [floatsOfItems]
  | cons item rest inductionHypothesis =>
      rw [floatsOfItems, List.mem_append, inductionHypothesis, List.exists_mem_cons_iff]

theorem wellFormedItems_iff {items : List Json} :
    WellFormedItems items ↔ ∀ item ∈ items, item.WellFormed := by
  induction items with
  | nil => simp [WellFormedItems]
  | cons item rest inductionHypothesis =>
      rw [WellFormedItems, inductionHypothesis, List.forall_mem_cons]

theorem depthOfItems_le_iff {items : List Json} {limit : Nat} :
    depthOfItems items ≤ limit ↔ ∀ item ∈ items, item.depth ≤ limit := by
  induction items with
  | nil => simp [depthOfItems]
  | cons item rest inductionHypothesis =>
      rw [depthOfItems, max_le_iff, inductionHypothesis, List.forall_mem_cons]

/-! ## Texts of lists -/

theorem itemTexts_eq_map (items : List Json) : itemTexts items = items.map characters := by
  induction items with
  | nil => rfl
  | cons item rest inductionHypothesis => rw [itemTexts, List.map_cons, inductionHypothesis]

theorem toList_intercalate (separator : String) (texts : List String) :
    (separator.intercalate texts).toList =
      separated separator.toList (texts.map String.toList) := by
  induction texts with
  | nil => rfl
  | cons first rest inductionHypothesis =>
      cases rest with
      | nil => simp [separated]
      | cons second others =>
          rw [String.intercalate_cons_cons, String.toList_append, String.toList_append,
            inductionHypothesis]
          rfl

/-- The texts of the items stand between brackets, with a comma between neighbours. -/
theorem text_array (items : List Json) :
    (array items).text = "[" ++ ",".intercalate (items.map text) ++ "]" := by
  have texts : (items.map text).map String.toList = itemTexts items := by
    rw [itemTexts_eq_map, List.map_map]
    exact List.map_congr_left fun item _ => String.toList_ofList
  apply String.toList_inj.mp
  rw [text, String.toList_ofList, characters, String.toList_append, String.toList_append,
    toList_intercalate, texts]
  rfl

/-! ## Members in order -/

/-- A key behind all others is put at the end. -/
theorem insert_of_lt {members : Members} {key : String} {value : Json}
    (last : ∀ entry ∈ members, entry.1 < key) :
    members.insert key value = members ++ [(key, value)] := by
  induction members with
  | nil => rfl
  | cons entry rest inductionHypothesis =>
      obtain ⟨before, later⟩ := List.forall_mem_cons.mp last
      have notBefore : ¬ key < entry.1 := lt_asymm before
      have different : key ≠ entry.1 := (ne_of_lt before).symm
      rw [Members.insert, if_neg notBefore, if_neg different, inductionHypothesis later,
        List.cons_append]

/-- Entries in order are the members of the object. -/
theorem ofEntries_of_sorted {entries : List (String × Json)}
    (sorted : (entries.map Prod.fst).Pairwise (· < ·)) : Members.ofEntries entries = entries := by
  have fold : ∀ (front later : List (String × Json)),
      ((front ++ later).map Prod.fst).Pairwise (· < ·) →
        later.foldl (fun members entry => Members.insert entry.1 entry.2 members) front =
          front ++ later := by
    intro front later
    induction later generalizing front with
    | nil => simp
    | cons entry rest inductionHypothesis =>
        intro increasing
        have last : ∀ earlier ∈ front, earlier.1 < entry.1 := by
          intro earlier member
          rw [List.map_append, List.map_cons] at increasing
          exact (List.pairwise_append.mp increasing).2.2 _ (List.mem_map_of_mem member) _
            List.mem_cons_self
        rw [List.append_cons front entry rest] at increasing ⊢
        rw [List.foldl_cons, insert_of_lt last]
        exact inductionHypothesis _ increasing
  exact fold [] entries sorted

/-! ## Texts of entries -/

/-- The text does not begin with a blank or a closing bracket. -/
def Opens (text : List Char) : Prop :=
  ∃ first rest, text = first :: rest ∧ isBlank first = false ∧ first ∉ [']', '\x7d']

/-- The entry is read back from its text wherever a value may end. -/
def Reads {Entry : Type} (reader : List Char → Option (Entry × List Char)) (text : List Char)
    (entry : Entry) : Prop :=
  ∀ rest, EndsValue rest → reader (text ++ rest) = some (entry, rest)

theorem skipBlank_cons {first : Char} (visible : isBlank first = false) (rest : List Char) :
    skipBlank (first :: rest) = first :: rest := by
  rw [skipBlank, List.dropWhile_cons_of_neg (by simp [visible])]

theorem Opens.skipBlank {text : List Char} (opens : Opens text) (rest : List Char) :
    Json.skipBlank (text ++ rest) = text ++ rest := by
  obtain ⟨first, later, rfl, visible, _⟩ := opens
  exact skipBlank_cons visible _

theorem length_le_separated (text : List Char) (texts : List (List Char)) :
    texts.length ≤ (separated [','] (text :: texts)).length := by
  induction texts generalizing text with
  | nil => exact Nat.zero_le _
  | cons next rest inductionHypothesis =>
      have later := inductionHypothesis next
      simp only [separated, List.length_append, List.length_cons, List.length_nil] at later ⊢
      omega

section Entries

variable {Entry : Type} {reader : List Char → Option (Entry × List Char)} {close : Char}
  (closing : close ∈ [']', '\x7d'])

include closing

theorem isBlank_of_closing : isBlank close = false := by
  simp only [List.mem_cons, List.not_mem_nil, or_false] at closing
  rcases closing with rfl | rfl <;> rfl

/-- Entries between commas are read one after another. -/
theorem entries_separated {texts : List (List Char)} {items : List Entry}
    (reads : List.Forall₂ (Reads reader) texts items) {text : List Char} {item : Entry}
    (first : Reads reader text item) {fuel : Nat} (fuelled : texts.length < fuel)
    (rest : List Char) :
    entries close reader fuel (separated [','] (text :: texts) ++ close :: rest) =
      some (item :: items, rest) := by
  have ends : EndsValue (close :: rest) := endsValue_cons (List.mem_cons_of_mem _ closing) rest
  have noComma : close ≠ ',' := by
    rintro rfl
    exact absurd closing (by decide)
  induction reads generalizing text item fuel with
  | nil =>
      obtain ⟨fuel, rfl⟩ := Nat.exists_eq_add_of_lt fuelled
      show entries close reader (_ + 1) (text ++ close :: rest) = _
      rw [entries, first _ ends]
      simp only [skipBlank_cons (isBlank_of_closing closing), noComma, if_false, if_true]
  | @cons nextText nextItem texts items next _ inductionHypothesis =>
      rcases fuel with _ | fuel
      · exact absurd fuelled (Nat.not_lt_zero _)
      have comma : EndsValue (',' :: (separated [','] (nextText :: texts) ++ close :: rest)) :=
        endsValue_cons List.mem_cons_self _
      have spelled : separated [','] (text :: nextText :: texts) ++ close :: rest =
          text ++ ',' :: (separated [','] (nextText :: texts) ++ close :: rest) := by
        simp [separated]
      have later := inductionHypothesis next (Nat.lt_of_succ_lt_succ fuelled)
      rw [spelled, entries, first _ comma]
      simp only [skipBlank_cons (show isBlank ',' = false from rfl), if_true, later]
      rfl

/-- Entries between brackets are read up to the closing one. -/
theorem bracketed_separated {texts : List (List Char)} {items : List Entry}
    (reads : List.Forall₂ (Reads reader) texts items) (opens : ∀ text ∈ texts, Opens text)
    (rest : List Char) :
    bracketed close reader (separated [','] texts ++ close :: rest) = some (items, rest) := by
  cases reads with
  | nil =>
      show bracketed close reader (close :: rest) = _
      simp only [bracketed, skipBlank_cons (isBlank_of_closing closing), if_true]
  | @cons text item texts items first later =>
      obtain ⟨start, others, spelled, visible, notClosing⟩ := opens text List.mem_cons_self
      have different : start ≠ close := by
        rintro rfl
        exact notClosing closing
      have shape : ∃ behind,
          separated [','] (text :: texts) ++ close :: rest = start :: behind := by
        cases texts <;> exact ⟨_, by rw [spelled]; rfl⟩
      obtain ⟨behind, shape⟩ := shape
      have long := length_le_separated text texts
      have fuelled : texts.length < (separated [','] (text :: texts) ++ close :: rest).length := by
        rw [List.length_append, List.length_cons]
        omega
      have read := entries_separated closing later first fuelled rest
      rw [shape] at read ⊢
      rw [bracketed, skipBlank_cons visible]
      simp only [different, if_false]
      exact read

end Entries

/-! ## Values -/

/-- A number begins with a minus sign or a digit. -/
theorem exists_cons_of_number {text rest : List Char} {value : Option Json}
    (found : number text = some (value, rest)) :
    ∃ first later, text = first :: later ∧ (first = '-' ∨ first.isDigit = true) := by
  rcases text with _ | ⟨first, later⟩
  · cases found
  refine ⟨first, later, rfl, ?_⟩
  by_contra other
  obtain ⟨noSign, noDigit⟩ := not_or.mp other
  simp [number, noSign, unsignedNumber, Digits.leading, noDigit, isWholePart,
    failure] at found

theorem opens_of_number {text rest : List Char} {value : Option Json}
    (found : number text = some (value, rest)) : Opens text := by
  obtain ⟨first, later, rfl, start⟩ := exists_cons_of_number found
  refine ⟨first, later, rfl, ?_, ?_⟩
  · by_contra blank
    simp only [isBlank, Bool.not_eq_false, Bool.or_eq_true, beq_iff_eq] at blank
    rcases blank with ((rfl | rfl) | rfl) | rfl <;> exact absurd start (by decide)
  · intro closing
    simp only [List.mem_cons, List.not_mem_nil, or_false] at closing
    rcases closing with rfl | rfl <;> exact absurd start (by decide)

/-- A text that is read as a number is no other value. -/
theorem scalar_of_number {text rest : List Char} {value : Json}
    (found : number text = some (some value, rest)) : scalar true text = some (value, rest) := by
  obtain ⟨first, later, rfl, start⟩ := exists_cons_of_number found
  have others : first ≠ 'n' ∧ first ≠ 't' ∧ first ≠ 'f' ∧ first ≠ '"' := by
    refine ⟨?_, ?_, ?_, ?_⟩ <;>
    · rintro rfl
      exact absurd start (by decide)
  rw [scalar.eq_def]
  simp [others, found]

/-- Values without parts are read at any depth. -/
theorem valueWithin_scalar {text rest : List Char} {value : Json}
    (found : scalar true text = some (value, rest)) (visible : skipBlank text = text)
    (depth : Nat) : valueWithin true depth text = some (value, rest) := by
  cases depth with
  | zero => rw [valueWithin, visible, found]
  | succ depth =>
      rw [valueWithin, visible]
      split
      · simp [scalar, number, unsignedNumber, Digits.leading, isWholePart, failure] at found
      · simp [scalar, number, unsignedNumber, Digits.leading, isWholePart, failure] at found
      · exact found

theorem opens_quoted (value : String) (rest : List Char) : Opens (quoted value ++ rest) :=
  ⟨'"', _, rfl, rfl, by decide⟩

/-- The text of a value begins with no blank. -/
theorem opens_characters {value : Json} (readsBack : ∀ number ∈ value.floats, ReadsBack number)
    (wellFormed : value.WellFormed) : Opens value.characters := by
  cases value with
  | null => exact ⟨'n', _, rfl, rfl, by decide⟩
  | boolean truth => cases truth <;> exact ⟨_, _, rfl, rfl, by decide⟩
  | integer value => exact opens_of_number (number_integer wellFormed.1 wellFormed.2)
  | float value => exact opens_of_number (readsBack value List.mem_cons_self)
  | string value =>
      have opens := opens_quoted value []
      rwa [List.append_nil] at opens
  | array items => exact ⟨'[', _, rfl, rfl, by decide⟩
  | object members => exact ⟨'\x7b', _, rfl, rfl, by decide⟩

theorem opens_of_mem_itemTexts {items : List Json}
    (readsBack : ∀ number ∈ floatsOfItems items, ReadsBack number)
    (wellFormed : WellFormedItems items) : ∀ text ∈ itemTexts items, Opens text := by
  induction items with
  | nil => simp [itemTexts]
  | cons item rest inductionHypothesis =>
      obtain ⟨itemReadsBack, restReadsBack⟩ := List.forall_mem_append.mp readsBack
      rw [itemTexts, List.forall_mem_cons]
      exact ⟨opens_characters itemReadsBack wellFormed.1,
        inductionHypothesis restReadsBack wellFormed.2⟩

theorem opens_of_mem_memberTexts (members : List (String × Json)) :
    ∀ text ∈ memberTexts members, Opens text := by
  induction members with
  | nil => simp [memberTexts]
  | cons member rest inductionHypothesis =>
      rw [memberTexts, List.forall_mem_cons]
      exact ⟨opens_quoted member.1 _, inductionHypothesis⟩

/-- A member is read back if its value is. -/
theorem reads_keyed {Entry : Type} {value : String → List Char → Option (Entry × List Char)}
    {key : String} {text : List Char} {entry : Entry} (reads : Reads (value key) text entry) :
    Reads (keyed true value) (quoted key ++ ':' :: text) (key, entry) := by
  intro rest ends
  have spelled : quoted key ++ ':' :: text ++ rest = quoted key ++ ':' :: (text ++ rest) := by
    simp
  rw [spelled, keyed]
  have visible : skipBlank (quoted key ++ ':' :: (text ++ rest)) =
      quoted key ++ ':' :: (text ++ rest) := skipBlank_cons rfl _
  have colon : skipBlank (':' :: (text ++ rest)) = ':' :: (text ++ rest) := skipBlank_cons rfl _
  simp only [visible, stringToken_quoted, Option.bind_eq_bind, Option.bind_some, colon,
    reads rest ends]
  rfl

mutual

/-- A value is read back at every depth that is enough for it. -/
theorem reads_characters (value : Json) (readsBack : ∀ number ∈ value.floats, ReadsBack number)
    (wellFormed : value.WellFormed) {limit : Nat} (fits : value.depth ≤ limit) :
    Reads (valueWithin true limit) value.characters value := by
  intro rest ends
  have visible := (opens_characters readsBack wellFormed).skipBlank rest
  cases value with
  | null => exact valueWithin_scalar rfl visible limit
  | boolean truth => cases truth <;> exact valueWithin_scalar rfl visible limit
  | integer value =>
      have found := number_append (number_integer wellFormed.1 wellFormed.2) ends
      exact valueWithin_scalar (scalar_of_number found) visible limit
  | float value =>
      have found := number_append (readsBack value List.mem_cons_self) ends
      exact valueWithin_scalar (scalar_of_number found) visible limit
  | string value =>
      have token := stringToken_quoted value rest
      refine valueWithin_scalar ?_ visible limit
      show (stringToken true (quoted value ++ rest)).map _ = _
      rw [token]
      rfl
  | array items =>
      obtain ⟨limit, rfl⟩ : ∃ inner, limit = inner + 1 :=
        ⟨limit - 1, by rw [depth] at fits; omega⟩
      have inner : depthOfItems items ≤ limit := Nat.le_of_succ_le_succ fits
      have reads := reads_itemTexts items readsBack wellFormed inner
      have opens := opens_of_mem_itemTexts readsBack wellFormed
      have read := bracketed_separated (List.mem_cons_self) reads opens rest
      have spelled : (array items).characters ++ rest =
          '[' :: (separated [','] (itemTexts items) ++ ']' :: rest) := by
        simp [characters]
      rw [spelled] at visible ⊢
      rw [valueWithin, visible]
      simp only [read, Option.map_some]
  | object members =>
      obtain ⟨limit, rfl⟩ : ∃ inner, limit = inner + 1 :=
        ⟨limit - 1, by rw [depth] at fits; omega⟩
      have inner : depthOfMembers members ≤ limit := Nat.le_of_succ_le_succ fits
      have reads := reads_memberTexts members readsBack wellFormed.2 inner
      have closing : '\x7d' ∈ [']', '\x7d'] := by decide
      have read := bracketed_separated closing reads (opens_of_mem_memberTexts members) rest
      have spelled : (object members).characters ++ rest =
          '\x7b' :: (separated [','] (memberTexts members) ++ '\x7d' :: rest) := by
        simp [characters]
      rw [spelled] at visible ⊢
      rw [valueWithin, visible]
      simp only [read, Option.map_some, ofEntries_of_sorted wellFormed.1]

theorem reads_itemTexts (items : List Json)
    (readsBack : ∀ number ∈ floatsOfItems items, ReadsBack number)
    (wellFormed : WellFormedItems items) {limit : Nat} (fits : depthOfItems items ≤ limit) :
    List.Forall₂ (Reads (valueWithin true limit)) (itemTexts items) items := by
  cases items with
  | nil => exact .nil
  | cons item rest =>
      obtain ⟨itemReadsBack, restReadsBack⟩ := List.forall_mem_append.mp readsBack
      obtain ⟨itemFits, restFits⟩ := max_le_iff.mp fits
      exact .cons (reads_characters item itemReadsBack wellFormed.1 itemFits)
        (reads_itemTexts rest restReadsBack wellFormed.2 restFits)

theorem reads_memberTexts (members : List (String × Json))
    (readsBack : ∀ number ∈ floatsOfMembers members, ReadsBack number)
    (wellFormed : WellFormedMembers members) {limit : Nat}
    (fits : depthOfMembers members ≤ limit) :
    List.Forall₂ (Reads (keyed true fun _ => valueWithin true limit)) (memberTexts members)
      members := by
  match members with
  | [] => exact .nil
  | (key, value) :: rest =>
      obtain ⟨valueReadsBack, restReadsBack⟩ := List.forall_mem_append.mp readsBack
      obtain ⟨valueFits, restFits⟩ := max_le_iff.mp fits
      exact .cons (reads_keyed (reads_characters value valueReadsBack wellFormed.1 valueFits))
        (reads_memberTexts rest restReadsBack wellFormed.2 restFits)

end

theorem endsValue_nil : EndsValue [] := by
  intro first present
  cases present

/-- A text of its own is read back as a whole. -/
theorem read_text {value : Json} (readsBack : ∀ number ∈ value.floats, ReadsBack number)
    (wellFormed : value.WellFormed) (fits : value.depth ≤ depthLimit) :
    read value.text = some value := by
  have found := reads_characters value readsBack wellFormed fits [] endsValue_nil
  rw [List.append_nil] at found
  rw [read, readWithin, text, String.toList_ofList, found]
  rfl

/-! ## Records -/

/-- A member whose key is a field is kept. -/
theorem reads_fieldEntry {fields : List String} {key : String} (known : key ∈ fields)
    {value : Json} (readsBack : ∀ number ∈ value.floats, ReadsBack number)
    (wellFormed : value.WellFormed) (fits : value.depth ≤ depthLimit - 1) :
    Reads (fieldEntry fields) (quoted key ++ ':' :: value.characters) (key, some value) := by
  apply reads_keyed
  intro rest ends
  have contained : fields.contains key = true := List.contains_iff_mem.mpr known
  have read := reads_characters value readsBack wellFormed fits rest ends
  simp only [contained, if_true, read, Option.map_some]

theorem reads_recordTexts {fields : List String} (members : List (String × Json))
    (known : ∀ member ∈ members, member.1 ∈ fields)
    (readsBack : ∀ number ∈ floatsOfMembers members, ReadsBack number)
    (wellFormed : WellFormedMembers members) (fits : depthOfMembers members ≤ depthLimit - 1) :
    List.Forall₂ (Reads (fieldEntry fields)) (memberTexts members)
      (members.map fun member => (member.1, some member.2)) := by
  induction members with
  | nil => exact .nil
  | cons member rest inductionHypothesis =>
      obtain ⟨firstKnown, restKnown⟩ := List.forall_mem_cons.mp known
      obtain ⟨valueReadsBack, restReadsBack⟩ := List.forall_mem_append.mp readsBack
      obtain ⟨valueFits, restFits⟩ := max_le_iff.mp fits
      exact .cons (reads_fieldEntry firstKnown valueReadsBack wellFormed.1 valueFits)
        (inductionHypothesis restKnown restReadsBack wellFormed.2 restFits)

theorem knownEntries_map (members : List (String × Json)) :
    knownEntries (members.map fun member => (member.1, some member.2)) = members := by
  induction members with
  | nil => rfl
  | cons member rest inductionHypothesis =>
      rw [knownEntries] at inductionHypothesis ⊢
      rw [List.map_cons, List.filterMap_cons, inductionHypothesis]
      rfl

/-- An object of known fields is read back as a record. -/
theorem readRecord_text {fields : List String} {members : List (String × Json)}
    (known : ∀ member ∈ members, member.1 ∈ fields)
    (readsBack : ∀ number ∈ (object members).floats, ReadsBack number)
    (wellFormed : (object members).WellFormed) (fits : (object members).depth ≤ depthLimit) :
    readRecord fields (object members).text = some members := by
  have inner : depthOfMembers members ≤ depthLimit - 1 := Nat.le_sub_one_of_lt fits
  have reads := reads_recordTexts members known readsBack wellFormed.2 inner
  have closing : '\x7d' ∈ [']', '\x7d'] := by decide
  have read := bracketed_separated closing reads (opens_of_mem_memberTexts members) []
  have distinct : (members.map Prod.fst).Nodup := wellFormed.1.imp ne_of_lt
  have spelled : (object members).text.toList =
      '\x7b' :: (separated [','] (memberTexts members) ++ ['\x7d']) := by
    simp [text, characters]
  have found : record fields (object members).text.toList = some (members, []) := by
    rw [spelled, record, skipBlank_cons rfl]
    simp only [read, Option.bind_eq_bind, Option.bind_some, knownEntries_map]
    exact if_pos distinct
  rw [readRecord, found]
  rfl

end Bitemporal.Json
