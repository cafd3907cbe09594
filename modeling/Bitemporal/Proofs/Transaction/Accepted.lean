/-
This file says which operations are read again after they have been read and written.
-/
import Bitemporal.Proofs.Time.Accepted
import Bitemporal.Proofs.Transaction.RoundTrip

namespace Bitemporal.Operation

/-! ## Operations that were read -/

/-- Documents that were read have ids, and times were read from timestamps. -/
def IsAccepted : Operation → Prop
  | .put document time | .compare document time =>
      HasId document ∧ ∀ instant ∈ time, Timestamp.Accepted instant
  | .delete _ time | .evict _ time => ∀ instant ∈ time, Timestamp.Accepted instant
  | .call _ _ => True

theorem hasId_of_ofJson {value : Json} {document : Document}
    (read : Document.ofJson value = .ok document) : HasId document :=
  ⟨document.id, (Document.ofJson_eq_ok_iff.mp read).2⟩

theorem accepted_of_readTime {value : Json} {instant : Instant}
    (read : readTime value = .ok instant) : Timestamp.Accepted instant := by
  unfold readTime at read
  split at read
  · split at read
    · next readText =>
        cases read
        exact Timestamp.accepted_of_read readText
    · cases read
  · cases read

section Items

variable {malformed : Error} {items : List Json} {operation : Operation}

theorem isAccepted_of_readPut (read : readPut malformed items = .ok operation) :
    operation.IsAccepted := by
  unfold readPut at read
  split at read
  · obtain ⟨document, readDocument, same⟩ := bind_eq_ok.mp read
    cases same
    exact ⟨hasId_of_ofJson readDocument, fun _ none_ => nomatch none_⟩
  · obtain ⟨document, readDocument, read⟩ := bind_eq_ok.mp read
    obtain ⟨instant, readStamp, same⟩ := bind_eq_ok.mp read
    cases same
    refine ⟨hasId_of_ofJson readDocument, fun _ present => ?_⟩
    cases present
    exact accepted_of_readTime readStamp
  · cases read

theorem isAccepted_of_readCompare (read : readCompare malformed items = .ok operation) :
    operation.IsAccepted := by
  unfold readCompare at read
  split at read
  · obtain ⟨document, readDocument, read⟩ := bind_eq_ok.mp read
    simp only at read
    split at read
    · cases read
    obtain ⟨instant, readStamp, same⟩ := bind_eq_ok.mp read
    cases same
    refine ⟨hasId_of_ofJson readDocument, fun _ present => ?_⟩
    cases present
    exact accepted_of_readTime readStamp
  · cases read

theorem accepted_of_readRemoval {removal : String → Option Instant → Operation}
    (read : readRemoval malformed removal items = .ok operation) :
    ∃ id instant, operation = removal id (some instant) ∧ Timestamp.Accepted instant := by
  unfold readRemoval at read
  split at read
  · obtain ⟨instant, readStamp, same⟩ := bind_eq_ok.mp read
    cases same
    exact ⟨_, instant, rfl, accepted_of_readTime readStamp⟩
  · cases read

end Items

theorem isAccepted_of_ofJson {value : Json} {operation : Operation}
    (read : ofJson value = .ok operation) : operation.IsAccepted := by
  unfold ofJson at read
  split at read
  · cases read
  · obtain ⟨kind, _, read⟩ := bind_eq_ok.mp read
    cases kind with
    | put => exact isAccepted_of_readPut read
    | compare => exact isAccepted_of_readCompare read
    | delete | evict =>
        obtain ⟨id, instant, rfl, accepted⟩ := accepted_of_readRemoval read
        intro other present
        cases present
        exact accepted
    | call =>
        simp only [readCall] at read
        split at read
        · cases read
          trivial
        · cases read
  · cases read
  · cases read

theorem accepted_of_isAccepted {operation : Operation} (accepted : operation.IsAccepted)
    {instant : Instant} (present : instant ∈ operation.validTime?) :
    Timestamp.Accepted instant := by
  cases operation with
  | put document time | compare document time => exact accepted.2 instant present
  | delete id time | evict id time => exact accepted instant present
  | call identifier arguments => cases present

/-! ## Operations that are written -/

/-- A function is installed by putting a document that holds its source. -/
def installsFunction : Operation → Bool
  | .put document _ => document.contains Document.functionKey
  | _ => false

/-- The time in the stored form; a function is installed without one. -/
def stamp? (operation : Operation) : Option Instant :=
  if operation.installsFunction then none else operation.validTime?

/-- The stored form does not depend on when it is written. -/
def IsTimed (operation : Operation) : Prop :=
  operation.validTime?.isSome = true ∨ operation.kind = .call ∨ operation.installsFunction = true

theorem hasTimestamp_of_accepted {time : Option Instant} (given : time.isSome = true)
    (accepted : ∀ instant ∈ time, Timestamp.Accepted instant)
    (fourDigits : ∀ instant ∈ time, instant.HasFourDigitYear) : HasTimestamp time := by
  obtain ⟨instant, present⟩ := Option.isSome_iff_exists.mp given
  exact ⟨instant, present, (accepted instant present).isReal, fourDigits instant present⟩

/-- Only its year can keep a timestamp from being read. -/
theorem isStorable_of_isAccepted {operation : Operation} (accepted : operation.IsAccepted)
    (timed : operation.IsTimed)
    (fourDigits : ∀ instant ∈ operation.stamp?, instant.HasFourDigitYear) :
    operation.IsStorable := by
  by_cases installs : operation.installsFunction = true
  · cases operation with
    | put document time => exact ⟨accepted.1, .inl installs⟩
    | _ => cases installs
  rw [stamp?, if_neg installs] at fourDigits
  cases operation with
  | put document time =>
      have given : time.isSome = true := by
        simpa [IsTimed, installs, kind, validTime?] using timed
      exact ⟨accepted.1, .inr (hasTimestamp_of_accepted given accepted.2 fourDigits)⟩
  | compare document time =>
      have given : time.isSome = true := by
        simpa [IsTimed, installs, kind, validTime?] using timed
      exact ⟨accepted.1, hasTimestamp_of_accepted given accepted.2 fourDigits⟩
  | delete id time | evict id time =>
      have given : time.isSome = true := by
        simpa [IsTimed, installs, kind, validTime?] using timed
      exact hasTimestamp_of_accepted given accepted fourDigits
  | call identifier arguments => trivial

theorem readTime_timeJson_of_signed (now : String) {instant : Instant}
    (signed : ¬ instant.HasFourDigitYear) :
    readTime (timeJson now (some instant)) =
      .error (.document (.malformedTime instant.text .wrongCharacter)) := by
  simp only [timeJson, Option.map_some, Option.getD_some, readTime,
    Instant.read_text_of_signed signed]

section Items

variable (malformed : Error) {document : Document} {stamp : Json} {fault : Error}

theorem readPut_of_refused (readDocument : Document.ofJson document.toJson = .ok document)
    (refused : readTime stamp = .error fault) :
    readPut malformed [document.toJson, stamp] = .error fault := by
  rw [readPut, readDocument, refused]
  rfl

theorem readCompare_of_refused (readDocument : Document.ofJson document.toJson = .ok document)
    (refused : readTime stamp = .error fault) :
    readCompare malformed [.string document.id, document.toJson, stamp] = .error fault := by
  rw [readCompare, readDocument, refused]
  show (if (some document.id : Option String) ≠ some document.id then _ else _) = _
  rw [if_neg (by simp)]
  rfl

theorem readRemoval_of_refused (removal : String → Option Instant → Operation) (id : String)
    (refused : readTime stamp = .error fault) :
    readRemoval malformed removal [.string id, stamp] = .error fault := by
  rw [readRemoval, refused]
  rfl

end Items

/-- Nothing is read from a form whose timestamp cannot be read. -/
theorem ofJson_toJson_of_signed (now : String) {operation : Operation}
    (accepted : operation.IsAccepted) {instant : Instant} (present : instant ∈ operation.stamp?)
    (signed : ¬ instant.HasFourDigitYear) :
    ofJson (operation.toJson now) =
      .error (.document (.malformedTime instant.text .wrongCharacter)) := by
  have refused := readTime_timeJson_of_signed now signed
  have stamped : operation.installsFunction ≠ true ∧ operation.validTime? = some instant := by
    simpa [stamp?] using present
  obtain ⟨ordinary, time⟩ := stamped
  cases operation with
  | put document time_ =>
      cases time
      have noFunction : ¬ document.contains Document.functionKey = true := ordinary
      rw [toJson, storedItems, if_neg noFunction]
      generalize timeJson now (some instant) = stamp at refused ⊢
      exact readPut_of_refused
        (.document (.malformedOperation "put" (.array [.string "put", document.toJson, stamp])))
        (ofJson_toJson_document accepted.1) refused
  | compare document time_ =>
      cases time
      rw [toJson, storedItems]
      generalize timeJson now (some instant) = stamp at refused ⊢
      exact readCompare_of_refused _ (ofJson_toJson_document accepted.1) refused
  | delete id time_ =>
      cases time
      rw [toJson, storedItems]
      generalize timeJson now (some instant) = stamp at refused ⊢
      exact readRemoval_of_refused
        (.document (.malformedOperation "delete" (.array [.string "delete", .string id, stamp])))
        .delete id refused
  | evict id time_ =>
      cases time
      rw [toJson, storedItems]
      generalize timeJson now (some instant) = stamp at refused ⊢
      exact readRemoval_of_refused
        (.document (.malformedOperation "evict" (.array [.string "evict", .string id, stamp])))
        .evict id refused
  | call identifier arguments => cases time

/-- What was read is read again from what is written of it, down to microseconds, exactly if its
timestamp has four digits for the year. An offset may have moved the year out of them by one, and
then the timestamp is refused. -/
theorem ofJson_toJson_of_ofJson (now : String) {value : Json} {operation : Operation}
    (accepted : ofJson value = .ok operation) (timed : operation.IsTimed) :
    (ofJson (operation.toJson now) = .ok operation.stored ↔
      ∀ instant ∈ operation.stamp?, instant.HasFourDigitYear) ∧
    (∀ instant ∈ operation.stamp?, ¬ instant.HasFourDigitYear →
      ofJson (operation.toJson now) =
        .error (.document (.malformedTime instant.text .wrongCharacter))) ∧
    ∀ instant ∈ operation.validTime?,
      instant.IsReal ∧ -1 ≤ instant.date.year ∧ instant.date.year ≤ 10000 := by
  have isAccepted := isAccepted_of_ofJson accepted
  refine ⟨⟨fun readBack instant present => ?_, fun fourDigits => ?_⟩, ?_, ?_⟩
  · by_contra signed
    rw [ofJson_toJson_of_signed now isAccepted present signed] at readBack
    cases readBack
  · exact ofJson_toJson now (isStorable_of_isAccepted isAccepted timed fourDigits)
  · intro instant present signed
    exact ofJson_toJson_of_signed now isAccepted present signed
  · intro instant present
    have read := accepted_of_isAccepted isAccepted present
    exact ⟨read.isReal, read.year⟩

/-- A leap second in the last minutes of the year 9999, where clocks are 59 minutes behind. -/
def leapMatch : Json :=
  .array [.string "match", .string "rome", .object [("xt/id", .string "rome")],
    .string "9999-12-31t22:59:60.1234567895−00:59"]

theorem ofJson_toJson_of_ofJson_leapMatch :
    ofJson leapMatch = .ok (.compare (.ofId "rome") (some ⟨253402300739, 1123456789⟩)) ∧
      IsTimed (.compare (.ofId "rome") (some ⟨253402300739, 1123456789⟩)) ∧
      ofJson (toJson "now" (.compare (.ofId "rome") (some ⟨253402300739, 1123456789⟩))) =
        .ok (.compare (.ofId "rome") (some ⟨253402300739, 1123456000⟩)) := by
  have accepted : ofJson leapMatch =
      .ok (.compare (.ofId "rome") (some ⟨253402300739, 1123456789⟩)) := by rfl
  have timed : IsTimed (.compare (.ofId "rome") (some ⟨253402300739, 1123456789⟩)) := .inl rfl
  refine ⟨accepted, timed, (ofJson_toJson_of_ofJson "now" accepted timed).1.mpr ?_⟩
  intro instant present
  cases present
  decide

/-- The last second of the year 9999, where clocks are an hour behind. -/
def lateDeletion : Json :=
  .array [.string "delete", .string "oslo", .string "9999-12-31T23:59:59-01:00"]

/-- The deletion is accepted, and its stored form, which is in the year 10000, is refused. -/
theorem lateDeletion_not_readBack :
    ofJson lateDeletion = .ok (.delete "oslo" (some ⟨253402304399, 0⟩)) ∧
      toJson "now" (.delete "oslo" (some ⟨253402304399, 0⟩)) =
        .array [.string "delete", .string "oslo", .string "+10000-01-01T00:59:59+00:00"] ∧
      ofJson (toJson "now" (.delete "oslo" (some ⟨253402304399, 0⟩))) =
        .error (.document
          (.malformedTime "+10000-01-01T00:59:59+00:00" .wrongCharacter)) :=
  ⟨rfl, rfl, rfl⟩

end Bitemporal.Operation
