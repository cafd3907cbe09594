/-
This file says which instants can be read from timestamps, and which of them a timestamp can name.
-/
import Bitemporal.Error
import Bitemporal.Proofs.Time.Timestamp

namespace Bitemporal

namespace Timestamp

/-! ## Parts -/

theorem digits_of_ok {count : Nat} {text found rest : List Char}
    (read : digits count text = .ok (found, rest)) :
    found.length = count ∧ ∀ digit ∈ found, digit.isDigit = true := by
  induction count generalizing text found with
  | zero =>
      cases read
      exact ⟨rfl, List.forall_mem_nil _⟩
  | succ count inductionHypothesis =>
      cases text with
      | nil => cases read
      | cons first later =>
          rw [digits] at read
          split at read
          · next digit =>
              obtain ⟨⟨others, left⟩, readLater, same⟩ := bind_eq_ok.mp read
              cases same
              obtain ⟨length, spelled⟩ := inductionHypothesis readLater
              exact ⟨congrArg Nat.succ length, List.forall_mem_cons.mpr ⟨digit, spelled⟩⟩
          · cases read

theorem number_lt {count value : Nat} {text rest : List Char}
    (read : number count text = .ok (value, rest)) : value < 10 ^ count := by
  obtain ⟨⟨found, left⟩, readDigits, same⟩ := bind_eq_ok.mp read
  cases same
  obtain ⟨length, spelled⟩ := digits_of_ok readDigits
  exact length ▸ Digits.natural_lt spelled

/-- Every date that is read is in the calendar, in a year of four digits. -/
theorem isReal_of_date {text rest : List Char} {found : Date}
    (read : date text = .ok (found, rest)) :
    found.isReal = true ∧ 0 ≤ found.year ∧ found.year ≤ 9999 := by
  obtain ⟨⟨year, _⟩, readYear, read⟩ := bind_eq_ok.mp read
  obtain ⟨_, _, read⟩ := bind_eq_ok.mp read
  obtain ⟨⟨month, _⟩, _, read⟩ := bind_eq_ok.mp read
  obtain ⟨_, _, read⟩ := bind_eq_ok.mp read
  obtain ⟨⟨day, _⟩, _, read⟩ := bind_eq_ok.mp read
  simp only at read
  split at read
  · next real =>
      cases read
      have bound := number_lt readYear
      refine ⟨real, ?_⟩
      simp only
      omega
  · cases read

/-- Fewer than nine digits are filled up with zeros, and further ones are skipped. -/
theorem nanoseconds_lt {text rest : List Char} {found : Nat}
    (read : nanoseconds text = .ok (found, rest)) : found < Instant.nanosecondsOfSecond := by
  unfold nanoseconds at read
  split at read
  · next behind =>
      split at read
      · cases read
      · cases read
      · next split_ =>
          cases read
          have spelled : ∀ digit ∈ (Digits.leading behind).1, digit.isDigit = true :=
            Digits.isDigit_of_mem_leading
          rw [split_] at spelled
          exact Digits.natural_filled_lt
            (fun digit member => spelled digit (List.mem_of_mem_take member))
            (List.length_take_le 9 _)
  · cases read
    decide

/-- Offsets are given in whole minutes. -/
theorem offsetDistance_mod {text rest : List Char} {distance : Int}
    (read : offsetDistance text = .ok (distance, rest)) : distance % 60 = 0 := by
  obtain ⟨⟨⟨tens, ones⟩, _⟩, _, read⟩ := bind_eq_ok.mp read
  obtain ⟨_, _, read⟩ := bind_eq_ok.mp read
  obtain ⟨⟨⟨minuteTens, minuteOnes⟩, _⟩, _, read⟩ := bind_eq_ok.mp read
  simp only at read
  split at read
  · cases read
  · cases read
    omega

theorem offset_mod {text rest : List Char} {distance : Int}
    (read : offset text = .ok (distance, rest)) : distance % 60 = 0 := by
  unfold offset at read
  split at read
  · cases read
  split at read
  · cases read
    rfl
  split at read
  · exact offsetDistance_mod read
  split at read
  · obtain ⟨⟨opposite, _⟩, readOpposite, same⟩ := bind_eq_ok.mp read
    cases same
    have minutes := offsetDistance_mod readOpposite
    omega
  · cases read

/-! ## Whole timestamps -/

/-- The instants that accepted timestamps stand for: a date in a year of four digits, a time of day
and an offset of less than a day. -/
inductive Accepted : Instant → Prop where
  | ofParts {date : Date} {clock : Clock} {nanoseconds : Nat} {offset : Int}
      (realDate : date.isReal = true) (fourDigits : 0 ≤ date.year ∧ date.year ≤ 9999)
      (realClock : clock.isReal = true) (short : nanoseconds < Instant.nanosecondsOfSecond)
      (minutes : offset % 60 = 0) (inDay : (offset.natAbs : Int) < Instant.secondsOfDay) :
      Accepted (instant date clock nanoseconds offset)

theorem accepted_of_read {text : String} {instant : Instant}
    (read : Timestamp.read text = .ok instant) : Accepted instant := by
  unfold Timestamp.read at read
  split at read
  · cases read
  obtain ⟨⟨date, _⟩, readDate, read⟩ := bind_eq_ok.mp read
  obtain ⟨_, _, read⟩ := bind_eq_ok.mp read
  obtain ⟨⟨clock, _⟩, _, read⟩ := bind_eq_ok.mp read
  obtain ⟨⟨nanoseconds, _⟩, readNanoseconds, read⟩ := bind_eq_ok.mp read
  simp only at read
  split at read
  · cases read
  next realClock =>
  obtain ⟨⟨offset, _⟩, readOffset, read⟩ := bind_eq_ok.mp read
  simp only at read
  split at read
  · cases read
  split at read
  · cases read
  next inDay =>
  cases read
  obtain ⟨realDate, fourDigits⟩ := isReal_of_date readDate
  exact .ofParts realDate fourDigits (by simpa using realClock) (nanoseconds_lt readNanoseconds)
    (offset_mod readOffset) (Int.not_le.mp inDay)

/-- A leap second is read at the end of a minute only, wherever clocks are set. -/
theorem Accepted.isReal {instant : Instant} (accepted : Accepted instant) : instant.IsReal := by
  obtain ⟨realDate, fourDigits, realClock, short, minutes, inDay⟩ := accepted
  unfold Instant.nanosecondsOfSecond at short
  simp only [Timestamp.instant, Instant.IsReal, Instant.nanosecondsOfSecond,
    Instant.secondsOfDay]
  split
  · next leap =>
      omega
  · omega

/-- An offset moves an instant by less than a day, so that its year is at most one off. -/
theorem Accepted.year {instant : Instant} (accepted : Accepted instant) :
    -1 ≤ instant.date.year ∧ instant.date.year ≤ 10000 := by
  obtain ⟨realDate, fourDigits, realClock, short, minutes, inDay⟩ := accepted
  obtain ⟨early, late⟩ := Date.dayNumber_bounds realDate fourDigits.1 fourDigits.2
  simp only [Clock.isReal, Bool.and_eq_true, decide_eq_true_eq] at realClock
  simp only [Timestamp.instant, Instant.date]
  unfold Instant.secondsOfDay at inDay ⊢
  apply Date.year_ofDayNumber
  · split <;> omega
  · split <;> omega

/-! ## Years with signs -/

/-- A year with a sign in front is refused. -/
theorem read_signed {first : Char} {rest : List Char} (signed : first.isDigit = false)
    (long : leastSize ≤ (String.ofList (first :: rest)).utf8ByteSize) :
    Timestamp.read (String.ofList (first :: rest)) = .error .wrongCharacter := by
  rw [Timestamp.read, if_neg (Nat.not_lt.mpr long), String.toList_ofList]
  have refused : digits 4 (first :: rest) = .error .wrongCharacter := by
    rw [digits, signed]
    rfl
  rw [date, number, refused]
  rfl

end Timestamp

namespace Instant

/-- A timestamp with a year of more or less than four digits is not read back. -/
theorem read_text_of_signed {instant : Instant} (signed : ¬ instant.HasFourDigitYear) :
    Timestamp.read instant.text = .error .wrongCharacter := by
  have long := instant.leastSize_le
  have year : yearText instant.date.year =
      (if instant.date.year < 0 then '-' else '+') :: Digits.padded 4 instant.date.year.natAbs :=
    if_neg signed
  rw [text, characters, dateText, year] at long ⊢
  apply Timestamp.read_signed _ long
  split <;> rfl

end Instant

end Bitemporal
