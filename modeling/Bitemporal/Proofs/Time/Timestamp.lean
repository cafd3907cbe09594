/-
This file shows that an instant reads back from its timestamp, apart from what is left out of it.
-/
import Bitemporal.Proofs.Text.Digits
import Bitemporal.Proofs.Time.Calendar
import Bitemporal.Time.Timestamp

namespace Bitemporal

/-! ## Parts of timestamps -/

namespace Timestamp

@[simp] theorem ok_bind {Value Result : Type} (value : Value) (next : Value → Reading Result) :
    (Except.ok value >>= next) = next value := rfl

theorem mark_cons {expected : List Char} {first : Char} (found : first ∈ expected)
    (rest : List Char) : mark expected (first :: rest) = .ok rest := by
  rw [mark, if_pos (List.contains_iff_mem.mpr found)]

/-- So many digits in front of a text are read off. -/
theorem digits_append {found : List Char} (spelled : ∀ digit ∈ found, digit.isDigit = true)
    (rest : List Char) : digits found.length (found ++ rest) = .ok (found, rest) := by
  induction found with
  | nil => rfl
  | cons first later inductionHypothesis =>
      obtain ⟨firstDigit, laterDigits⟩ := List.forall_mem_cons.mp spelled
      rw [List.length_cons, List.cons_append, digits, if_pos firstDigit,
        inductionHypothesis laterDigits]
      rfl

/-- A padded number is read back if it fits in its width. -/
theorem number_padded {width value : Nat} (wide : 0 < width) (fits : value < 10 ^ width)
    (rest : List Char) :
    number width (Digits.padded width value ++ rest) = .ok (value, rest) := by
  have read := digits_append (Digits.isDigit_of_mem_padded width value) rest
  rw [Digits.length_padded wide fits] at read
  rw [number, read]
  show Except.ok (Digits.natural (Digits.padded width value), rest) = _
  rw [Digits.natural_padded]

/-- A date of the calendar with a year of four digits is read back. -/
theorem date_dateText {found : Date} (real : found.isReal = true) (early : 0 ≤ found.year)
    (late : found.year ≤ 9999) (rest : List Char) :
    date (Instant.dateText found ++ rest) = .ok (found, rest) := by
  obtain ⟨year, month, day⟩ := found
  simp only at early late
  have bounds : month ≤ 12 ∧ day ≤ 31 := by
    simp only [Date.isReal, Bool.and_eq_true, decide_eq_true_eq] at real
    have longest := Date.monthLength_le year month
    omega
  have yearSame : ((year.natAbs : Nat) : Int) = year := by omega
  rw [Instant.dateText, Instant.yearText, if_pos ⟨early, late⟩, date]
  simp only [List.append_assoc, List.cons_append]
  rw [number_padded (by decide) (by omega), ok_bind, mark_cons (by decide), ok_bind,
    number_padded (by decide) (by omega), ok_bind, mark_cons (by decide), ok_bind,
    number_padded (by decide) (by omega), ok_bind]
  simp only [yearSame]
  rw [if_pos real]
  rfl

/-- What stands behind the seconds of a timestamp. -/
def fraction (microseconds : Nat) : List Char :=
  if microseconds = 0 then [] else '.' :: Digits.padded 6 (microseconds % 1000000)

/-- A leap second is read as the sixtieth second of its minute. -/
theorem clock_timeText {secondOfDay microseconds : Nat} (inDay : secondOfDay < 86400)
    (short : microseconds < 2000000) (rest : List Char) :
    clock (Instant.timeText secondOfDay microseconds ++ rest) =
      .ok (⟨secondOfDay / 3600, secondOfDay / 60 % 60, secondOfDay % 60 + microseconds / 1000000⟩,
        fraction microseconds ++ rest) := by
  rw [Instant.timeText, clock]
  simp only [List.append_assoc, List.cons_append]
  rw [number_padded (by decide) (by omega), ok_bind, mark_cons (by decide), ok_bind,
    number_padded (by decide) (by omega), ok_bind, mark_cons (by decide), ok_bind,
    number_padded (by decide) (by omega), ok_bind]
  rfl

/-- Six digits behind the point count as microseconds. -/
theorem nanoseconds_fraction (microseconds : Nat) :
    nanoseconds (fraction microseconds ++ "+00:00".toList) =
      .ok (1000 * (microseconds % 1000000), "+00:00".toList) := by
  unfold fraction
  split
  · rename_i none_
    rw [none_]
    rfl
  · have size : (Digits.padded 6 (microseconds % 1000000)).length = 6 :=
      Digits.length_padded (by decide) (Nat.mod_lt _ (by decide))
    have ends : Digits.EndsDigits "+00:00".toList := by
      intro first present
      cases present
      rfl
    have split_ := Digits.leading_digits_append
      (Digits.isDigit_of_mem_padded 6 (microseconds % 1000000)) ends
    obtain ⟨first, others, spelled⟩ := List.exists_cons_of_length_pos
      (show 0 < (Digits.padded 6 (microseconds % 1000000)).length by omega)
    rw [List.cons_append, nanoseconds, split_, spelled]
    have scaled : 10 ^ (9 - 6) * (microseconds % 1000000) = 1000 * (microseconds % 1000000) := by
      norm_num
    show Except.ok (Digits.natural _, _) = _
    rw [← spelled, List.take_of_length_le (by omega), size, Digits.natural_append_zeros,
      Digits.natural_padded, scaled]

end Timestamp

namespace Instant

/-- A leap second is added behind the last second of a minute. -/
def IsReal (instant : Instant) : Prop :=
  instant.nanoseconds < 2 * nanosecondsOfSecond ∧
    (nanosecondsOfSecond ≤ instant.nanoseconds → instant.seconds % 60 = 59)

/-- A year of four digits is written without a sign. -/
def HasFourDigitYear (instant : Instant) : Prop :=
  0 ≤ instant.date.year ∧ instant.date.year ≤ 9999

instance (instant : Instant) : Decidable instant.IsReal := inferInstanceAs (Decidable (_ ∧ _))

instance (instant : Instant) : Decidable instant.HasFourDigitYear :=
  inferInstanceAs (Decidable (_ ∧ _))

theorem isReal_date (instant : Instant) : instant.date.isReal = true :=
  Date.isReal_ofDayNumber _

/-- Day and second of the day give the instant back. -/
theorem seconds_eq (instant : Instant) :
    secondsOfDay * instant.date.dayNumber + instant.secondOfDay = instant.seconds := by
  rw [date, Date.dayNumber_ofDayNumber, secondOfDay]
  unfold secondsOfDay
  omega

/-- The reader puts the instant together again. -/
theorem instant_parts {instant : Instant} (real : instant.IsReal) :
    Timestamp.instant instant.date
      ⟨instant.secondOfDay / 3600, instant.secondOfDay / 60 % 60,
        instant.secondOfDay % 60 + instant.microseconds / 1000000⟩
      (1000 * (instant.microseconds % 1000000)) 0 = instant.truncated := by
  obtain ⟨short, leap⟩ := real
  have whole := instant.seconds_eq
  have minute : (instant.secondOfDay % 60 : Nat) = (instant.seconds % 60).toNat := by
    unfold secondOfDay secondsOfDay
    omega
  unfold nanosecondsOfSecond at short leap
  have micros : instant.microseconds = instant.nanoseconds / 1000 := rfl
  have clock : ∀ second : Nat, second = instant.secondOfDay % 60 →
      ((3600 * (instant.secondOfDay / 3600) + 60 * (instant.secondOfDay / 60 % 60) + second : Nat)
        : Int) = instant.secondOfDay := by omega
  by_cases leapSecond : 1000000000 ≤ instant.nanoseconds
  · have last : instant.secondOfDay % 60 = 59 := by
      have := leap leapSecond
      omega
    have sixtieth : instant.secondOfDay % 60 + instant.microseconds / 1000000 = 60 := by omega
    simp only [Timestamp.instant, sixtieth, if_true, truncated, nanosecondsOfSecond]
    rw [clock 59 last.symm, whole, Int.sub_zero]
    congr 1
    omega
  · have ordinary : instant.secondOfDay % 60 + instant.microseconds / 1000000 =
        instant.secondOfDay % 60 := by omega
    have notLast : instant.secondOfDay % 60 ≠ 60 := by omega
    simp only [Timestamp.instant, ordinary, notLast, if_false, truncated]
    rw [clock _ rfl, whole, Int.sub_zero]
    congr 1
    omega

theorem length_le_utf8ByteSize (characters : List Char) :
    characters.length ≤ (String.ofList characters).utf8ByteSize := by
  induction characters with
  | nil => exact Nat.zero_le _
  | cons first rest inductionHypothesis =>
      have split_ : String.ofList (first :: rest) =
          String.singleton first ++ String.ofList rest := by
        simp
      have positive := first.utf8Size_pos
      rw [split_, String.utf8ByteSize_append, String.utf8ByteSize_singleton, List.length_cons]
      omega

/-- A timestamp is long enough to be read. -/
theorem leastSize_le (instant : Instant) :
    Timestamp.leastSize ≤ instant.text.utf8ByteSize := by
  refine le_trans ?_ (length_le_utf8ByteSize instant.characters)
  have year : 4 ≤ (yearText instant.date.year).length := by
    unfold yearText
    have padded := Digits.le_length_padded 4 instant.date.year.natAbs
    split
    · exact padded
    · exact Nat.le_succ_of_le padded
  have month := Digits.le_length_padded 2 instant.date.month
  have day := Digits.le_length_padded 2 instant.date.day
  have hour := Digits.le_length_padded 2 (instant.secondOfDay / 3600)
  have minute := Digits.le_length_padded 2 (instant.secondOfDay / 60 % 60)
  have second := Digits.le_length_padded 2
    (instant.secondOfDay % 60 + instant.microseconds / 1000000)
  simp only [characters, dateText, timeText, Timestamp.leastSize, List.length_append,
    List.length_cons]
  omega

/-- An instant is read back from its timestamp down to its microseconds. -/
theorem read_text {instant : Instant} (real : instant.IsReal)
    (fourDigits : instant.HasFourDigitYear) :
    Timestamp.read instant.text = .ok instant.truncated := by
  have inDay : instant.secondOfDay < 86400 := by
    unfold secondOfDay secondsOfDay
    omega
  have short : instant.microseconds < 2000000 := by
    have := real.1
    unfold nanosecondsOfSecond at this
    unfold microseconds
    omega
  have long : ¬ instant.text.utf8ByteSize < Timestamp.leastSize :=
    Nat.not_lt.mpr instant.leastSize_le
  have clockReal : Timestamp.Clock.isReal
      ⟨instant.secondOfDay / 3600, instant.secondOfDay / 60 % 60,
        instant.secondOfDay % 60 + instant.microseconds / 1000000⟩ = true := by
    have second : instant.secondOfDay % 60 + instant.microseconds / 1000000 ≤ 60 := by omega
    have hour : instant.secondOfDay / 3600 ≤ 23 := by omega
    have minute : instant.secondOfDay / 60 % 60 ≤ 59 := by omega
    simp [Timestamp.Clock.isReal, second, hour, minute]
  have spelled : instant.text.toList = dateText instant.date ++ 'T' ::
      (timeText instant.secondOfDay instant.microseconds ++ "+00:00".toList) := by
    simp [text, characters]
  have offset : Timestamp.offset "+00:00".toList = .ok (0, []) := by decide
  have nanoseconds := Timestamp.nanoseconds_fraction instant.microseconds
  -- only what is read from the offset matters from here on, and not its text
  generalize "+00:00".toList = zone at spelled offset nanoseconds
  rw [Timestamp.read, if_neg long, spelled,
    Timestamp.date_dateText instant.isReal_date fourDigits.1 fourDigits.2]
  simp only [Timestamp.ok_bind]
  rw [Timestamp.mark_cons (by decide), Timestamp.ok_bind, Timestamp.clock_timeText inDay short]
  simp only [Timestamp.ok_bind]
  rw [nanoseconds]
  simp only [Timestamp.ok_bind, clockReal]
  rw [offset]
  exact congrArg Except.ok (instant_parts real)

end Instant

end Bitemporal
