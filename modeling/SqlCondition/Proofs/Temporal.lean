import SqlCondition.Calendar.Reading
import SqlCondition.Value.Coercion

/-!
# Dates and times are read as they are written

A date is written as year, month and day, and a time that is not the start of its day with
the clock behind it. Reading undoes both, for every year of the calendar: one of four digits
is told by its width, any other by its sign and by the dash that ends it.

The clock is written to the second, so reading finds the time without its fraction. In its
last second a minute may have a leap second, which is written as second 60 and read as such.
Elsewhere a second that lasts on is written as the second after it, and that is what is read.
-/

namespace SqlCondition

open Calendar

namespace Text

/-- No digit is blank. What is blank comes before all digits or behind them. -/
theorem digit_not_blank {character : Char} (digit : character.isDigit = true) :
    isBlank character = false := by
  have apart : ∀ code < 58, 48 ≤ code → inRanges code blankRanges = false := by decide
  obtain ⟨low, high⟩ := Char.isDigit_iff_toNat.mp digit
  exact apart character.toNat (Nat.lt_succ_of_le high) low

/-- In front of a character that is not blank there is nothing to cut off. Reading a part cuts
blanks off first. -/
theorem trim_front_visible {character : Char} (visible : isBlank character = false)
    (rest : List Char) : trimFront (character :: rest) = character :: rest := by
  simp [trimFront, visible]

/-- A padded number starts with a digit, however short the number is. -/
theorem padded_eq_cons (width number : Nat) : ∃ digit rest,
    padded width number = digit :: rest ∧ digit.isDigit = true := by
  cases written : padded width number with
  | nil => exact absurd written (padded_ne_nil width number)
  | cons digit rest =>
    exact ⟨digit, rest, rfl, padded_numeric width number digit (written ▸ List.mem_cons_self)⟩

/-- So nothing is cut off in front of it, whatever stands behind. -/
theorem trim_front_padded (width number : Nat) (rest : List Char) :
    trimFront (padded width number ++ rest) = padded width number ++ rest := by
  obtain ⟨digit, others, written, numeric⟩ := padded_eq_cons width number
  rw [written, List.cons_append, trim_front_visible (digit_not_blank numeric)]

end Text

namespace Calendar

open Text

/-- A padded number is read up to the bound, or up to the first character that is no digit.
Either way it is read in full. -/
theorem read_digits_padded (allowed width number : Nat) (rest : List Char)
    (fits : (padded width number).length ≤ allowed)
    (stops : (padded width number).length < allowed →
      ∀ character ∈ rest.head?, character.isDigit = false) :
    readDigits allowed (padded width number ++ rest) = .ok (number, rest) := by
  have found := leading_digits_of_digits allowed (padded width number) rest
    (padded_numeric width number) fits stops
  obtain ⟨digit, others, written, numeric⟩ := padded_eq_cons width number
  rw [written, List.cons_append] at found ⊢
  simp only [readDigits, numeric, if_true, found]
  rw [← written, number_padded]

/-- A number of two digits is read when it is within its bounds. This is how every part behind
the year is read. -/
theorem read_part_padded {least greatest number : Nat} (rest : List Char) (short : number < 100)
    (bounds : least ≤ number ∧ number ≤ greatest) :
    readPart least greatest (padded 2 number ++ rest) = .ok (number, rest) := by
  have width : (padded 2 number).length = 2 := length_padded (by decide) short
  have digits := read_digits_padded 2 2 number rest (Nat.le_of_eq width) fun more =>
    absurd more (by rw [width]; decide)
  simp only [readPart, trim_front_padded, digits, bind, Except.bind, bounds, and_self, if_true]
  rfl

/-- The mark that is expected is read, and nothing besides. -/
theorem read_mark_met (mark : Char) (rest : List Char) :
    readMark mark (mark :: rest) = .ok ((), rest) := by
  simp [readMark]

/-- Behind a sign a year is read up to the dash, whatever its length. No bound is reached before
the dash is. -/
theorem read_digits_signed (number : Nat) (rest : List Char) :
    readDigits (padded 4 number ++ '-' :: rest).length (padded 4 number ++ '-' :: rest) =
      .ok (number, '-' :: rest) := by
  apply read_digits_padded
  · simp
  · intro _ character dash
    cases dash
    rfl

/-- What was read is handed on to what reads the rest. -/
theorem ok_bind {α β : Type} (found : α) (next : α → Except ReadIssue β) :
    ((.ok found : Except ReadIssue α) >>= next) = next found := rfl

/-- A year of four digits is read by its width. It begins with a digit, so no sign is met. -/
theorem read_year_usual {number : Nat} (rest : List Char) (short : number < 10000)
    (fits : fitsYear number = true) :
    readYear (padded 4 number ++ rest) = .ok ((number : Int), rest) := by
  have width : (padded 4 number).length = 4 := length_padded (by decide) short
  have digits := read_digits_padded 4 4 number rest (Nat.le_of_eq width) fun more =>
    absurd more (by rw [width]; decide)
  have front := trim_front_padded 4 number rest
  obtain ⟨digit, others, spelled, numeric⟩ := padded_eq_cons 4 number
  rw [spelled, List.cons_append] at front digits ⊢
  rw [readYear, front]
  split
  · rename_i minus
    rw [(List.cons.inj minus).1] at numeric
    exact absurd numeric (by decide)
  · rename_i plus
    rw [(List.cons.inj plus).1] at numeric
    exact absurd numeric (by decide)
  · simp only [pure_bind]
    rw [digits, ok_bind]
    exact if_pos fits

/-- A year before the year zero is read up to the dash, with its sign. -/
theorem read_year_minus {number : Nat} (rest : List Char) (fits : fitsYear (-number) = true) :
    readYear ('-' :: (padded 4 number ++ '-' :: rest)) = .ok (-(number : Int), '-' :: rest) := by
  rw [readYear, trim_front_visible (by decide)]
  simp only [pure_bind]
  rw [read_digits_signed, ok_bind]
  exact if_pos fits

/-- So is one behind a plus, as years of more than four digits are written. -/
theorem read_year_plus {number : Nat} (rest : List Char) (fits : fitsYear number = true) :
    readYear ('+' :: (padded 4 number ++ '-' :: rest)) = .ok ((number : Int), '-' :: rest) := by
  rw [readYear, trim_front_visible (by decide)]
  simp only [pure_bind]
  rw [read_digits_signed, ok_bind]
  exact if_pos fits

/-- A year is read as it is written, in each of the three forms that a year of the calendar may
have. -/
theorem read_year_text (date : Date) (rest : List Char) :
    readYear (yearText date.year ++ '-' :: rest) = .ok (date.year, '-' :: rest) := by
  have low : -262143 ≤ date.year := date.yearInRange.1
  have high : date.year ≤ 262142 := date.yearInRange.2
  have fits : fitsYear date.year = true := decide_eq_true ⟨by omega, by omega⟩
  have before (negative : date.year < 0) : -(date.year.natAbs : Int) = date.year := by omega
  have since (positive : ¬ date.year < 0) : (date.year.natAbs : Int) = date.year := by omega
  unfold yearText
  split
  · rename_i usual
    have same := since (by omega)
    have read := read_year_usual ('-' :: rest) (by omega) (same.symm ▸ fits)
    rwa [same] at read
  · split
    · rename_i negative
      have same := before negative
      have read := read_year_minus rest (same.symm ▸ fits)
      rwa [same] at read
    · rename_i positive
      have same := since positive
      have read := read_year_plus rest (same.symm ▸ fits)
      rwa [same] at read

/-- No month is longer than thirty-one days, so that two digits hold every day. -/
theorem days_in_month_le (year : Int) (month : Nat) : daysInMonth year month ≤ 31 := by
  have lengths : ∀ length ∈ monthLengths year, length ≤ 31 := by
    unfold monthLengths
    split <;> decide
  unfold daysInMonth
  split
  · exact Nat.zero_le 31
  · cases found : (monthLengths year)[month - 1]? with
    | none => exact Nat.zero_le 31
    | some length => exact lengths length (List.mem_of_getElem? found)

/-- Year, month and day are read as they are written, and what follows is left. -/
theorem read_day_chars (date : Date) (rest : List Char) :
    readDay (date.chars ++ rest) = .ok ((date.year, date.month, date.day), rest) := by
  have months := date.month_in_year
  have days : 1 ≤ date.day ∧ date.day ≤ 31 :=
    ⟨date.dayInMonth.1, Nat.le_trans date.dayInMonth.2 (days_in_month_le date.year date.month)⟩
  have month := read_part_padded ('-' :: (padded 2 date.day ++ rest))
    (by omega : date.month < 100) months
  have day := read_part_padded rest (by omega : date.day < 100) days
  have written : date.chars ++ rest = yearText date.year ++ '-' ::
      (padded 2 date.month ++ '-' :: (padded 2 date.day ++ rest)) := by
    simp [Date.chars]
  rw [written, readDay, read_year_text]
  simp only [bind, Except.bind, read_mark_met, month, day, pure, Except.pure]

/-- So are hour, minute and second, of which the last may be a leap second. Nothing may follow
them. -/
theorem read_clock_chars {hour minute second : Nat} (hours : hour < 24) (minutes : minute < 60)
    (seconds : second ≤ 60) :
    readClock (DateTime.clock hour minute second) = .ok ((hour, minute, second), []) := by
  have first := read_part_padded (':' :: (padded 2 minute ++ ':' :: padded 2 second))
    (by omega : hour < 100) (⟨by omega, by omega⟩ : 0 ≤ hour ∧ hour ≤ 23)
  have next := read_part_padded (':' :: padded 2 second) (by omega : minute < 100)
    (⟨by omega, by omega⟩ : 0 ≤ minute ∧ minute ≤ 59)
  have last := read_part_padded [] (by omega : second < 100)
    (⟨by omega, seconds⟩ : 0 ≤ second ∧ second ≤ 60)
  rw [List.append_nil] at last
  have written : DateTime.clock hour minute second =
      padded 2 hour ++ ':' :: (padded 2 minute ++ ':' :: padded 2 second) := by
    simp [DateTime.clock]
  rw [written, readClock]
  simp only [bind, Except.bind, first, read_mark_met, next, last, pure, Except.pure]

/-- A date is found again from its parts, which are within the bounds of the calendar. -/
theorem date_of_parts (date : Date) : dateOf (date.year, date.month, date.day) = .ok date := by
  rw [dateOf, Date.of?_parts]

/-- A written date is read, and nothing is left of the text behind it. -/
theorem read_date_chars (date : Date) : readDate date.chars = .ok date := by
  have day := read_day_chars date []
  rw [List.append_nil] at day
  rw [readDate, day, ok_bind]
  exact date_of_parts date

/-- A date alone is no date with a clock behind it, so it is read as the start of its day. The
attempt to read a clock fails for want of text. -/
theorem read_date_time_of_date (date : Date) :
    readDateTime date.chars = .ok (DateTime.startOf date) := by
  have day := read_day_chars date []
  rw [List.append_nil] at day
  have refused : readMoment date.chars = .error .tooShort := by
    rw [readMoment, day, ok_bind]
    rfl
  rw [readDateTime, refused, read_date_chars]
  rfl

/-- A written date with a clock behind it is read part by part, and the parts decide the time. -/
theorem read_moment_chars (date : Date) {hour minute second : Nat} (hours : hour < 24)
    (minutes : minute < 60) (seconds : second ≤ 60) :
    readMoment (date.chars ++ ' ' :: DateTime.clock hour minute second) =
      timeOf date (hour, minute, second) := by
  have blank : trimFront (' ' :: DateTime.clock hour minute second) =
      DateTime.clock hour minute second := by
    have digits := trim_front_padded 2 hour (':' :: padded 2 minute ++ ':' :: padded 2 second)
    rw [← List.append_assoc] at digits
    exact digits
  rw [readMoment, read_day_chars, ok_bind]
  simp only [blank, read_clock_chars hours minutes seconds]
  rw [ok_bind]
  simp only [readEnd, ok_bind, date_of_parts]

end Calendar

namespace DateTime

/-- The time to the second that is shown. Below a billion nanoseconds that is the second
itself. A leap second behind second 59 stays the start of that leap second, second 60. At
any other second a billion nanoseconds or more are shown as the second that follows, and
that following second is the time meant here. -/
def wholeSecond (time : DateTime) : DateTime :=
  if time.nanosecond < nanosPerSecond then
    ⟨time.date, time.second, 0, time.secondInDay, start_in_range⟩
  else if inside : time.secondOfMinute ≠ 59 then
    ⟨time.date, time.second + 1, 0, by
      have range := time.secondInDay
      unfold secondOfMinute at inside
      omega, start_in_range⟩
  else ⟨time.date, time.second, nanosPerSecond, time.secondInDay, nanos_per_second_in_range⟩

/-- Hour, minute and second within their bounds are a time of the day. A billion nanoseconds or
more go with second 59 only. -/
theorem of?_clock {date : Date} {hour minute second nanosecond : Nat} (hours : hour < 24)
    (minutes : minute < 60) (seconds : second < 60) (short : nanosecond < 2000000000)
    (leap : nanosecond < nanosPerSecond ∨ second = 59) :
    of? date hour minute second nanosecond =
      some ⟨date, hour * 3600 + minute * 60 + second, nanosecond, by omega, short⟩ := by
  unfold of?
  rw [if_pos ⟨hours, minutes, seconds, leap⟩, dif_pos ⟨by omega, short⟩]

/-- A day has twenty-four hours, counted from zero. -/
theorem hour_in_day (time : DateTime) : time.hour < 24 := by
  have range := time.secondInDay
  unfold hour
  omega

/-- An hour has sixty minutes, counted from zero. -/
theorem minute_in_hour (time : DateTime) : time.minute < 60 := Nat.mod_lt _ (by decide)

/-- A minute has sixty seconds, leap seconds not counted, and the last one is second 59. -/
theorem second_in_minute (time : DateTime) : time.secondOfMinute < 60 := Nat.mod_lt _ (by decide)

/-- A time that does not last so long is shown in its own second, any other one second later. It
never lasts two seconds. -/
theorem carry (time : DateTime) :
    time.nanosecond / nanosPerSecond = if nanosPerSecond ≤ time.nanosecond then 1 else 0 := by
  have range := time.nanosecondInRange
  unfold nanosPerSecond
  split <;> omega

/-- With the leap second a minute is shown to its second sixty, and never beyond. -/
theorem shown_second_le (time : DateTime) :
    time.secondOfMinute + time.nanosecond / nanosPerSecond ≤ 60 := by
  have seconds := time.second_in_minute
  rw [carry]
  split <;> omega

/-- The start of a day has no fraction to leave out. It is its own time to the second. -/
theorem whole_second_of_midnight {time : DateTime} (midnight : time.isMidnight = true) :
    startOf time.date = time.wholeSecond := by
  obtain ⟨second, nanosecond⟩ := of_decide_eq_true midnight
  rw [wholeSecond, if_pos (by rw [nanosecond]; decide)]
  simp only [startOf, second]

/-- The time to the second is shown like the time. Only what is not shown was left out. -/
theorem whole_second_shown (time : DateTime) : time.wholeSecond.chars = time.chars := by
  have carried := time.carry
  unfold wholeSecond
  split
  · rename_i short
    rw [if_neg (Nat.not_le.mpr short)] at carried
    simp [chars, clockChars, hour, minute, secondOfMinute, carried]
  · rename_i long
    rw [if_pos (Nat.not_lt.mp long)] at carried
    split
    · rename_i inside
      -- The hour and the minute go on with the second.
      unfold secondOfMinute at inside
      have hours : (time.second + 1) / 3600 = time.second / 3600 := by omega
      have minutes : (time.second + 1) / 60 = time.second / 60 := by omega
      have seconds : (time.second + 1) % 60 = time.second % 60 + 1 := by omega
      simp [chars, clockChars, hour, minute, secondOfMinute, carried, hours, minutes, seconds]
    · have once : nanosPerSecond / nanosPerSecond = 1 := by decide
      simp [chars, clockChars, hour, minute, secondOfMinute, carried, once]

/-- The time to the second is found again from the clock that is shown. Second 60 is found as a
leap second, and any other one as an ordinary second. -/
theorem time_of_clock (time : DateTime) :
    timeOf time.date (time.hour, time.minute,
      time.secondOfMinute + time.nanosecond / nanosPerSecond) = .ok time.wholeSecond := by
  have hours := time.hour_in_day
  have minutes := time.minute_in_hour
  have seconds := time.second_in_minute
  have sum : time.hour * 3600 + time.minute * 60 + time.secondOfMinute = time.second := by
    unfold hour minute secondOfMinute
    omega
  have carried := time.carry
  unfold wholeSecond
  split
  · rename_i short
    have inMinute : time.secondOfMinute ≠ 60 := by omega
    rw [if_neg (Nat.not_le.mpr short)] at carried
    simp only [timeOf, carried, Nat.add_zero, inMinute, if_false]
    rw [of?_clock hours minutes seconds (by decide) (.inl (by decide))]
    simp only [sum]
  · rename_i long
    rw [if_pos (Nat.not_lt.mp long)] at carried
    split
    · rename_i inside
      have inMinute : time.secondOfMinute + 1 ≠ 60 := by omega
      simp only [timeOf, carried, inMinute, if_false]
      rw [of?_clock hours minutes (by omega) (by decide) (.inl (by decide))]
      simp only [← sum, Nat.add_assoc]
    · rename_i last
      have leap : time.secondOfMinute = 59 := Classical.not_not.mp last
      simp only [timeOf, carried, leap, if_true]
      rw [of?_clock hours minutes (by decide) (by decide) (.inr rfl)]
      simp only [← sum, leap]

end DateTime

/-- Dates and times are read as they are written, for every date of the calendar and every
time of every day. A date is found again, as a date and as the start of its day. A time is
found again to the second that is shown: on the same date, shown alike, and without a
fraction. A leap second behind second 59 is found again as second 60. A time of a billion
nanoseconds or more in any other second is shown, and so found again, as the second that
follows. The date of a time is found again from the date alone.

Reading and writing meet field by field: a number of known width is read up to that width,
a year of another width up to its dash. What is left is arithmetic of the clock. -/
theorem temporal_text_read_back :
    (∀ date : Date,
        readDate (Value.date date).toDateText.toList = .ok date ∧
          readDateTime (Value.date date).toDateTimeText.toList = .ok (DateTime.startOf date)) ∧
      ∀ time : DateTime,
        readDateTime (Value.dateTime time).toDateTimeText.toList = .ok time.wholeSecond ∧
          time.wholeSecond.chars = time.chars ∧
          readDate (Value.dateTime time).toDateText.toList = .ok time.date := by
  have dates (date : Date) : readDate date.text.toList = .ok date := by
    rw [Date.text, String.toList_ofList, read_date_chars]
  have starts (date : Date) : readDateTime date.text.toList = .ok (DateTime.startOf date) := by
    rw [Date.text, String.toList_ofList, read_date_time_of_date]
  refine ⟨fun date => ⟨dates date, starts date⟩, fun time =>
    ⟨?_, time.whole_second_shown, dates time.date⟩⟩
  rw [Value.toDateTimeText, DateTime.text]
  split
  · rename_i midnight
    rw [starts, DateTime.whole_second_of_midnight midnight]
  · rw [String.toList_ofList, DateTime.chars, DateTime.clockChars, readDateTime,
      read_moment_chars time.date time.hour_in_day time.minute_in_hour time.shown_second_le,
      time.time_of_clock]

end SqlCondition
