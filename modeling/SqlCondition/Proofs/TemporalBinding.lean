import SqlCondition.Binding.Encoding
import SqlCondition.Proofs.Temporal

/-!
# Dates and times bound as they are and as text

Raw SQL binds its values as they are, a mapping binds their bound form, which is text for
dates and times. A text is read for the column that it is bound to, so that a date becomes
the start of its day in a column of times, and a time is refused by a column of dates unless
it is such a start. A date or a time that is bound as it is has bytes of its own kind in
every column.

So both ways come to the same for a date in a column of dates and for a time without a
fraction in a column of times, its leap second included. In the other column they never do.
-/

namespace SqlCondition

open Calendar Binding

namespace DateTime

/-- A time without a fraction is the same moment as the time to the second. A full second that
it lasts on counts as one, wherever it is kept. -/
theorem whole_second_microseconds {time : DateTime}
    (whole : time.nanosecond % nanosPerSecond = 0) :
    time.wholeSecond.microseconds = time.microseconds := by
  have range := time.nanosecondInRange
  unfold nanosPerSecond at whole
  have moment (nanosecond : Nat) (same : time.nanosecond = nanosecond) : time.microseconds =
      ((time.date.dayNumber * 86400 + time.second) * nanosPerSecond + nanosecond).tdiv 1000 := by
    rw [microseconds, same]
  unfold wholeSecond
  split
  · rename_i short
    unfold nanosPerSecond at short
    rw [moment 0 (by omega)]
    rfl
  · rename_i long
    unfold nanosPerSecond at long
    rw [moment nanosPerSecond (by unfold nanosPerSecond; omega)]
    split
    · have later : (time.date.dayNumber * 86400 + (time.second + 1 : Nat)) * nanosPerSecond +
          (0 : Nat) = (time.date.dayNumber * 86400 + time.second) * nanosPerSecond +
            (nanosPerSecond : Int) := by
        rw [Int.natCast_add, ← Int.add_assoc, Int.add_mul, Int.natCast_one, Int.one_mul,
          Int.natCast_zero, Int.add_zero]
      rw [microseconds, later]
    · rfl

/-- The text of a time is read to the second, with or without a clock in it. -/
theorem read_date_time_text (time : DateTime) :
    readDateTime time.text.toList = .ok time.wholeSecond := by
  unfold text
  split
  · rename_i midnight
    rw [Date.text, String.toList_ofList, read_date_time_of_date, whole_second_of_midnight midnight]
  · rw [String.toList_ofList, chars, clockChars, readDateTime,
      read_moment_chars time.date time.hour_in_day time.minute_in_hour time.shown_second_le,
      time.time_of_clock]

/-- No date is read from the text of a time that has a clock, because text is left behind the
date. -/
theorem read_date_text {time : DateTime} (clocked : time.isMidnight = false) :
    readDate time.text.toList = .error .tooLong := by
  unfold text
  rw [if_neg (by rw [clocked]; exact Bool.false_ne_true), String.toList_ofList, chars, readDate,
    read_day_chars, ok_bind]
  rfl

end DateTime

namespace Binding

/-- A value and its bound form come to the same in a column, bytes or a refusal. -/
def BoundAlike (type : ScalarType) (value : Value) : Prop :=
  encode (.scalar type) value = encode (.scalar type) value.toWire

/-- Bytes of different kinds are different bytes: a date has four, a time eight. -/
theorem date_ne_date_time (date : Date) (time : DateTime) : ofDate date ≠ ofDateTime time := by
  intro same
  have lengths := congrArg List.length same
  rw [ofDate, ofDateTime, Bytes.ofInt, Bytes.ofInt, Bytes.length_of_nat, Bytes.length_of_nat]
    at lengths
  cases lengths

/-- The bound form of a date is a date in a column of dates and the start of its day in a
column of times. -/
theorem encode_date_wire (date : Date) :
    encode (.scalar .date) (Value.date date).toWire = .ok (some (ofDate date)) ∧
      encode (.scalar .timestamp) (Value.date date).toWire =
        .ok (some (ofDateTime (DateTime.startOf date))) := by
  have read : readDate date.text.toList = .ok date := by
    rw [Date.text, String.toList_ofList, read_date_chars]
  have started : readDateTime date.text.toList = .ok (DateTime.startOf date) := by
    rw [Date.text, String.toList_ofList, read_date_time_of_date]
  constructor
  · simp only [Value.toWire, Value.toText, encode, ofScalar, ColumnType.asScalar, ofText, read]
    rfl
  · simp only [Value.toWire, Value.toText, encode, ofScalar, ColumnType.asScalar, ofText, started]
    rfl

/-- The bound form of a time is the time to the second in a column of times. In a column of
dates it is its date when the day just starts, and refused otherwise. -/
theorem encode_date_time_wire (time : DateTime) :
    encode (.scalar .timestamp) (Value.dateTime time).toWire =
        .ok (some (ofDateTime time.wholeSecond)) ∧
      encode (.scalar .date) (Value.dateTime time).toWire =
        if time.isMidnight then .ok (some (ofDate time.date))
        else .error (.unreadable .tooLong) := by
  constructor
  · simp only [Value.toWire, Value.toText, encode, ofScalar, ColumnType.asScalar, ofText,
      time.read_date_time_text]
    rfl
  · cases clocked : time.isMidnight with
    | true =>
      have same : (Value.dateTime time).toWire = (Value.date time.date).toWire := by
        simp only [Value.toWire, Value.toText, DateTime.text, clocked, if_true]
      rw [same]
      exact (encode_date_wire time.date).1
    | false =>
      simp only [Value.toWire, Value.toText, encode, ofScalar, ColumnType.asScalar, ofText,
        DateTime.read_date_text clocked]
      rfl

/-- Of the two kinds of columns a date is bound alike in the one of its own. In the other one
its text is read as a time, of other bytes. -/
theorem date_bound_alike_iff {type : ScalarType} (calendar : type = .date ∨ type = .timestamp)
    (date : Date) : BoundAlike type (.date date) ↔ type = .date := by
  obtain ⟨own, other⟩ := encode_date_wire date
  rcases calendar with rfl | rfl
  · exact ⟨fun _ => rfl, fun _ => own.symm⟩
  · constructor
    · intro same
      have bytes : some (ofDate date) = some (ofDateTime (DateTime.startOf date)) :=
        Except.ok.inj (same.trans other)
      exact absurd (Option.some.inj bytes) (date_ne_date_time _ _)
    · rintro ⟨⟩

/-- So is a time without a fraction. In a column of dates its text is a date or is refused, and
neither has the bytes of a time. -/
theorem date_time_bound_alike_iff {type : ScalarType}
    (calendar : type = .date ∨ type = .timestamp) {time : DateTime}
    (whole : time.nanosecond % DateTime.nanosPerSecond = 0) :
    BoundAlike type (.dateTime time) ↔ type = .timestamp := by
  obtain ⟨own, other⟩ := encode_date_time_wire time
  rcases calendar with rfl | rfl
  · constructor
    · intro same
      have different := same.trans other
      by_cases midnight : time.isMidnight = true
      · rw [if_pos midnight] at different
        have bytes : some (ofDateTime time) = some (ofDate time.date) := Except.ok.inj different
        exact absurd (Option.some.inj bytes).symm (date_ne_date_time _ _)
      · rw [if_neg midnight] at different
        cases different
    · rintro ⟨⟩
  · rw [ofDateTime, DateTime.whole_second_microseconds whole] at own
    exact ⟨fun _ => rfl, fun _ => own.symm⟩

end Binding

/-- In a column of dates or of times a date is sent in the bytes of a date and a time in those
of a time when they are bound as they are. Their bound forms come to the same exactly in the
column of their own kind: a date's in a column of dates, a time's in a column of times when it
has no fraction. In the column of the other kind the bound form has bytes of the other kind or
is refused.

The bound form is a text, and reading it back gives the date or the time to the second. It is
then encoded for the column, and the lengths of the two kinds tell them apart. -/
theorem temporal_bound_alike_in_own_column (type : ScalarType)
    (calendar : type = .date ∨ type = .timestamp) (date : Date) (time : DateTime) :
    (encode (.scalar type) (.date date) = .ok (some (ofDate date)) ∧
        (BoundAlike type (.date date) ↔ type = .date)) ∧
      encode (.scalar type) (.dateTime time) = .ok (some (ofDateTime time)) ∧
        (time.nanosecond % DateTime.nanosPerSecond = 0 →
          (BoundAlike type (.dateTime time) ↔ type = .timestamp)) :=
  ⟨⟨rfl, date_bound_alike_iff calendar date⟩, rfl, date_time_bound_alike_iff calendar⟩

/-- The leap second at the end of 2016. -/
def leapSecond : DateTime :=
  ⟨⟨2016, 12, 31, by decide, by decide⟩, 86399, DateTime.nanosPerSecond, by decide,
    DateTime.nanos_per_second_in_range⟩

/-- The leap second is bound alike in a column of times, to the microsecond at which the next
year begins. Its date is not. -/
theorem leap_second_bound_alike :
    leapSecond.nanosecond % DateTime.nanosPerSecond = 0 ∧
      encode (.scalar .timestamp) (.dateTime leapSecond) =
        .ok (some [0, 1, 231, 251, 226, 134, 192, 0]) ∧
      BoundAlike .timestamp (.dateTime leapSecond) ∧
        ¬ BoundAlike .timestamp (.date leapSecond.date) := by
  have whole : leapSecond.nanosecond % DateTime.nanosPerSecond = 0 := by decide
  have bytes : ofDateTime leapSecond = [0, 1, 231, 251, 226, 134, 192, 0] := by decide
  obtain ⟨⟨-, day⟩, own, alike⟩ :=
    temporal_bound_alike_in_own_column .timestamp (.inr rfl) leapSecond.date leapSecond
  rw [bytes] at own
  refine ⟨whole, own, (alike whole).mpr rfl, fun same => ?_⟩
  cases day.mp same

/-- A date in a column of times has four bytes as it is and eight in its bound form. A time
that has a clock, in a column of dates, has bytes as it is and is refused in its bound form. -/
theorem date_in_column_of_times :
    let date : Date := ⟨2019, 4, 17, by decide, by decide⟩
    let time : DateTime := ⟨date, 36301, 0, by decide, by decide⟩
    (encode (.scalar .timestamp) (.date date) = .ok (some [0, 0, 27, 134]) ∧
      encode (.scalar .timestamp) (Value.date date).toWire =
        .ok (some [0, 2, 41, 173, 85, 220, 64, 0]) ∧ ¬ BoundAlike .timestamp (.date date)) ∧
    encode (.scalar .date) (.dateTime time) = .ok (some [0, 2, 41, 181, 201, 145, 141, 64]) ∧
      encode (.scalar .date) (Value.dateTime time).toWire = .error (.unreadable .tooLong) ∧
        ¬ BoundAlike .date (.dateTime time) := by
  intro date time
  have day : encode (.scalar .timestamp) (.date date) = .ok (some [0, 0, 27, 134]) := by
    have bytes : ofDate date = [0, 0, 27, 134] := by decide
    rw [← bytes]
    rfl
  have start : encode (.scalar .timestamp) (Value.date date).toWire =
      .ok (some [0, 2, 41, 173, 85, 220, 64, 0]) := by
    have bytes : ofDateTime (DateTime.startOf date) = [0, 2, 41, 173, 85, 220, 64, 0] := by decide
    rw [(encode_date_wire date).2, bytes]
  have moment : encode (.scalar .date) (.dateTime time) =
      .ok (some [0, 2, 41, 181, 201, 145, 141, 64]) := by
    have bytes : ofDateTime time = [0, 2, 41, 181, 201, 145, 141, 64] := by decide
    rw [← bytes]
    rfl
  have refused : encode (.scalar .date) (Value.dateTime time).toWire =
      .error (.unreadable .tooLong) := (encode_date_time_wire time).2
  refine ⟨⟨day, start, fun same => ?_⟩, moment, refused, fun same => ?_⟩
  · cases day.symm.trans (same.trans start)
  · cases moment.symm.trans (same.trans refused)

end SqlCondition
