import SqlCondition.Calendar.Date

/-!
# Times of a day

A time of day is a second of the day and the nanoseconds within it. A second may
last up to two seconds' worth of nanoseconds: in its second half it is a leap
second, shown as the second after it.
-/

namespace SqlCondition

open Calendar

/-- A day and a time within it. -/
structure DateTime where
  date : Date
  /-- The second of the day, leap seconds not counted. -/
  second : Nat
  nanosecond : Nat
  secondInDay : second < 86400
  nanosecondInRange : nanosecond < 2000000000
  deriving DecidableEq

namespace DateTime

/-- The nanoseconds of a second. -/
def nanosPerSecond : Nat := 1000000000

/-- The start of a second is within it, so a time without nanoseconds is one. -/
theorem start_in_range : 0 < 2000000000 := by decide

/-- So is what follows a usual second, where a leap second starts. -/
theorem nanos_per_second_in_range : nanosPerSecond < 2000000000 := by decide

/-- The date at a time of day, when there is one. A leap second follows only the
last second of a minute. -/
def of? (date : Date) (hour minute second nanosecond : Nat) : Option DateTime :=
  if hour < 24 ∧ minute < 60 ∧ second < 60 ∧ (nanosecond < nanosPerSecond ∨ second = 59) then
    if valid : hour * 3600 + minute * 60 + second < 86400 ∧ nanosecond < 2000000000 then
      some ⟨date, hour * 3600 + minute * 60 + second, nanosecond, valid.1, valid.2⟩
    else none
  else none

/-- The start of a day. -/
def startOf (date : Date) : DateTime := ⟨date, 0, 0, by decide, start_in_range⟩

/-- The hour of the day. -/
def hour (time : DateTime) : Nat := time.second / 3600

/-- The minute of the hour. -/
def minute (time : DateTime) : Nat := time.second / 60 % 60

/-- The second of the minute, leap seconds not counted. -/
def secondOfMinute (time : DateTime) : Nat := time.second % 60

/-- Whether the day just starts. -/
def isMidnight (time : DateTime) : Bool := decide (time.second = 0 ∧ time.nanosecond = 0)

/-- Microseconds from the start of 2000, cut off toward that moment. A leap second
counts as the second after it. -/
def microseconds (time : DateTime) : Int :=
  ((time.date.dayNumber * 86400 + time.second) * nanosPerSecond + time.nanosecond).tdiv 1000

/-- The time some seconds later or earlier, within one day. -/
def shift (time : DateTime) (seconds : Int) : Option DateTime :=
  let moved := time.second + seconds
  let day :=
    if moved < 0 then time.date.previous?
    else if 86400 ≤ moved then time.date.next?
    else some time.date
  day.map fun date =>
    ⟨date, (moved % 86400).toNat, time.nanosecond, by omega, time.nanosecondInRange⟩

/-- Hour, minute and second with colons between. -/
def clock (hour minute second : Nat) : List Char :=
  Text.padded 2 hour ++ ':' :: Text.padded 2 minute ++ ':' :: Text.padded 2 second

/-- The time of day to the second; a leap second is shown as the second after it. -/
def clockChars (time : DateTime) : List Char :=
  clock time.hour time.minute (time.secondOfMinute + time.nanosecond / nanosPerSecond)

/-- Date and time of day with a space between. -/
def chars (time : DateTime) : List Char := time.date.chars ++ ' ' :: time.clockChars

/-- The date alone when the day just starts, otherwise date and time of day. -/
def text (time : DateTime) : String :=
  if time.isMidnight then time.date.text else String.ofList time.chars

/-- The fraction of a second in as few groups of three digits as it needs. -/
def fractionChars (nanosecond : Nat) : List Char :=
  if nanosecond = 0 then []
  else if nanosecond % 1000000 = 0 then '.' :: Text.padded 3 (nanosecond / 1000000)
  else if nanosecond % 1000 = 0 then '.' :: Text.padded 6 (nanosecond / 1000)
  else '.' :: Text.padded 9 nanosecond

/-- Date and time of day to the nanosecond, with a `T` between. -/
def shown (time : DateTime) : String :=
  String.ofList (time.date.chars ++ 'T' :: time.clockChars ++
    fractionChars (time.nanosecond % nanosPerSecond))

end DateTime

end SqlCondition
