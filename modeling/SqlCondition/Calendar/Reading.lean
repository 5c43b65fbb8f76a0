import SqlCondition.Calendar.DateTime
import SqlCondition.Text.Classes

/-!
# Reading dates and times

A date is read as year, month and day with dashes between, a time as hour, minute
and second with colons between. Blanks may stand before every number. The year
takes up to four digits, or any number of them behind a sign; the other parts take
up to two. Second 60 is a leap second. Whether the parts form a date is asked only
after the whole text was read. Each reader gives what it read and what follows.
-/

namespace SqlCondition.Calendar

/-- Why a text is not read. -/
inductive ReadIssue
  /-- Another character was needed. -/
  | invalid
  /-- A number is too large or too small, or the parts form no date. -/
  | outOfRange
  /-- The text ends too early. -/
  | tooShort
  /-- Something follows the date. -/
  | tooLong
  deriving DecidableEq

/-- The wording of an issue. -/
def ReadIssue.message : ReadIssue → String
  | .invalid => "input contains invalid characters"
  | .outOfRange => "input is out of range"
  | .tooShort => "premature end of input"
  | .tooLong => "trailing input"

/-- At least one digit and at most as many as allowed. -/
def readDigits (allowed : Nat) (text : List Char) : Except ReadIssue (Nat × List Char) :=
  match text with
  | [] => .error .tooShort
  | character :: _ =>
      if character.isDigit then
        let found := Text.leadingDigits allowed text
        .ok (Text.number found.1, found.2)
      else .error .invalid

/-- Blanks, and then a number of up to two digits within bounds. -/
def readPart (least greatest : Nat) (text : List Char) : Except ReadIssue (Nat × List Char) := do
  let (number, rest) ← readDigits 2 (Text.trimFront text)
  if least ≤ number ∧ number ≤ greatest then pure (number, rest) else throw .outOfRange

/-- An integer of 32 bits. -/
def fitsYear (year : Int) : Bool := decide (-0x80000000 ≤ year ∧ year < 0x80000000)

/-- Blanks, and then a year. -/
def readYear (text : List Char) : Except ReadIssue (Int × List Char) := do
  let (year, rest) ←
    match Text.trimFront text with
    | '-' :: unsigned => do
        let (number, rest) ← readDigits unsigned.length unsigned
        pure (-(number : Int), rest)
    | '+' :: unsigned => do
        let (number, rest) ← readDigits unsigned.length unsigned
        pure ((number : Int), rest)
    | unsigned => do
        let (number, rest) ← readDigits 4 unsigned
        pure ((number : Int), rest)
  if fitsYear year then pure (year, rest) else throw .outOfRange

/-- One given character. -/
def readMark (mark : Char) : List Char → Except ReadIssue (Unit × List Char)
  | [] => .error .tooShort
  | character :: rest => if character = mark then .ok ((), rest) else .error .invalid

/-- Year, month and day, which need not form a date yet. -/
def readDay (text : List Char) : Except ReadIssue ((Int × Nat × Nat) × List Char) := do
  let (year, text) ← readYear text
  let ((), text) ← readMark '-' text
  let (month, text) ← readPart 1 12 text
  let ((), text) ← readMark '-' text
  let (day, text) ← readPart 1 31 text
  pure ((year, month, day), text)

/-- Hour, minute and second. -/
def readClock (text : List Char) : Except ReadIssue ((Nat × Nat × Nat) × List Char) := do
  let (hour, text) ← readPart 0 23 text
  let ((), text) ← readMark ':' text
  let (minute, text) ← readPart 0 59 text
  let ((), text) ← readMark ':' text
  let (second, text) ← readPart 0 60 text
  pure ((hour, minute, second), text)

/-- The end of the text. -/
def readEnd : List Char → Except ReadIssue Unit
  | [] => .ok ()
  | _ :: _ => .error .tooLong

/-- The date with the given parts. -/
def dateOf (parts : Int × Nat × Nat) : Except ReadIssue Date :=
  match Date.of? parts.1 parts.2.1 parts.2.2 with
  | some date => .ok date
  | none => .error .outOfRange

/-- A text that is a date. -/
def readDate (text : List Char) : Except ReadIssue Date := do
  let (parts, rest) ← readDay text
  readEnd rest
  dateOf parts

/-- A date at hour, minute and second; second 60 becomes the leap second after 59. -/
def timeOf (date : Date) (clock : Nat × Nat × Nat) : Except ReadIssue DateTime :=
  let second := if clock.2.2 = 60 then 59 else clock.2.2
  let nanosecond := if clock.2.2 = 60 then DateTime.nanosPerSecond else 0
  match DateTime.of? date clock.1 clock.2.1 second nanosecond with
  | some time => .ok time
  | none => .error .outOfRange

/-- A text that is a date and a time of day, with any blanks or none between. -/
def readMoment (text : List Char) : Except ReadIssue DateTime := do
  let (parts, rest) ← readDay text
  let (clock, rest) ← readClock (Text.trimFront rest)
  readEnd rest
  let date ← dateOf parts
  timeOf date clock

/-- A text that is a date and a time of day, or else a date, which starts at
midnight. A text that is neither is refused for what keeps it from being a date. -/
def readDateTime (text : List Char) : Except ReadIssue DateTime :=
  match readMoment text with
  | .ok time => .ok time
  | .error _ => (readDate text).map DateTime.startOf

end SqlCondition.Calendar
