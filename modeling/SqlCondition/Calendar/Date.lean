import SqlCondition.Text.Digits

/-!
# Dates

Dates of the proleptic Gregorian calendar with year numbers that include zero and
negative ones. A date carries the proofs that its parts are in range, so every
date denotes a day; `Date.dayNumber` counts it from the first day of 2000.
-/

namespace SqlCondition

namespace Calendar

/-- The years that dates may have. -/
def leastYear : Int := -262143

/-- The last year that dates may have. -/
def greatestYear : Int := 262142

/-- Every fourth year is a leap year, except the centuries that four hundred does
not divide. -/
def isLeapYear (year : Int) : Bool :=
  decide (year % 4 = 0 ∧ (year % 100 ≠ 0 ∨ year % 400 = 0))

/-- The lengths of the months. -/
def monthLengths (year : Int) : List Nat :=
  [31, if isLeapYear year then 29 else 28, 31, 30, 31, 30, 31, 31, 30, 31, 30, 31]

/-- The length of a month; a month outside one to twelve has no days. -/
def daysInMonth (year : Int) (month : Nat) : Nat :=
  if month = 0 then 0 else (monthLengths year)[month - 1]?.getD 0

/-- The days of a year before a month. -/
def daysBeforeMonth (year : Int) (month : Nat) : Nat := 
  ((monthLengths year).take (month - 1)).foldl (· + ·) 0

/-- The days from the first day of year one to the first day of a year. -/
def daysBeforeYear (year : Int) : Int :=
  365 * (year - 1) + (year - 1) / 4 - (year - 1) / 100 + (year - 1) / 400

/-- A year in four digits; outside zero to 9999 the sign stands before them, and
there may be more. -/
def yearText (year : Int) : List Char :=
  if 0 ≤ year ∧ year ≤ 9999 then Text.padded 4 year.natAbs
  else (if year < 0 then '-' else '+') :: Text.padded 4 year.natAbs

end Calendar

open Calendar

/-- A day of the calendar. -/
structure Date where
  year : Int
  month : Nat
  day : Nat
  yearInRange : leastYear ≤ year ∧ year ≤ greatestYear
  dayInMonth : 1 ≤ day ∧ day ≤ daysInMonth year month
  deriving DecidableEq

namespace Date

/-- The date with the given parts, when there is one. -/
def of? (year : Int) (month day : Nat) : Option Date :=
  if valid : (leastYear ≤ year ∧ year ≤ greatestYear) ∧ 1 ≤ day ∧ day ≤ daysInMonth year month then
    some ⟨year, month, day, valid.1, valid.2⟩
  else none

/-- The days from the first day of 2000. -/
def dayNumber (date : Date) : Int :=
  daysBeforeYear date.year - daysBeforeYear 2000 + daysBeforeMonth date.year date.month +
    (date.day - 1 : Nat)

/-- The following day, unless the calendar ends. -/
def next? (date : Date) : Option Date :=
  (of? date.year date.month (date.day + 1)).orElse fun _ =>
    (of? date.year (date.month + 1) 1).orElse fun _ => of? (date.year + 1) 1 1

/-- The day before, unless the calendar begins. -/
def previous? (date : Date) : Option Date :=
  if 1 < date.day then of? date.year date.month (date.day - 1)
  else if 1 < date.month then
    of? date.year (date.month - 1) (daysInMonth date.year (date.month - 1))
  else of? (date.year - 1) 12 31

/-- Year, month and day with dashes between. -/
def chars (date : Date) : List Char :=
  yearText date.year ++ '-' :: Text.padded 2 date.month ++ '-' :: Text.padded 2 date.day

/-- Year, month and day with dashes between. -/
def text (date : Date) : String := String.ofList date.chars

/-- The months of a date are those of the calendar. Other months have no days, and a date has
one. -/
theorem month_in_year (date : Date) : 1 ≤ date.month ∧ date.month ≤ 12 := by
  have inside := date.dayInMonth
  unfold daysInMonth at inside
  split at inside
  · omega
  · rename_i positive
    refine ⟨Nat.one_le_iff_ne_zero.mpr positive, ?_⟩
    cases beyond : decide (12 < date.month) with
    | true =>
      have large : 12 ≤ date.month - 1 := by
        have := of_decide_eq_true beyond
        omega
      have absent : (monthLengths date.year)[date.month - 1]? = none :=
        List.getElem?_eq_none (by simpa [monthLengths] using large)
      simp only [absent, Option.getD_none] at inside
      omega
    | false =>
      have := of_decide_eq_false beyond
      omega

/-- A date is found again from its parts: they are checked, and they are in order. -/
theorem of?_parts (date : Date) : of? date.year date.month date.day = some date := by
  unfold of?
  rw [dif_pos ⟨date.yearInRange, date.dayInMonth⟩]

end Date

end SqlCondition
