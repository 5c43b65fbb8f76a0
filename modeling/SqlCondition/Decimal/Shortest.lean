import SqlCondition.Binary.Double

/-!
# The shortest decimal of a binary number

The real numbers that round to a binary number form an interval around it; the
ends belong to it exactly when the significand is even. For one digit, two digits
and so on, the two neighbours of the number among the decimals of that length are
tried. The first length at which one of them lies in the interval gives the
answer; of two, the nearer one does, and of two equally near ones the tie rule
chooses. Seventeen digits always suffice for the 64-bit format.

All comparisons are exact: both sides are multiplied by powers of two and ten
until they are natural numbers.
-/

namespace SqlCondition

/-- Which of two equally near decimals is taken. -/
inductive Tie
  /-- The larger one. -/
  | up
  /-- The one whose last digit is even. -/
  | even

/-- The digits of a positive decimal, the first and the last not zero, and the
place of the point counted from the front: the value is the digits behind a
leading point, times ten to that power. -/
structure Decimal where
  digits : List Char
  point : Int

namespace Decimal

/-- A number in quarters of the unit of its significand, with the ends of the
interval that rounds to it. -/
structure Interval where
  low : Nat
  middle : Nat
  high : Nat
  /-- The power of two of a quarter. -/
  exponent : Int
  /-- Whether the ends belong to the interval. -/
  closed : Bool

/-- The interval of a significand and a power of two. Below a power of two the
numbers stand twice as close, so the lower end is nearer there. -/
def Interval.of (significand : Nat) (exponent : Int) (atPower : Bool) : Interval where
  low := 4 * significand - (if atPower then 1 else 2)
  middle := 4 * significand
  high := 4 * significand + 2
  exponent := exponent - 2
  closed := significand % 2 = 0

/-- The interval of a finite nonzero number. -/
def Interval.ofDouble (number : Double) : Interval :=
  Interval.of number.parts.1 number.parts.2
    (decide (number.magnitude % BinaryFormat.double.stride = 0 ∧
      BinaryFormat.double.stride < number.magnitude))

/-- How many decimal digits a natural number has. -/
def length (number : Nat) : Nat := (Nat.toDigits 10 number).length

/-- The power of ten of the leading digit of a quotient of positive numbers. -/
def leadingPlace (numerator denominator : Nat) : Int :=
  if denominator ≤ numerator then (length (numerator / denominator) : Int) - 1
  else
    let places := length (denominator / numerator)
    if denominator ≤ numerator * Nat.pow 10 (places - 1) then 1 - (places : Int) else -(places : Int)

/-- By what a quarter and a unit in the given decimal place are multiplied to
become natural numbers. -/
def scales (interval : Interval) (place : Int) : Nat × Nat :=
  (Nat.pow 10 (-place).toNat <<< interval.exponent.toNat,
    Nat.pow 10 place.toNat <<< (-interval.exponent).toNat)

/-- Whether a count of units in a decimal place lies in the interval. -/
def inside (interval : Interval) (place : Int) (count : Nat) : Bool :=
  let quarter := (scales interval place).1
  let unit := (scales interval place).2
  if interval.closed then
    decide (interval.low * quarter ≤ count * unit ∧ count * unit ≤ interval.high * quarter)
  else decide (interval.low * quarter < count * unit ∧ count * unit < interval.high * quarter)

/-- The better of the two neighbours in a decimal place, if one of them lies in
the interval. -/
def pick (tie : Tie) (interval : Interval) (place : Int) : Option Nat :=
  let quarter := (scales interval place).1
  let unit := (scales interval place).2
  let below := interval.middle * quarter / unit
  match inside interval place below, inside interval place (below + 1) with
  | false, false => none
  | true, false => some below
  | false, true => some (below + 1)
  | true, true =>
      let doubled := 2 * (interval.middle * quarter)
      let between := (2 * below + 1) * unit
      if doubled < between then some below
      else if between < doubled then some (below + 1)
      else
        match tie with
        | .up => some (below + 1)
        | .even => some (below + below % 2)

/-- A count of units in a decimal place without the zeros at its end. -/
def ofCount (count : Nat) (place : Int) : Decimal :=
  let digits := Nat.toDigits 10 count
  ⟨(digits.reverse.dropWhile (· = '0')).reverse, place + digits.length⟩

/-- The shortest decimal in the interval. -/
def shortest (tie : Tie) (interval : Interval) : Decimal :=
  let leading := leadingPlace (interval.middle <<< interval.exponent.toNat)
    (1 <<< (-interval.exponent).toNat)
  let found := (List.range 17).findSome? fun (extra : Nat) =>
    (pick tie interval (leading - extra)).map fun count => ofCount count (leading - extra)
  found.getD (ofCount interval.middle 0)

end Decimal

end SqlCondition
