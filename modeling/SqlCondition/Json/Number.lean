import SqlCondition.Json.Basic
import SqlCondition.Text.Digits

/-!
# Reading JSON numbers

A number without point and exponent that fits in 64 bits, signed or unsigned, is
an integer. Any other number, and minus zero, is binary. Its digits are taken into
a significand of 64 bits as long as they fit; the others only move the point. The
significand is rounded, and then multiplied or divided once by a rounded power of
ten; a power beyond the largest finite one is divided away in steps. A number too
large for the format is refused.
-/

namespace SqlCondition.JsonNumber

/-- The bound of significands. -/
def significandBound : Nat := 0x10000000000000000

/-- Take digits behind a significand as long as it stays below the bound: the
significand and the digits that are left. -/
def absorb (significand : Nat) : List Char → Nat × List Char
  | [] => (significand, [])
  | digit :: rest =>
      let extended := significand * 10 + (digit.toNat - '0'.toNat)
      if extended < significandBound then absorb extended rest
      else (significand, digit :: rest)

/-- The largest power of ten that is finite. -/
def largestPower : Nat := 308

/-- A power of ten, rounded. -/
def powerOfTen (power : Nat) : Double := .ofRatio false (Nat.pow 10 power) 1

/-- A nonnegative number times a power of ten. -/
def scale (number : Double) (power : Int) : Option Double :=
  if power.natAbs ≤ largestPower then
    if 0 ≤ power then
      let scaled := number.times (powerOfTen power.natAbs)
      if scaled.isInfinite then none else some scaled
    else some (number.dividedBy (powerOfTen power.natAbs))
  else if number.isZero then some number
  else if 0 ≤ power then none
  else scale (number.dividedBy (powerOfTen largestPower)) (power + largestPower)
termination_by power.natAbs
decreasing_by
  unfold largestPower at *
  omega

/-- The binary number of a sign, a significand and a power of ten. -/
def real? (negative : Bool) (significand : Nat) (power : Int) : Option JsonNumber :=
  (scale (.ofRatio false significand 1) power).map fun number =>
    .real (if negative then number.negate else number)

/-- The number of a sign and digits without point and exponent. -/
def whole? (negative : Bool) (digits : List Char) : Option JsonNumber :=
  let absorbed := absorb 0 digits
  if absorbed.2.isEmpty then
    if negative then
      if absorbed.1 = 0 ∨ 0x8000000000000000 < absorbed.1 then real? true absorbed.1 0
      else some (.whole (-(absorbed.1 : Int)))
    else some (.whole absorbed.1)
  else real? negative absorbed.1 absorbed.2.length

/-- The number of a sign, digits before and behind the point, and an exponent. -/
def decimal? (negative : Bool) (before behind : List Char) (exponent : Int) : Option JsonNumber :=
  let absorbed := absorb 0 before
  let all := absorb absorbed.1 behind
  let taken := behind.length - all.2.length
  real? negative all.1 (absorbed.2.length - taken + exponent)

/-- An exponent behind its mark: an optional sign and at least one digit. -/
def readExponent (text : List Char) : Option (Int × List Char) :=
  let signed : Bool × List Char :=
    match text with
    | '-' :: rest => (true, rest)
    | '+' :: rest => (false, rest)
    | rest => (false, rest)
  let digits := Text.leadingDigits signed.2.length signed.2
  if digits.1.isEmpty then none
  else
    let amount : Int := Text.number digits.1
    some (if signed.1 then -amount else amount, digits.2)

/-- Digits before the point: a single zero, or digits that start with none. -/
def readWhole (text : List Char) : Option (List Char × List Char) :=
  match text with
  | '0' :: rest =>
      match rest with
      | [] => some (['0'], [])
      | next :: _ => if next.isDigit then none else some (['0'], rest)
  | _ =>
      let digits := Text.leadingDigits text.length text
      if digits.1.isEmpty then none else some digits

/-- A number at the front of a text, and what follows it. -/
def read (text : List Char) : Option (JsonNumber × List Char) := do
  let (negative, unsigned) : Bool × List Char :=
    match text with
    | '-' :: rest => (true, rest)
    | rest => (false, rest)
  let (before, rest) ← readWhole unsigned
  let (behind, rest) ←
    match rest with
    | '.' :: fraction =>
        let digits := Text.leadingDigits fraction.length fraction
        if digits.1.isEmpty then none else some digits
    | other => some ([], other)
  match rest with
  | 'e' :: exponent | 'E' :: exponent => do
      let (power, rest) ← readExponent exponent
      let number ← decimal? negative before behind power
      pure (number, rest)
  | other => do
      let number ← if behind.isEmpty then whole? negative before else decimal? negative before behind 0
      pure (number, other)

end SqlCondition.JsonNumber
