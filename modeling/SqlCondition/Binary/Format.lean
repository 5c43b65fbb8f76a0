/-!
# Binary interchange formats

A format has a number of significand bits, the leading one included, and a number
of exponent bits. Its nonnegative numbers are the patterns in ascending order:
adding one to a pattern gives the next larger number, and the last pattern is
infinity. A pattern denotes a significand times a power of two.

Rounding takes a quotient of natural numbers to the nearest pattern; of two
equally near ones to the one with an even significand.
-/

namespace SqlCondition

/-- The width of significand and exponent. -/
structure BinaryFormat where
  precision : Nat
  exponentBits : Nat

namespace BinaryFormat

/-- The format of 32 bits. -/
def single : BinaryFormat := ⟨24, 8⟩

/-- The format of 64 bits. -/
def double : BinaryFormat := ⟨53, 11⟩

/-- How many patterns share one power of two. -/
def stride (format : BinaryFormat) : Nat := 1 <<< (format.precision - 1)

/-- The power of two by which the least positive number is scaled. -/
def leastExponent (format : BinaryFormat) : Int :=
  3 - (1 <<< (format.exponentBits - 1) : Nat) - format.precision

/-- The pattern of infinity. -/
def infinity (format : BinaryFormat) : Nat := ((1 <<< format.exponentBits) - 1) * format.stride

/-- The pattern of the sign. -/
def signBit (format : BinaryFormat) : Nat := format.stride <<< format.exponentBits

/-- The significand and the power of two that a finite pattern denotes. -/
def parts (format : BinaryFormat) (pattern : Nat) : Nat × Int :=
  let field := pattern / format.stride
  let rest := pattern % format.stride
  if field = 0 then (rest, format.leastExponent)
  else (rest + format.stride, format.leastExponent + (field - 1 : Nat))

/-- The quotient rounded to the nearest natural number; a half goes to the even
neighbour. -/
def roundHalfEven (numerator denominator : Nat) : Nat :=
  let quotient := numerator / denominator
  let twice := 2 * (numerator % denominator)
  if twice < denominator then quotient
  else if denominator < twice then quotient + 1
  else quotient + quotient % 2

/-- The largest power of two that is at most the quotient of two positive numbers. -/
def floorLog2 (numerator denominator : Nat) : Int :=
  let difference : Int := (numerator.log2 : Int) - denominator.log2
  if denominator <<< difference.toNat ≤ numerator <<< (-difference).toNat then difference
  else difference - 1

/-- The pattern nearest to a quotient. The power of two is chosen so that the
significand has full length, or is the least one; a significand that rounds up to
the next power of two carries into the pattern's exponent. -/
def nearest (format : BinaryFormat) (numerator denominator : Nat) : Nat :=
  if numerator = 0 then 0
  else
    let exponent := max format.leastExponent
      (floorLog2 numerator denominator - (format.precision - 1 : Nat))
    let significand := roundHalfEven (numerator <<< (-exponent).toNat)
      (denominator <<< exponent.toNat)
    min format.infinity ((exponent - format.leastExponent).toNat * format.stride + significand)

end BinaryFormat

end SqlCondition
