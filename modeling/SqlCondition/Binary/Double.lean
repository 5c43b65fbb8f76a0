import SqlCondition.Binary.Format

/-!
# Numbers of the 64-bit binary format

A number is kept as its 64 bits, so that signed zeros and the bits of a NaN are
data. Arithmetic is exact on quotients of natural numbers and rounds once.
-/

namespace SqlCondition

/-- A number of the 64-bit binary format. -/
structure Double where
  bits : UInt64
  deriving DecidableEq

namespace Double

/-- The bits without the sign. -/
def magnitude (number : Double) : Nat := number.bits.toNat % BinaryFormat.double.signBit

/-- Whether the sign bit is set. -/
def isNegative (number : Double) : Bool :=
  decide (BinaryFormat.double.signBit ≤ number.bits.toNat)

/-- Whether the bits denote no number. -/
def isNaN (number : Double) : Bool := decide (BinaryFormat.double.infinity < number.magnitude)

/-- Whether the number is one of the two infinities. -/
def isInfinite (number : Double) : Bool := decide (number.magnitude = BinaryFormat.double.infinity)

/-- Whether the number is one of the two zeros. -/
def isZero (number : Double) : Bool := decide (number.magnitude = 0)

/-- A sign and the bits below it. -/
def ofMagnitude (negative : Bool) (magnitude : Nat) : Double :=
  ⟨UInt64.ofNat ((if negative then BinaryFormat.double.signBit else 0) + magnitude)⟩

/-- Significand and power of two of the absolute value of a finite number. -/
def parts (number : Double) : Nat × Int := BinaryFormat.double.parts number.magnitude

/-- Numerator and denominator of the absolute value of a finite number. -/
def ratio (number : Double) : Nat × Nat :=
  (number.parts.1 <<< number.parts.2.toNat, 1 <<< (-number.parts.2).toNat)

/-- The number nearest to a quotient, with a sign. -/
def ofRatio (negative : Bool) (numerator denominator : Nat) : Double :=
  ofMagnitude negative (BinaryFormat.double.nearest numerator denominator)

/-- The number nearest to an integer. -/
def ofInt (integer : Int) : Double := ofRatio (decide (integer < 0)) integer.natAbs 1

/-- The number with the opposite sign. -/
def negate (number : Double) : Double := ofMagnitude (!number.isNegative) number.magnitude

/-- The number nearest to the product of two finite numbers. -/
def times (first second : Double) : Double :=
  ofRatio (first.isNegative != second.isNegative) (first.ratio.1 * second.ratio.1)
    (first.ratio.2 * second.ratio.2)

/-- The number nearest to the quotient of a finite number by a finite nonzero one. -/
def dividedBy (first second : Double) : Double :=
  ofRatio (first.isNegative != second.isNegative) (first.ratio.1 * second.ratio.2)
    (first.ratio.2 * second.ratio.1)

/-- How many bits the 64-bit significand has beyond the 32-bit one. -/
def narrowedBits : Nat := BinaryFormat.double.precision - BinaryFormat.single.precision

/-- The bits of the nearest number of the 32-bit format. A NaN keeps its sign and
the leading bits of its significand and becomes quiet. -/
def toSingle (number : Double) : UInt32 :=
  let sign := if number.isNegative then BinaryFormat.single.signBit else 0
  let magnitude :=
    if number.isNaN then
      let kept := (number.magnitude % BinaryFormat.double.stride) >>> narrowedBits
      BinaryFormat.single.infinity + (kept ||| BinaryFormat.single.stride / 2)
    else if number.isInfinite then BinaryFormat.single.infinity
    else BinaryFormat.single.nearest number.ratio.1 number.ratio.2
  UInt32.ofNat (sign + magnitude)

/-- The number that a pattern of the 32-bit format denotes. A NaN keeps its sign
and its significand and becomes quiet. -/
def ofSingle (bits : UInt32) : Double :=
  let negative := decide (BinaryFormat.single.signBit ≤ bits.toNat)
  let magnitude := bits.toNat % BinaryFormat.single.signBit
  if BinaryFormat.single.infinity < magnitude then
    let kept := (magnitude % BinaryFormat.single.stride) <<< narrowedBits
    ofMagnitude negative (BinaryFormat.double.infinity + (kept ||| BinaryFormat.double.stride / 2))
  else if magnitude = BinaryFormat.single.infinity then
    ofMagnitude negative BinaryFormat.double.infinity
  else
    let denoted := BinaryFormat.single.parts magnitude
    ofRatio negative (denoted.1 <<< denoted.2.toNat) (1 <<< (-denoted.2).toNat)

end Double

end SqlCondition
