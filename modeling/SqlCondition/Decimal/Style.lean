import SqlCondition.Decimal.Shortest

/-!
# Writing binary numbers in decimal

A style says for which decimal exponents a number is written positionally,
whether a whole number keeps a fraction of zero, whether a positive exponent is
marked, and how ties between shortest decimals go. Three styles are in use: plain
text, the form shown in messages, and the form in JSON text.
-/

namespace SqlCondition

/-- The decisions of a written form. -/
structure DecimalStyle where
  /-- Whether a number whose leading digit stands at this power of ten is written
  positionally. -/
  positional : Int → Bool
  /-- Whether a whole number written positionally ends in a point and a zero. -/
  fraction : Bool
  /-- Whether a positive exponent has a plus sign. -/
  plus : Bool
  tie : Tie

namespace DecimalStyle

/-- Always positional, and a whole number has no point. -/
def plain : DecimalStyle := ⟨fun _ => true, false, false, .up⟩

/-- Positional from one ten-thousandth up to sixteen digits, with a fraction. -/
def shown : DecimalStyle := ⟨fun power => decide (-4 ≤ power ∧ power < 16), true, false, .up⟩

/-- Positional from one hundred-thousandth up to sixteen digits, with a fraction;
otherwise the exponent has a sign. -/
def json : DecimalStyle := ⟨fun power => decide (-5 ≤ power ∧ power < 16), true, true, .even⟩

end DecimalStyle

namespace Decimal

/-- The digits with a point, zeros filled in where the point stands outside. -/
def positional (fraction : Bool) (decimal : Decimal) : List Char :=
  let count : Int := decimal.digits.length
  if decimal.point ≤ 0 then
    ['0', '.'] ++ List.replicate (-decimal.point).toNat '0' ++ decimal.digits
  else if count ≤ decimal.point then
    decimal.digits ++ List.replicate (decimal.point - count).toNat '0' ++
      (if fraction then ['.', '0'] else [])
  else decimal.digits.take decimal.point.toNat ++ ['.'] ++ decimal.digits.drop decimal.point.toNat

/-- One digit before the point and a power of ten. -/
def scientific (plus : Bool) (decimal : Decimal) : List Char :=
  let power := decimal.point - 1
  decimal.digits.take 1 ++ (if decimal.digits.length ≤ 1 then [] else '.' :: decimal.digits.drop 1) ++
    ['e'] ++ (if power < 0 then ['-'] else if plus then ['+'] else []) ++
    Nat.toDigits 10 power.natAbs

/-- A positive decimal in a style. -/
def write (style : DecimalStyle) (decimal : Decimal) : List Char :=
  if style.positional (decimal.point - 1) then decimal.positional style.fraction
  else decimal.scientific style.plus

end Decimal

namespace Double

/-- A number in a style. Zero keeps its sign, a NaN has none. -/
def write (style : DecimalStyle) (number : Double) : String :=
  if number.isNaN then "NaN"
  else
    let sign := if number.isNegative then ['-'] else []
    let body :=
      if number.isInfinite then ['i', 'n', 'f']
      else if number.isZero then if style.fraction then ['0', '.', '0'] else ['0']
      else (Decimal.shortest style.tie (Decimal.Interval.ofDouble number)).write style
    String.ofList (sign ++ body)

end Double

end SqlCondition
