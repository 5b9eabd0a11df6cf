/-!
# Binary64 numbers

A finite number is `m * 2 ^ q` for a natural significand `m` and an integer exponent `q`,
with a sign of its own. The rounding functions toward whole numbers are exact, and
conversions to integers stop at the ends of the target's range.
-/

namespace LatencyChart
namespace Binary64

/-- Whether the sign bit is set. -/
def isNegative (number : Float) : Bool :=
  number.toBits >>> 63 == 1

/-- The eleven exponent bits. -/
def exponentField (number : Float) : Nat :=
  (number.toBits >>> 52).toNat % 2048

/-- The fifty-two fraction bits. -/
def fractionField (number : Float) : Nat :=
  number.toBits.toNat % Nat.pow 2 52

/-- The natural `m` for which a finite number has magnitude `m * 2 ^ exponent`. -/
def significand (number : Float) : Nat :=
  if exponentField number = 0 then fractionField number
  else Nat.pow 2 52 + fractionField number

/-- The integer `q` for which a finite number has magnitude `significand * 2 ^ q`. -/
def exponent (number : Float) : Int :=
  if exponentField number = 0 then -1074
  else (exponentField number : Int) - 1075

/-- Positive infinity. -/
def infinity : Float := Float.ofBits 0x7FF0000000000000

/-- The number that is not a number. -/
def notANumber : Float := Float.ofBits 0x7FF8000000000000

/-- Negative zero. -/
def negativeZero : Float := Float.ofBits 0x8000000000000000

/-- The distance from one to the next number, `2 ^ -52`. -/
def epsilon : Float := Float.ofBits 0x3CB0000000000000

/-- The whole part with the sign kept. Numbers of magnitude `2 ^ 52` and more are whole. -/
def whole (number : Float) : Float :=
  if number.abs < 4503599627370496.0 then
    if isNegative number then -((-number).toUInt64.toFloat) else number.toUInt64.toFloat
  else
    number

/-- The greatest whole number that is at most the given one. -/
def floor (number : Float) : Float :=
  if number < whole number then whole number - 1.0 else whole number

/-- The least whole number that is at least the given one. -/
def ceil (number : Float) : Float :=
  if whole number < number then whole number + 1.0 else whole number

/-- The nearest whole number, where a half goes away from zero. -/
def round (number : Float) : Float :=
  if (number - whole number).abs ≥ 0.5 then
    if isNegative number then whole number - 1.0 else whole number + 1.0
  else
    whole number

/-- The whole part as an integer of 32 bits. Numbers out of range stop at its ends, and a
NaN gives zero. -/
def toInt32 (number : Float) : Int :=
  if number < 0.0 then max (-2147483648) (-((-number).toUInt64.toNat : Int))
  else min 2147483647 number.toUInt64.toNat

/-- The whole part as a natural of 64 bits. Negative numbers and NaN give zero. -/
def toCount (number : Float) : Nat :=
  number.toUInt64.toNat

/-- The number that equals a given integer of at most 53 bits. -/
def ofInt (value : Int) : Float :=
  if value < 0 then -(value.natAbs.toUInt64.toFloat) else value.toNat.toUInt64.toFloat

end Binary64
end LatencyChart
