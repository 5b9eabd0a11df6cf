import LatencyChart.Number.Binary64

/-!
# Rounding to nearest

A positive ratio is rounded to the nearest whole number or to the nearest binary64 number.
A ratio halfway between two neighbours goes to the even one.
-/

namespace LatencyChart

/-- The whole number nearest to `numerator / denominator`, where a half goes to the even
neighbour. -/
def roundHalfEven (numerator denominator : Nat) : Nat :=
  let quotient := numerator / denominator
  let twiceRest := 2 * (numerator % denominator)
  if twiceRest < denominator then quotient
  else if denominator < twiceRest then quotient + 1
  else quotient + quotient % 2

namespace Binary64

/-- The exponent `q`, at least -1074, for which the ratio lies in `[2 ^ 52, 2 ^ 53)` times
`2 ^ q`, or lies below that when `q` is -1074. -/
def ratioExponent (numerator denominator : Nat) : Int :=
  let low : Int := max (-1074) ((numerator.log2 : Int) - denominator.log2 - 53)
  let reachesNext :=
    denominator * Nat.pow 2 (53 + low).toNat ≤ numerator * Nat.pow 2 (-53 - low).toNat
  if reachesNext then low + 1 else low

/-- The bits of the positive number nearest to `significand * 2 ^ exponent`, where
`significand` is at most `2 ^ 53`. Magnitudes past the largest number give infinity. -/
def magnitudeBits (significand : Nat) (exponent : Int) : Nat :=
  if significand < Nat.pow 2 52 then significand
  else
    min 0x7FF0000000000000
      ((exponent + 1075).toNat * Nat.pow 2 52 + (significand - Nat.pow 2 52))

/-- The bits of the positive number nearest to a positive ratio. -/
def ratioBits (numerator denominator : Nat) : Nat :=
  let exponent := ratioExponent numerator denominator
  magnitudeBits
    (roundHalfEven
      (numerator * Nat.pow 2 (-exponent).toNat)
      (denominator * Nat.pow 2 exponent.toNat))
    exponent

/-- The bits of the number nearest to `digits * 10 ^ exponent`. The two guards answer for
powers of ten that are out of range, so that no power larger than needed is computed. -/
def decimalBits (digits : Nat) (exponent : Int) : Nat :=
  if digits = 0 then 0
  else if 310 < exponent then 0x7FF0000000000000
  else if (digits.log2 : Int) + 1 + 3 * exponent < -1100 then 0
  else ratioBits (digits * Nat.pow 10 exponent.toNat) (Nat.pow 10 (-exponent).toNat)

/-- The number nearest to `digits * 10 ^ exponent`, with the given sign. -/
def ofDecimal
    (negative : Bool)
    (digits : Nat)
    (exponent : Int) : Float :=
  Float.ofBits
    ((if negative then 0x8000000000000000 else 0) + (decimalBits digits exponent).toUInt64)

end Binary64
end LatencyChart
