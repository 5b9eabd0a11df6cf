import LatencyChart.Proofs.Number.Alike
import LatencyChart.Proofs.Number.Order
import LatencyChart.Proofs.Number.Sum

/-!
# Arithmetic keeps the order

Rounding to a nearest point does not turn two rationals round, and past the greatest numbers it
ends in an infinity of the same sign.  So sums, differences, products and quotients of numbers are
in the order of the exact ones.  Where the exact ones are equal, the operands differ in the sign of
a zero at most, and the rule for ties needs not be looked at.
-/

namespace LatencyChart
namespace Binary64

open Float.Model (Format UnpackedFloat)
open Float.Model.UnpackedFloat

/-! ## Places of rounded rationals -/

/-- Nearest points are in the order of what they are nearest to. -/
theorem IsNearest.le_of_lt
    {low high lowNearest highNearest : ℚ}
    (lowIsNearest : IsNearest low lowNearest)
    (highIsNearest : IsNearest high highNearest)
    (below : low < high) :
    lowNearest ≤ highNearest := by
  by_contra! turned
  -- The middle of the two points is not above the lower rational, and not below the higher one.
  have lowNear := lowIsNearest.near highNearest highIsNearest.onGrid
  have highNear := highIsNearest.near lowNearest lowIsNearest.onGrid
  rcases abs_cases (lowNearest - low) with ⟨size, _⟩ | ⟨size, _⟩ <;>
    rcases abs_cases (highNearest - low) with ⟨otherSize, _⟩ | ⟨otherSize, _⟩ <;>
    rcases abs_cases (highNearest - high) with ⟨highSize, _⟩ | ⟨highSize, _⟩ <;>
    rcases abs_cases (lowNearest - high) with ⟨lowSize, _⟩ | ⟨lowSize, _⟩ <;>
    linarith

/-- The point of the grid behind the greatest number. -/
def overflowPoint : ℚ := 2 ^ 53 * topUnit

theorem overflowPoint_pos : 0 < overflowPoint :=
  mul_pos (by norm_num) topUnit_pos

/-- The place that is left of a point of the grid: from the one behind the greatest number on it
is an infinity. -/
def pointPlace (point : ℚ) : Place :=
  if overflowPoint ≤ point then ⊤
  else if point ≤ -overflowPoint then ⊥
  else .ofRat point

theorem pointPlace_mono : Monotone pointPlace := by
  intro low high below
  have positive := overflowPoint_pos
  by_cases highOver : overflowPoint ≤ high
  · rw [pointPlace, pointPlace, if_pos highOver]
    exact le_top
  · have lowNotOver : ¬overflowPoint ≤ low := fun lowOver => highOver (lowOver.trans below)
    rw [pointPlace, if_neg lowNotOver]
    by_cases lowUnder : low ≤ -overflowPoint
    · rw [if_pos lowUnder]
      exact bot_le
    · have highNotUnder : ¬high ≤ -overflowPoint :=
        fun highUnder => lowUnder (below.trans highUnder)
      rw [if_neg lowUnder, pointPlace, if_neg highOver, if_neg highNotUnder]
      exact WithBot.coe_le_coe.mpr (WithTop.coe_le_coe.mpr below)

/-- The magnitude of a reduced number tells whether its exponent is too high. -/
theorem overflowPoint_le_iff
    {significand : Nat}
    {exponent : Int}
    (short : significand < 2 ^ 53)
    (normal : exponent = -1074 ∨ 2 ^ 52 ≤ significand) :
    overflowPoint ≤ significand * 2 ^ exponent ↔ 971 < exponent := by
  have unit := topUnit_pos
  unfold overflowPoint
  constructor
  · intro above
    by_contra! low
    have bits : (significand : ℚ) < 2 ^ 53 := by exact_mod_cast short
    have below : (2 : ℚ) ^ exponent ≤ topUnit := by
      rw [topUnit]
      exact zpow_le_zpow_right₀ one_le_two low
    have less : (significand : ℚ) * 2 ^ exponent < 2 ^ 53 * topUnit :=
      calc (significand : ℚ) * 2 ^ exponent
          ≤ significand * topUnit := by gcongr
        _ < 2 ^ 53 * topUnit := by gcongr
    exact absurd above (not_le.mpr less)
  · intro high
    have long : (2 ^ 52 : ℚ) ≤ significand := by
      exact_mod_cast (by omega : 2 ^ 52 ≤ significand)
    have above : topUnit * 2 ≤ 2 ^ exponent := by
      rw [topUnit, ← zpow_add_one₀ two_ne_zero]
      exact zpow_le_zpow_right₀ one_le_two (by omega)
    calc 2 ^ 53 * topUnit
        = 2 ^ 52 * (topUnit * 2) := by ring
      _ ≤ (significand : ℚ) * 2 ^ exponent := by gcongr

theorem pointPlace_signed
    (sign : Sign)
    {magnitude : ℚ}
    (positive : 0 < magnitude) :
    pointPlace (signed sign magnitude) =
      if overflowPoint ≤ magnitude then unpackedPlace (.infinity sign)
      else .ofRat (signed sign magnitude) := by
  have bound := overflowPoint_pos
  cases sign with
  | positive =>
      have notUnder : ¬magnitude ≤ -overflowPoint := by linarith
      rw [signed, pointPlace, if_neg notUnder]
      rfl
  | negative =>
      have notOver : ¬overflowPoint ≤ -magnitude := by linarith
      rw [signed, pointPlace, if_neg notOver]
      simp only [neg_le_neg_iff]
      rfl

theorem unpackedPlace_saturated
    {number : UnpackedFloat}
    (finite : number.isFinite = true)
    (reduced : IsReduced number) :
    unpackedPlace (saturated number) = pointPlace (unpackedValue number) := by
  cases number with
  | notANumber => contradiction
  | infinity sign => contradiction
  | zero sign =>
      have bound := overflowPoint_pos
      change Place.ofRat 0 = pointPlace 0
      rw [pointPlace, if_neg (not_le.mpr bound), if_neg (not_le.mpr (neg_neg_of_pos bound))]
  | finite sign significand exponent significandPositive =>
      obtain ⟨short, -, normal⟩ := reduced
      change _ = pointPlace (signed sign (significand * 2 ^ exponent))
      rw [pointPlace_signed sign (by positivity)]
      simp only [saturated, overflowPoint_le_iff short normal]
      split
      · rfl
      · rfl

theorem IsRounding.place_pack
    {exact : ℚ}
    {rounded : UnpackedFloat}
    (rounding : IsRounding exact rounded) :
    place (.ofModel (.pack rounded)) = pointPlace (unpackedValue rounded) := by
  have unpacked : (Float.ofModel (.pack rounded)).toModel.unpack = saturated rounded :=
    unpack_pack rounding.reduced
  rw [place, unpacked]
  exact unpackedPlace_saturated rounding.finite rounding.reduced

theorem IsAlike.place_eq
    {first second : Float}
    (alike : IsAlike first second) :
    place first = place second := by
  unfold place
  change AreAlike first.toModel.unpack second.toModel.unpack at alike
  generalize first.toModel.unpack = left at alike
  generalize second.toModel.unpack = right at alike
  cases alike <;> rfl

/-- Rounded rationals are in the order of the exact ones, where equal ones are rounded alike. -/
theorem le_of_isRounding
    {low high : ℚ}
    {lowRounded highRounded : UnpackedFloat}
    (lowRounding : IsRounding low lowRounded)
    (highRounding : IsRounding high highRounded)
    (below : low ≤ high)
    (alike : low = high →
      IsAlike (.ofModel (.pack lowRounded)) (.ofModel (.pack highRounded))) :
    Float.ofModel (.pack lowRounded) ≤ Float.ofModel (.pack highRounded) := by
  rw [le_iff_place_le (roundsTo_pack lowRounding).isNaN_eq_false
    (roundsTo_pack highRounding).isNaN_eq_false]
  rcases below.lt_or_eq with less | same
  · rw [lowRounding.place_pack, highRounding.place_pack]
    exact pointPlace_mono (lowRounding.nearest.le_of_lt highRounding.nearest less)
  · exact (alike same).place_eq.le

/-! ## Operations on finite numbers -/

section Finite

variable
  {low high first second : Float}
  (lowFinite : low.isFinite = true)
  (highFinite : high.isFinite = true)
  (firstFinite : first.isFinite = true)
  (secondFinite : second.isFinite = true)

include lowFinite highFinite firstFinite secondFinite

theorem add_le_add_of_finite
    (below : value low ≤ value high)
    (ordered : value first ≤ value second) :
    low + first ≤ high + second := by
  refine le_of_isRounding
    ((isFiniteWith_unpack lowFinite).isRounding_add (isFiniteWith_unpack firstFinite))
    ((isFiniteWith_unpack highFinite).isRounding_add (isFiniteWith_unpack secondFinite))
    (add_le_add below ordered) ?_
  intro same
  exact (isAlike_of_value_eq lowFinite highFinite (by linarith)).add
    (isAlike_of_value_eq firstFinite secondFinite (by linarith))

theorem sub_le_sub_of_finite
    (below : value low ≤ value high)
    (ordered : value second ≤ value first) :
    low - first ≤ high - second := by
  refine le_of_isRounding
    ((isFiniteWith_unpack lowFinite).isRounding_sub (isFiniteWith_unpack firstFinite))
    ((isFiniteWith_unpack highFinite).isRounding_sub (isFiniteWith_unpack secondFinite))
    (sub_le_sub below ordered) ?_
  intro same
  exact (isAlike_of_value_eq lowFinite highFinite (by linarith)).sub
    (isAlike_of_value_eq firstFinite secondFinite (by linarith))

end Finite

section Finite

variable
  {low high factor : Float}
  (lowFinite : low.isFinite = true)
  (highFinite : high.isFinite = true)
  (factorFinite : factor.isFinite = true)

include lowFinite highFinite factorFinite

theorem div_le_div_of_finite
    (below : value low ≤ value high)
    (positive : 0 < value factor) :
    low / factor ≤ high / factor := by
  refine le_of_isRounding
    ((isFiniteWith_unpack lowFinite).isRounding_div (isFiniteWith_unpack factorFinite) positive.ne')
    ((isFiniteWith_unpack highFinite).isRounding_div (isFiniteWith_unpack factorFinite)
      positive.ne')
    (div_le_div_of_nonneg_right below positive.le) ?_
  intro same
  exact (isAlike_of_value_eq lowFinite highFinite
    ((div_left_inj' positive.ne').mp same)).div_right factor

/-- Equal multiples by a factor differ in the sign of a zero at most. -/
theorem isAlike_mul_of_mul_eq (same : value factor * value low = value factor * value high) :
    IsAlike (factor * low) (factor * high) := by
  rcases eq_or_ne (value factor) 0 with vanishes | apart
  · exact isAlike_zero_mul factorFinite vanishes lowFinite highFinite
  · exact (isAlike_of_value_eq lowFinite highFinite (mul_left_cancel₀ apart same)).mul_left factor

variable (below : value low ≤ value high)

include below

theorem mul_le_mul_of_finite (nonnegative : 0 ≤ value factor) :
    factor * low ≤ factor * high :=
  le_of_isRounding
    ((isFiniteWith_unpack factorFinite).isRounding_mul (isFiniteWith_unpack lowFinite))
    ((isFiniteWith_unpack factorFinite).isRounding_mul (isFiniteWith_unpack highFinite))
    (mul_le_mul_of_nonneg_left below nonnegative)
    (isAlike_mul_of_mul_eq lowFinite highFinite factorFinite)

theorem mul_le_mul_of_finite_of_nonpos (nonpositive : value factor ≤ 0) :
    factor * high ≤ factor * low :=
  le_of_isRounding
    ((isFiniteWith_unpack factorFinite).isRounding_mul (isFiniteWith_unpack highFinite))
    ((isFiniteWith_unpack factorFinite).isRounding_mul (isFiniteWith_unpack lowFinite))
    (mul_le_mul_of_nonpos_left below nonpositive)
    (isAlike_mul_of_mul_eq highFinite lowFinite factorFinite)

end Finite

end Binary64
end LatencyChart
