import LatencyChart.Proofs.Number.Value

/-!
# Rounding to the nearest number

Numbers lie on a grid: they are small multiples of powers of two that are not too low.  Rounding
cuts the last bits off a significand, and of these it keeps only whether they come to nothing,
to less than a half, to a half or to more.  The result is as near to the exact value as any
point of the grid.
-/

namespace LatencyChart
namespace Binary64

open Float.Model (Format UnpackedFloat totalExponent)
open Float.Model.UnpackedFloat

/-! ## The grid -/

/-- A rational that needs no more than the precision of a number. -/
def IsOnGrid (point : ℚ) : Prop :=
  ∃ multiple exponent : Int,
    |multiple| ≤ 2 ^ 53 ∧ -1074 ≤ exponent ∧ point = multiple * 2 ^ exponent

/-- A point of the grid to which no other one is preferred. -/
structure IsNearest (exact nearest : ℚ) : Prop where
  onGrid : IsOnGrid nearest
  near : ∀ point, IsOnGrid point → |nearest - exact| ≤ |point - exact|

theorem isOnGrid_zero : IsOnGrid 0 :=
  ⟨0, 0, by norm_num, by norm_num, by norm_num⟩

theorem IsOnGrid.neg
    {point : ℚ}
    (onGrid : IsOnGrid point) :
    IsOnGrid (-point) := by
  obtain ⟨multiple, exponent, short, lowest, rfl⟩ := onGrid
  refine ⟨-multiple, exponent, ?_, lowest, ?_⟩
  · rwa [abs_neg]
  · push_cast
    ring

namespace IsNearest

variable {exact nearest point : ℚ}

/-- A point of the grid is nearest to itself. -/
theorem refl (onGrid : IsOnGrid point) : IsNearest point point := by
  refine ⟨onGrid, ?_⟩
  intro other _
  rw [sub_self, abs_zero]
  exact abs_nonneg _

theorem neg (isNearest : IsNearest exact nearest) : IsNearest (-exact) (-nearest) := by
  refine ⟨isNearest.onGrid.neg, ?_⟩
  intro point onGrid
  have near := isNearest.near (-point) onGrid.neg
  rw [← abs_neg, ← abs_neg (point - -exact)]
  convert near using 2 <;> ring

/-- Rounding does not pass a point of the grid upwards. -/
theorem le_of_le
    (isNearest : IsNearest exact nearest)
    (onGrid : IsOnGrid point)
    (below : exact ≤ point) :
    nearest ≤ point := by
  have near := isNearest.near point onGrid
  rw [abs_of_nonneg (by linarith : 0 ≤ point - exact)] at near
  have reach := le_abs_self (nearest - exact)
  linarith

/-- Rounding does not pass a point of the grid downwards. -/
theorem ge_of_ge
    (isNearest : IsNearest exact nearest)
    (onGrid : IsOnGrid point)
    (above : point ≤ exact) :
    point ≤ nearest := by
  have mirrored := isNearest.neg.le_of_le onGrid.neg (neg_le_neg above)
  linarith

theorem abs_le_of_abs_le
    (isNearest : IsNearest exact nearest)
    (onGrid : IsOnGrid point)
    (within : |exact| ≤ point) :
    |nearest| ≤ point := by
  rw [abs_le] at within ⊢
  exact ⟨isNearest.ge_of_ge onGrid.neg within.1, isNearest.le_of_le onGrid within.2⟩

end IsNearest

/-! ## Half a unit -/

theorem abs_sub_le_of_half
    (whole : Int)
    {exact : ℚ}
    (half : |whole - exact| ≤ 1 / 2)
    (other : Int) :
    |whole - exact| ≤ |other - exact| := by
  rcases eq_or_ne other whole with rfl | different
  · exact le_rfl
  · have apart : (1 : ℚ) ≤ |(other : ℚ) - whole| := by
      exact_mod_cast Int.one_le_abs (sub_ne_zero.mpr different)
    have detour := abs_sub_le (other : ℚ) exact whole
    rw [abs_sub_comm exact] at detour
    linarith

theorem abs_sub_le_of_le_of_le
    {low middle high : ℚ}
    (below : low ≤ middle)
    (above : middle ≤ high) :
    |middle - high| ≤ |low - high| := by
  rw [abs_sub_comm, abs_sub_comm low, abs_of_nonneg (sub_nonneg.mpr above),
    abs_of_nonneg (sub_nonneg.mpr (below.trans above))]
  exact sub_le_sub_left below high

/-- A multiple of a unit that is at most half a unit away is nearest, if below the exact value
the grid is not finer than the unit. -/
theorem isNearest_of_half
    {multiple : Nat}
    {exponent : Int}
    {exact : ℚ}
    (short : multiple ≤ 2 ^ 53)
    (lowest : -1074 ≤ exponent)
    (half : |(multiple : ℚ) - exact| ≤ 1 / 2)
    (coarse : exponent = -1074 ∨ 2 ^ 52 ≤ exact) :
    IsNearest (exact * 2 ^ exponent) (multiple * 2 ^ exponent) := by
  have closest (other : Int) : |(multiple : ℚ) - exact| ≤ |other - exact| :=
    abs_sub_le_of_half multiple (by exact_mod_cast half) other
  have unit : (0 : ℚ) < 2 ^ exponent := by positivity
  refine ⟨⟨multiple, exponent, ?_, lowest, by push_cast; rfl⟩, ?_⟩
  · rw [Nat.abs_cast]
    exact_mod_cast short
  rintro point ⟨other, otherExponent, otherShort, otherLowest, rfl⟩
  have split : (2 : ℚ) ^ otherExponent = 2 ^ (otherExponent - exponent) * 2 ^ exponent := by
    rw [← zpow_add₀ two_ne_zero, sub_add_cancel]
  rw [split, ← mul_assoc, ← sub_mul, ← sub_mul, abs_mul, abs_mul]
  refine mul_le_mul_of_nonneg_right ?_ (abs_nonneg _)
  rcases le_or_gt exponent otherExponent with multipleOfUnit | finer
  · obtain ⟨shift, rfl⟩ := Int.le.dest multipleOfUnit
    have whole : (other : ℚ) * 2 ^ (exponent + shift - exponent) =
        ((other * 2 ^ shift : Int) : ℚ) := by
      rw [add_sub_cancel_left, zpow_natCast]
      push_cast
      rfl
    rw [whole]
    exact closest _
  · have above : 2 ^ 52 ≤ exact := by
      rcases coarse with lowestUnit | above
      · omega
      · exact above
    have reach : (other : ℚ) * 2 ^ (otherExponent - exponent) ≤ 2 ^ 52 := by
      have otherCast : (other : ℚ) ≤ 2 ^ 53 := by
        exact_mod_cast (le_abs_self other).trans otherShort
      calc (other : ℚ) * 2 ^ (otherExponent - exponent)
          ≤ 2 ^ 53 * 2 ^ (-1 : Int) := by
            gcongr
            · norm_num
            · omega
        _ = 2 ^ 52 := by norm_num
    have nearPower := closest (2 ^ 52)
    rw [Int.cast_pow, Int.cast_ofNat] at nearPower
    exact nearPower.trans (abs_sub_le_of_le_of_le reach above)

/-! ## Cutting bits off -/

/-- An extended significand tells the whole part of a rational, and whether the rest is nothing,
less than a half, a half, or more. -/
def Describes (extended : ExtendedMantissa) (exact : ℚ) : Prop :=
  match extended with
  | ⟨whole, false, false⟩ => exact = whole
  | ⟨whole, false, true⟩ => whole < exact ∧ exact < whole + 1 / 2
  | ⟨whole, true, false⟩ => exact = whole + 1 / 2
  | ⟨whole, true, true⟩ => whole + 1 / 2 < exact ∧ exact < whole + 1

theorem whole_le_roundedMantissa (extended : ExtendedMantissa) :
    extended.mantissa ≤ extended.roundedMantissa := by
  obtain ⟨significand, roundBit, stickyBit⟩ := extended
  cases roundBit <;> cases stickyBit <;>
    simp only [ExtendedMantissa.roundedMantissa, ExtendedMantissa.accuracy,
      Accuracy.roundToNearestEven] <;>
    omega

theorem roundedMantissa_le (extended : ExtendedMantissa) :
    extended.roundedMantissa ≤ extended.mantissa + 1 := by
  obtain ⟨significand, roundBit, stickyBit⟩ := extended
  cases roundBit <;> cases stickyBit <;>
    simp only [ExtendedMantissa.roundedMantissa, ExtendedMantissa.accuracy,
      Accuracy.roundToNearestEven] <;>
    omega

namespace Describes

variable {extended : ExtendedMantissa} {exact : ℚ}

/-- Cutting the last bit off halves the rational that is told of. -/
theorem shiftRightOne (describes : Describes extended exact) :
    Describes extended.shiftRightOne (exact / 2) := by
  obtain ⟨significand, roundBit, stickyBit⟩ := extended
  have halves : (significand : ℚ) = 2 * (significand / 2 : Nat) + (significand % 2 : Nat) := by
    exact_mod_cast (Nat.div_add_mod significand 2).symm
  -- The bit that is cut off becomes the round bit, and the old ones are gathered in the sticky bit.
  rcases Nat.mod_two_eq_zero_or_one significand with even | odd
  · have cut : (ExtendedMantissa.mk significand roundBit stickyBit).shiftRightOne =
        ⟨significand / 2, false, roundBit || stickyBit⟩ := by
      simp [ExtendedMantissa.shiftRightOne, even]
    rw [even, Nat.cast_zero, add_zero] at halves
    rw [cut]
    cases roundBit <;> cases stickyBit <;>
      simp only [Describes, Bool.or_self, Bool.or_true, Bool.true_or] at describes ⊢ <;>
      grind
  · have cut : (ExtendedMantissa.mk significand roundBit stickyBit).shiftRightOne =
        ⟨significand / 2, true, roundBit || stickyBit⟩ := by
      simp [ExtendedMantissa.shiftRightOne, odd]
    rw [odd, Nat.cast_one] at halves
    rw [cut]
    cases roundBit <;> cases stickyBit <;>
      simp only [Describes, Bool.or_self, Bool.or_true, Bool.true_or] at describes ⊢ <;>
      grind

theorem shiftRight
    (describes : Describes extended exact)
    (count : Nat) :
    Describes (extended >>> count) (exact / 2 ^ count) := by
  induction count with
  | zero =>
      rw [pow_zero, div_one]
      exact describes
  | succ count inductionHypothesis =>
      rw [pow_succ, ← div_div]
      exact inductionHypothesis.shiftRightOne

theorem whole_le (describes : Describes extended exact) :
    (extended.mantissa : ℚ) ≤ exact := by
  obtain ⟨significand, roundBit, stickyBit⟩ := extended
  cases roundBit <;> cases stickyBit <;> simp only [Describes] at describes ⊢ <;> grind

theorem lt_whole_add_one (describes : Describes extended exact) :
    exact < extended.mantissa + 1 := by
  obtain ⟨significand, roundBit, stickyBit⟩ := extended
  cases roundBit <;> cases stickyBit <;> simp only [Describes] at describes ⊢ <;> grind

/-- Rounding is off by a half at most. -/
theorem abs_rounded_sub_le (describes : Describes extended exact) :
    |(extended.roundedMantissa : ℚ) - exact| ≤ 1 / 2 := by
  obtain ⟨significand, roundBit, stickyBit⟩ := extended
  have lastBit : ((significand % 2 : Nat) : ℚ) = 0 ∨ ((significand % 2 : Nat) : ℚ) = 1 := by
    exact_mod_cast Nat.mod_two_eq_zero_or_one significand
  rw [abs_le]
  cases roundBit <;> cases stickyBit <;>
    simp only [Describes, ExtendedMantissa.roundedMantissa, ExtendedMantissa.accuracy,
      Accuracy.roundToNearestEven, Nat.cast_add, Nat.cast_one] at describes ⊢ <;>
    grind

/-- Rounding to a whole number does not pass one upwards. -/
theorem rounded_le_of_lt
    (describes : Describes extended exact)
    {bound : Nat}
    (below : exact < bound) :
    extended.roundedMantissa ≤ bound := by
  have whole : extended.mantissa < bound := by
    exact_mod_cast describes.whole_le.trans_lt below
  have step := roundedMantissa_le extended
  omega

/-- Rounding to a whole number does not pass one downwards. -/
theorem le_rounded_of_le
    (describes : Describes extended exact)
    {bound : Nat}
    (above : bound ≤ exact) :
    bound ≤ extended.roundedMantissa := by
  have whole : bound < extended.mantissa + 1 := by
    exact_mod_cast above.trans_lt describes.lt_whole_add_one
  have step := whole_le_roundedMantissa extended
  omega

end Describes

/-! ## The exponent of the result -/

theorem targetExponent_eq (total : Int) :
    Format.binary64.targetExponent total = max (total - 53) (-1074) := rfl

/-- The exponent at which a significand is kept. -/
theorem targetExponent_totalExponent
    (significand : Nat)
    (exponent : Int) :
    Format.binary64.targetExponent (totalExponent significand exponent) =
      max (significand.log2 + exponent - 52) (-1074) := by
  rw [targetExponent_eq, totalExponent]
  omega

/-- A rounded significand is kept as it is, or halved when it got one bit too long. -/
theorem shiftToTargetExponent_rounded
    {significand : Nat}
    {exponent : Int}
    (short : significand ≤ 2 ^ 53)
    (lowest : -1074 ≤ exponent)
    (normal : exponent = -1074 ∨ 2 ^ 52 ≤ significand) :
    let shifted := shiftToTargetExponent Format.binary64 significand exponent .exact
    (shifted.1.mantissa : ℚ) * 2 ^ shifted.2 = significand * 2 ^ exponent ∧
      shifted.1.mantissa < 2 ^ 53 ∧ -1074 ≤ shifted.2 ∧
      (shifted.2 = -1074 ∨ 2 ^ 52 ≤ shifted.1.mantissa) := by
  simp only [shiftToTargetExponent, shiftToExponent, targetExponent_totalExponent]
  rcases Nat.lt_or_eq_of_le short with fits | rfl
  · have fewBits : significand.log2 ≤ 52 := by
      rcases Nat.eq_zero_or_pos significand with rfl | positive
      · decide
      · exact Nat.le_of_lt_succ ((Nat.log2_lt positive.ne').mpr fits)
    have noShift : (max (significand.log2 + exponent - 52) (-1074) - exponent).toNat = 0 := by
      omega
    rw [noShift, Nat.cast_zero, add_zero]
    exact ⟨rfl, fits, lowest, normal⟩
  · have oneShift : (max (((2 ^ 53 : Nat).log2 : Int) + exponent - 52) (-1074) - exponent).toNat =
        1 := by
      rw [Nat.log2_two_pow]
      omega
    rw [oneShift]
    have halved : (ExtendedMantissa.ofMantissaAndAccuracy (2 ^ 53) .exact >>> 1).mantissa =
        2 ^ 52 := rfl
    rw [halved, Nat.cast_one, zpow_add_one₀ two_ne_zero]
    refine ⟨?_, by decide, by omega, Or.inr le_rfl⟩
    push_cast
    ring

/-- Cutting a significand down to its exponent leaves fifty-three bits, and as many above the
lowest exponent. -/
theorem shifted_bounds
    {significand : Nat}
    {exponent : Int}
    {accuracy : Accuracy}
    {exact : ℚ}
    (describes : Describes (.ofMantissaAndAccuracy significand accuracy) exact)
    {count : Nat}
    (reached : exponent + count = max (significand.log2 + exponent - 52) (-1074)) :
    exact / 2 ^ count < 2 ^ 53 ∧ (exponent + count = -1074 ∨ 2 ^ 52 ≤ exact / 2 ^ count) := by
  have whole : (ExtendedMantissa.ofMantissaAndAccuracy significand accuracy).mantissa =
      significand := by
    unfold ExtendedMantissa.ofMantissaAndAccuracy
    split <;> rfl
  have above := describes.whole_le
  have below := describes.lt_whole_add_one
  rw [whole] at above below
  have power : (0 : ℚ) < 2 ^ count := by positivity
  constructor
  · have bound : significand + 1 ≤ 2 ^ (53 + count) :=
      Nat.lt_log2_self.trans_le (Nat.pow_le_pow_right (by decide) (by omega))
    rw [div_lt_iff₀ power, ← pow_add]
    exact below.trans_le (by exact_mod_cast bound)
  · rcases Int.lt_or_le (-1074) (exponent + count) with high | low
    · have positive : significand ≠ 0 := by
        rintro rfl
        rw [Nat.log2_zero] at reached
        omega
      have bound : 2 ^ (52 + count) ≤ significand := by
        rw [show 52 + count = significand.log2 by omega]
        exact Nat.log2_self_le positive
      right
      rw [le_div_iff₀ power, ← pow_add]
      exact le_trans (by exact_mod_cast bound) above
    · left
      omega

/-- A significand that is cut down to its exponent and rounded makes a nearest point, with one
bit too many at most. -/
theorem shiftToTargetExponent_nearest
    {significand : Nat}
    {exponent : Int}
    {accuracy : Accuracy}
    {exact : ℚ}
    (describes : Describes (.ofMantissaAndAccuracy significand accuracy) exact)
    (below : exponent ≤ Format.binary64.targetExponent (totalExponent significand exponent)) :
    let shifted := shiftToTargetExponent Format.binary64 significand exponent accuracy
    shifted.1.roundedMantissa ≤ 2 ^ 53 ∧ -1074 ≤ shifted.2 ∧
      (shifted.2 = -1074 ∨ 2 ^ 52 ≤ shifted.1.roundedMantissa) ∧
      IsNearest (exact * 2 ^ exponent) (shifted.1.roundedMantissa * 2 ^ shifted.2) := by
  rw [targetExponent_totalExponent] at below
  obtain ⟨count, reached⟩ := Int.le.dest below
  have amount : (max (significand.log2 + exponent - 52) (-1074) - exponent).toNat = count := by
    omega
  have rest := describes.shiftRight count
  obtain ⟨fits, coarse⟩ := shifted_bounds describes reached
  have sameExact : exact * 2 ^ exponent = exact / 2 ^ count * 2 ^ (exponent + count) := by
    rw [zpow_add₀ two_ne_zero, zpow_natCast]
    field_simp
  simp only [shiftToTargetExponent, shiftToExponent, targetExponent_totalExponent, amount]
  have short : (ExtendedMantissa.ofMantissaAndAccuracy significand accuracy >>>
      count).roundedMantissa ≤ 2 ^ 53 :=
    rest.rounded_le_of_lt (by exact_mod_cast fits)
  have lowest : -1074 ≤ exponent + count := by omega
  rw [sameExact]
  exact ⟨short, lowest,
    coarse.imp_right fun above => rest.le_rounded_of_le (by exact_mod_cast above),
    isNearest_of_half short lowest rest.abs_rounded_sub_le coarse⟩

/-! ## Rounding -/

/-- An unpacked number that a rational is rounded to.  Its exponent may still be too high. -/
structure IsRounding (exact : ℚ) (rounded : UnpackedFloat) : Prop where
  finite : rounded.isFinite = true
  reduced : IsReduced rounded
  nearest : IsNearest exact (unpackedValue rounded)

theorem signed_zero (sign : Sign) : signed sign 0 = 0 := by
  cases sign with
  | positive => rfl
  | negative => exact neg_zero

theorem abs_signed
    (sign : Sign)
    (magnitude : ℚ) :
    |signed sign magnitude| = |magnitude| := by
  cases sign with
  | positive => rfl
  | negative => exact abs_neg magnitude

theorem IsNearest.signed
    {exact nearest : ℚ}
    (isNearest : IsNearest exact nearest)
    (sign : Sign) :
    IsNearest (signed sign exact) (Binary64.signed sign nearest) := by
  cases sign with
  | positive => exact isNearest
  | negative => exact isNearest.neg

/-- Rounding gives a nearest point of the grid. -/
theorem isRounding_roundWithAccuracy
    (sign : Sign)
    {significand : Nat}
    {exponent : Int}
    {accuracy : Accuracy}
    {exact : ℚ}
    (describes : Describes (.ofMantissaAndAccuracy significand accuracy) exact)
    (below : exponent ≤ Format.binary64.targetExponent (totalExponent significand exponent)) :
    IsRounding (signed sign (exact * 2 ^ exponent))
      (roundWithAccuracy Format.binary64 sign significand exponent accuracy) := by
  obtain ⟨short, lowest, normal, nearest⟩ := shiftToTargetExponent_nearest describes below
  obtain ⟨sameValue, finalShort, finalLowest, finalNormal⟩ :=
    shiftToTargetExponent_rounded short lowest normal
  rw [← sameValue] at nearest
  unfold roundWithAccuracy
  dsimp only
  split_ifs with isZero
  · refine ⟨rfl, trivial, ?_⟩
    have signedNearest := nearest.signed sign
    rw [isZero, Nat.cast_zero, zero_mul, signed_zero] at signedNearest
    exact signedNearest
  · exact ⟨rfl, ⟨finalShort, finalLowest, finalNormal⟩, nearest.signed sign⟩

theorem log2_shiftLeft
    {significand : Nat}
    (positive : 0 < significand)
    (count : Nat) :
    (significand <<< count).log2 = significand.log2 + count := by
  induction count with
  | zero => rfl
  | succ count inductionHypothesis =>
      have kept : significand <<< count ≠ 0 := by
        rw [Nat.shiftLeft_eq]
        positivity
      rw [Nat.shiftLeft_succ, Nat.log2_two_mul kept, inductionHypothesis, Nat.add_assoc]

/-- A lower exponent takes a longer significand for the same value. -/
theorem shiftLeft_mul_zpow
    (significand count : Nat)
    (exponent : Int) :
    ((significand <<< count : Nat) : ℚ) * 2 ^ (exponent - count) = significand * 2 ^ exponent := by
  rw [Nat.shiftLeft_eq, zpow_sub₀ two_ne_zero, zpow_natCast]
  push_cast
  field_simp

theorem isRounding_round
    (sign : Sign)
    {significand : Nat}
    (positive : 0 < significand)
    (exponent : Int) :
    IsRounding (signed sign (significand * 2 ^ exponent))
      (UnpackedFloat.round Format.binary64 sign significand exponent) := by
  unfold UnpackedFloat.round decreaseExponent
  rw [targetExponent_totalExponent]
  dsimp only
  generalize amount : (exponent - max (significand.log2 + exponent - 52) (-1074)).toNat = count
  rw [← shiftLeft_mul_zpow significand count exponent]
  apply isRounding_roundWithAccuracy
  · rfl
  · rw [targetExponent_totalExponent, log2_shiftLeft positive]
    omega

/-- A whole multiple of a power of two is rounded to the nearest number. -/
theorem isRounding_normalize
    (multiple exponent : Int)
    (zeroSign : Sign) :
    IsRounding (multiple * 2 ^ exponent)
      (UnpackedFloat.normalize Format.binary64 multiple exponent zeroSign) := by
  unfold UnpackedFloat.normalize
  rcases lt_trichotomy multiple 0 with below | rfl | above
  · obtain ⟨magnitude, rfl⟩ := Int.exists_eq_neg_ofNat below.le
    have positive : 0 < magnitude := by omega
    rw [compare_lt_iff_lt.mpr below, neg_neg, Int.toNat_natCast, Int.cast_neg,
      Int.cast_natCast, neg_mul]
    exact isRounding_round .negative positive exponent
  · rw [compare_eq_iff_eq.mpr rfl, Int.cast_zero, zero_mul]
    exact ⟨rfl, trivial, .refl isOnGrid_zero⟩
  · obtain ⟨magnitude, rfl⟩ := Int.eq_ofNat_of_zero_le above.le
    rw [compare_gt_iff_gt.mpr above]
    exact isRounding_round .positive (by omega) exponent

/-! ## Rounded numbers -/

/-- A number that a rational is rounded to.  It is finite if some finite number reaches as far
as the rational. -/
structure IsRounded (exact : ℚ) (number : Float) : Prop where
  nearest : number.isFinite = true → IsNearest exact (value number)
  finite_of_abs_le : ∀ bound : Float, bound.isFinite = true → |exact| ≤ value bound →
    number.isFinite = true

theorem IsFiniteWith.isOnGrid
    {number : UnpackedFloat}
    {point : ℚ}
    (finite : IsFiniteWith number point) :
    IsOnGrid point := by
  cases finite with
  | zero sign => exact isOnGrid_zero
  | @finite sign significand exponent positive canonical =>
      have magnitude : IsOnGrid (significand * 2 ^ exponent) := by
        refine ⟨significand, exponent, ?_, canonical.lowest, by rw [Int.cast_natCast]⟩
        rw [Nat.abs_cast]
        exact_mod_cast canonical.short.le
      cases sign with
      | positive => exact magnitude
      | negative => exact magnitude.neg

theorem isOnGrid_value
    {number : Float}
    (finite : number.isFinite = true) :
    IsOnGrid (value number) :=
  (isFiniteWith_unpack finite).isOnGrid

/-- Behind the magnitude of a number the grid goes on in a step that is small beside it, or not
above one. -/
theorem IsFiniteWith.exists_step
    {number : UnpackedFloat}
    {point : ℚ}
    (finite : IsFiniteWith number point) :
    ∃ step, 0 < step ∧ IsOnGrid step ∧ IsOnGrid (|point| + step) ∧
      (step ≤ 1 ∨ 2 ^ 52 * step ≤ |point|) := by
  cases finite with
  | zero sign =>
      have one : IsOnGrid 1 := ⟨1, 0, by norm_num, by norm_num, by norm_num⟩
      refine ⟨1, one_pos, one, ?_, Or.inl le_rfl⟩
      rwa [abs_zero, zero_add]
  | @finite sign significand exponent positive canonical =>
      rw [abs_signed, abs_of_pos (by positivity)]
      refine ⟨2 ^ exponent, by positivity, ?_, ?_, ?_⟩
      · exact ⟨1, exponent, by norm_num, canonical.lowest, by rw [Int.cast_one, one_mul]⟩
      · refine ⟨significand + 1, exponent, ?_, canonical.lowest, by push_cast; ring⟩
        have short := canonical.short
        rw [abs_of_nonneg (by positivity)]
        exact_mod_cast short
      · rcases canonical.normal with lowest | long
        · left
          rw [lowest]
          exact zpow_le_one_of_nonpos₀ one_le_two (by norm_num)
        · right
          have bits : (2 ^ 52 : ℚ) ≤ significand := by exact_mod_cast long
          gcongr

/-- No finite number reaches a long significand with an exponent that is too high. -/
theorem IsFiniteWith.lt_of_exponent_lt
    {number : UnpackedFloat}
    {point : ℚ}
    (finite : IsFiniteWith number point)
    {significand : Nat}
    {exponent : Int}
    (long : 2 ^ 52 ≤ significand)
    (high : 971 < exponent) :
    point < significand * 2 ^ exponent := by
  cases finite with
  | zero sign =>
      have positive : 0 < significand := by omega
      positivity
  | @finite sign other otherExponent positive canonical =>
      have highest := canonical.highest
      have farther := mul_zpow_lt_of_exponent_lt canonical.short long
        (by omega : otherExponent < exponent)
      refine lt_of_le_of_lt ?_ farther
      cases sign with
      | positive => exact le_rfl
      | negative => exact neg_le_self (by positivity)

theorem saturated_eq_self
    {number : UnpackedFloat}
    (finite : (saturated number).isFinite = true) :
    saturated number = number := by
  cases number with
  | notANumber => rfl
  | infinity sign => rfl
  | zero sign => rfl
  | finite sign significand exponent positive =>
      simp only [saturated] at finite ⊢
      split_ifs at finite ⊢
      · contradiction
      · rfl

theorem isFinite_saturated
    {exact : ℚ}
    {rounded : UnpackedFloat}
    (rounding : IsRounding exact rounded)
    {bound : Float}
    (boundFinite : bound.isFinite = true)
    (reach : |exact| ≤ value bound) :
    (saturated rounded).isFinite = true := by
  have nearest := rounding.nearest.abs_le_of_abs_le (isOnGrid_value boundFinite) reach
  have finite := rounding.finite
  have reduced := rounding.reduced
  cases rounded with
  | notANumber => contradiction
  | infinity sign => contradiction
  | zero sign => rfl
  | finite sign significand exponent positive =>
      have low : ¬971 < exponent := by
        intro high
        have long : 2 ^ 52 ≤ significand := by
          have normal := reduced.2.2
          omega
        have farther := (isFiniteWith_unpack boundFinite).lt_of_exponent_lt long high
        rw [unpackedValue, abs_signed, abs_of_pos (by positivity)] at nearest
        exact absurd farther (not_lt.mpr nearest)
      simp only [saturated, if_neg low]
      rfl

theorem isRounded_pack
    {exact : ℚ}
    {rounded : UnpackedFloat}
    (rounding : IsRounding exact rounded) :
    IsRounded exact (.ofModel (.pack rounded)) := by
  have unpacked : (Float.ofModel (.pack rounded)).toModel.unpack = saturated rounded :=
    unpack_pack rounding.reduced
  constructor
  case nearest =>
    intro finite
    change (Float.ofModel (.pack rounded)).toModel.unpack.isFinite = true at finite
    rw [unpacked] at finite
    rw [value, unpacked, saturated_eq_self finite]
    exact rounding.nearest
  case finite_of_abs_le =>
    intro bound boundFinite reach
    change (Float.ofModel (.pack rounded)).toModel.unpack.isFinite = true
    rw [unpacked]
    exact isFinite_saturated rounding boundFinite reach

namespace IsRounded

variable
  {exact : ℚ}
  {number bound : Float}
  (isRounded : IsRounded exact number)
  (finite : number.isFinite = true)
  (boundFinite : bound.isFinite = true)

include isRounded finite boundFinite

theorem le_of_le (below : exact ≤ value bound) : value number ≤ value bound :=
  (isRounded.nearest finite).le_of_le (isOnGrid_value boundFinite) below

theorem ge_of_ge (above : value bound ≤ exact) : value bound ≤ value number :=
  (isRounded.nearest finite).ge_of_ge (isOnGrid_value boundFinite) above

end IsRounded

end Binary64
end LatencyChart
