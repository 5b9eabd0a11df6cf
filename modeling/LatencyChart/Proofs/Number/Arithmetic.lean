import LatencyChart.Proofs.Number.Rounding

/-!
# Arithmetic on numbers

Sums, differences, products and quotients of finite numbers are the exact ones rounded.  A finite
result comes from finite operands.
-/

namespace LatencyChart
namespace Binary64

open Float.Model (Format UnpackedFloat totalExponent)
open Float.Model.UnpackedFloat

/-! ## Signs -/

theorem signed_mul
    (sign : Sign)
    (magnitude factor : ℚ) :
    signed sign (magnitude * factor) = signed sign magnitude * factor := by
  cases sign with
  | positive => rfl
  | negative => exact (neg_mul magnitude factor).symm

theorem cast_apply
    (sign : Sign)
    (magnitude : Nat) :
    ((sign.apply magnitude : Int) : ℚ) = signed sign magnitude := by
  cases sign with
  | positive => rfl
  | negative => rw [Sign.apply, Int.cast_neg, Int.cast_natCast, signed]

theorem signed_neg
    (sign : Sign)
    (magnitude : ℚ) :
    signed (-sign) magnitude = -signed sign magnitude := by
  cases sign with
  | positive => rfl
  | negative => exact (neg_neg magnitude).symm

theorem signed_div_signed
    (first second : Sign)
    (numerator denominator : ℚ) :
    signed first numerator / signed second denominator =
      signed (first / second) (numerator / denominator) := by
  cases first <;> cases second
  · exact neg_div_neg_eq numerator denominator
  · exact neg_div denominator numerator
  · exact div_neg numerator
  · rfl

theorem signed_mul_signed
    (first second : Sign)
    (firstMagnitude secondMagnitude : ℚ) :
    signed first firstMagnitude * signed second secondMagnitude =
      signed (first * second) (firstMagnitude * secondMagnitude) := by
  cases first <;> cases second
  · exact neg_mul_neg firstMagnitude secondMagnitude
  · exact neg_mul firstMagnitude secondMagnitude
  · exact mul_neg firstMagnitude secondMagnitude
  · rfl

/-- The significand of a number at a lower exponent. -/
theorem signed_shifted
    (sign : Sign)
    (significand : Nat)
    {exponent lower : Int}
    (below : lower ≤ exponent) :
    ((sign.apply (decreaseExponent significand exponent lower).1 : Int) : ℚ) * 2 ^ lower =
      signed sign (significand * 2 ^ exponent) := by
  obtain ⟨count, rfl⟩ := Int.le.dest below
  have amount : (lower + count - lower).toNat = count := by omega
  have kept := shiftLeft_mul_zpow significand count (lower + count)
  rw [add_sub_cancel_right] at kept
  rw [cast_apply, ← signed_mul, decreaseExponent, amount, kept]

/-! ## Sums and differences -/

namespace IsFiniteWith

variable {first second : UnpackedFloat} {firstValue secondValue : ℚ}

/-- A finite number needs no rounding. -/
theorem isRounding (finite : IsFiniteWith first firstValue) :
    IsRounding firstValue first := by
  have onGrid := finite.isOnGrid
  cases finite with
  | zero sign => exact ⟨rfl, trivial, .refl onGrid⟩
  | finite sign positive canonical =>
      exact ⟨rfl, ⟨canonical.short, canonical.lowest, canonical.normal⟩, .refl onGrid⟩

theorem neg (finite : IsFiniteWith first firstValue) :
    IsFiniteWith first.neg (-firstValue) := by
  cases finite with
  | zero sign =>
      rw [neg_zero]
      exact .zero (-sign)
  | finite sign positive canonical =>
      rw [← signed_neg]
      exact .finite (-sign) positive canonical

/-- The sum of finite numbers is the exact sum rounded. -/
theorem isRounding_add
    (firstFinite : IsFiniteWith first firstValue)
    (secondFinite : IsFiniteWith second secondValue) :
    IsRounding (firstValue + secondValue) (UnpackedFloat.add Format.binary64 first second) := by
  cases firstFinite with
  | zero firstSign =>
      cases secondFinite with
      | zero secondSign =>
          rw [add_zero]
          change IsRounding 0
            (if firstSign == secondSign then .zero firstSign else .zero .positive)
          split
          · exact (IsFiniteWith.zero firstSign).isRounding
          · exact (IsFiniteWith.zero .positive).isRounding
      | finite secondSign positive canonical =>
          rw [zero_add]
          exact (IsFiniteWith.finite secondSign positive canonical).isRounding
  | @finite firstSign firstSignificand firstExponent firstPositive firstCanonical =>
      cases secondFinite with
      | zero secondSign =>
          rw [add_zero]
          exact (IsFiniteWith.finite firstSign firstPositive firstCanonical).isRounding
      | @finite secondSign secondSignificand secondExponent secondPositive secondCanonical =>
          have firstShifted := signed_shifted firstSign firstSignificand
            (min_le_left firstExponent secondExponent)
          have secondShifted := signed_shifted secondSign secondSignificand
            (min_le_right firstExponent secondExponent)
          rw [← firstShifted, ← secondShifted, ← add_mul, ← Int.cast_add]
          exact isRounding_normalize _ _ .positive

end IsFiniteWith

theorem apply_neg
    (sign : Sign)
    (magnitude : Int) :
    (-sign).apply magnitude = -sign.apply magnitude := by
  cases sign with
  | positive => rfl
  | negative => exact (neg_neg magnitude).symm

theorem unpacked_sub_eq_add_neg
    (format : Format)
    (first second : UnpackedFloat) :
    UnpackedFloat.sub format first second = UnpackedFloat.add format first second.neg := by
  cases first with
  | notANumber => rfl
  | infinity sign => cases second <;> rfl
  | zero sign => cases second <;> rfl
  | finite firstSign firstSignificand firstExponent firstPositive =>
      cases second with
      | notANumber => rfl
      | infinity sign => rfl
      | zero sign => rfl
      | finite secondSign secondSignificand secondExponent secondPositive =>
          simp only [UnpackedFloat.sub, UnpackedFloat.add, UnpackedFloat.neg, apply_neg,
            sub_eq_add_neg]

namespace IsFiniteWith

variable {first second : UnpackedFloat} {firstValue secondValue : ℚ}

theorem isRounding_sub
    (firstFinite : IsFiniteWith first firstValue)
    (secondFinite : IsFiniteWith second secondValue) :
    IsRounding (firstValue - secondValue) (UnpackedFloat.sub Format.binary64 first second) := by
  rw [unpacked_sub_eq_add_neg, sub_eq_add_neg]
  exact firstFinite.isRounding_add secondFinite.neg

end IsFiniteWith

/-! ## Products -/

/-- The product of significands is rounded to the product of the numbers, if it is not kept at a
lower exponent. -/
theorem isRounding_mulCore
    (sign : Sign)
    {first second : Nat}
    {firstExponent secondExponent : Int}
    (below : firstExponent + secondExponent ≤
      max ((first * second).log2 + (firstExponent + secondExponent) - 52) (-1074)) :
    IsRounding (signed sign (first * 2 ^ firstExponent * (second * 2 ^ secondExponent)))
      (roundWithAccuracy Format.binary64 sign (first * second)
        (firstExponent + secondExponent) .exact) := by
  have same : (first : ℚ) * 2 ^ firstExponent * (second * 2 ^ secondExponent) =
      ((first * second : Nat) : ℚ) * 2 ^ (firstExponent + secondExponent) := by
    rw [zpow_add₀ two_ne_zero]
    push_cast
    ring
  rw [same]
  apply isRounding_roundWithAccuracy
  · rfl
  · rwa [targetExponent_totalExponent]

/-- The product of finite numbers is the exact product rounded. -/
theorem IsFiniteWith.isRounding_mul
    {first second : UnpackedFloat}
    {firstValue secondValue : ℚ}
    (firstFinite : IsFiniteWith first firstValue)
    (secondFinite : IsFiniteWith second secondValue) :
    IsRounding (firstValue * secondValue) (UnpackedFloat.mul Format.binary64 first second) := by
  cases firstFinite with
  | zero firstSign =>
      rw [zero_mul]
      cases secondFinite with
      | zero secondSign => exact (IsFiniteWith.zero (firstSign * secondSign)).isRounding
      | finite secondSign _ _ => exact (IsFiniteWith.zero (firstSign * secondSign)).isRounding
  | @finite firstSign first firstExponent firstPositive firstCanonical =>
      cases secondFinite with
      | zero secondSign =>
          rw [mul_zero]
          exact (IsFiniteWith.zero (firstSign * secondSign)).isRounding
      | @finite secondSign second secondExponent secondPositive secondCanonical =>
          rw [signed_mul_signed]
          apply isRounding_mulCore
          have firstLowest := firstCanonical.lowest
          have secondLowest := secondCanonical.lowest
          have nonzero : first * second ≠ 0 := (Nat.mul_pos firstPositive secondPositive).ne'
          have longLog2 (long : 2 ^ 52 ≤ first * second) : 52 ≤ (first * second).log2 :=
            (Nat.le_log2 nonzero).mpr long
          -- A significand is long unless its exponent is the lowest.
          rcases firstCanonical.normal with firstIsLowest | firstLong
          · rcases secondCanonical.normal with secondIsLowest | secondLong
            · omega
            · have bits := longLog2 (secondLong.trans (Nat.le_mul_of_pos_left second firstPositive))
              omega
          · have bits := longLog2 (firstLong.trans (Nat.le_mul_of_pos_right first secondPositive))
            omega

/-! ## Quotients -/

/-- A whole quotient and its remainder tell the exact quotient. -/
theorem describes_quotient
    (numerator : Nat)
    {denominator : Nat}
    (positive : 0 < denominator) :
    Describes
      (.ofMantissaAndAccuracy (numerator / denominator)
        (accuracyOfFraction (numerator % denominator) denominator))
      (numerator / denominator) := by
  have positiveCast : (0 : ℚ) < denominator := by exact_mod_cast positive
  have parts : (numerator : ℚ) / denominator =
      (numerator / denominator : Nat) + (numerator % denominator : Nat) / denominator := by
    have whole : (numerator : ℚ) =
        denominator * (numerator / denominator : Nat) + (numerator % denominator : Nat) := by
      exact_mod_cast (Nat.div_add_mod numerator denominator).symm
    rw [div_eq_iff positiveCast.ne', add_mul, div_mul_cancel₀ _ positiveCast.ne', whole]
    ring
  have restBound := Nat.mod_lt numerator positive
  rw [parts]
  generalize numerator / denominator = quotient
  generalize numerator % denominator = rest at restBound ⊢
  have belowOne : (rest : ℚ) / denominator < 1 := by
    rw [div_lt_one positiveCast]
    exact_mod_cast restBound
  unfold accuracyOfFraction
  rcases Nat.eq_zero_or_pos rest with rfl | restPositive
  · simp [ExtendedMantissa.ofMantissaAndAccuracy, Describes]
  rw [if_neg restPositive.ne']
  have aboveZero : (0 : ℚ) < rest / denominator := by positivity
  rcases lt_trichotomy (2 * rest) denominator with less | half | more
  · have belowHalf : (rest : ℚ) / denominator < 1 / 2 := by
      rw [div_lt_div_iff₀ positiveCast two_pos]
      exact_mod_cast (by omega : rest * 2 < 1 * denominator)
    rw [compare_lt_iff_lt.mpr less]
    exact ⟨by linarith, by linarith⟩
  · have isHalf : (rest : ℚ) / denominator = 1 / 2 := by
      rw [div_eq_div_iff positiveCast.ne' two_ne_zero]
      exact_mod_cast (by omega : rest * 2 = 1 * denominator)
    rw [compare_eq_iff_eq.mpr half, isHalf]
    rfl
  · have aboveHalf : 1 / 2 < (rest : ℚ) / denominator := by
      rw [div_lt_div_iff₀ two_pos positiveCast]
      exact_mod_cast (by omega : 1 * denominator < rest * 2)
    rw [compare_gt_iff_gt.mpr more]
    exact ⟨by linarith, by linarith⟩

/-- A quotient is worked out to as many bits as a number keeps. -/
theorem le_targetExponent_quotient
    {first second : Nat}
    (firstPositive : 0 < first)
    (secondPositive : 0 < second)
    {firstExponent secondExponent lower : Int}
    {count : Nat}
    (reached : lower + count = firstExponent - secondExponent)
    (low : lower ≤ Format.binary64.targetExponent
      (totalExponent first firstExponent - totalExponent second secondExponent)) :
    lower ≤ Format.binary64.targetExponent (totalExponent (first <<< count / second) lower) := by
  rw [targetExponent_totalExponent]
  rw [targetExponent_eq, totalExponent, totalExponent] at low
  rcases Int.lt_or_le (-1074) lower with high | lowest
  · have long : 2 ^ 52 ≤ first <<< count / second := by
      rw [Nat.le_div_iff_mul_le secondPositive]
      have bits := log2_shiftLeft firstPositive count
      have nonzero : first <<< count ≠ 0 := by
        rw [Nat.shiftLeft_eq]
        positivity
      calc 2 ^ 52 * second
          ≤ 2 ^ 52 * 2 ^ (second.log2 + 1) := by
            gcongr
            exact Nat.lt_log2_self.le
        _ = 2 ^ (52 + (second.log2 + 1)) := (pow_add 2 52 _).symm
        _ ≤ 2 ^ (first <<< count).log2 := by
            gcongr
            · decide
            · omega
        _ ≤ first <<< count := Nat.log2_self_le nonzero
    have quotientBits := (Nat.le_log2 (by omega)).mpr long
    omega
  · omega

theorem isRounding_divCore
    (sign : Sign)
    {first second : Nat}
    (firstPositive : 0 < first)
    (secondPositive : 0 < second)
    (firstExponent secondExponent : Int) :
    let core := divCore Format.binary64 first firstExponent second secondExponent
    IsRounding (signed sign (first * 2 ^ firstExponent / (second * 2 ^ secondExponent)))
      (roundWithAccuracy Format.binary64 sign core.1 core.2.1 core.2.2) := by
  unfold divCore
  dsimp only
  generalize reached : Format.binary64.targetExponent
    (totalExponent first firstExponent - totalExponent second secondExponent) = target
  obtain ⟨count, shifted⟩ :=
    Int.le.dest (min_le_left (firstExponent - secondExponent) target)
  have amount : (firstExponent - secondExponent -
      min (firstExponent - secondExponent) target).toNat = count := by
    omega
  have kept := shiftLeft_mul_zpow first count (firstExponent - secondExponent)
  rw [← shifted, add_sub_cancel_right, shifted] at kept
  have same : (first : ℚ) * 2 ^ firstExponent / (second * 2 ^ secondExponent) =
      ((first <<< count : Nat) : ℚ) / second *
        2 ^ min (firstExponent - secondExponent) target := by
    rw [div_mul_eq_mul_div, kept, zpow_sub₀ two_ne_zero]
    field_simp
  rw [amount, same]
  apply isRounding_roundWithAccuracy
  · exact describes_quotient (first <<< count) secondPositive
  · apply le_targetExponent_quotient firstPositive secondPositive shifted
    rw [reached]
    exact min_le_right _ _

/-- The quotient of finite numbers is the exact quotient rounded. -/
theorem IsFiniteWith.isRounding_div
    {first second : UnpackedFloat}
    {firstValue secondValue : ℚ}
    (firstFinite : IsFiniteWith first firstValue)
    (secondFinite : IsFiniteWith second secondValue)
    (apart : secondValue ≠ 0) :
    IsRounding (firstValue / secondValue) (UnpackedFloat.div Format.binary64 first second) := by
  cases secondFinite with
  | zero sign => contradiction
  | finite secondSign secondPositive secondCanonical =>
      cases firstFinite with
      | zero firstSign =>
          rw [zero_div]
          exact (IsFiniteWith.zero (firstSign / secondSign)).isRounding
      | finite firstSign firstPositive firstCanonical =>
          rw [signed_div_signed]
          exact isRounding_divCore _ firstPositive secondPositive _ _

/-! ## Numbers -/

section Finite

variable
  {first second : Float}
  (firstFinite : first.isFinite = true)
  (secondFinite : second.isFinite = true)

include firstFinite secondFinite

theorem isRounded_add :
    IsRounded (value first + value second) (first + second) :=
  isRounded_pack
    ((isFiniteWith_unpack firstFinite).isRounding_add (isFiniteWith_unpack secondFinite))

theorem isRounded_sub :
    IsRounded (value first - value second) (first - second) :=
  isRounded_pack
    ((isFiniteWith_unpack firstFinite).isRounding_sub (isFiniteWith_unpack secondFinite))

theorem isRounded_div (apart : value second ≠ 0) :
    IsRounded (value first / value second) (first / second) :=
  isRounded_pack
    ((isFiniteWith_unpack firstFinite).isRounding_div (isFiniteWith_unpack secondFinite) apart)

end Finite

/-- What is packed into a finite number is finite. -/
theorem isFinite_of_pack
    {number : UnpackedFloat}
    (finite : (Float.ofModel (.pack number)).isFinite = true) :
    number.isFinite = true := by
  cases number with
  | notANumber => contradiction
  | infinity sign => cases sign <;> contradiction
  | zero sign => rfl
  | finite sign significand exponent positive => rfl

theorem unpacked_isFinite_of_add
    {first second : UnpackedFloat}
    (finite : (UnpackedFloat.add Format.binary64 first second).isFinite = true) :
    first.isFinite = true ∧ second.isFinite = true := by
  cases first with
  | notANumber => contradiction
  | infinity firstSign =>
      cases second with
      | infinity secondSign => cases firstSign <;> cases secondSign <;> contradiction
      | notANumber | zero _ | finite _ _ _ _ => contradiction
  | zero _ | finite _ _ _ _ =>
      cases second with
      | notANumber | infinity _ => contradiction
      | zero _ | finite _ _ _ _ => exact ⟨rfl, rfl⟩

theorem unpacked_isFinite_neg (number : UnpackedFloat) :
    number.neg.isFinite = number.isFinite := by
  cases number <;> rfl

/-- A finite sum has finite summands. -/
theorem isFinite_of_add
    {first second : Float}
    (finite : (first + second).isFinite = true) :
    first.isFinite = true ∧ second.isFinite = true :=
  unpacked_isFinite_of_add (isFinite_of_pack finite)

theorem isFinite_of_sub
    {first second : Float}
    (finite : (first - second).isFinite = true) :
    first.isFinite = true ∧ second.isFinite = true := by
  have difference : (UnpackedFloat.sub Format.binary64 first.toModel.unpack
      second.toModel.unpack).isFinite = true := isFinite_of_pack finite
  rw [unpacked_sub_eq_add_neg] at difference
  have operands := unpacked_isFinite_of_add difference
  rw [unpacked_isFinite_neg] at operands
  exact operands

/-- A finite quotient by a finite number has a finite dividend. -/
theorem isFinite_of_div
    {first second : Float}
    (secondFinite : second.isFinite = true)
    (finite : (first / second).isFinite = true) :
    first.isFinite = true := by
  have quotient : (UnpackedFloat.div Format.binary64 first.toModel.unpack
      second.toModel.unpack).isFinite = true := isFinite_of_pack finite
  change second.toModel.unpack.isFinite = true at secondFinite
  change first.toModel.unpack.isFinite = true
  generalize first.toModel.unpack = dividend at quotient ⊢
  generalize second.toModel.unpack = divisor at quotient secondFinite
  cases dividend with
  | notANumber => contradiction
  | infinity sign =>
      cases divisor with
      | notANumber | infinity _ => contradiction
      | zero _ | finite _ _ _ _ => contradiction
  | zero _ | finite _ _ _ _ => rfl

/-! ## Magnitudes -/

theorem IsFiniteWith.abs
    {number : UnpackedFloat}
    {point : ℚ}
    (finite : IsFiniteWith number point) :
    IsFiniteWith number.abs |point| := by
  cases finite with
  | zero sign =>
      rw [abs_zero]
      exact .zero .positive
  | finite sign positive canonical =>
      rw [abs_signed, abs_of_pos (by positivity)]
      exact .finite .positive positive canonical

theorem IsFiniteWith.unpack_pack
    {number : UnpackedFloat}
    {point : ℚ}
    (finite : IsFiniteWith number point) :
    (Float.Model.pack number).unpack = number := by
  rw [Binary64.unpack_pack finite.isRounding.reduced]
  cases finite with
  | zero sign => rfl
  | finite sign positive canonical =>
      rw [saturated, if_neg (by have highest := canonical.highest; omega)]

theorem IsFiniteWith.unpackedValue_eq
    {number : UnpackedFloat}
    {point : ℚ}
    (finite : IsFiniteWith number point) :
    unpackedValue number = point := by
  cases finite <;> rfl

section Magnitude

variable {number : Float} (finite : number.isFinite = true)

include finite

theorem isFinite_abs : number.abs.isFinite = true := by
  have magnitude := (isFiniteWith_unpack finite).abs
  change (Float.Model.pack number.toModel.unpack.abs).unpack.isFinite = true
  rw [magnitude.unpack_pack]
  exact magnitude.isRounding.finite

theorem value_abs : value number.abs = |value number| := by
  have magnitude := (isFiniteWith_unpack finite).abs
  change unpackedValue (Float.Model.pack number.toModel.unpack.abs).unpack = _
  rw [magnitude.unpack_pack, magnitude.unpackedValue_eq]

end Magnitude

/-! ## Differences -/

theorem isFinite_zero : (0.0 : Float).isFinite = true := rfl

theorem value_zero : value 0.0 = 0 := rfl

theorem isFinite_one : (1.0 : Float).isFinite = true := rfl

theorem value_one : value 1.0 = 1 := by
  change signed .positive (((2 ^ 52 : Nat) : ℚ) * 2 ^ (-52 : Int)) = 1
  norm_num [signed]

/-- Points of the grid are whole multiples of the least positive one. -/
theorem IsOnGrid.exists_multiple
    {point : ℚ}
    (onGrid : IsOnGrid point) :
    ∃ multiple : Int, point = multiple * 2 ^ (-1074 : Int) := by
  obtain ⟨multiple, exponent, -, lowest, rfl⟩ := onGrid
  obtain ⟨count, rfl⟩ := Int.le.dest lowest
  refine ⟨multiple * 2 ^ count, ?_⟩
  rw [zpow_add₀ two_ne_zero, zpow_natCast, Int.cast_mul, Int.cast_pow, Int.cast_ofNat,
    mul_assoc, mul_comm (2 ^ count)]

/-- Two points of the grid are at least as far apart as the least positive one is from zero. -/
theorem two_zpow_le_sub
    {low high : ℚ}
    (lowOnGrid : IsOnGrid low)
    (highOnGrid : IsOnGrid high)
    (below : low < high) :
    2 ^ (-1074 : Int) ≤ high - low := by
  obtain ⟨lowMultiple, rfl⟩ := lowOnGrid.exists_multiple
  obtain ⟨highMultiple, rfl⟩ := highOnGrid.exists_multiple
  have unit : (0 : ℚ) < 2 ^ (-1074 : Int) := by positivity
  have multiples : lowMultiple < highMultiple := by
    exact_mod_cast lt_of_mul_lt_mul_right below unit.le
  have step : (lowMultiple : ℚ) + 1 ≤ highMultiple := by exact_mod_cast multiples
  rw [← sub_mul]
  exact le_mul_of_one_le_left unit.le (le_sub_iff_add_le'.mpr step)

/-- What equals a finite number is finite. -/
theorem isFinite_of_beq
    {first second : Float}
    (secondFinite : second.isFinite = true)
    (same : (first == second) = true) :
    first.isFinite = true := by
  change (first.toModel.unpack.compare second.toModel.unpack == some .eq) = true at same
  have secondUnpacked := isFiniteWith_unpack secondFinite
  change first.toModel.unpack.isFinite = true
  generalize first.toModel.unpack = unpacked at same ⊢
  generalize value second = point at secondUnpacked
  generalize second.toModel.unpack = other at same secondUnpacked
  cases unpacked with
  | notANumber => contradiction
  | infinity sign => cases sign <;> cases secondUnpacked <;> contradiction
  | zero _ | finite _ _ _ _ => rfl

section Difference

variable
  {first second : Float}
  (firstFinite : first.isFinite = true)
  (secondFinite : second.isFinite = true)

include firstFinite secondFinite

theorem isFinite_sub_of_value_eq (same : value first = value second) :
    (first - second).isFinite = true := by
  apply (isRounded_sub firstFinite secondFinite).finite_of_abs_le 0.0 isFinite_zero
  rw [same, sub_self, abs_zero, value_zero]

/-- A finite difference has the sign of the exact one. -/
theorem compare_value_sub (finite : (first - second).isFinite = true) :
    compare (value (first - second)) 0 = compare (value first) (value second) := by
  have nearest := (isRounded_sub firstFinite secondFinite).nearest finite
  have firstOnGrid := isOnGrid_value firstFinite
  have secondOnGrid := isOnGrid_value secondFinite
  have unit : (0 : ℚ) < 2 ^ (-1074 : Int) := by positivity
  have unitOnGrid : IsOnGrid (2 ^ (-1074 : Int)) :=
    ⟨1, -1074, by norm_num, le_rfl, by rw [Int.cast_one, one_mul]⟩
  rcases lt_trichotomy (value first) (value second) with below | same | above
  · have gap := two_zpow_le_sub firstOnGrid secondOnGrid below
    have bound := nearest.le_of_le unitOnGrid.neg (by rw [← neg_sub]; exact neg_le_neg gap)
    rw [compare_lt_iff_lt.mpr below,
      compare_lt_iff_lt.mpr (bound.trans_lt (neg_neg_of_pos unit))]
  · rw [same, sub_self] at nearest
    have atMost := nearest.le_of_le isOnGrid_zero le_rfl
    have atLeast := nearest.ge_of_ge isOnGrid_zero le_rfl
    rw [compare_eq_iff_eq.mpr same, compare_eq_iff_eq.mpr (le_antisymm atMost atLeast)]
  · have gap := two_zpow_le_sub secondOnGrid firstOnGrid above
    have bound := nearest.ge_of_ge unitOnGrid gap
    rw [compare_gt_iff_gt.mpr above, compare_gt_iff_gt.mpr (unit.trans_le bound)]

theorem value_sub_pos_iff (finite : (first - second).isFinite = true) :
    0 < value (first - second) ↔ value second < value first := by
  rw [← compare_gt_iff_gt, compare_value_sub firstFinite secondFinite finite,
    compare_gt_iff_gt]

/-- The difference of two numbers vanishes when they are equal, and only then. -/
theorem sub_beq_zero_iff :
    (first - second == 0.0) = true ↔ value first = value second := by
  constructor
  · intro vanishes
    have finite := isFinite_of_beq isFinite_zero vanishes
    rw [beq_iff_value_eq finite isFinite_zero, value_zero] at vanishes
    rw [← compare_eq_iff_eq, ← compare_value_sub firstFinite secondFinite finite,
      compare_eq_iff_eq, vanishes]
  · intro same
    have finite := isFinite_sub_of_value_eq firstFinite secondFinite same
    rw [beq_iff_value_eq finite isFinite_zero, value_zero, ← compare_eq_iff_eq,
      compare_value_sub firstFinite secondFinite finite, compare_eq_iff_eq, same]

end Difference

end Binary64
end LatencyChart
