import LatencyChart.Proofs.Number.Sum
import Mathlib.Data.Rat.Floor

/-!
# Whole numbers

The rounding functions toward whole numbers are exact: below the point from which all numbers are
whole, what they add or take away still fits into a significand.  Conversions to integers of some
bits are exact up to the ends of the target's range.
-/

namespace LatencyChart
namespace Binary64

open Float.Model (Format UnpackedFloat)
open Float.Model.UnpackedFloat

/-! ## Exact results -/

theorem isOnGrid_intCast
    {whole : Int}
    (short : |whole| ≤ 2 ^ 53) :
    IsOnGrid whole :=
  ⟨whole, 0, short, by norm_num, by rw [zpow_zero, mul_one]⟩

theorem abs_intCast_lt_overflowBound
    {whole : Int}
    (short : |whole| ≤ 2 ^ 53) :
    |(whole : ℚ)| < overflowBound := by
  have bits : |whole| < 2 ^ 64 := short.trans_lt (by norm_num)
  rw [Int.abs_eq_natAbs] at bits
  have bound := natCast_lt_overflowBound (by omega : whole.natAbs < 2 ^ 64)
  rwa [Nat.abs_cast, Nat.cast_natAbs, Int.cast_abs] at bound

/-- A whole number of at most fifty-three bits is not rounded. -/
theorem RoundsTo.value_eq_intCast
    {whole : Int}
    {number : Float}
    (rounds : RoundsTo whole number)
    (short : |whole| ≤ 2 ^ 53) :
    number.isFinite = true ∧ value number = whole :=
  rounds.value_eq_of_isOnGrid (isOnGrid_intCast short) (abs_intCast_lt_overflowBound short)

/-! ## Signs -/

section Finite

variable {number : Float} (finite : number.isFinite = true)

include finite

theorem isFinite_neg : (-number).isFinite = true := by
  have negated := (isFiniteWith_unpack finite).neg
  change (Float.Model.pack number.toModel.unpack.neg).unpack.isFinite = true
  rw [negated.unpack_pack]
  exact negated.isRounding.finite

theorem value_neg : value (-number) = -value number := by
  have negated := (isFiniteWith_unpack finite).neg
  change unpackedValue (Float.Model.pack number.toModel.unpack.neg).unpack = _
  rw [negated.unpack_pack, negated.unpackedValue_eq]

theorem value_nonneg_of_isNegative_eq_false (clear : isNegative number = false) :
    0 ≤ value number := by
  have plain := (isUnsigned_iff number).mp ⟨isNaN_eq_false_of_isFinite finite, clear⟩
  unfold value
  generalize number.toModel.unpack = other at plain ⊢
  cases plain with
  | infinity => exact le_rfl
  | zero => exact le_rfl
  | finite positive =>
      rw [unpackedValue, signed]
      positivity

theorem value_nonpos_of_isNegative (set : isNegative number = true) :
    value number ≤ 0 := by
  have notPlain : ¬IsPlain number.toModel.unpack := by
    rw [← isUnsigned_iff]
    intro unsigned
    rw [unsigned.isNegative_eq_false] at set
    exact Bool.false_ne_true set
  have unpacked := isFiniteWith_unpack finite
  generalize value number = point at unpacked
  generalize number.toModel.unpack = other at notPlain unpacked
  cases unpacked with
  | zero sign => exact le_rfl
  | finite sign positive canonical =>
      cases sign with
      | positive => exact absurd (.finite positive) notPlain
      | negative =>
          rw [signed]
          exact neg_nonpos.mpr (by positivity)

end Finite

/-! ## Conversion to a natural -/

theorem Describes.floor_eq
    {extended : ExtendedMantissa}
    {exact : ℚ}
    (describes : Describes extended exact) :
    ⌊exact⌋ = extended.mantissa := by
  rw [Int.floor_eq_iff]
  exact ⟨by exact_mod_cast describes.whole_le, by exact_mod_cast describes.lt_whole_add_one⟩

/-- Cutting off the bits behind the point leaves the whole part. -/
theorem roundToInt_positive
    (significand : Nat)
    (exponent : Int) :
    roundToInt .positive significand exponent = ⌊(significand : ℚ) * 2 ^ exponent⌋ := by
  unfold roundToInt decreaseExponent shiftToExponent
  simp only [sub_zero, zero_sub]
  generalize shift : exponent.toNat = count
  rw [← shiftLeft_mul_zpow significand count exponent]
  generalize significand <<< count = shifted
  obtain ⟨cut, reached⟩ : ∃ cut : Nat, exponent - count = -cut :=
    ⟨(count - exponent).toNat, by omega⟩
  have exact : Describes (.ofMantissaAndAccuracy shifted .exact) shifted := rfl
  rw [reached, neg_neg, Int.toNat_natCast, zpow_neg, zpow_natCast, ← div_eq_mul_inv,
    (exact.shiftRight cut).floor_eq]
  rfl

theorem toNat_ofNatClamp
    {integer : Int}
    (nonnegative : 0 ≤ integer) :
    ((UInt64.ofNatClamp integer.toNat).toNat : Int) = min (2 ^ 64 - 1) integer := by
  unfold UInt64.ofNatClamp
  split_ifs with fits
  · rw [UInt64.toNat_ofNatLT]
    change _ < 2 ^ 64 at fits
    omega
  · change ¬_ < 2 ^ 64 at fits
    rw [min_eq_left (by omega)]
    rfl

/-- The whole part of a number that is not negative, up to the greatest integer of 64 bits. -/
theorem toNat_toUInt64
    {number : Float}
    (finite : number.isFinite = true)
    (nonnegative : 0 ≤ value number) :
    (number.toUInt64.toNat : Int) = min (2 ^ 64 - 1) ⌊value number⌋ := by
  have unpacked := isFiniteWith_unpack finite
  change ((UnpackedFloat.toUInt64 number.toModel.unpack).toNat : Int) = _
  generalize value number = point at nonnegative unpacked ⊢
  generalize number.toModel.unpack = other at unpacked ⊢
  cases unpacked with
  | zero sign =>
      rw [Int.floor_zero]
      rfl
  | @finite sign significand exponent positive canonical =>
      have magnitude : (0 : ℚ) < significand * 2 ^ exponent := by positivity
      cases sign with
      | negative =>
          rw [signed] at nonnegative
          linarith
      | positive =>
          rw [signed, ← roundToInt_positive]
          apply toNat_ofNatClamp
          change 0 ≤ roundToInt .positive significand exponent
          rw [roundToInt_positive, Int.floor_nonneg]
          exact magnitude.le

/-! ## Rounding to whole numbers -/

/-- The point from which all numbers are whole. -/
theorem value_wholeFrom : value 4503599627370496.0 = 2 ^ 52 := by
  change signed .positive (((2 ^ 52 : Nat) : ℚ) * 2 ^ (0 : Int)) = 2 ^ 52
  norm_num [signed]

/-- Numbers of magnitude `2 ^ 52` and more are whole. -/
theorem IsFiniteWith.exists_intCast
    {number : UnpackedFloat}
    {point : ℚ}
    (finite : IsFiniteWith number point)
    (large : 2 ^ 52 ≤ |point|) :
    ∃ whole : Int, point = whole := by
  cases finite with
  | zero sign => exact ⟨0, by rw [Int.cast_zero]⟩
  | @finite sign significand exponent positive canonical =>
      rw [abs_signed, abs_of_pos (by positivity)] at large
      have high : 0 ≤ exponent := by
        by_contra! low
        have short : (significand : ℚ) < 2 ^ 53 := by exact_mod_cast canonical.short
        have half : (2 : ℚ) ^ exponent ≤ 2 ^ (-1 : Int) :=
          zpow_le_zpow_right₀ one_le_two (by omega)
        have less : (significand : ℚ) * 2 ^ exponent < 2 ^ 53 * 2 ^ (-1 : Int) :=
          mul_lt_mul_of_lt_of_le_of_nonneg_of_pos short half (by positivity) (by positivity)
        norm_num at less large
        linarith
      obtain ⟨count, rfl⟩ := Int.eq_ofNat_of_zero_le high
      refine ⟨sign.apply (significand * 2 ^ count : Nat), ?_⟩
      rw [cast_apply, zpow_natCast]
      push_cast
      rfl

theorem abs_floor_le
    {point : ℚ}
    {bound : Int}
    (within : |point| < bound) :
    |⌊point⌋| ≤ bound := by
  rw [abs_lt] at within
  have low : -bound ≤ ⌊point⌋ := Int.le_floor.mpr (by rw [Int.cast_neg]; exact within.1.le)
  have high : ⌊point⌋ < bound := Int.floor_lt.mpr within.2
  exact abs_le.mpr ⟨low, high.le⟩

theorem abs_ceil_le
    {point : ℚ}
    {bound : Int}
    (within : |point| < bound) :
    |⌈point⌉| ≤ bound := by
  rw [← abs_neg, ← Int.floor_neg]
  exact abs_floor_le (by rwa [abs_neg])

section Finite

variable {number : Float} (finite : number.isFinite = true)

include finite

theorem abs_lt_wholeFrom_iff :
    number.abs < 4503599627370496.0 ↔ |value number| < 2 ^ 52 := by
  have wholeFromFinite : (4503599627370496.0 : Float).isFinite = true := rfl
  rw [lt_iff_value_lt (isFinite_abs finite) wholeFromFinite, value_abs finite, value_wholeFrom]

/-- By way of an integer of 64 bits, a number that is small enough is cut off at the point. -/
theorem value_toFloat_toUInt64
    (nonnegative : 0 ≤ value number)
    (small : |value number| < 2 ^ 52) :
    number.toUInt64.toFloat.isFinite = true ∧
      value number.toUInt64.toFloat = (⌊value number⌋ : ℚ) := by
  have converted := toNat_toUInt64 finite nonnegative
  have floorNonneg := Int.floor_nonneg.mpr nonnegative
  have floorShort := @abs_floor_le (value number) (2 ^ 52) (by exact_mod_cast small)
  rw [abs_le] at floorShort
  obtain ⟨countFinite, count_eq⟩ := @value_toFloat number.toUInt64 (by omega)
  refine ⟨countFinite, ?_⟩
  rw [count_eq]
  exact_mod_cast (by omega : (number.toUInt64.toNat : Int) = ⌊value number⌋)

/-- Towards zero, the whole part is the ceiling below zero and the floor elsewhere. -/
theorem value_whole_of_small (small : |value number| < 2 ^ 52) :
    (whole number).isFinite = true ∧
      value (whole number) =
        if value number < 0 then (⌈value number⌉ : ℚ) else (⌊value number⌋ : ℚ) := by
  rw [whole, if_pos ((abs_lt_wholeFrom_iff finite).mpr small)]
  cases signBit : isNegative number with
  | true =>
      have nonpositive := value_nonpos_of_isNegative finite signBit
      have negated := value_neg finite
      obtain ⟨countFinite, count_eq⟩ := value_toFloat_toUInt64 (isFinite_neg finite)
        (by rw [negated]; exact neg_nonneg.mpr nonpositive) (by rwa [negated, abs_neg])
      rw [if_pos rfl]
      refine ⟨isFinite_neg countFinite, ?_⟩
      rw [value_neg countFinite, count_eq, negated, Int.floor_neg, Int.cast_neg, neg_neg]
      split_ifs with negative
      · rfl
      · rw [le_antisymm nonpositive (not_lt.mp negative), Int.ceil_zero, Int.floor_zero]
  | false =>
      have nonnegative := value_nonneg_of_isNegative_eq_false finite signBit
      rw [if_neg Bool.false_ne_true, if_neg (not_lt.mpr nonnegative)]
      exact value_toFloat_toUInt64 finite nonnegative small

/-- From the point on from which all numbers are whole, cutting off changes nothing. -/
theorem whole_of_large (large : 2 ^ 52 ≤ |value number|) :
    whole number = number ∧ value number = ⌊value number⌋ := by
  obtain ⟨integer, value_eq⟩ := (isFiniteWith_unpack finite).exists_intCast large
  rw [whole, if_neg (by rwa [abs_lt_wholeFrom_iff finite, not_lt])]
  exact ⟨rfl, by rw [value_eq, Int.floor_intCast]⟩

/-- The greatest whole number that is at most a given one. -/
theorem value_floor :
    (floor number).isFinite = true ∧ value (floor number) = ⌊value number⌋ := by
  unfold floor
  rcases le_or_gt (2 ^ 52) |value number| with large | small
  · obtain ⟨same, isWhole⟩ := whole_of_large finite large
    rw [same, if_neg (by rw [lt_iff_value_lt finite finite]; exact lt_irrefl _)]
    exact ⟨finite, isWhole⟩
  · obtain ⟨wholeFinite, part⟩ := value_whole_of_small finite small
    have floorShort := @abs_floor_le (value number) (2 ^ 52) (by exact_mod_cast small)
    simp only [lt_iff_value_lt finite wholeFinite, part]
    have below := Int.floor_le (value number)
    split_ifs with negative above above
    · -- Only below zero the whole part can be too high, and then by one.
      have rounds := roundsTo_sub wholeFinite isFinite_one
      have step : ⌈value number⌉ - 1 = ⌊value number⌋ := by
        have less : ⌊value number⌋ < ⌈value number⌉ := by
          exact_mod_cast below.trans_lt above
        have most := Int.ceil_le_floor_add_one (value number)
        omega
      have exactly : value (whole number) - value 1.0 = (⌊value number⌋ : ℚ) := by
        rw [part, if_pos negative, value_one, ← step]
        push_cast
        rfl
      rw [exactly] at rounds
      exact rounds.value_eq_intCast (floorShort.trans (by norm_num))
    · refine ⟨wholeFinite, ?_⟩
      rw [part, if_pos negative]
      have same := le_antisymm (not_lt.mp above) (Int.le_ceil (value number))
      rw [← same, Int.floor_intCast, Int.ceil_intCast]
    · exact absurd above (not_lt.mpr below)
    · refine ⟨wholeFinite, ?_⟩
      rw [part, if_neg negative]

/-- The least whole number that is at least a given one. -/
theorem value_ceil :
    (ceil number).isFinite = true ∧ value (ceil number) = ⌈value number⌉ := by
  unfold ceil
  rcases le_or_gt (2 ^ 52) |value number| with large | small
  · obtain ⟨same, isWhole⟩ := whole_of_large finite large
    rw [same, if_neg (by rw [lt_iff_value_lt finite finite]; exact lt_irrefl _)]
    refine ⟨finite, ?_⟩
    rw [isWhole, Int.ceil_intCast]
  · obtain ⟨wholeFinite, part⟩ := value_whole_of_small finite small
    have ceilShort := @abs_ceil_le (value number) (2 ^ 52) (by exact_mod_cast small)
    simp only [lt_iff_value_lt wholeFinite finite, part]
    have above := Int.le_ceil (value number)
    split_ifs with negative below below
    · exact absurd below (not_lt.mpr above)
    · refine ⟨wholeFinite, ?_⟩
      rw [part, if_pos negative]
    · have rounds := roundsTo_add wholeFinite isFinite_one
      have step : ⌊value number⌋ + 1 = ⌈value number⌉ := by
        have less : ⌊value number⌋ < ⌈value number⌉ := by
          exact_mod_cast below.trans_le above
        have most := Int.ceil_le_floor_add_one (value number)
        omega
      have exactly : value (whole number) + value 1.0 = (⌈value number⌉ : ℚ) := by
        rw [part, if_neg negative, value_one, ← step]
        push_cast
        rfl
      rw [exactly] at rounds
      exact rounds.value_eq_intCast (ceilShort.trans (by norm_num))
    · refine ⟨wholeFinite, ?_⟩
      rw [part, if_neg negative]
      have same := le_antisymm (not_lt.mp below) (Int.floor_le (value number))
      rw [same, Int.floor_intCast, Int.ceil_intCast]

/-! ## Conversion to an integer -/

/-- A whole number becomes the integer that it is, up to the ends of the range. -/
theorem toInt32_of_value_eq
    {integer : Int}
    (isWhole : value number = integer) :
    toInt32 number = max (-2147483648) (min 2147483647 integer) := by
  unfold toInt32
  simp only [lt_iff_value_lt finite isFinite_zero, value_zero, isWhole]
  split_ifs with negative
  · have below : integer < 0 := by exact_mod_cast negative
    have negated : value (-number) = ((-integer : Int) : ℚ) := by
      rw [value_neg finite, isWhole, Int.cast_neg]
    have converted := toNat_toUInt64 (isFinite_neg finite)
      (by rw [negated]; exact_mod_cast (by omega : 0 ≤ -integer))
    rw [negated, Int.floor_intCast] at converted
    omega
  · have above : 0 ≤ integer := by exact_mod_cast not_lt.mp negative
    have converted := toNat_toUInt64 finite
      (by rw [isWhole]; exact_mod_cast above)
    rw [isWhole, Int.floor_intCast] at converted
    omega

theorem toInt32_floor :
    toInt32 (floor number) = max (-2147483648) (min 2147483647 ⌊value number⌋) := by
  obtain ⟨floorFinite, floor_eq⟩ := value_floor finite
  exact toInt32_of_value_eq floorFinite floor_eq

theorem toInt32_ceil :
    toInt32 (ceil number) = max (-2147483648) (min 2147483647 ⌈value number⌉) := by
  obtain ⟨ceilFinite, ceil_eq⟩ := value_ceil finite
  exact toInt32_of_value_eq ceilFinite ceil_eq

end Finite

/-! ## Integers as numbers -/

/-- The number of an integer that is not negative.  Integers of more than 64 bits lose the bits in
front. -/
theorem value_ofInt_of_nonneg
    {integer : Int}
    (nonnegative : 0 ≤ integer) :
    (ofInt integer).isFinite = true ∧ 0 ≤ value (ofInt integer) ∧
      value (ofInt integer) ≤ 2 ^ 64 ∧
      (integer < 2 ^ 53 → value (ofInt integer) = integer) := by
  unfold ofInt
  rw [if_neg (not_lt.mpr nonnegative)]
  generalize converted : integer.toNat.toUInt64 = count
  have rounds := roundsTo_toFloat count
  have finite := rounds.isFinite_of_abs_lt (natCast_lt_overflowBound count.toNat_lt)
  have nearest := rounds.isRounded.nearest finite
  have power : IsOnGrid (2 ^ 64) := ⟨1, 64, by norm_num, by norm_num, by norm_num⟩
  refine ⟨finite, nearest.ge_of_ge isOnGrid_zero (Nat.cast_nonneg _),
    nearest.le_of_le power (by exact_mod_cast count.toNat_lt.le), ?_⟩
  intro short
  have kept : count.toNat = integer.toNat := by
    rw [← converted]
    exact Nat.mod_eq_of_lt (by omega)
  rw [(value_toFloat (by omega)).2, kept]
  exact_mod_cast Int.toNat_of_nonneg nonnegative

/-- A negative integer becomes the number of its magnitude with the sign put before it. -/
theorem ofInt_of_neg
    {integer : Int}
    (negative : integer < 0) :
    ofInt integer = -ofInt (-integer) := by
  have magnitude : integer.natAbs = (-integer).toNat := by omega
  rw [ofInt, if_pos negative, ofInt, if_neg (by omega), magnitude]

theorem value_ofInt_of_neg
    {integer : Int}
    (negative : integer < 0) :
    (ofInt integer).isFinite = true ∧ value (ofInt integer) = -value (ofInt (-integer)) := by
  have finite := (value_ofInt_of_nonneg (by omega : 0 ≤ -integer)).1
  rw [ofInt_of_neg negative]
  exact ⟨isFinite_neg finite, value_neg finite⟩

end Binary64
end LatencyChart
