import LatencyChart.Proofs.Number.Bits
import LatencyChart.Proofs.Number.Nearest

/-!
# The values of numbers

A finite number stands for a rational.  Finite numbers are compared as their values are, and
they are unpacked and packed again without loss.
-/

namespace LatencyChart
namespace Binary64

open Float.Model (Format UnpackedFloat)
open Float.Model.UnpackedFloat

/-- A rational with a sign put before it. -/
def signed (sign : Sign) (magnitude : ℚ) : ℚ :=
  match sign with
  | .positive => magnitude
  | .negative => -magnitude

/-- The rational that an unpacked number stands for.  What is not finite counts as zero. -/
def unpackedValue : UnpackedFloat → ℚ
  | .finite sign significand exponent _ => signed sign (significand * 2 ^ exponent)
  | _ => 0

/-- The rational that a finite number stands for. -/
def value (number : Float) : ℚ :=
  unpackedValue number.toModel.unpack

/-! ## Packing and unpacking -/

/-- The unpacked number of a sign, an exponent field and a fraction field. -/
def ofFields
    (sign : Sign)
    (field fraction : Nat) : UnpackedFloat :=
  if field = 2047 then
    if fraction = 0 then .infinity sign else .notANumber
  else if field = 0 then
    if positive : 0 < fraction then .finite sign fraction (-1074) positive else .zero sign
  else
    .finite sign (2 ^ 52 + fraction) (field - 1075) (Nat.add_pos_left (Nat.two_pow_pos 52) _)

theorem unpack_eq_ofFields (bits : BitVec 64) :
    UnpackedFloat.unpack Format.binary64 bits =
      ofFields (Sign.ofBitVec (@unpackSign Format.binary64 bits))
        (@unpackExponent Format.binary64 bits).toNat
        (@unpackMantissa Format.binary64 bits).toNat := by
  have special (field : BitVec 11) : field = -1#11 ↔ field.toNat = 2047 := by
    rw [← BitVec.toNat_inj]
    rfl
  have low (field : BitVec 11) : field = 0#11 ↔ field.toNat = 0 := by
    rw [← BitVec.toNat_inj]
    rfl
  have empty (fraction : BitVec 52) : fraction = 0#52 ↔ fraction.toNat = 0 := by
    rw [← BitVec.toNat_inj]
    rfl
  have whole (fraction : BitVec 52) : (1#1 ++ fraction).toNat = 2 ^ 52 + fraction.toNat := by
    rw [BitVec.toNat_append, Nat.shiftLeft_eq, Nat.mul_comm,
      ← Nat.two_pow_add_eq_or_of_lt fraction.isLt]
    rfl
  have bias : Format.binary64.exponentBias = 1023 := rfl
  simp only [UnpackedFloat.unpack, ofFields, special, low, empty, bias, whole]
  split_ifs with isSpecial isEmpty isLow noFraction positive
  · rfl
  · rfl
  · omega
  · rfl
  · congr 1
    omega
  · omega
  · rfl

theorem unpackSign_packComponents
    (sign : Sign)
    (field : BitVec 11)
    (fraction : BitVec 52) :
    Sign.ofBitVec
        (@unpackSign Format.binary64 (packComponents Format.binary64 sign field fraction)) =
      sign := by
  unfold unpackSign packComponents BitVec.extractLsb
  rw [BitVec.extractLsb'_append_eq_of_le (by decide),
    BitVec.extractLsb'_append_eq_of_le (by decide)]
  cases sign <;> rfl

/-- The form that rounding gives to an unpacked number.  The exponent may still be too high. -/
def IsReduced : UnpackedFloat → Prop
  | .finite _ significand exponent _ =>
      significand < 2 ^ 53 ∧ -1074 ≤ exponent ∧ (exponent = -1074 ∨ 2 ^ 52 ≤ significand)
  | _ => True

/-- What packing leaves of an unpacked number. -/
def saturated : UnpackedFloat → UnpackedFloat
  | .finite sign significand exponent positive =>
      if 971 < exponent then .infinity sign else .finite sign significand exponent positive
  | number => number

theorem unpack_packComponents
    (sign : Sign)
    (field : BitVec 11)
    (fraction : BitVec 52) :
    UnpackedFloat.unpack Format.binary64 (packComponents Format.binary64 sign field fraction) =
      ofFields sign field.toNat fraction.toNat := by
  have opened := unpack_eq_ofFields (packComponents Format.binary64 sign field fraction)
  rw [unpackSign_packComponents, unpackExponent_packComponents,
    unpackMantissa_packComponents] at opened
  exact opened

theorem unpack_pack
    {number : UnpackedFloat}
    (reduced : IsReduced number) :
    (Float.Model.pack number).unpack = saturated number := by
  change UnpackedFloat.unpack Format.binary64 (UnpackedFloat.pack Format.binary64 number) = _
  cases number with
  | notANumber => rfl
  | infinity sign => exact unpack_packComponents sign (-1#11) 0
  | zero sign => exact unpack_packComponents sign 0 0
  | finite sign significand exponent positive =>
      obtain ⟨short, lowest, normal⟩ := reduced
      have bias : Format.binary64.exponentBias = 1023 := rfl
      have bits : Format.binary64.mantissaBits = 53 := rfl
      simp only [UnpackedFloat.pack, bias, bits, saturated]
      split_ifs with tooHigh high isNormal high high
      · exact unpack_packComponents sign (-1#11) 0
      · omega
      · omega
      · have long : 2 ^ 52 ≤ significand :=
          (Nat.le_log2 positive.ne').mp (by omega)
        rw [unpack_packComponents, BitVec.toNat_ofNat, BitVec.toNat_ofNat, ofFields,
          if_neg (by omega), if_neg (by omega)]
        congr 1 <;> omega
      · omega
      · have noLong : ¬2 ^ 52 ≤ significand := by
          rw [← Nat.le_log2 positive.ne']
          have bounded := (Nat.log2_lt positive.ne').mpr short
          omega
        rw [unpack_packComponents, BitVec.toNat_ofNat, BitVec.toNat_ofNat, ofFields,
          if_neg (by omega), if_pos (by omega), dif_pos (by omega)]
        congr 1 <;> omega

theorem isCanonical_of_unpack
    {number : Float}
    {sign : Sign}
    {significand : Nat}
    {exponent : Int}
    {positive : 0 < significand}
    (unpacked : number.toModel.unpack = .finite sign significand exponent positive) :
    IsCanonical significand exponent := by
  have opened := (unpack_eq_ofFields number.toBits.toBitVec).symm.trans unpacked
  have fieldBound : (@unpackExponent Format.binary64 number.toBits.toBitVec).toNat < 2 ^ 11 :=
    BitVec.isLt _
  have fractionBound : (@unpackMantissa Format.binary64 number.toBits.toBitVec).toNat < 2 ^ 52 :=
    BitVec.isLt _
  unfold ofFields at opened
  split_ifs at opened
  · injection opened with _ significand_eq exponent_eq
    exact ⟨positive, by omega, by omega, by omega, by omega⟩
  · injection opened with _ significand_eq exponent_eq
    exact ⟨positive, by omega, by omega, by omega, by omega⟩

/-- A finite unpacked number with its value. -/
inductive IsFiniteWith : UnpackedFloat → ℚ → Prop
  | zero (sign : Sign) : IsFiniteWith (.zero sign) 0
  | finite (sign : Sign) {significand : Nat} {exponent : Int} (positive : 0 < significand)
      (canonical : IsCanonical significand exponent) :
      IsFiniteWith (.finite sign significand exponent positive)
        (signed sign (significand * 2 ^ exponent))

theorem isFiniteWith_unpack
    {number : Float}
    (finite : number.isFinite = true) :
    IsFiniteWith number.toModel.unpack (value number) := by
  change number.toModel.unpack.isFinite = true at finite
  unfold value
  cases unpacked : number.toModel.unpack with
  | notANumber =>
      rw [unpacked] at finite
      contradiction
  | infinity sign =>
      rw [unpacked] at finite
      contradiction
  | zero sign => exact .zero sign
  | finite sign significand exponent positive =>
      exact .finite sign positive (isCanonical_of_unpack unpacked)

/-! ## Order -/

/-- A long significand with the higher exponent makes the greater number. -/
theorem mul_zpow_lt_of_exponent_lt
    {low high : Nat}
    {lowExponent highExponent : Int}
    (short : low < 2 ^ 53)
    (long : 2 ^ 52 ≤ high)
    (exponents : lowExponent < highExponent) :
    (low : ℚ) * 2 ^ lowExponent < high * 2 ^ highExponent := by
  calc (low : ℚ) * 2 ^ lowExponent
      < 2 ^ 53 * 2 ^ lowExponent := by
        have shortCast : (low : ℚ) < 2 ^ 53 := by exact_mod_cast short
        gcongr
    _ = 2 ^ 52 * 2 ^ (lowExponent + 1) := by
        rw [zpow_add_one₀ two_ne_zero]
        ring
    _ ≤ high * 2 ^ highExponent := by
        have longCast : (2 ^ 52 : ℚ) ≤ high := by exact_mod_cast long
        gcongr
        · norm_num
        · omega

theorem canonical_lt_of_exponent_lt
    {low high : Nat}
    {lowExponent highExponent : Int}
    (lowCanonical : IsCanonical low lowExponent)
    (highCanonical : IsCanonical high highExponent)
    (exponents : lowExponent < highExponent) :
    (low : ℚ) * 2 ^ lowExponent < high * 2 ^ highExponent := by
  have lowest := lowCanonical.lowest
  have normal := highCanonical.normal
  exact mul_zpow_lt_of_exponent_lt lowCanonical.short (by omega) exponents

/-- Canonical numbers are compared by exponent first. -/
theorem compare_canonical
    {first second : Nat}
    {firstExponent secondExponent : Int}
    (firstCanonical : IsCanonical first firstExponent)
    (secondCanonical : IsCanonical second secondExponent) :
    (compare firstExponent secondExponent).then (compare first second) =
      compare ((first : ℚ) * 2 ^ firstExponent) (second * 2 ^ secondExponent) := by
  rcases lt_trichotomy firstExponent secondExponent with below | rfl | above
  · rw [compare_lt_iff_lt.mpr below, compare_lt_iff_lt.mpr
      (canonical_lt_of_exponent_lt firstCanonical secondCanonical below)]
    rfl
  · have positive : (0 : ℚ) < 2 ^ firstExponent := by positivity
    rw [compare_eq_iff_eq.mpr rfl]
    rcases lt_trichotomy first second with below | rfl | above
    · have belowCast : (first : ℚ) < second := by exact_mod_cast below
      rw [compare_lt_iff_lt.mpr below, compare_lt_iff_lt.mpr (by gcongr)]
      rfl
    · rw [compare_eq_iff_eq.mpr rfl, compare_eq_iff_eq.mpr rfl]
      rfl
    · have aboveCast : (second : ℚ) < first := by exact_mod_cast above
      rw [compare_gt_iff_gt.mpr above, compare_gt_iff_gt.mpr (by gcongr)]
      rfl
  · rw [compare_gt_iff_gt.mpr above, compare_gt_iff_gt.mpr
      (canonical_lt_of_exponent_lt secondCanonical firstCanonical above)]
    rfl

theorem compare_neg_neg (first second : ℚ) :
    compare (-first) (-second) = (compare first second).swap := by
  rcases lt_trichotomy first second with below | rfl | above
  · rw [compare_lt_iff_lt.mpr below, compare_gt_iff_gt.mpr (neg_lt_neg below)]
    rfl
  · rw [compare_eq_iff_eq.mpr rfl, compare_eq_iff_eq.mpr rfl]
    rfl
  · rw [compare_gt_iff_gt.mpr above, compare_lt_iff_lt.mpr (neg_lt_neg above)]
    rfl

/-- Finite unpacked numbers are compared as their values are. -/
theorem compare_unpacked
    {first second : UnpackedFloat}
    {firstValue secondValue : ℚ}
    (firstFinite : IsFiniteWith first firstValue)
    (secondFinite : IsFiniteWith second secondValue) :
    first.compare second = some (compare firstValue secondValue) := by
  have above {significand : Nat} {exponent : Int} (positive : 0 < significand) :
      (0 : ℚ) < significand * 2 ^ exponent := by
    positivity
  cases firstFinite with
  | zero firstSign =>
      cases secondFinite with
      | zero secondSign =>
          rw [compare_eq_iff_eq.mpr rfl]
          rfl
      | finite secondSign positive _ =>
          cases secondSign with
          | positive =>
              rw [signed, compare_lt_iff_lt.mpr (above positive)]
              rfl
          | negative =>
              rw [signed, compare_gt_iff_gt.mpr (neg_neg_of_pos (above positive))]
              rfl
  | finite firstSign firstPositive firstCanonical =>
      cases secondFinite with
      | zero secondSign =>
          cases firstSign with
          | positive =>
              rw [signed, compare_gt_iff_gt.mpr (above firstPositive)]
              rfl
          | negative =>
              rw [signed, compare_lt_iff_lt.mpr (neg_neg_of_pos (above firstPositive))]
              rfl
      | finite secondSign secondPositive secondCanonical =>
          have magnitudes := compare_canonical firstCanonical secondCanonical
          cases firstSign with
          | positive =>
              cases secondSign with
              | positive => exact congrArg some magnitudes
              | negative =>
                  rw [signed, signed, compare_gt_iff_gt.mpr
                    ((neg_neg_of_pos (above secondPositive)).trans (above firstPositive))]
                  rfl
          | negative =>
              cases secondSign with
              | positive =>
                  rw [signed, signed, compare_lt_iff_lt.mpr
                    ((neg_neg_of_pos (above firstPositive)).trans (above secondPositive))]
                  rfl
              | negative =>
                  rw [signed, signed, compare_neg_neg, ← magnitudes]
                  rfl

/-- A number that is neither NaN nor finite is an infinity. -/
theorem exists_infinity
    {number : Float}
    (isNumber : number.isNaN = false)
    (notFinite : ¬number.isFinite = true) :
    ∃ sign, number.toModel.unpack = .infinity sign := by
  change number.toModel.unpack.isNaN = false at isNumber
  change ¬number.toModel.unpack.isFinite = true at notFinite
  cases unpacked : number.toModel.unpack with
  | notANumber =>
      rw [unpacked] at isNumber
      contradiction
  | infinity sign => exact ⟨sign, rfl⟩
  | zero sign =>
      rw [unpacked] at notFinite
      exact absurd rfl notFinite
  | finite sign significand exponent positive =>
      rw [unpacked] at notFinite
      exact absurd rfl notFinite

/-- A finite number is not NaN. -/
theorem isNaN_eq_false_of_isFinite
    {number : Float}
    (finite : number.isFinite = true) :
    number.isNaN = false := by
  have unpacked := isFiniteWith_unpack finite
  change number.toModel.unpack.isNaN = false
  generalize value number = point at unpacked
  generalize number.toModel.unpack = other at unpacked ⊢
  cases unpacked <;> rfl

section Comparison

variable
  {first second : Float}
  (firstFinite : first.isFinite = true)
  (secondFinite : second.isFinite = true)

include firstFinite secondFinite

theorem compare_unpack :
    first.toModel.unpack.compare second.toModel.unpack =
      some (compare (value first) (value second)) :=
  compare_unpacked (isFiniteWith_unpack firstFinite) (isFiniteWith_unpack secondFinite)

theorem lt_iff_value_lt :
    first < second ↔ value first < value second := by
  change decide ((first.toModel.unpack.compare second.toModel.unpack == some .lt) = true) =
    true ↔ _
  rw [compare_unpack firstFinite secondFinite, decide_eq_true_iff, beq_iff_eq,
    Option.some_inj, compare_lt_iff_lt]

theorem le_iff_value_le :
    first ≤ second ↔ value first ≤ value second := by
  change decide ((first.toModel.unpack.compare second.toModel.unpack).any (·.isLE) = true) =
    true ↔ _
  rw [compare_unpack firstFinite secondFinite, decide_eq_true_iff, Option.any_some,
    ← Ordering.ne_gt_iff_isLE]
  exact compare_le_iff_le

theorem beq_iff_value_eq :
    (first == second) = true ↔ value first = value second := by
  change (first.toModel.unpack.compare second.toModel.unpack == some .eq) = true ↔ _
  rw [compare_unpack firstFinite secondFinite, beq_iff_eq, Option.some_inj,
    compare_eq_iff_eq]

/-- Numbers with the same value other than zero are the same. -/
theorem eq_of_value_eq
    (same : value first = value second)
    (apart : value second ≠ 0) :
    first = second := by
  have equal := (beq_iff_value_eq firstFinite secondFinite).mpr same
  obtain ⟨-, -, same | ⟨-, rfl⟩ | ⟨-, rfl⟩⟩ := Float.beq_iff_ne_nan_and_eq.mp equal
  · exact same
  · exact absurd rfl apart
  · exact absurd rfl apart

end Comparison

end Binary64
end LatencyChart
