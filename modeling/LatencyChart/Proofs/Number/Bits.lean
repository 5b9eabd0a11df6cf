import LatencyChart.Number.Nearest
import Mathlib

/-!
# The bits of a number

The sign bit, the exponent field and the fraction field make up the bits of a number, and the
bits make up the number.  There is one number that is not a number, so its bits are told by
its name, and an infinity is told by its sign.

Mathlib is imported whole: the library's facts about the bits of a number that was packed come with
none of its modules.
-/

namespace LatencyChart
namespace Binary64

open Float.Model (Format)
open Float.Model.UnpackedFloat

/-! ## The fields of a number -/

theorem isNegative_iff (number : Float) :
    isNegative number = true ↔ 2 ^ 63 ≤ number.toBits.toNat := by
  have bound := number.toBits.toNat_lt
  simp only [isNegative, beq_iff_eq, ← UInt64.toNat_inj, UInt64.toNat_shiftRight,
    Nat.shiftRight_eq_div_pow, UInt64.reduceToNat, Nat.reduceMod]
  omega

theorem exponentField_eq (number : Float) :
    exponentField number = number.toBits.toNat / 2 ^ 52 % 2 ^ 11 := by
  simp only [exponentField, UInt64.toNat_shiftRight, Nat.shiftRight_eq_div_pow,
    UInt64.reduceToNat, Nat.reduceMod, Nat.reducePow]

theorem exponentField_lt (number : Float) :
    exponentField number < 2048 :=
  Nat.mod_lt _ (by decide)

theorem fractionField_lt (number : Float) :
    fractionField number < 2 ^ 52 :=
  Nat.mod_lt _ (Nat.two_pow_pos 52)

theorem toNat_toBits (number : Float) :
    number.toBits.toNat =
      (if isNegative number then 2 ^ 63 else 0) + exponentField number * 2 ^ 52 +
        fractionField number := by
  have bound := number.toBits.toNat_lt
  have sign := isNegative_iff number
  rw [exponentField_eq, fractionField, Nat.pow_eq]
  split
  · next negative =>
    have high := sign.mp negative
    omega
  · next positive =>
    have low := mt sign.mpr positive
    omega

/-- A number is put together from its sign and the bits of its magnitude. -/
theorem ofBits_signed (number : Float) :
    Float.ofBits ((if isNegative number then 0x8000000000000000 else 0) +
      (exponentField number * 2 ^ 52 + fractionField number).toUInt64) = number := by
  have bits := toNat_toBits number
  have bound := number.toBits.toNat_lt
  refine Eq.trans (congrArg Float.ofBits ?_) (Float.ofBits_toBits number)
  rw [← UInt64.toNat_inj, bits, UInt64.toNat_add]
  split at bits
  · next negative =>
    simp [negative]
    omega
  · next positive =>
    simp [positive]
    omega

/-- The bits of a finite magnitude are those of its significand and exponent. -/
theorem magnitudeBits_of_finite
    {number : Float}
    (finite : exponentField number < 2047) :
    magnitudeBits (significand number) (exponent number) =
      exponentField number * 2 ^ 52 + fractionField number := by
  have bound := fractionField_lt number
  simp only [magnitudeBits, significand, exponent, Nat.pow_eq]
  split_ifs <;> omega

/-! ## Numbers that are not finite -/

theorem unpackExponent_eq_iff (number : Float) :
    @unpackExponent Format.binary64 number.toBits.toBitVec = -1#_ ↔
      exponentField number = 2047 := by
  have field : (@unpackExponent Format.binary64 number.toBits.toBitVec).toNat =
      exponentField number := by
    simp [unpackExponent, exponentField_eq, Nat.shiftRight_eq_div_pow]
  rw [← BitVec.toNat_inj, field]
  rfl

theorem unpackMantissa_eq_iff (number : Float) :
    @unpackMantissa Format.binary64 number.toBits.toBitVec = 0#_ ↔
      fractionField number = 0 := by
  have field : (@unpackMantissa Format.binary64 number.toBits.toBitVec).toNat =
      fractionField number := by
    simp [unpackMantissa, fractionField]
  rw [← BitVec.toNat_inj, field]
  rfl

theorem isNaN_iff (number : Float) :
    number.isNaN = true ↔ exponentField number = 2047 ∧ fractionField number ≠ 0 := by
  rw [← unpackExponent_eq_iff, ne_eq, ← unpackMantissa_eq_iff]
  change (unpack Format.binary64 number.toBits.toBitVec).isNaN = true ↔ _
  simp only [unpack]
  split_ifs <;> simp_all [Float.Model.UnpackedFloat.isNaN]

theorem isInf_iff (number : Float) :
    number.isInf = true ↔ exponentField number = 2047 ∧ fractionField number = 0 := by
  rw [← unpackExponent_eq_iff, ← unpackMantissa_eq_iff]
  change (unpack Format.binary64 number.toBits.toBitVec).isInf = true ↔ _
  simp only [unpack]
  split_ifs <;> simp_all [Float.Model.UnpackedFloat.isInf]

theorem exponentField_lt_of_finite
    {number : Float}
    (noNaN : ¬number.isNaN = true)
    (noInf : ¬number.isInf = true) :
    exponentField number < 2047 := by
  have bound := exponentField_lt number
  rw [isNaN_iff] at noNaN
  rw [isInf_iff] at noInf
  omega

theorem eq_notANumber_of_isNaN
    {number : Float}
    (isNaN : number.isNaN = true) :
    number = notANumber := by
  rw [Float.isNaN_eq_decide_eq_nan, decide_eq_true_eq] at isNaN
  rw [isNaN]
  decide

theorem eq_infinity_of_isInf
    {number : Float}
    (isInf : number.isInf = true) :
    number = if isNegative number then -infinity else infinity := by
  obtain ⟨special, empty⟩ := (isInf_iff number).mp isInf
  have together := ofBits_signed number
  rw [special, empty] at together
  refine together.symm.trans ?_
  split <;> rfl

end Binary64
end LatencyChart
