import LatencyChart.Proofs.Number.Arithmetic

/-!
# Numbers up to the sign of zero

Numbers that differ in the sign of a zero at most are compared alike, and arithmetic keeps them so
as long as nothing is divided by them.  For finite numbers this means that their values are equal.
-/

namespace LatencyChart
namespace Binary64

open Float.Model (Format UnpackedFloat)
open Float.Model.UnpackedFloat

/-- Unpacked numbers that differ in the sign of a zero at most. -/
inductive AreAlike : UnpackedFloat → UnpackedFloat → Prop
  | same (number : UnpackedFloat) : AreAlike number number
  | zeros (first second : Sign) : AreAlike (.zero first) (.zero second)

namespace AreAlike

variable {first first' second second' : UnpackedFloat}

theorem neg (alike : AreAlike first first') : AreAlike first.neg first'.neg := by
  cases alike with
  | same => exact .same _
  | zeros => exact .zeros _ _

theorem abs (alike : AreAlike first first') : AreAlike first.abs first'.abs := by
  cases alike with
  | same => exact .same _
  | zeros => exact .zeros _ _

theorem add
    (firstAlike : AreAlike first first')
    (secondAlike : AreAlike second second') :
    AreAlike (UnpackedFloat.add Format.binary64 first second)
      (UnpackedFloat.add Format.binary64 first' second') := by
  have zeroAddZero (left right : Sign) :
      ∃ sign, UnpackedFloat.add Format.binary64 (.zero left) (.zero right) = .zero sign := by
    cases left <;> cases right <;> exact ⟨_, rfl⟩
  cases firstAlike with
  | same =>
      cases secondAlike with
      | same => exact .same _
      | zeros right right' =>
          cases first with
          | notANumber | infinity _ | finite _ _ _ _ => exact .same _
          | zero left =>
              obtain ⟨sign, sum⟩ := zeroAddZero left right
              obtain ⟨sign', sum'⟩ := zeroAddZero left right'
              rw [sum, sum']
              exact .zeros _ _
  | zeros left left' =>
      cases secondAlike with
      | same =>
          cases second with
          | notANumber | infinity _ | finite _ _ _ _ => exact .same _
          | zero right =>
              obtain ⟨sign, sum⟩ := zeroAddZero left right
              obtain ⟨sign', sum'⟩ := zeroAddZero left' right
              rw [sum, sum']
              exact .zeros _ _
      | zeros right right' =>
          obtain ⟨sign, sum⟩ := zeroAddZero left right
          obtain ⟨sign', sum'⟩ := zeroAddZero left' right'
          rw [sum, sum']
          exact .zeros _ _

theorem sub
    (firstAlike : AreAlike first first')
    (secondAlike : AreAlike second second') :
    AreAlike (UnpackedFloat.sub Format.binary64 first second)
      (UnpackedFloat.sub Format.binary64 first' second') := by
  rw [unpacked_sub_eq_add_neg, unpacked_sub_eq_add_neg]
  exact firstAlike.add secondAlike.neg

theorem mul (secondAlike : AreAlike second second') :
    AreAlike (UnpackedFloat.mul Format.binary64 first second)
      (UnpackedFloat.mul Format.binary64 first second') := by
  cases secondAlike with
  | same => exact .same _
  | zeros right right' =>
      cases first with
      | notANumber | infinity _ => exact .same _
      | zero _ | finite _ _ _ _ => exact .zeros _ _

theorem div (firstAlike : AreAlike first first') :
    AreAlike (UnpackedFloat.div Format.binary64 first second)
      (UnpackedFloat.div Format.binary64 first' second) := by
  cases firstAlike with
  | same => exact .same _
  | zeros left left' =>
      cases second with
      | notANumber | zero _ => exact .same _
      | infinity _ | finite _ _ _ _ => exact .zeros _ _

theorem compare_eq
    (firstAlike : AreAlike first first')
    (secondAlike : AreAlike second second') :
    first.compare second = first'.compare second' := by
  cases firstAlike with
  | same =>
      cases secondAlike with
      | same => rfl
      | zeros =>
          cases first with
          | notANumber | zero _ => rfl
          | infinity sign => cases sign <;> rfl
          | finite sign _ _ _ => cases sign <;> rfl
  | zeros =>
      cases secondAlike with
      | same =>
          cases second with
          | notANumber | zero _ => rfl
          | infinity sign => cases sign <;> rfl
          | finite sign _ _ _ => cases sign <;> rfl
      | zeros => rfl

theorem isFinite_eq (alike : AreAlike first first') : first.isFinite = first'.isFinite := by
  cases alike <;> rfl

theorem unpackedValue_eq (alike : AreAlike first first') :
    unpackedValue first = unpackedValue first' := by
  cases alike <;> rfl

end AreAlike

/-- Numbers that differ in the sign of a zero at most. -/
def IsAlike (first second : Float) : Prop :=
  AreAlike first.toModel.unpack second.toModel.unpack

theorem AreAlike.pack
    {first second : UnpackedFloat}
    (alike : AreAlike first second) :
    IsAlike (.ofModel (.pack first)) (.ofModel (.pack second)) := by
  cases alike with
  | same => exact .same _
  | zeros left right =>
      change AreAlike (Float.Model.pack (.zero left)).unpack (Float.Model.pack (.zero right)).unpack
      rw [(IsFiniteWith.zero left).unpack_pack, (IsFiniteWith.zero right).unpack_pack]
      exact .zeros left right

namespace IsAlike

theorem refl (number : Float) : IsAlike number number := .same _

variable {first first' second second' : Float}

theorem abs (alike : IsAlike first first') : IsAlike first.abs first'.abs :=
  AreAlike.pack (AreAlike.abs alike)

theorem add (firstAlike : IsAlike first first') (secondAlike : IsAlike second second') :
    IsAlike (first + second) (first' + second') :=
  AreAlike.pack (AreAlike.add firstAlike secondAlike)

theorem sub (firstAlike : IsAlike first first') (secondAlike : IsAlike second second') :
    IsAlike (first - second) (first' - second') :=
  AreAlike.pack (AreAlike.sub firstAlike secondAlike)

theorem mul_left (factor : Float) (alike : IsAlike second second') :
    IsAlike (factor * second) (factor * second') :=
  AreAlike.pack (AreAlike.mul alike)

theorem div_right (alike : IsAlike first first') (divisor : Float) :
    IsAlike (first / divisor) (first' / divisor) :=
  AreAlike.pack (AreAlike.div alike)

theorem isFinite_eq (alike : IsAlike first first') : first.isFinite = first'.isFinite :=
  AreAlike.isFinite_eq alike

theorem value_eq (alike : IsAlike first first') : value first = value first' :=
  AreAlike.unpackedValue_eq alike

theorem lt_iff (firstAlike : IsAlike first first') (secondAlike : IsAlike second second') :
    first < second ↔ first' < second' := by
  change decide ((first.toModel.unpack.compare second.toModel.unpack == some .lt) = true) =
    true ↔ decide ((first'.toModel.unpack.compare second'.toModel.unpack == some .lt) = true) = true
  rw [AreAlike.compare_eq firstAlike secondAlike]

theorem le_iff (firstAlike : IsAlike first first') (secondAlike : IsAlike second second') :
    first ≤ second ↔ first' ≤ second' := by
  change decide ((first.toModel.unpack.compare second.toModel.unpack).any (·.isLE) = true) =
    true ↔ decide ((first'.toModel.unpack.compare second'.toModel.unpack).any (·.isLE) = true) =
      true
  rw [AreAlike.compare_eq firstAlike secondAlike]

theorem beq_eq (firstAlike : IsAlike first first') (secondAlike : IsAlike second second') :
    (first == second) = (first' == second') := by
  change (first.toModel.unpack.compare second.toModel.unpack == some .eq) =
    (first'.toModel.unpack.compare second'.toModel.unpack == some .eq)
  rw [AreAlike.compare_eq firstAlike secondAlike]

end IsAlike

theorem IsFiniteWith.exists_zero
    {number : UnpackedFloat}
    {point : ℚ}
    (finite : IsFiniteWith number point)
    (vanishes : point = 0) :
    ∃ sign, number = .zero sign := by
  cases finite with
  | zero sign => exact ⟨sign, rfl⟩
  | @finite sign significand exponent positive canonical =>
      have apart : |signed sign (significand * 2 ^ exponent)| ≠ 0 := by
        rw [abs_signed, abs_of_pos (by positivity)]
        positivity
      exact absurd (abs_eq_zero.mpr vanishes) apart

/-- Finite numbers are alike when their values are equal. -/
theorem isAlike_of_value_eq
    {first second : Float}
    (firstFinite : first.isFinite = true)
    (secondFinite : second.isFinite = true)
    (same : value first = value second) :
    IsAlike first second := by
  rcases eq_or_ne (value second) 0 with vanishes | apart
  · obtain ⟨left, firstZero⟩ :=
      (isFiniteWith_unpack firstFinite).exists_zero (same.trans vanishes)
    obtain ⟨right, secondZero⟩ := (isFiniteWith_unpack secondFinite).exists_zero vanishes
    unfold IsAlike
    rw [firstZero, secondZero]
    exact .zeros left right
  · rw [eq_of_value_eq firstFinite secondFinite same apart]
    exact .refl second

/-- The products of a zero and finite numbers are zeros. -/
theorem isAlike_zero_mul
    {factor first second : Float}
    (factorFinite : factor.isFinite = true)
    (vanishes : value factor = 0)
    (firstFinite : first.isFinite = true)
    (secondFinite : second.isFinite = true) :
    IsAlike (factor * first) (factor * second) := by
  obtain ⟨sign, zero⟩ := (isFiniteWith_unpack factorFinite).exists_zero vanishes
  have zeroMul {number : UnpackedFloat} {point : ℚ} (finite : IsFiniteWith number point) :
      ∃ product, UnpackedFloat.mul Format.binary64 (.zero sign) number = .zero product := by
    cases finite <;> exact ⟨_, rfl⟩
  obtain ⟨left, firstProduct⟩ := zeroMul (isFiniteWith_unpack firstFinite)
  obtain ⟨right, secondProduct⟩ := zeroMul (isFiniteWith_unpack secondFinite)
  have alike := AreAlike.zeros left right
  rw [← firstProduct, ← secondProduct, ← zero] at alike
  exact alike.pack

end Binary64
end LatencyChart
