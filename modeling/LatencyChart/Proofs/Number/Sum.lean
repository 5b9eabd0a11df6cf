import LatencyChart.Series.Summary
import LatencyChart.Proofs.Number.Bits
import LatencyChart.Proofs.Number.Overflow

/-!
# Running sums

A running sum of finite numbers may become an infinity, but it does not become NaN, since no term
takes it back from there.  A running sum of numbers without a sign has no sign either, once it has
left the negative zero that it starts from.
-/

namespace LatencyChart
namespace Binary64

open Float.Model (Format UnpackedFloat)
open Float.Model.UnpackedFloat

/-! ## Numbers without a sign -/

/-- An unpacked number that is not NaN and has the positive sign. -/
inductive IsPlain : UnpackedFloat → Prop
  | infinity : IsPlain (.infinity .positive)
  | zero : IsPlain (.zero .positive)
  | finite {significand : Nat} {exponent : Int} (positive : 0 < significand) :
      IsPlain (.finite .positive significand exponent positive)

/-- A number that is not NaN and whose sign bit is clear. -/
structure IsUnsigned (number : Float) : Prop where
  isNaN_eq_false : number.isNaN = false
  isNegative_eq_false : isNegative number = false

namespace IsPlain

theorem saturated
    {number : UnpackedFloat}
    (plain : IsPlain number) :
    IsPlain (Binary64.saturated number) := by
  cases plain with
  | infinity => exact .infinity
  | zero => exact .zero
  | finite positive =>
      simp only [Binary64.saturated]
      split
      · exact .infinity
      · exact .finite positive

theorem roundWithAccuracy
    (magnitude : Nat)
    (exponent : Int)
    (accuracy : Accuracy) :
    IsPlain (UnpackedFloat.roundWithAccuracy Format.binary64 .positive magnitude exponent
      accuracy) := by
  simp only [UnpackedFloat.roundWithAccuracy]
  split
  · exact .zero
  · exact .finite _

theorem normalize
    {multiple : Int}
    (nonnegative : 0 ≤ multiple)
    (exponent : Int) :
    IsPlain (UnpackedFloat.normalize Format.binary64 multiple exponent .positive) := by
  unfold UnpackedFloat.normalize
  rcases nonnegative.lt_or_eq with above | rfl
  · rw [compare_gt_iff_gt.mpr above]
    exact roundWithAccuracy _ _ _
  · rw [compare_eq_iff_eq.mpr rfl]
    exact .zero

/-- A sum of numbers without a sign has no sign. -/
theorem add
    {first second : UnpackedFloat}
    (firstPlain : IsPlain first)
    (secondPlain : IsPlain second) :
    IsPlain (UnpackedFloat.add Format.binary64 first second) := by
  cases firstPlain with
  | infinity => cases secondPlain <;> exact .infinity
  | zero =>
      cases secondPlain with
      | infinity => exact .infinity
      | zero => exact .zero
      | finite positive => exact .finite positive
  | finite positive =>
      cases secondPlain with
      | infinity => exact .infinity
      | zero => exact .finite positive
      | finite secondPositive =>
          exact normalize (Int.add_nonneg (Int.natCast_nonneg _) (Int.natCast_nonneg _)) _

/-- A negative zero is lost in a sum. -/
theorem negativeZero_add
    {second : UnpackedFloat}
    (secondPlain : IsPlain second) :
    IsPlain (UnpackedFloat.add Format.binary64 (.zero .negative) second) := by
  cases secondPlain with
  | infinity => exact .infinity
  | zero => exact .zero
  | finite positive => exact .finite positive

theorem div_finite
    {first : UnpackedFloat}
    (firstPlain : IsPlain first)
    {significand : Nat}
    (exponent : Int)
    (positive : 0 < significand) :
    IsPlain (UnpackedFloat.div Format.binary64 first
      (.finite .positive significand exponent positive)) := by
  cases firstPlain with
  | infinity => exact .infinity
  | zero => exact .zero
  | finite firstPositive => exact roundWithAccuracy _ _ _

theorem abs
    {number : UnpackedFloat}
    (isNumber : number.isNaN = false) :
    IsPlain number.abs := by
  cases number with
  | notANumber => contradiction
  | infinity sign => exact .infinity
  | zero sign => exact .zero
  | finite sign significand exponent positive => exact .finite positive

end IsPlain

theorem unpackSign_eq_positive_iff (number : Float) :
    Sign.ofBitVec (@unpackSign Format.binary64 number.toBits.toBitVec) = .positive ↔
      isNegative number = false := by
  have field : (@unpackSign Format.binary64 number.toBits.toBitVec).toNat =
      number.toBits.toNat / 2 ^ 63 := by
    have bound := number.toBits.toNat_lt
    simp [unpackSign, Nat.shiftRight_eq_div_pow]
    omega
  have low : (@unpackSign Format.binary64 number.toBits.toBitVec) = 0#1 ↔
      isNegative number = false := by
    rw [← Bool.not_eq_true, isNegative_iff, ← BitVec.toNat_inj, field]
    change _ = 0 ↔ _
    omega
  rw [← low]
  unfold Sign.ofBitVec
  split_ifs with clear
  · exact iff_of_true rfl clear
  · exact iff_of_false not_false clear

theorem isPlain_ofFields_iff
    (sign : Sign)
    (field fraction : Nat) :
    IsPlain (ofFields sign field fraction) ↔
      (ofFields sign field fraction).isNaN = false ∧ sign = .positive := by
  constructor
  · intro plain
    unfold ofFields at plain ⊢
    split_ifs at plain ⊢ <;> cases plain <;> exact ⟨rfl, rfl⟩
  · rintro ⟨isNumber, rfl⟩
    unfold ofFields at isNumber ⊢
    split_ifs at isNumber ⊢
    · exact .infinity
    · contradiction
    · exact .finite _
    · exact .zero
    · exact .finite _

/-- A number is without a sign when what it unpacks to is. -/
theorem isUnsigned_iff (number : Float) :
    IsUnsigned number ↔ IsPlain number.toModel.unpack := by
  have opened : number.toModel.unpack = _ := unpack_eq_ofFields number.toBits.toBitVec
  rw [opened, isPlain_ofFields_iff, ← opened, unpackSign_eq_positive_iff]
  exact ⟨fun unsigned => ⟨unsigned.isNaN_eq_false, unsigned.isNegative_eq_false⟩,
    fun plain => ⟨plain.1, plain.2⟩⟩

/-! ## Packed operations -/

/-- Numbers that are not finite are packed as they are. -/
theorem isReduced_of_not_isFinite
    {number : UnpackedFloat}
    (notFinite : ¬number.isFinite = true) :
    IsReduced number := by
  cases number with
  | notANumber => trivial
  | infinity sign => trivial
  | zero sign => trivial
  | finite sign significand exponent positive => exact absurd rfl notFinite

namespace IsFiniteWith

variable
  {second : UnpackedFloat}
  {secondValue : ℚ}
  (secondFinite : IsFiniteWith second secondValue)
  (sign : Sign)

include secondFinite

theorem infinity_add :
    UnpackedFloat.add Format.binary64 (.infinity sign) second = .infinity sign := by
  cases secondFinite <;> rfl

theorem infinity_div :
    ∃ quotientSign,
      UnpackedFloat.div Format.binary64 (.infinity sign) second = .infinity quotientSign := by
  cases secondFinite with
  | zero secondSign => exact ⟨sign / secondSign, rfl⟩
  | finite secondSign positive canonical => exact ⟨sign / secondSign, rfl⟩

end IsFiniteWith

theorem unpack_add (first second : Float) :
    (first + second).toModel.unpack =
      saturated
        (UnpackedFloat.add Format.binary64 first.toModel.unpack second.toModel.unpack) := by
  apply unpack_pack
  by_cases finite : (UnpackedFloat.add Format.binary64 first.toModel.unpack
      second.toModel.unpack).isFinite = true
  · obtain ⟨firstFinite, secondFinite⟩ := unpacked_isFinite_of_add finite
    exact ((isFiniteWith_unpack firstFinite).isRounding_add
      (isFiniteWith_unpack secondFinite)).reduced
  · exact isReduced_of_not_isFinite finite

/-- Adding a finite number to a number does not give NaN. -/
theorem isNaN_add
    {first second : Float}
    (isNumber : first.isNaN = false)
    (secondFinite : second.isFinite = true) :
    (first + second).isNaN = false := by
  by_cases firstFinite : first.isFinite = true
  · exact (roundsTo_add firstFinite secondFinite).isNaN_eq_false
  · obtain ⟨sign, unpacked⟩ := exists_infinity isNumber firstFinite
    change (first + second).toModel.unpack.isNaN = false
    rw [unpack_add, unpacked, (isFiniteWith_unpack secondFinite).infinity_add]
    rfl

theorem unpack_div
    {first second : Float}
    (isNumber : first.isNaN = false)
    (secondFinite : second.isFinite = true)
    (apart : value second ≠ 0) :
    (first / second).toModel.unpack =
      saturated
        (UnpackedFloat.div Format.binary64 first.toModel.unpack second.toModel.unpack) := by
  apply unpack_pack
  have secondUnpacked := isFiniteWith_unpack secondFinite
  by_cases firstFinite : first.isFinite = true
  · exact ((isFiniteWith_unpack firstFinite).isRounding_div secondUnpacked apart).reduced
  · obtain ⟨sign, unpacked⟩ := exists_infinity isNumber firstFinite
    obtain ⟨quotientSign, quotient⟩ := secondUnpacked.infinity_div sign
    rw [unpacked, quotient]
    trivial

/-- Dividing a number by a finite number other than zero does not give NaN. -/
theorem isNaN_div
    {first second : Float}
    (isNumber : first.isNaN = false)
    (secondFinite : second.isFinite = true)
    (apart : value second ≠ 0) :
    (first / second).isNaN = false := by
  by_cases firstFinite : first.isFinite = true
  · exact (roundsTo_div firstFinite secondFinite apart).isNaN_eq_false
  · obtain ⟨sign, unpacked⟩ := exists_infinity isNumber firstFinite
    obtain ⟨quotientSign, quotient⟩ := (isFiniteWith_unpack secondFinite).infinity_div sign
    change (first / second).toModel.unpack.isNaN = false
    rw [unpack_div isNumber secondFinite apart, unpacked, quotient]
    rfl

namespace IsUnsigned

variable {first second : Float}

theorem add
    (firstUnsigned : IsUnsigned first)
    (secondUnsigned : IsUnsigned second) :
    IsUnsigned (first + second) := by
  rw [isUnsigned_iff] at firstUnsigned secondUnsigned ⊢
  rw [unpack_add]
  exact (firstUnsigned.add secondUnsigned).saturated

theorem negativeZero_add (unsigned : IsUnsigned second) :
    IsUnsigned (negativeZero + second) := by
  rw [isUnsigned_iff] at unsigned ⊢
  rw [unpack_add]
  exact unsigned.negativeZero_add.saturated

theorem div
    (firstUnsigned : IsUnsigned first)
    (secondFinite : second.isFinite = true)
    (positive : 0 < value second) :
    IsUnsigned (first / second) := by
  have isNumber := firstUnsigned.isNaN_eq_false
  rw [isUnsigned_iff] at firstUnsigned ⊢
  rw [unpack_div isNumber secondFinite positive.ne']
  have secondUnpacked := isFiniteWith_unpack secondFinite
  generalize value second = point at positive secondUnpacked
  generalize second.toModel.unpack = divisor at secondUnpacked ⊢
  cases secondUnpacked with
  | zero sign => exact absurd rfl positive.ne
  | finite sign significandPositive canonical =>
      cases sign with
      | positive => exact (firstUnsigned.div_finite _ significandPositive).saturated
      | negative =>
          rw [signed] at positive
          exact absurd positive (not_lt.mpr (neg_nonpos.mpr (by positivity)))

end IsUnsigned

/-- A magnitude is without a sign. -/
theorem isUnsigned_abs
    {number : Float}
    (isNumber : number.isNaN = false) :
    IsUnsigned number.abs := by
  have reduced : IsReduced number.toModel.unpack.abs := by
    by_cases finite : number.isFinite = true
    · exact (isFiniteWith_unpack finite).abs.isRounding.reduced
    · obtain ⟨sign, unpacked⟩ := exists_infinity isNumber finite
      rw [unpacked]
      trivial
  rw [isUnsigned_iff]
  change IsPlain (Float.Model.pack number.toModel.unpack.abs).unpack
  rw [unpack_pack reduced]
  exact (IsPlain.abs isNumber).saturated

/-! ## Sums -/

/-- A running sum of finite numbers does not become NaN. -/
theorem isNaN_foldl_add
    {values : List Float}
    (finite : ∀ value ∈ values, value.isFinite = true)
    {start : Float}
    (isNumber : start.isNaN = false) :
    (values.foldl (· + ·) start).isNaN = false := by
  induction values generalizing start with
  | nil => exact isNumber
  | cons value values inductionHypothesis =>
      rw [List.forall_mem_cons] at finite
      exact inductionHypothesis finite.2 (isNaN_add isNumber finite.1)

/-- The sum of finite numbers is not NaN. -/
theorem isNaN_sum
    {values : List Float}
    (finite : ∀ value ∈ values, value.isFinite = true) :
    (sum values).isNaN = false :=
  isNaN_foldl_add finite rfl

/-- A running sum stays without a sign. -/
theorem IsUnsigned.foldl_add
    {values : List Float}
    (unsigned : ∀ value ∈ values, IsUnsigned value)
    {start : Float}
    (startUnsigned : IsUnsigned start) :
    IsUnsigned (values.foldl (· + ·) start) := by
  induction values generalizing start with
  | nil => exact startUnsigned
  | cons value values inductionHypothesis =>
      rw [List.forall_mem_cons] at unsigned
      exact inductionHypothesis unsigned.2 (startUnsigned.add unsigned.1)

/-- The sum of some numbers without a sign has no sign.  Its first term takes the sign from the
zero that it starts from. -/
theorem isUnsigned_sum
    {values : List Float}
    (nonempty : values ≠ [])
    (unsigned : ∀ value ∈ values, IsUnsigned value) :
    IsUnsigned (sum values) := by
  cases values with
  | nil => contradiction
  | cons first rest =>
      rw [List.forall_mem_cons] at unsigned
      exact IsUnsigned.foldl_add unsigned.2 unsigned.1.negativeZero_add

theorem isUnsigned_of_mem_changes
    {values : List Float}
    (finite : ∀ value ∈ values, value.isFinite = true)
    {change : Float}
    (member : change ∈ changes values) :
    IsUnsigned change := by
  unfold changes at member
  obtain ⟨index, bound, rfl⟩ := List.mem_iff_getElem.mp member
  have earlierMember := List.getElem_mem (List.lt_length_left_of_zipWith bound)
  have laterMember := List.getElem_mem (List.lt_length_right_of_zipWith bound)
  rw [List.getElem_zipWith]
  exact isUnsigned_abs (roundsTo_sub (finite _ (List.mem_of_mem_tail laterMember))
    (finite _ earlierMember)).isNaN_eq_false

/-- A positive count becomes a positive number. -/
theorem value_ofNat_pos
    {count : Nat}
    (positive : 0 < count)
    (short : count < 2 ^ 64) :
    (Float.ofNat count).isFinite = true ∧ 0 < value (Float.ofNat count) := by
  have rounds := roundsTo_ofNat count
  have finite := rounds.isFinite_of_abs_lt (natCast_lt_overflowBound short)
  have one : (1 : ℚ) ≤ count := by exact_mod_cast positive
  have above := rounds.isRounded.ge_of_ge finite isFinite_one (value_one.trans_le one)
  rw [value_one] at above
  exact ⟨finite, one_pos.trans_le above⟩

/-- The mean of finite numbers is not NaN. -/
theorem isNaN_mean
    {values : List Float}
    (finite : ∀ value ∈ values, value.isFinite = true)
    (nonempty : 0 < values.length)
    (short : values.length < 2 ^ 64) :
    (sum values / Float.ofNat values.length).isNaN = false := by
  obtain ⟨countFinite, countPositive⟩ := value_ofNat_pos nonempty short
  exact isNaN_div (isNaN_sum finite) countFinite countPositive.ne'

/-- The jitter of finite numbers is not NaN, and it has no sign. -/
theorem isUnsigned_jitter
    {values : List Float}
    (finite : ∀ value ∈ values, value.isFinite = true)
    (short : values.length < 2 ^ 64) :
    IsUnsigned (jitter values) := by
  unfold jitter
  split_ifs with few
  · exact ⟨rfl, rfl⟩
  · have length_eq : (changes values).length = values.length - 1 := by
      rw [changes, List.length_zipWith, List.length_tail]
      omega
    have nonempty : changes values ≠ [] := by
      rw [← List.length_pos_iff]
      omega
    obtain ⟨countFinite, countPositive⟩ :=
      value_ofNat_pos (by omega : 0 < values.length - 1) (by omega)
    have sumUnsigned := isUnsigned_sum nonempty fun change => isUnsigned_of_mem_changes finite
    exact sumUnsigned.div countFinite countPositive

end Binary64
end LatencyChart
