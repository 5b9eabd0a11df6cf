import LatencyChart.Proofs.Number.Arithmetic

/-!
# Overflow

An operation on finite numbers gives a finite number or an infinity, and never NaN.  Past the
middle between the greatest number and the next point of the grid the result is an infinity, and
below the middle it is finite.
-/

namespace LatencyChart
namespace Binary64

open Float.Model (Format UnpackedFloat totalExponent)
open Float.Model.UnpackedFloat

/-! ## Between two points of the grid -/

namespace IsNearest

variable {exact nearest low high : ℚ}

/-- Below the middle of two points, rounding does not reach the upper one. -/
theorem abs_lt_of_abs_lt_middle
    (isNearest : IsNearest exact nearest)
    (lowOnGrid : IsOnGrid low)
    (ordered : low < high)
    (within : |exact| < (low + high) / 2) :
    |nearest| < high := by
  rw [abs_lt] at within
  rw [abs_lt]
  constructor
  · have near := isNearest.near (-low) lowOnGrid.neg
    rw [abs_sub_comm] at near
    have reach := (le_abs_self (exact - nearest)).trans near
    rcases abs_cases (-low - exact) with ⟨size, -⟩ | ⟨size, -⟩ <;> linarith
  · have near := isNearest.near low lowOnGrid
    have reach := (le_abs_self (nearest - exact)).trans near
    rcases abs_cases (low - exact) with ⟨size, -⟩ | ⟨size, -⟩ <;> linarith

/-- What is rounded to the lower one of two points does not lie above their middle. -/
theorem abs_le_middle
    (isNearest : IsNearest exact nearest)
    (highOnGrid : IsOnGrid high)
    (ordered : low < high)
    (within : |nearest| ≤ low) :
    |exact| ≤ (low + high) / 2 := by
  rw [abs_le] at within
  rw [abs_le]
  constructor
  · have near := isNearest.near (-high) highOnGrid.neg
    have reach := (le_abs_self (nearest - exact)).trans near
    rcases abs_cases (-high - exact) with ⟨size, -⟩ | ⟨size, -⟩ <;> linarith
  · have near := isNearest.near high highOnGrid
    rw [abs_sub_comm] at near
    have reach := (le_abs_self (exact - nearest)).trans near
    rcases abs_cases (high - exact) with ⟨size, -⟩ | ⟨size, -⟩ <;> linarith

end IsNearest

/-! ## The bound of overflow -/

/-- The distance between the greatest numbers. -/
@[irreducible]
def topUnit : ℚ := 2 ^ (971 : Int)

theorem topUnit_pos : 0 < topUnit := by
  rw [topUnit]
  exact zpow_pos two_pos 971

/-- The middle between the greatest number and the next point of the grid. -/
def overflowBound : ℚ := (2 ^ 53 - 1 / 2) * topUnit

theorem isOnGrid_mul_topUnit
    {multiple : Nat}
    (short : multiple ≤ 2 ^ 53) :
    IsOnGrid (multiple * topUnit) := by
  refine ⟨multiple, 971, ?_, by norm_num, by rw [Int.cast_natCast, topUnit]⟩
  rw [Nat.abs_cast]
  exact_mod_cast short

/-- No finite number is greater than the greatest one. -/
theorem IsFiniteWith.abs_le_greatest
    {number : UnpackedFloat}
    {point : ℚ}
    (finite : IsFiniteWith number point) :
    |point| ≤ ((2 ^ 53 - 1 : Nat) : ℚ) * topUnit := by
  cases finite with
  | zero sign =>
      rw [abs_zero]
      exact mul_nonneg (Nat.cast_nonneg _) topUnit_pos.le
  | @finite sign significand exponent positive canonical =>
      rw [abs_signed, abs_of_pos (by positivity)]
      have short : (significand : ℚ) ≤ (2 ^ 53 - 1 : Nat) := by
        have bits := canonical.short
        exact_mod_cast (by omega : significand ≤ 2 ^ 53 - 1)
      have below : (2 : ℚ) ^ exponent ≤ topUnit := by
        rw [topUnit]
        exact zpow_le_zpow_right₀ one_le_two canonical.highest
      gcongr

theorem greatest_lt_next :
    ((2 ^ 53 - 1 : Nat) : ℚ) * topUnit < ((2 ^ 53 : Nat) : ℚ) * topUnit :=
  mul_lt_mul_of_pos_right (by norm_num) topUnit_pos

theorem overflowBound_eq_middle :
    overflowBound =
      (((2 ^ 53 - 1 : Nat) : ℚ) * topUnit + ((2 ^ 53 : Nat) : ℚ) * topUnit) / 2 := by
  unfold overflowBound
  push_cast
  ring

theorem abs_value_lt_overflowBound
    {number : Float}
    (finite : number.isFinite = true) :
    |value number| < overflowBound := by
  have greatest := (isFiniteWith_unpack finite).abs_le_greatest
  have middle := left_lt_add_div_two.mpr greatest_lt_next
  rw [← overflowBound_eq_middle] at middle
  exact greatest.trans_lt middle

/-- What is rounded to a finite number does not lie past the bound of overflow. -/
theorem IsRounded.abs_le_overflowBound
    {exact : ℚ}
    {number : Float}
    (isRounded : IsRounded exact number)
    (finite : number.isFinite = true) :
    |exact| ≤ overflowBound := by
  rw [overflowBound_eq_middle]
  exact (isRounded.nearest finite).abs_le_middle (isOnGrid_mul_topUnit le_rfl) greatest_lt_next
    (isFiniteWith_unpack finite).abs_le_greatest

/-! ## Results of operations -/

/-- A rational was rounded, and the number is what came of it.  Below the bound of overflow it is
finite, and where it is not finite it is an infinity. -/
structure RoundsTo (exact : ℚ) (number : Float) : Prop where
  isRounded : IsRounded exact number
  isFinite_of_abs_lt : |exact| < overflowBound → number.isFinite = true
  isNaN_eq_false : number.isNaN = false

/-- What can be told by a number is not rounded. -/
theorem RoundsTo.value_eq_of_isOnGrid
    {exact : ℚ}
    {number : Float}
    (rounds : RoundsTo exact number)
    (onGrid : IsOnGrid exact)
    (below : |exact| < overflowBound) :
    number.isFinite = true ∧ value number = exact := by
  have finite := rounds.isFinite_of_abs_lt below
  have nearest := rounds.isRounded.nearest finite
  exact ⟨finite, le_antisymm (nearest.le_of_le onGrid le_rfl) (nearest.ge_of_ge onGrid le_rfl)⟩

theorem isFinite_saturated_of_abs_lt
    {exact : ℚ}
    {rounded : UnpackedFloat}
    (rounding : IsRounding exact rounded)
    (below : |exact| < overflowBound) :
    (saturated rounded).isFinite = true := by
  rw [overflowBound_eq_middle] at below
  have reach := rounding.nearest.abs_lt_of_abs_lt_middle
    (isOnGrid_mul_topUnit (Nat.sub_le (2 ^ 53) 1)) greatest_lt_next below
  have finite := rounding.finite
  have reduced := rounding.reduced
  cases rounded with
  | notANumber => contradiction
  | infinity sign => contradiction
  | zero sign => rfl
  | finite sign significand exponent positive =>
      have low : ¬971 < exponent := by
        intro high
        obtain ⟨-, -, normal⟩ := reduced
        have long : (2 ^ 52 : ℚ) ≤ significand := by
          exact_mod_cast (by omega : 2 ^ 52 ≤ significand)
        have above : topUnit * 2 ≤ 2 ^ exponent := by
          rw [topUnit, ← zpow_add_one₀ two_ne_zero]
          exact zpow_le_zpow_right₀ one_le_two (by omega)
        rw [unpackedValue, abs_signed, abs_of_pos (by positivity)] at reach
        have far : 2 ^ 52 * (topUnit * 2) ≤ significand * 2 ^ exponent := by
          have unit := topUnit_pos
          gcongr
        push_cast at reach
        linarith
      simp only [saturated, if_neg low]
      rfl

theorem roundsTo_pack
    {exact : ℚ}
    {rounded : UnpackedFloat}
    (rounding : IsRounding exact rounded) :
    RoundsTo exact (.ofModel (.pack rounded)) := by
  have unpacked : (Float.ofModel (.pack rounded)).toModel.unpack = saturated rounded :=
    unpack_pack rounding.reduced
  refine ⟨isRounded_pack rounding, ?_, ?_⟩
  · intro below
    change (Float.ofModel (.pack rounded)).toModel.unpack.isFinite = true
    rw [unpacked]
    exact isFinite_saturated_of_abs_lt rounding below
  · change (Float.ofModel (.pack rounded)).toModel.unpack.isNaN = false
    rw [unpacked]
    have finite := rounding.finite
    cases rounded with
    | notANumber => contradiction
    | infinity sign => rfl
    | zero sign => rfl
    | finite sign significand exponent positive =>
        simp only [saturated]
        split <;> rfl

/-- A number is finite, an infinity or NaN. -/
theorem isInf_iff_of_not_isNaN
    {number : Float}
    (isNumber : number.isNaN = false) :
    number.isInf = true ↔ number.isFinite = false := by
  change number.toModel.unpack.isNaN = false at isNumber
  change number.toModel.unpack.isInf = true ↔ number.toModel.unpack.isFinite = false
  generalize number.toModel.unpack = unpacked at isNumber ⊢
  cases unpacked with
  | notANumber => contradiction
  | infinity sign => exact iff_of_true rfl rfl
  | zero sign => exact iff_of_false Bool.false_ne_true Bool.noConfusion
  | finite sign significand exponent positive =>
      exact iff_of_false Bool.false_ne_true Bool.noConfusion

theorem RoundsTo.isInf_iff
    {exact : ℚ}
    {number : Float}
    (rounds : RoundsTo exact number) :
    number.isInf = true ↔ number.isFinite = false :=
  isInf_iff_of_not_isNaN rounds.isNaN_eq_false

section Finite

variable
  {first second : Float}
  (firstFinite : first.isFinite = true)
  (secondFinite : second.isFinite = true)

include firstFinite secondFinite

theorem roundsTo_add : RoundsTo (value first + value second) (first + second) :=
  roundsTo_pack
    ((isFiniteWith_unpack firstFinite).isRounding_add (isFiniteWith_unpack secondFinite))

theorem roundsTo_sub : RoundsTo (value first - value second) (first - second) :=
  roundsTo_pack
    ((isFiniteWith_unpack firstFinite).isRounding_sub (isFiniteWith_unpack secondFinite))

theorem roundsTo_mul : RoundsTo (value first * value second) (first * second) :=
  roundsTo_pack
    ((isFiniteWith_unpack firstFinite).isRounding_mul (isFiniteWith_unpack secondFinite))

theorem roundsTo_div (apart : value second ≠ 0) :
    RoundsTo (value first / value second) (first / second) :=
  roundsTo_pack
    ((isFiniteWith_unpack firstFinite).isRounding_div (isFiniteWith_unpack secondFinite) apart)

end Finite

/-! ## Counts -/

theorem isOnGrid_natCast
    {count : Nat}
    (short : count ≤ 2 ^ 53) :
    IsOnGrid count := by
  refine ⟨count, 0, ?_, by norm_num, by rw [zpow_zero, mul_one, Int.cast_natCast]⟩
  rw [Nat.abs_cast]
  exact_mod_cast short

theorem natCast_lt_overflowBound
    {count : Nat}
    (short : count < 2 ^ 64) :
    |(count : ℚ)| < overflowBound := by
  have bits : (count : ℚ) < 2 ^ 64 := by exact_mod_cast short
  have unit : (2 : ℚ) ^ 12 ≤ topUnit := by
    rw [topUnit, ← zpow_natCast]
    exact zpow_le_zpow_right₀ one_le_two (by norm_num)
  rw [Nat.abs_cast, overflowBound]
  linarith

theorem roundsTo_toFloat (count : UInt64) : RoundsTo count.toNat count.toFloat := by
  have rounding := isRounding_normalize count.toNat 0 .positive
  rw [zpow_zero, mul_one, Int.cast_natCast] at rounding
  exact roundsTo_pack rounding

/-- A count of at most fifty-three bits is kept as it is. -/
theorem value_toFloat
    {count : UInt64}
    (short : count.toNat < 2 ^ 53) :
    count.toFloat.isFinite = true ∧ value count.toFloat = count.toNat := by
  have rounds := roundsTo_toFloat count
  have finite := rounds.isFinite_of_abs_lt (natCast_lt_overflowBound (short.trans (by decide)))
  have nearest := rounds.isRounded.nearest finite
  have onGrid := isOnGrid_natCast short.le
  exact ⟨finite, le_antisymm (nearest.le_of_le onGrid le_rfl) (nearest.ge_of_ge onGrid le_rfl)⟩

theorem isRounding_ofScientific
    {count : Nat}
    (long : 2 ^ 53 ≤ count) :
    IsRounding count (UnpackedFloat.ofScientific Format.binary64 count 0) := by
  have positive : 0 < count := by omega
  have same : ((count <<< 53 : Nat) : ℚ) * 2 ^ (-53 : Int) * ((1 : Nat) * 2 ^ (0 : Int)) =
      count := by
    have shifted := shiftLeft_mul_zpow count 53 0
    rw [zpow_zero, mul_one] at shifted
    rw [zpow_zero, Nat.cast_one, mul_one, mul_one]
    exact shifted
  have below : (-53 : Int) + (0 : Int) ≤
      max ((count <<< 53 * 1).log2 + (-53 + (0 : Int)) - 52) (-1074) := by
    have bits : 53 ≤ count.log2 := (Nat.le_log2 positive.ne').mpr long
    rw [mul_one, log2_shiftLeft positive]
    omega
  have lowest : ¬(0 : Int) < -(2 ^ Format.binary64.exponentBits + count.log2) := by
    have power : (0 : Int) ≤ 2 ^ Format.binary64.exponentBits := by positivity
    omega
  unfold UnpackedFloat.ofScientific
  rw [dif_neg positive.ne', if_neg (by decide), if_neg lowest, if_pos le_rfl]
  have rounding := isRounding_mulCore .positive below
  rw [same] at rounding
  exact rounding

/-- A count becomes the number that it is rounded to. -/
theorem roundsTo_ofNat (count : Nat) : RoundsTo count (Float.ofNat count) := by
  by_cases short : count < 2 ^ 53
  · have whole : count.toUInt64.toNat = count := Nat.mod_eq_of_lt (short.trans (by decide))
    have same : Float.ofNat count = count.toUInt64.toFloat * 1.0 := by
      change Float.ofScientific count false 0 = _
      unfold Float.ofScientific
      rw [dif_pos ⟨short, by omega⟩]
      rfl
    obtain ⟨finite, value_eq⟩ := value_toFloat (whole.trans_lt short)
    have rounds := roundsTo_mul finite isFinite_one
    rwa [value_one, mul_one, value_eq, whole, ← same] at rounds
  · have same : Float.ofNat count =
        .ofModel (.pack (UnpackedFloat.ofScientific Format.binary64 count 0)) := by
      change Float.ofScientific count false 0 = _
      unfold Float.ofScientific
      rw [dif_neg (fun both => short both.1)]
      rfl
    rw [same]
    exact roundsTo_pack (isRounding_ofScientific (not_lt.mp short))

end Binary64
end LatencyChart
