import LatencyChart.Proofs.Chart.Span
import LatencyChart.Proofs.Number.Monotone
import LatencyChart.Proofs.Number.Whole

/-!
# Positions and pixels

The numbers that a span holds have positions from zero to one, and the greater number has no lower
position: each operation on the way rounds, and rounding turns no two numbers round.  The pixel of
a number is counted from the first pixel of the span on.  A thousandth is added before the count is
cut to a whole one, and this does not push it past the last pixel, since half a pixel more can
still be told apart.
-/

namespace LatencyChart
namespace Binary64

/-- A finite number from zero to one. -/
structure IsPortion (number : Float) : Prop where
  isFinite : number.isFinite = true
  nonneg : 0 ≤ value number
  le_one : value number ≤ 1

namespace IsPortion

variable
  {portion factor : Float}
  (isPortion : IsPortion portion)
  (factorFinite : factor.isFinite = true)

include isPortion factorFinite

/-- A portion of a finite number is finite. -/
theorem isFinite_mul : (factor * portion).isFinite = true := by
  refine (roundsTo_mul factorFinite isPortion.isFinite).isRounded.finite_of_abs_le factor.abs
    (isFinite_abs factorFinite) ?_
  rw [value_abs factorFinite, abs_mul, abs_of_nonneg isPortion.nonneg]
  exact mul_le_of_le_one_right (abs_nonneg _) isPortion.le_one

/-- A portion of a number lies between zero and the number. -/
theorem value_mul_between (nonnegative : 0 ≤ value factor) :
    0 ≤ value (factor * portion) ∧ value (factor * portion) ≤ value factor := by
  have nearest := (roundsTo_mul factorFinite isPortion.isFinite).isRounded.nearest
    (isPortion.isFinite_mul factorFinite)
  exact ⟨nearest.ge_of_ge isOnGrid_zero (mul_nonneg nonnegative isPortion.nonneg),
    nearest.le_of_le (isOnGrid_value factorFinite)
      (mul_le_of_le_one_right nonnegative isPortion.le_one)⟩

theorem value_mul_between_of_nonpos (nonpositive : value factor ≤ 0) :
    value factor ≤ value (factor * portion) ∧ value (factor * portion) ≤ 0 := by
  have nearest := (roundsTo_mul factorFinite isPortion.isFinite).isRounded.nearest
    (isPortion.isFinite_mul factorFinite)
  refine ⟨nearest.ge_of_ge (isOnGrid_value factorFinite) ?_,
    nearest.le_of_le isOnGrid_zero
      (mul_nonpos_of_nonpos_of_nonneg nonpositive isPortion.nonneg)⟩
  have portionBound := isPortion.le_one
  nlinarith

end IsPortion

/-! ## A thousandth of a pixel -/

theorem isFinite_thousandth : (0.001 : Float).isFinite = true := by
  decide +kernel

theorem value_thousandth : 0 ≤ value 0.001 ∧ value 0.001 ≤ 1 / 2 := by
  have halfFinite : (0.5 : Float).isFinite = true := rfl
  have half : value 0.5 = 1 / 2 := by
    change signed .positive (((2 ^ 52 : Nat) : ℚ) * 2 ^ (-53 : Int)) = 1 / 2
    norm_num [signed]
  have above : (0.0 : Float) ≤ 0.001 := by decide +kernel
  have below : (0.001 : Float) ≤ 0.5 := by decide +kernel
  rw [le_iff_value_le isFinite_zero isFinite_thousandth, value_zero] at above
  rw [le_iff_value_le isFinite_thousandth halfFinite, half] at below
  exact ⟨above, below⟩

/-- Counts of pixels do not overflow, with some room left. -/
theorem two_pow_lt_overflowBound : 2 ^ 65 < overflowBound := by
  have unit : (2 : ℚ) ^ 13 ≤ topUnit := by
    rw [topUnit, ← zpow_natCast]
    exact zpow_le_zpow_right₀ one_le_two (by norm_num)
  rw [overflowBound]
  linarith

theorem isOnGrid_add_half
    {whole : Int}
    (short : |whole| < 2 ^ 32) :
    IsOnGrid (whole + 1 / 2) := by
  rw [abs_lt] at short
  refine ⟨2 * whole + 1, -1, ?_, by norm_num, ?_⟩
  · rw [abs_le]
    constructor <;> omega
  · push_cast
    norm_num
    ring

end Binary64

namespace Span

open Binary64

/-! ## Positions -/

/-- A finite number that lies in a span. -/
structure Holds (span : Span) (number : Float) : Prop where
  isFinite : number.isFinite = true
  low_le : value span.low ≤ value number
  le_high : value number ≤ value span.high

theorem Shows.holds
    {span : Span}
    {values : List Float}
    (shows : span.Shows values)
    {number : Float}
    (finite : number.isFinite = true)
    (member : number ∈ values) :
    span.Holds number := by
  have inside := shows.contains number member
  rw [between_iff_value shows.proper.lowFinite shows.proper.highFinite finite] at inside
  exact ⟨finite, inside.1, inside.2⟩

/-- The span that is fitted to finite numbers shows them. -/
theorem shows_of_fit?
    {values : List Float}
    {span : Span}
    (nonempty : values ≠ [])
    (finite : ∀ value ∈ values, value.isFinite = true)
    (fitted : fit? values = .ok span) :
    span.Shows values := by
  obtain ⟨min, max, found, extremes⟩ := exists_extremes nonempty finite
  unfold fit? at fitted
  rw [found] at fitted
  obtain ⟨proper, below, above, -⟩ :=
    ofBounds?_eq_ok (finite _ extremes.least.mem) (finite _ extremes.greatest.mem)
      (extremes.between extremes.greatest.mem).1 fitted
  refine ⟨proper, ?_⟩
  intro number member
  obtain ⟨leastLe, leGreatest⟩ := extremes.between member
  exact (between_iff_value proper.lowFinite proper.highFinite (finite number member)).mpr
    ⟨below.trans leastLe, leGreatest.trans above⟩

namespace IsProper

variable {span : Span} (proper : span.IsProper)

include proper

theorem value_width_pos : 0 < value (span.high - span.low) := by
  have positive := proper.widthPositive
  rwa [lt_iff_value_lt isFinite_zero proper.widthFinite, value_zero] at positive

/-- A number in a span is not farther above the low end than the span is wide. -/
theorem offset_between
    {number : Float}
    (holds : span.Holds number) :
    (number - span.low).isFinite = true ∧ 0 ≤ value (number - span.low) ∧
      value (number - span.low) ≤ value (span.high - span.low) := by
  have above : 0 ≤ value number - value span.low := sub_nonneg.mpr holds.low_le
  have rounds := roundsTo_sub holds.isFinite proper.lowFinite
  have offsetFinite : (number - span.low).isFinite = true := by
    rcases holds.le_high.lt_or_eq with inside | atHigh
    · have widthBound := (roundsTo_sub proper.highFinite proper.lowFinite).isRounded
        |>.abs_le_overflowBound proper.widthFinite
      apply rounds.isFinite_of_abs_lt
      rw [abs_of_nonneg (by linarith)] at widthBound ⊢
      linarith
    · rw [((isAlike_of_value_eq holds.isFinite proper.highFinite atHigh).sub
        (.refl span.low)).isFinite_eq]
      exact proper.widthFinite
  refine ⟨offsetFinite, (rounds.isRounded.nearest offsetFinite).ge_of_ge isOnGrid_zero above, ?_⟩
  rw [← le_iff_value_le offsetFinite proper.widthFinite]
  exact sub_le_sub_of_finite holds.isFinite proper.highFinite proper.lowFinite proper.lowFinite
    holds.le_high le_rfl

/-- The position of a number in a span is a portion of it. -/
theorem isPortion_position
    {number : Float}
    (holds : span.Holds number) :
    IsPortion (span.position number) := by
  have positive := proper.value_width_pos
  obtain ⟨offsetFinite, above, below⟩ := proper.offset_between holds
  have isRounded := isRounded_div offsetFinite proper.widthFinite positive.ne'
  have quotientAbove := div_nonneg above positive.le
  have quotientBelow := div_le_one_of_le₀ below positive.le
  have finite : (span.position number).isFinite = true := by
    refine isRounded.finite_of_abs_le 1.0 isFinite_one ?_
    rwa [value_one, abs_of_nonneg quotientAbove]
  have one : IsOnGrid 1 := value_one ▸ isOnGrid_value isFinite_one
  exact ⟨finite, (isRounded.nearest finite).ge_of_ge isOnGrid_zero quotientAbove,
    (isRounded.nearest finite).le_of_le one quotientBelow⟩

/-- The greater number has no lower position. -/
theorem position_le_position
    {first second : Float}
    (firstHolds : span.Holds first)
    (secondHolds : span.Holds second)
    (ordered : value first ≤ value second) :
    span.position first ≤ span.position second := by
  have offsets : first - span.low ≤ second - span.low :=
    sub_le_sub_of_finite firstHolds.isFinite secondHolds.isFinite proper.lowFinite
      proper.lowFinite ordered le_rfl
  obtain ⟨firstFinite, -, -⟩ := proper.offset_between firstHolds
  obtain ⟨secondFinite, -, -⟩ := proper.offset_between secondHolds
  rw [le_iff_value_le firstFinite secondFinite] at offsets
  exact div_le_div_of_finite firstFinite secondFinite proper.widthFinite offsets
    proper.value_width_pos

end IsProper

/-! ## Pixels -/

/-- The count of pixels to a portion of a positive length. -/
def stepsUp (length : Int) (portion : Float) : Int :=
  toInt32 (floor (ofInt length * portion + 0.001))

/-- The count of pixels to a portion of a negative length. -/
def stepsDown (length : Int) (portion : Float) : Int :=
  toInt32 (ceil (ofInt length * portion - 0.001))

theorem isInf_eq_false_of_isFinite
    {number : Float}
    (finite : number.isFinite = true) :
    number.isInf = false := by
  rw [← Bool.not_eq_true, isInf_iff_of_not_isNaN (isNaN_eq_false_of_isFinite finite), finite]
  exact Bool.true_eq_false_eq_False

theorem toPixel_eq
    (span : Span)
    {number : Float}
    (finite : (span.position number).isFinite = true)
    (first last : Int) :
    span.toPixel first last number =
      if last = first then last
      else if first < last then first + stepsUp (last - first) (span.position number)
      else first + stepsDown (last - first) (span.position number) := by
  unfold toPixel
  simp only [sub_eq_zero, sub_pos, isInf_eq_false_of_isFinite finite, Bool.false_eq_true, if_false]
  rfl

section Steps

variable {portion : Float} (isPortion : IsPortion portion) {length : Int}

include isPortion

/-- Where a portion of a positive length is cut to a whole count of pixels. -/
theorem stepsUp_spec (positive : 0 < length) :
    (ofInt length * portion + 0.001).isFinite = true ∧
      0 ≤ value (ofInt length * portion + 0.001) ∧
      (length < 2 ^ 31 → value (ofInt length * portion + 0.001) ≤ length + 1 / 2) := by
  obtain ⟨factorFinite, nonnegative, highest, exactly⟩ := value_ofInt_of_nonneg positive.le
  obtain ⟨above, below⟩ := isPortion.value_mul_between factorFinite nonnegative
  obtain ⟨nudgeAbove, nudgeBelow⟩ := value_thousandth
  have rounds := roundsTo_add (isPortion.isFinite_mul factorFinite) isFinite_thousandth
  have finite := rounds.isFinite_of_abs_lt (by
    rw [abs_of_nonneg (add_nonneg above nudgeAbove)]
    have bound := two_pow_lt_overflowBound
    linarith)
  have nearest := rounds.isRounded.nearest finite
  refine ⟨finite, nearest.ge_of_ge isOnGrid_zero (add_nonneg above nudgeAbove), ?_⟩
  intro short
  rw [exactly (by omega)] at below
  exact nearest.le_of_le (isOnGrid_add_half (by rw [abs_lt]; constructor <;> omega))
    (by linarith)

/-- The pixels to a portion of a positive length are not more than the length. -/
theorem stepsUp_between (positive : 0 < length) :
    0 ≤ stepsUp length portion ∧ stepsUp length portion ≤ length := by
  obtain ⟨finite, above, below⟩ := stepsUp_spec isPortion positive
  have floorNonneg := Int.floor_nonneg.mpr above
  rw [stepsUp, toInt32_floor finite]
  rcases Int.lt_or_le length (2 ^ 31) with short | long
  · have floorBound : ⌊value (ofInt length * portion + 0.001)⌋ < length + 1 := by
      rw [Int.floor_lt]
      push_cast
      linarith [below short]
    omega
  · omega

theorem stepsUp_mono
    (positive : 0 < length)
    {other : Float}
    (otherIsPortion : IsPortion other)
    (ordered : value portion ≤ value other) :
    stepsUp length portion ≤ stepsUp length other := by
  obtain ⟨finite, -, -⟩ := stepsUp_spec isPortion positive
  obtain ⟨otherFinite, -, -⟩ := stepsUp_spec otherIsPortion positive
  obtain ⟨factorFinite, nonnegative, -, -⟩ := value_ofInt_of_nonneg positive.le
  have productFinite := isPortion.isFinite_mul factorFinite
  have otherProductFinite := otherIsPortion.isFinite_mul factorFinite
  have products := mul_le_mul_of_finite isPortion.isFinite otherIsPortion.isFinite factorFinite
    ordered nonnegative
  rw [le_iff_value_le productFinite otherProductFinite] at products
  have sums := add_le_add_of_finite productFinite otherProductFinite isFinite_thousandth
    isFinite_thousandth products le_rfl
  rw [le_iff_value_le finite otherFinite] at sums
  have floors := Int.floor_le_floor sums
  rw [stepsUp, stepsUp, toInt32_floor finite, toInt32_floor otherFinite]
  omega

theorem stepsDown_spec (negative : length < 0) :
    (ofInt length * portion - 0.001).isFinite = true ∧
      value (ofInt length * portion - 0.001) ≤ 0 ∧
      (-2 ^ 31 < length → length - 1 / 2 ≤ value (ofInt length * portion - 0.001)) := by
  obtain ⟨factorFinite, negated⟩ := value_ofInt_of_neg negative
  obtain ⟨-, nonnegative, highest, exactly⟩ :=
    value_ofInt_of_nonneg (by omega : 0 ≤ -length)
  obtain ⟨above, below⟩ := isPortion.value_mul_between_of_nonpos factorFinite
    (by rw [negated]; exact neg_nonpos.mpr nonnegative)
  obtain ⟨nudgeAbove, nudgeBelow⟩ := value_thousandth
  have rounds := roundsTo_sub (isPortion.isFinite_mul factorFinite) isFinite_thousandth
  have finite := rounds.isFinite_of_abs_lt (by
    rw [abs_of_nonpos (by linarith)]
    have bound := two_pow_lt_overflowBound
    linarith)
  have nearest := rounds.isRounded.nearest finite
  refine ⟨finite, nearest.le_of_le isOnGrid_zero (by linarith), ?_⟩
  intro short
  rw [negated, exactly (by omega)] at above
  push_cast at above
  have onGrid : IsOnGrid (((-length : Int) : ℚ) + 1 / 2) :=
    isOnGrid_add_half (by rw [abs_lt]; constructor <;> omega)
  have reached := nearest.ge_of_ge onGrid.neg (by push_cast; linarith)
  push_cast at reached
  linarith

theorem stepsDown_between (negative : length < 0) :
    length ≤ stepsDown length portion ∧ stepsDown length portion ≤ 0 := by
  obtain ⟨finite, below, above⟩ := stepsDown_spec isPortion negative
  have ceilNonpos : ⌈value (ofInt length * portion - 0.001)⌉ ≤ 0 :=
    Int.ceil_le.mpr (by exact_mod_cast below)
  rw [stepsDown, toInt32_ceil finite]
  rcases Int.lt_or_le (-2 ^ 31) length with short | long
  · have ceilBound : length - 1 < ⌈value (ofInt length * portion - 0.001)⌉ := by
      rw [Int.lt_ceil]
      push_cast
      linarith [above short]
    omega
  · omega

theorem stepsDown_anti
    (negative : length < 0)
    {other : Float}
    (otherIsPortion : IsPortion other)
    (ordered : value portion ≤ value other) :
    stepsDown length other ≤ stepsDown length portion := by
  obtain ⟨finite, -, -⟩ := stepsDown_spec isPortion negative
  obtain ⟨otherFinite, -, -⟩ := stepsDown_spec otherIsPortion negative
  obtain ⟨factorFinite, negated⟩ := value_ofInt_of_neg negative
  obtain ⟨-, nonnegative, -, -⟩ := value_ofInt_of_nonneg (by omega : 0 ≤ -length)
  have productFinite := isPortion.isFinite_mul factorFinite
  have otherProductFinite := otherIsPortion.isFinite_mul factorFinite
  have products := mul_le_mul_of_finite_of_nonpos isPortion.isFinite otherIsPortion.isFinite
    factorFinite ordered (by rw [negated]; exact neg_nonpos.mpr nonnegative)
  rw [le_iff_value_le otherProductFinite productFinite] at products
  have differences := sub_le_sub_of_finite otherProductFinite productFinite isFinite_thousandth
    isFinite_thousandth products le_rfl
  rw [le_iff_value_le otherFinite finite] at differences
  have ceils := Int.ceil_le_ceil differences
  rw [stepsDown, stepsDown, toInt32_ceil finite, toInt32_ceil otherFinite]
  omega

end Steps

namespace IsProper

variable {span : Span} (proper : span.IsProper)

include proper

/-- The pixel of a number in a span lies between the first pixel and the last. -/
theorem toPixel_between
    {number : Float}
    (holds : span.Holds number)
    (first last : Int) :
    min first last ≤ span.toPixel first last number ∧
      span.toPixel first last number ≤ max first last := by
  have isPortion := proper.isPortion_position holds
  rw [toPixel_eq span isPortion.isFinite]
  split_ifs with alone up
  · omega
  · have steps := stepsUp_between isPortion (by omega : 0 < last - first)
    omega
  · have steps := stepsDown_between isPortion (by omega : last - first < 0)
    omega

/-- On an axis that runs up, the greater number has no lower pixel, and on one that runs down no
higher one. -/
theorem toPixel_ordered
    {low high : Float}
    (lowHolds : span.Holds low)
    (highHolds : span.Holds high)
    (ordered : value low ≤ value high)
    (first last : Int) :
    (first ≤ last → span.toPixel first last low ≤ span.toPixel first last high) ∧
      (last ≤ first → span.toPixel first last high ≤ span.toPixel first last low) := by
  have lowIsPortion := proper.isPortion_position lowHolds
  have highIsPortion := proper.isPortion_position highHolds
  have positions := proper.position_le_position lowHolds highHolds ordered
  rw [le_iff_value_le lowIsPortion.isFinite highIsPortion.isFinite] at positions
  rw [toPixel_eq span lowIsPortion.isFinite, toPixel_eq span highIsPortion.isFinite]
  split_ifs with alone up
  · exact ⟨fun _ => le_rfl, fun _ => le_rfl⟩
  · have steps := stepsUp_mono lowIsPortion (by omega : 0 < last - first) highIsPortion positions
    omega
  · have steps := stepsDown_anti lowIsPortion (by omega : last - first < 0) highIsPortion positions
    omega

end IsProper
end Span
end LatencyChart
