import LatencyChart.Proofs.Number.Drift
import LatencyChart.Proofs.Number.SumOrder
import Mathlib.Algebra.Order.BigOperators.Group.List

/-!
# Means

A mean is worked out by a running sum and one quotient.  It is off the exact mean by the drift of
these roundings.  In the order of numbers it lies between what the same loop makes of copies of the
least and of the greatest number, and where the multiples of these are numbers themselves, the loop
gives back the number that was copied.
-/

namespace LatencyChart
namespace Binary64

open Float.Model (Format UnpackedFloat)
open Float.Model.UnpackedFloat

/-! ## The drift of a mean -/

/-- The sum of numbers by their count, as the loop works it out. -/
def mean (values : List Float) : Float :=
  sum values / Float.ofNat values.length

/-- The number of a count is as near to it as to itself. -/
theorem abs_value_ofNat_sub_le
    {count : Nat}
    (positive : 0 < count)
    (short : count < 2 ^ 64) :
    |value (Float.ofNat count) - count| ≤ unitRoundoff * value (Float.ofNat count) := by
  obtain ⟨finite, valuePositive⟩ := value_ofNat_pos positive short
  have one : (1 : ℚ) ≤ |(count : ℚ)| := by
    rw [Nat.abs_cast]
    exact_mod_cast positive
  have normal : (2 : ℚ) ^ (-1022 : Int) ≤ |(count : ℚ)| :=
    (zpow_le_one_of_nonpos₀ one_le_two (by norm_num)).trans one
  obtain ⟨power, -, below, near⟩ :=
    ((roundsTo_ofNat count).isRounded.nearest finite).exists_power normal
  rw [abs_of_pos valuePositive] at below
  exact near.trans (mul_le_mul_of_nonneg_left below unitRoundoff_pos.le)

section Mean

variable
  {values : List Float}
  (nonempty : 0 < values.length)
  (short : values.length < 2 ^ 64)

include nonempty short

/-- A finite mean is off the exact one by the drift of its roundings, relative to the mean of the
magnitudes.  Next to zero the quotient may be off by half of the least positive number more. -/
theorem abs_value_mean_sub_le (finite : (mean values).isFinite = true) :
    |value (mean values) - exactSum values / values.length| ≤
      drift (values.length + 2) * (totalMagnitude values / values.length) + underflow := by
  obtain ⟨countFinite, countPositive⟩ := value_ofNat_pos nonempty short
  have lengthPositive : (0 : ℚ) < values.length := by exact_mod_cast nonempty
  have sumFinite := isFinite_of_div countFinite finite
  have drifted := (drifted_sum sumFinite).div countPositive lengthPositive
    (abs_value_ofNat_sub_le nonempty short)
  exact drifted.abs_sub_le_of_round
    ((isRounded_div sumFinite countFinite countPositive.ne').nearest finite).abs_sub_le

/-- The mean is finite as long as the magnitudes with the drift stay below overflow. -/
theorem isFinite_mean
    (finite : ∀ number ∈ values, number.isFinite = true)
    (below : (1 + drift values.length) * totalMagnitude values < overflowBound) :
    (mean values).isFinite = true := by
  obtain ⟨countFinite, countPositive⟩ := value_ofNat_pos nonempty short
  have sumFinite := isFinite_sum finite below
  have one : 1 ≤ value (Float.ofNat values.length) := by
    have counted := (roundsTo_ofNat values.length).isRounded.ge_of_ge countFinite isFinite_one
      (by rw [value_one]; exact_mod_cast nonempty)
    rwa [value_one] at counted
  refine (isRounded_div sumFinite countFinite countPositive.ne').finite_of_abs_le (sum values).abs
    (isFinite_abs sumFinite) ?_
  rw [value_abs sumFinite, abs_div, abs_of_pos countPositive]
  exact div_le_self (abs_nonneg _) one

omit short in
/-- The exact mean lies between the bounds of the values. -/
theorem exactMean_between
    {low high : ℚ}
    (between : ∀ number ∈ values, low ≤ value number ∧ value number ≤ high) :
    low ≤ exactSum values / values.length ∧ exactSum values / values.length ≤ high := by
  have lengthPositive : (0 : ℚ) < values.length := by exact_mod_cast nonempty
  have least := List.card_nsmul_le_sum (values.map value) low
    (by simpa using fun number member => (between number member).1)
  have greatest := List.sum_le_card_nsmul (values.map value) high
    (by simpa using fun number member => (between number member).2)
  rw [List.length_map, nsmul_eq_mul, mul_comm] at least greatest
  exact ⟨(le_div_iff₀ lengthPositive).mpr least, (div_le_iff₀ lengthPositive).mpr greatest⟩

end Mean

/-- The magnitudes of numbers are not more than their count times a bound. -/
theorem totalMagnitude_le
    {values : List Float}
    {bound : ℚ}
    (within : ∀ number ∈ values, |value number| ≤ bound) :
    totalMagnitude values ≤ values.length * bound := by
  have greatest := List.sum_le_card_nsmul (values.map fun number => |value number|) bound
    (by simpa using within)
  rwa [List.length_map, nsmul_eq_mul] at greatest

/-- What roundings one after the other may add to or take from a mean of such magnitudes. -/
def leeway (count : Nat) (magnitude : ℚ) : ℚ := drift count * magnitude + underflow

theorem leeway_nonneg
    (count : Nat)
    {magnitude : ℚ}
    (nonnegative : 0 ≤ magnitude) :
    0 ≤ leeway count magnitude :=
  add_nonneg (mul_nonneg (drift_nonneg count) nonnegative) underflow_pos.le

/-- A finite mean leaves the bounds of the values by the leeway of its roundings at most. -/
theorem value_mean_between
    {values : List Float}
    (nonempty : 0 < values.length)
    (short : values.length < 2 ^ 64)
    (finite : (mean values).isFinite = true)
    {low high bound : ℚ}
    (between : ∀ number ∈ values, low ≤ value number ∧ value number ≤ high)
    (within : ∀ number ∈ values, |value number| ≤ bound) :
    low - leeway (values.length + 2) bound ≤ value (mean values) ∧
      value (mean values) ≤ high + leeway (values.length + 2) bound := by
  have lengthPositive : (0 : ℚ) < values.length := by exact_mod_cast nonempty
  obtain ⟨above, below⟩ := exactMean_between nonempty between
  have near := abs_value_mean_sub_le nonempty short finite
  have magnitude : totalMagnitude values / values.length ≤ bound := by
    rw [div_le_iff₀ lengthPositive, mul_comm]
    exact totalMagnitude_le within
  have growth := drift_nonneg (values.length + 2)
  have reached : |value (mean values) - exactSum values / values.length| ≤
      leeway (values.length + 2) bound :=
    near.trans (add_le_add_left (mul_le_mul_of_nonneg_left magnitude growth) _)
  rw [abs_le] at reached
  constructor <;> linarith

/-! ## The order of means -/

/-- The mean of some copies of a number, as the loop works it out. -/
def meanOfCopies (count : Nat) (number : Float) : Float :=
  mean (List.replicate count number)

theorem mean_le_mean
    {lows highs : List Float}
    (ordered : List.Forall₂ (· ≤ ·) lows highs)
    (nonempty : 0 < lows.length)
    (short : lows.length < 2 ^ 64)
    (lowIsNumber : (sum lows).isNaN = false)
    (highIsNumber : (sum highs).isNaN = false) :
    mean lows ≤ mean highs := by
  obtain ⟨countFinite, countPositive⟩ := value_ofNat_pos nonempty short
  unfold mean
  rw [← ordered.length_eq]
  exact div_le_div_of_isNumber countFinite countPositive lowIsNumber highIsNumber
    (sum_le_sum ordered lowIsNumber highIsNumber)

theorem forall₂_replicate_left
    {values : List Float}
    {low : Float}
    (above : ∀ number ∈ values, low ≤ number) :
    List.Forall₂ (· ≤ ·) (List.replicate values.length low) values := by
  induction values with
  | nil => exact .nil
  | cons first rest inductionHypothesis =>
      rw [List.forall_mem_cons] at above
      exact .cons above.1 (inductionHypothesis above.2)

theorem forall₂_replicate_right
    {values : List Float}
    {high : Float}
    (below : ∀ number ∈ values, number ≤ high) :
    List.Forall₂ (· ≤ ·) values (List.replicate values.length high) := by
  induction values with
  | nil => exact .nil
  | cons first rest inductionHypothesis =>
      rw [List.forall_mem_cons] at below
      exact .cons below.1 (inductionHypothesis below.2)

/-- A running sum of copies of an infinity is that infinity from the first one on. -/
theorem isNaN_foldl_add_copies
    {number : Float}
    {sign : Sign}
    (unpacked : number.toModel.unpack = .infinity sign)
    (count : Nat)
    {start : Float}
    (reached : start.isFinite = true ∨ start.toModel.unpack = .infinity sign) :
    ((List.replicate count number).foldl (· + ·) start).isNaN = false := by
  induction count generalizing start with
  | zero =>
      rcases reached with finite | atInfinity
      · exact isNaN_eq_false_of_isFinite finite
      · change start.toModel.unpack.isNaN = false
        rw [atInfinity]
        rfl
  | succ count inductionHypothesis =>
      have stays : (start + number).toModel.unpack = .infinity sign := by
        rw [unpack_add, unpacked]
        rcases reached with finite | atInfinity
        · have startUnpacked := isFiniteWith_unpack finite
          generalize value start = point at startUnpacked
          generalize start.toModel.unpack = other at startUnpacked ⊢
          cases startUnpacked <;> rfl
        · rw [atInfinity]
          cases sign <;> rfl
      exact inductionHypothesis (Or.inr stays)

theorem isNaN_sum_copies
    {number : Float}
    (isNumber : number.isNaN = false)
    (count : Nat) :
    (sum (List.replicate count number)).isNaN = false := by
  by_cases finite : number.isFinite = true
  · apply isNaN_sum
    intro copy member
    rwa [List.eq_of_mem_replicate member]
  · obtain ⟨sign, unpacked⟩ := exists_infinity isNumber finite
    exact isNaN_foldl_add_copies unpacked count (Or.inl rfl)

section Order

variable
  {values : List Float}
  (nonempty : 0 < values.length)
  (short : values.length < 2 ^ 64)
  (sumIsNumber : (sum values).isNaN = false)
  {bound : Float}
  (isNumber : bound.isNaN = false)

include nonempty short sumIsNumber isNumber

/-- A mean is not below that of as many copies of a lower bound. -/
theorem meanOfCopies_le_mean (above : ∀ number ∈ values, bound ≤ number) :
    meanOfCopies values.length bound ≤ mean values :=
  mean_le_mean (forall₂_replicate_left above) (by rwa [List.length_replicate])
    (by rwa [List.length_replicate]) (isNaN_sum_copies isNumber _) sumIsNumber

/-- A mean is not above that of as many copies of an upper bound. -/
theorem mean_le_meanOfCopies (below : ∀ number ∈ values, number ≤ bound) :
    mean values ≤ meanOfCopies values.length bound :=
  mean_le_mean (forall₂_replicate_right below) nonempty short sumIsNumber
    (isNaN_sum_copies isNumber _)

end Order

/-! ## Exact multiples -/

/-- A rational for which there is a number. -/
def IsNumber (point : ℚ) : Prop :=
  ∃ number : Float, number.isFinite = true ∧ value number = point

theorem RoundsTo.value_eq
    {exact : ℚ}
    {number : Float}
    (rounds : RoundsTo exact number)
    (isNumber : IsNumber exact) :
    number.isFinite = true ∧ value number = exact := by
  obtain ⟨other, otherFinite, rfl⟩ := isNumber
  exact rounds.value_eq_of_isOnGrid (isOnGrid_value otherFinite)
    (abs_value_lt_overflowBound otherFinite)

/-- A count for which there is a number, and a number whose multiples up to the count are
numbers. -/
structure HasExactMultiples (count : Nat) (number : Float) : Prop where
  countIsNumber : IsNumber count
  multiples : ∀ multiple ≤ count, IsNumber (multiple * value number)

section Copies

variable
  {count : Nat}
  {number : Float}
  (finite : number.isFinite = true)
  (exact : HasExactMultiples count number)

include finite exact

theorem value_foldl_add_copies
    {copies added : Nat}
    (within : added + copies ≤ count)
    {start : Float}
    (startFinite : start.isFinite = true)
    (start_eq : value start = added * value number) :
    ((List.replicate copies number).foldl (· + ·) start).isFinite = true ∧
      value ((List.replicate copies number).foldl (· + ·) start) =
        (added + copies : Nat) * value number := by
  induction copies generalizing added start with
  | zero => exact ⟨startFinite, start_eq⟩
  | succ copies inductionHypothesis =>
      have rounds := roundsTo_add startFinite finite
      have next : value start + value number = (added + 1 : Nat) * value number := by
        rw [start_eq]
        push_cast
        ring
      rw [next] at rounds
      obtain ⟨nextFinite, next_eq⟩ := rounds.value_eq (exact.multiples _ (by omega))
      have later := inductionHypothesis (by omega : added + 1 + copies ≤ count) nextFinite next_eq
      rwa [Nat.add_right_comm] at later

/-- The mean of copies of a number with exact multiples is the number. -/
theorem value_meanOfCopies
    (positive : 0 < count)
    (short : count < 2 ^ 64) :
    (meanOfCopies count number).isFinite = true ∧
      value (meanOfCopies count number) = value number := by
  obtain ⟨sumFinite, sum_eq⟩ := value_foldl_add_copies finite exact (Nat.zero_add count).le
    (rfl : negativeZero.isFinite = true) (by rw [value_negativeZero, Nat.cast_zero, zero_mul])
  obtain ⟨countFinite, count_eq⟩ := (roundsTo_ofNat count).value_eq exact.countIsNumber
  have countPositive := (value_ofNat_pos positive short).2
  have rounds := roundsTo_div sumFinite countFinite countPositive.ne'
  rw [count_eq] at countPositive
  rw [sum_eq, count_eq, Nat.zero_add, mul_div_cancel_left₀ _ countPositive.ne'] at rounds
  unfold meanOfCopies mean sum
  rw [List.length_replicate]
  exact rounds.value_eq ⟨number, finite, rfl⟩

end Copies

end Binary64
end LatencyChart
