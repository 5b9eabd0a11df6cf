import LatencyChart.Proofs.Number.Sum
import Mathlib.Algebra.Order.Archimedean.Basic
import Mathlib.Algebra.Order.Round
import Mathlib.Tactic.Positivity.Finset

/-!
# How far sums drift

One rounding moves a rational by a small part of its magnitude, and near zero by half of the least
positive number at most.  A sum of numbers is a multiple of the least positive number, so it is
moved by the relative part alone.  Over a running sum the parts grow as powers do, and they are
taken of the magnitudes of all terms.
-/

namespace LatencyChart

/-- Some whole number is not farther than a half away. -/
theorem exists_intCast_near (point : ℚ) : ∃ whole : Int, |point - whole| ≤ 1 / 2 :=
  ⟨round point, abs_sub_round point⟩

namespace Binary64

/-! ## One rounding -/

/-- The greatest relative error of one rounding. -/
def unitRoundoff : ℚ := 2 ^ (-53 : Int)

/-- The greatest error of one rounding next to zero, half of the least positive number. -/
def underflow : ℚ := 2 ^ (-1075 : Int)

theorem unitRoundoff_pos : 0 < unitRoundoff := zpow_pos two_pos _

theorem underflow_pos : 0 < underflow := zpow_pos two_pos _

theorem two_pow_mul_zpow (count : Nat) (exponent : Int) :
    (2 : ℚ) ^ count * 2 ^ exponent = 2 ^ (count + exponent) := by
  rw [zpow_add₀ two_ne_zero, zpow_natCast]

theorem two_zpow_div_two (exponent : Int) : (2 : ℚ) ^ exponent / 2 = 2 ^ (exponent - 1) := by
  rw [zpow_sub_one₀ two_ne_zero, div_eq_mul_inv]

/-- The grid has a point within half a unit of every rational that the unit is not too fine for. -/
theorem exists_isOnGrid_near
    {exact : ℚ}
    {exponent : Int}
    (lowest : -1074 ≤ exponent)
    (within : |exact| ≤ 2 ^ 53 * 2 ^ exponent) :
    ∃ point, IsOnGrid point ∧ |point - exact| ≤ 2 ^ exponent / 2 := by
  have unit : (0 : ℚ) < 2 ^ exponent := by positivity
  have scaled : |exact / 2 ^ exponent| ≤ 2 ^ 53 := by
    rwa [abs_div, abs_of_pos unit, div_le_iff₀ unit]
  obtain ⟨multiple, half⟩ := exists_intCast_near (exact / 2 ^ exponent)
  refine ⟨multiple * 2 ^ exponent, ⟨multiple, exponent, ?_, lowest, rfl⟩, ?_⟩
  · rw [abs_le] at scaled half
    have above : -(2 ^ 53 + 1) < multiple := by
      exact_mod_cast (by linarith : (-(2 ^ 53 + 1) : ℚ) < multiple)
    have below : multiple < 2 ^ 53 + 1 := by
      exact_mod_cast (by linarith : (multiple : ℚ) < 2 ^ 53 + 1)
    rw [abs_le]
    constructor <;> omega
  · have unscaled : multiple * 2 ^ exponent - exact =
        -((exact / 2 ^ exponent - multiple) * 2 ^ exponent) := by
      rw [sub_mul, div_mul_cancel₀ _ unit.ne', neg_sub]
    rw [unscaled, abs_neg, abs_mul, abs_of_pos unit]
    calc |exact / 2 ^ exponent - multiple| * 2 ^ exponent
        ≤ 1 / 2 * 2 ^ exponent := by gcongr
      _ = 2 ^ exponent / 2 := by ring

namespace IsNearest

variable {exact nearest : ℚ} (isNearest : IsNearest exact nearest)

include isNearest

theorem abs_sub_le_half
    {exponent : Int}
    (lowest : -1074 ≤ exponent)
    (within : |exact| ≤ 2 ^ 53 * 2 ^ exponent) :
    |nearest - exact| ≤ 2 ^ exponent / 2 := by
  obtain ⟨point, onGrid, near⟩ := exists_isOnGrid_near lowest within
  exact (isNearest.near point onGrid).trans near

theorem le_abs_of_le_abs
    {point : ℚ}
    (onGrid : IsOnGrid point)
    (within : point ≤ |exact|) :
    point ≤ |nearest| := by
  rcases le_abs.mp within with above | below
  · exact (isNearest.ge_of_ge onGrid above).trans (le_abs_self nearest)
  · exact (isNearest.neg.ge_of_ge onGrid below).trans (neg_le_abs nearest)

/-- Away from zero a rational and what it is rounded to lie behind the same power of two, of which
the error is a small part. -/
theorem exists_power
    (normal : 2 ^ (-1022 : Int) ≤ |exact|) :
    ∃ power : ℚ, power ≤ |exact| ∧ power ≤ |nearest| ∧
      |nearest - exact| ≤ unitRoundoff * power := by
  have positive : 0 < |exact| := lt_of_lt_of_le (by positivity) normal
  obtain ⟨exponent, below, above⟩ := exists_mem_Ico_zpow positive (one_lt_two : (1 : ℚ) < 2)
  have high : -1022 ≤ exponent := by
    have powers := normal.trans_lt above
    rw [zpow_lt_zpow_iff_right₀ one_lt_two] at powers
    omega
  have onGrid : IsOnGrid (2 ^ exponent) :=
    ⟨1, exponent, by norm_num, by omega, by rw [Int.cast_one, one_mul]⟩
  have within : |exact| ≤ 2 ^ 53 * 2 ^ (exponent - 52) := by
    rw [two_pow_mul_zpow]
    exact above.le.trans (zpow_le_zpow_right₀ one_le_two (by omega))
  have half := isNearest.abs_sub_le_half (by omega) within
  refine ⟨2 ^ exponent, below, isNearest.le_abs_of_le_abs onGrid below, half.trans_eq ?_⟩
  rw [unitRoundoff, ← zpow_add₀ two_ne_zero, two_zpow_div_two]
  congr 1
  omega

/-- Rounding moves a rational by a small part of it, or next to zero by half of the least
positive number at most. -/
theorem abs_sub_le : |nearest - exact| ≤ unitRoundoff * |exact| + underflow := by
  have positive := unitRoundoff_pos
  rcases le_or_gt (2 ^ (-1022 : Int)) |exact| with normal | subnormal
  · obtain ⟨power, below, -, near⟩ := isNearest.exists_power normal
    calc |nearest - exact|
        ≤ unitRoundoff * power := near
      _ ≤ unitRoundoff * |exact| := by gcongr
      _ ≤ unitRoundoff * |exact| + underflow := le_add_of_nonneg_right underflow_pos.le
  · have within : |exact| ≤ 2 ^ 53 * 2 ^ (-1074 : Int) := by
      rw [two_pow_mul_zpow]
      exact subnormal.le.trans (zpow_le_zpow_right₀ one_le_two (by norm_num))
    have half := isNearest.abs_sub_le_half (le_refl (-1074)) within
    rw [two_zpow_div_two] at half
    exact half.trans (le_add_of_nonneg_left (by positivity))

/-- A multiple of the least positive number is moved by a small part of it alone. -/
theorem abs_sub_le_of_multiple
    {multiple : Int}
    (isMultiple : exact = multiple * 2 ^ (-1074 : Int)) :
    |nearest - exact| ≤ unitRoundoff * |exact| := by
  have positive := unitRoundoff_pos
  rcases le_or_gt (2 ^ (-1022 : Int)) |exact| with normal | subnormal
  · obtain ⟨power, below, -, near⟩ := isNearest.exists_power normal
    exact near.trans (by gcongr)
  · have unit : (0 : ℚ) < 2 ^ (-1074 : Int) := by positivity
    have short : |multiple| ≤ 2 ^ 53 := by
      have split : (2 : ℚ) ^ (-1022 : Int) = 2 ^ 52 * 2 ^ (-1074 : Int) := by
        rw [two_pow_mul_zpow]
        rfl
      rw [isMultiple, abs_mul, abs_of_pos unit, split] at subnormal
      have bits : |multiple| < 2 ^ 52 := by
        exact_mod_cast lt_of_mul_lt_mul_right subnormal unit.le
      omega
    have same : nearest = exact := by
      have onGrid : IsOnGrid exact := ⟨multiple, -1074, short, le_rfl, isMultiple⟩
      exact le_antisymm (isNearest.le_of_le onGrid le_rfl) (isNearest.ge_of_ge onGrid le_rfl)
    rw [same, sub_self, abs_zero]
    positivity

end IsNearest

/-! ## Roundings one after the other -/

/-- The greatest relative error of some roundings one after the other. -/
def drift (count : Nat) : ℚ := (1 + unitRoundoff) ^ count - 1

theorem drift_succ (count : Nat) :
    drift (count + 1) = drift count + unitRoundoff * (1 + drift count) := by
  unfold drift
  ring

theorem drift_nonneg (count : Nat) : 0 ≤ drift count :=
  sub_nonneg.mpr (one_le_pow₀ (le_add_of_nonneg_right unitRoundoff_pos.le))

theorem drift_mono : Monotone drift := by
  intro first second ordered
  exact sub_le_sub_right (pow_le_pow_right₀ (le_add_of_nonneg_right unitRoundoff_pos.le) ordered) 1

/-- A rational that some roundings have moved away from an exact one.  How far is relative to a
magnitude that the exact one does not exceed. -/
structure Drifted (count : Nat) (exact magnitude current : ℚ) : Prop where
  near : |current - exact| ≤ drift count * magnitude
  within : |exact| ≤ magnitude

namespace Drifted

variable
  {count : Nat}
  {exact magnitude current : ℚ}

theorem zero : Drifted 0 0 0 0 where
  near := by rw [sub_zero, abs_zero, mul_zero]
  within := abs_zero.le

section Drift

variable (drifted : Drifted count exact magnitude current)

include drifted

theorem abs_le : |current| ≤ (1 + drift count) * magnitude := by
  calc |current|
      = |(current - exact) + exact| := by rw [sub_add_cancel]
    _ ≤ |current - exact| + |exact| := abs_add_le _ _
    _ ≤ drift count * magnitude + magnitude := add_le_add drifted.near drifted.within
    _ = (1 + drift count) * magnitude := by ring

theorem add (term : ℚ) :
    Drifted count (exact + term) (magnitude + |term|) (current + term) where
  near := by
    rw [add_sub_add_right_eq_sub]
    exact drifted.near.trans
      (mul_le_mul_of_nonneg_left (le_add_of_nonneg_right (abs_nonneg _)) (drift_nonneg count))
  within := (abs_add_le _ _).trans (add_le_add_left drifted.within _)

/-- One more rounding makes one more part of the drift. -/
theorem abs_sub_le_of_round
    {next extra : ℚ}
    (rounded : |next - current| ≤ unitRoundoff * |current| + extra) :
    |next - exact| ≤ drift (count + 1) * magnitude + extra := by
  have positive := unitRoundoff_pos
  have reach := drifted.abs_le
  calc |next - exact|
      = |(next - current) + (current - exact)| := by rw [sub_add_sub_cancel]
    _ ≤ |next - current| + |current - exact| := abs_add_le _ _
    _ ≤ unitRoundoff * ((1 + drift count) * magnitude) + extra + drift count * magnitude :=
        add_le_add (rounded.trans (by gcongr)) drifted.near
    _ = drift (count + 1) * magnitude + extra := by
        rw [drift_succ]
        ring

theorem round
    {next : ℚ}
    (rounded : |next - current| ≤ unitRoundoff * |current|) :
    Drifted (count + 1) exact magnitude next where
  near := by
    have moved := @abs_sub_le_of_round _ _ _ _ drifted next 0 (by rwa [add_zero])
    rwa [add_zero] at moved
  within := drifted.within

/-- A divisor that is off the exact one by a rounding counts for one more part of the drift. -/
theorem div
    {divisor length : ℚ}
    (divisorPositive : 0 < divisor)
    (lengthPositive : 0 < length)
    (divisorNear : |divisor - length| ≤ unitRoundoff * divisor) :
    Drifted (count + 1) (exact / length) (magnitude / length) (current / divisor) where
  near := by
    have relative : |length / divisor - 1| ≤ unitRoundoff := by
      rwa [div_sub_one divisorPositive.ne', abs_div, abs_of_pos divisorPositive,
        div_le_iff₀ divisorPositive, abs_sub_comm]
    -- Multiplied by the exact length, the quotient is the dividend after one more rounding.
    have scaled : |current * (length / divisor) - current| ≤ unitRoundoff * |current| := by
      rw [← mul_sub_one, abs_mul, mul_comm]
      exact mul_le_mul_of_nonneg_right relative (abs_nonneg _)
    have split : current / divisor - exact / length =
        (current * (length / divisor) - exact) / length := by
      field_simp
    rw [split, abs_div, abs_of_pos lengthPositive, ← mul_div_assoc (drift _)]
    exact div_le_div_of_nonneg_right (drifted.round scaled).near lengthPositive.le
  within := by
    rw [abs_div, abs_of_pos lengthPositive]
    exact div_le_div_of_nonneg_right drifted.within lengthPositive.le

end Drift

end Drifted

/-! ## Running sums -/

/-- The exact sum of numbers. -/
def exactSum (values : List Float) : ℚ := (values.map value).sum

/-- The exact sum of the magnitudes of numbers. -/
def totalMagnitude (values : List Float) : ℚ := (values.map fun number => |value number|).sum

theorem exactSum_cons (first : Float) (rest : List Float) :
    exactSum (first :: rest) = value first + exactSum rest :=
  List.sum_cons

theorem totalMagnitude_cons (first : Float) (rest : List Float) :
    totalMagnitude (first :: rest) = |value first| + totalMagnitude rest :=
  List.sum_cons

theorem totalMagnitude_nonneg (values : List Float) : 0 ≤ totalMagnitude values := by
  apply List.sum_nonneg
  intro magnitude member
  obtain ⟨number, -, rfl⟩ := List.mem_map.mp member
  exact abs_nonneg _

/-- A sum is moved by a small part of it, since it is a multiple of the least positive number. -/
theorem abs_value_add_sub_le
    {first second : Float}
    (firstFinite : first.isFinite = true)
    (secondFinite : second.isFinite = true)
    (finite : (first + second).isFinite = true) :
    |value (first + second) - (value first + value second)| ≤
      unitRoundoff * |value first + value second| := by
  obtain ⟨firstMultiple, firstEq⟩ := (isOnGrid_value firstFinite).exists_multiple
  obtain ⟨secondMultiple, secondEq⟩ := (isOnGrid_value secondFinite).exists_multiple
  have isMultiple : value first + value second =
      ((firstMultiple + secondMultiple : Int) : ℚ) * 2 ^ (-1074 : Int) := by
    rw [firstEq, secondEq, Int.cast_add, add_mul]
  exact ((isRounded_add firstFinite secondFinite).nearest finite).abs_sub_le_of_multiple isMultiple

theorem isFinite_of_foldl_add
    {values : List Float}
    {start : Float}
    (finite : (values.foldl (· + ·) start).isFinite = true) :
    start.isFinite = true := by
  induction values generalizing start with
  | nil => exact finite
  | cons first rest inductionHypothesis =>
      exact (isFinite_of_add (inductionHypothesis finite)).1

/-- A running sum drifts by one more rounding with every term, relative to the magnitudes. -/
theorem Drifted.foldl_add
    {values : List Float}
    {start : Float}
    (finite : (values.foldl (· + ·) start).isFinite = true)
    {count : Nat}
    {exact magnitude : ℚ}
    (drifted : Drifted count exact magnitude (value start)) :
    Drifted (count + values.length) (exact + exactSum values) (magnitude + totalMagnitude values)
      (value (values.foldl (· + ·) start)) := by
  induction values generalizing start count exact magnitude with
  | nil =>
      have none : exactSum [] = 0 := rfl
      have nothing : totalMagnitude [] = 0 := rfl
      rw [none, nothing, add_zero, add_zero]
      exact drifted
  | cons first rest inductionHypothesis =>
      have nextFinite := @isFinite_of_foldl_add rest (start + first) finite
      obtain ⟨startFinite, firstFinite⟩ := isFinite_of_add nextFinite
      have rounded := abs_value_add_sub_le startFinite firstFinite nextFinite
      rw [List.length_cons, exactSum_cons, totalMagnitude_cons, ← add_assoc exact,
        ← add_assoc magnitude, ← Nat.add_assoc, Nat.add_right_comm]
      exact inductionHypothesis finite ((drifted.add _).round rounded)

theorem value_negativeZero : value negativeZero = 0 := rfl

theorem drifted_negativeZero : Drifted 0 0 0 (value negativeZero) := by
  rw [value_negativeZero]
  exact .zero

/-- A finite sum drifts by one rounding for every term. -/
theorem drifted_sum
    {values : List Float}
    (finite : (sum values).isFinite = true) :
    Drifted values.length (exactSum values) (totalMagnitude values) (value (sum values)) := by
  have drifted := drifted_negativeZero.foldl_add finite
  rwa [zero_add, zero_add, zero_add] at drifted

/-- A running sum is finite as long as the magnitudes with the drift stay below overflow. -/
theorem Drifted.isFinite_foldl_add
    {values : List Float}
    (finite : ∀ number ∈ values, number.isFinite = true)
    {start : Float}
    (startFinite : start.isFinite = true)
    {count : Nat}
    {exact magnitude : ℚ}
    (drifted : Drifted count exact magnitude (value start))
    (below :
      (1 + drift (count + values.length)) * (magnitude + totalMagnitude values) <
        overflowBound) :
    (values.foldl (· + ·) start).isFinite = true := by
  induction values generalizing start count exact magnitude with
  | nil => exact startFinite
  | cons first rest inductionHypothesis =>
      rw [List.forall_mem_cons] at finite
      rw [List.length_cons, totalMagnitude_cons, ← add_assoc magnitude, ← Nat.add_assoc,
        Nat.add_right_comm] at below
      have driftedSum := drifted.add (value first)
      -- The sum so far counts fewer terms and fewer roundings than the whole.
      have fewer : (1 + drift count) * (magnitude + |value first|) ≤
          (1 + drift (count + 1 + rest.length)) *
            (magnitude + |value first| + totalMagnitude rest) := by
        have grown : drift count ≤ drift (count + 1 + rest.length) := drift_mono (by omega)
        have growth := drift_nonneg count
        exact mul_le_mul (by linarith) (le_add_of_nonneg_right (totalMagnitude_nonneg rest))
          ((abs_nonneg _).trans driftedSum.within) (by linarith)
      have nextFinite := (roundsTo_add startFinite finite.1).isFinite_of_abs_lt
        (driftedSum.abs_le.trans_lt (fewer.trans_lt below))
      have rounded := abs_value_add_sub_le startFinite finite.1 nextFinite
      exact inductionHypothesis finite.2 nextFinite (driftedSum.round rounded) below

theorem isFinite_sum
    {values : List Float}
    (finite : ∀ number ∈ values, number.isFinite = true)
    (below : (1 + drift values.length) * totalMagnitude values < overflowBound) :
    (sum values).isFinite = true :=
  drifted_negativeZero.isFinite_foldl_add finite rfl (by rwa [zero_add, zero_add])

end Binary64
end LatencyChart
