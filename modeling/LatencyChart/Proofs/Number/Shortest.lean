import LatencyChart.Number.Shortest
import LatencyChart.Proofs.Number.Bits
import LatencyChart.Proofs.Number.Nearest

/-!
# Shortest decimals read back

Whether a point of a decimal grid reads back as a number is decided in whole numbers, and the
answer is that the point is near to the number.  The search over the grids ends at such a
point at the latest on the grid that holds the number itself.
-/

namespace LatencyChart
namespace Decimal

open Binary64 (IsNear IsCanonical)

/-- The value of a decimal. -/
def value (decimal : Decimal) : ℚ :=
  decimal.digits * 10 ^ decimal.exponent

/-- A decimal is written with whole digits and a number of places. -/
theorem value_eq (decimal : Decimal) :
    decimal.value =
      (decimal.digits * Nat.pow 10 decimal.exponent.toNat : Nat) *
        10 ^ (-((-decimal.exponent).toNat : Int)) := by
  rw [value, zpow_eq_div_pow, Nat.pow_eq, zpow_neg, zpow_natCast]
  push_cast
  rw [mul_div_assoc', div_eq_mul_inv]

namespace Target

/-- A positive target with the interval of what is near to it. -/
structure IsSound (target : Target) : Prop where
  positive : 0 < target.significand
  quarters : target.lowerQuarters =
    Binary64.lowerQuarters target.significand target.exponent

/-! ## Points of a grid -/

theorem scaleUp_pos
    (target : Target)
    (grid : Int) :
    0 < target.scaleUp grid :=
  Nat.mul_pos (Nat.pow_pos (by decide)) (Nat.pow_pos (by decide))

theorem scaleDown_pos
    (target : Target)
    (grid : Int) :
    0 < target.scaleDown grid :=
  Nat.mul_pos (Nat.pow_pos (by decide)) (Nat.pow_pos (by decide))

/-- The scales convert between units of the target and units of a grid. -/
theorem scaleUp_div_scaleDown
    (target : Target)
    (grid : Int) :
    (target.scaleUp grid : ℚ) / target.scaleDown grid = 2 ^ target.exponent / 10 ^ grid := by
  unfold scaleUp scaleDown
  rw [zpow_eq_div_pow 2, zpow_eq_div_pow 10 grid]
  simp only [Nat.pow_eq]
  push_cast
  field_simp

theorem point_div_unit
    (target : Target)
    (grid : Int)
    (point : Nat) :
    (point * 10 ^ grid : ℚ) / 2 ^ target.exponent =
      point * target.scaleDown grid / target.scaleUp grid := by
  have upPositive : (0 : ℚ) < target.scaleUp grid := by
    exact_mod_cast target.scaleUp_pos grid
  have downPositive : (0 : ℚ) < target.scaleDown grid := by
    exact_mod_cast target.scaleDown_pos grid
  have ratio := target.scaleUp_div_scaleDown grid
  rw [div_eq_div_iff downPositive.ne' (by positivity)] at ratio
  rw [div_eq_div_iff (by positivity) upPositive.ne', mul_assoc, mul_assoc,
    mul_comm (10 ^ grid), ratio, mul_comm (2 ^ target.exponent)]

/-- A point reads back exactly when it is near to the target. -/
theorem readsBack_iff
    {target : Target}
    (sound : target.IsSound)
    (grid : Int)
    (point : Nat) :
    target.readsBack grid point = true ↔
      IsNear target.significand target.exponent (point * 10 ^ grid) := by
  have upPositive : (0 : ℚ) < target.scaleUp grid := by
    exact_mod_cast target.scaleUp_pos grid
  have reach : target.lowerQuarters ≤ 4 * target.significand := by
    have most := Binary64.lowerQuarters_le target.significand target.exponent
    have positive := sound.positive
    rw [sound.quarters]
    omega
  have inUnits : 4 * ((point * 10 ^ grid : ℚ) / 2 ^ target.exponent) =
      (4 * point * target.scaleDown grid : Nat) / target.scaleUp grid := by
    rw [point_div_unit]
    push_cast
    rw [← mul_div_assoc, mul_assoc]
  have low : ((4 * target.significand : ℚ) - target.lowerQuarters) * target.scaleUp grid =
      ((4 * target.significand - target.lowerQuarters) * target.scaleUp grid : Nat) := by
    push_cast [reach]
    rfl
  have high : ((4 * target.significand : ℚ) + 2) * target.scaleUp grid =
      ((4 * target.significand + 2) * target.scaleUp grid : Nat) := by
    push_cast
    rfl
  rw [Binary64.isNear_iff, ← sound.quarters, inUnits, le_div_iff₀ upPositive,
    lt_div_iff₀ upPositive, div_le_iff₀ upPositive, div_lt_iff₀ upPositive, low, high,
    Nat.cast_le, Nat.cast_lt, Nat.cast_le, Nat.cast_lt]
  unfold readsBack
  simp only
  split <;> simp

theorem readsBack_of_onGrid?
    {target : Target}
    {grid : Int}
    {point : Nat}
    (found : target.onGrid? grid = some point) :
    target.readsBack grid point = true := by
  simp only [onGrid?] at found
  split at found
  · rw [← Option.some.inj found]
    split <;> assumption
  · rwa [← Option.some.inj found]
  · rwa [← Option.some.inj found]
  · contradiction

/-! ## The search over the grids -/

theorem scaleDown_dvd_scaleUp (target : Target) :
    target.scaleDown (min target.exponent 0) ∣ target.scaleUp (min target.exponent 0) := by
  unfold scaleDown scaleUp
  simp only [Nat.pow_eq]
  rcases le_total 0 target.exponent with whole | scaled
  · rw [min_eq_right whole, Int.toNat_of_nonpos (by omega : -target.exponent ≤ 0)]
    exact one_dvd _
  · rw [min_eq_left scaled, Int.toNat_of_nonpos scaled, pow_zero, pow_zero, mul_one, one_mul]
    exact pow_dvd_pow_of_dvd (by decide) _

/-- The target itself is the point at which the search ends at the latest. -/
theorem readsBack_exact
    {target : Target}
    (sound : target.IsSound) :
    target.readsBack (min target.exponent 0)
      (target.significand * target.scaleUp (min target.exponent 0) /
        target.scaleDown (min target.exponent 0)) = true := by
  have upPositive : (0 : ℚ) < target.scaleUp (min target.exponent 0) := by
    exact_mod_cast target.scaleUp_pos _
  have exact :=
    Nat.div_mul_cancel (target.scaleDown_dvd_scaleUp.mul_left target.significand)
  have quarters : (0 : ℚ) < Binary64.lowerQuarters target.significand target.exponent := by
    exact_mod_cast Binary64.lowerQuarters_pos target.significand target.exponent
  rw [readsBack_iff sound, Binary64.isNear_iff, point_div_unit, ← Nat.cast_mul, exact,
    Nat.cast_mul, mul_div_assoc, div_self upPositive.ne', mul_one]
  split <;> constructor <;> linarith

theorem readsBack_search
    {target : Target}
    (sound : target.IsSound)
    {count : Nat}
    {grid : Int}
    (last : grid - count = min target.exponent 0) :
    target.readsBack (target.search count grid).exponent (target.search count grid).digits =
      true := by
  induction count generalizing grid with
  | zero =>
      rw [Nat.cast_zero, sub_zero] at last
      rw [search, last]
      exact readsBack_exact sound
  | succ count inductionHypothesis =>
      rw [search]
      split
      · next found => exact readsBack_of_onGrid? found
      · exact inductionHypothesis (by omega)

theorem le_topGrid (target : Target) :
    min target.exponent 0 ≤ target.topGrid := by
  unfold topGrid
  omega

/-- The shortest decimal of a target is near to it. -/
theorem isNear_shortest
    {target : Target}
    (sound : target.IsSound) :
    IsNear target.significand target.exponent target.shortest.value := by
  have top := target.le_topGrid
  have last : target.topGrid - (target.topGrid - min target.exponent 0).toNat =
      min target.exponent 0 := by omega
  exact (readsBack_iff sound _ _).mp (readsBack_search sound last)

/-! ## The target of a number -/

theorem isSound_ofFloat
    {number : Float}
    (nonzero : Binary64.significand number ≠ 0) :
    (ofFloat number).IsSound := by
  have bound := Binary64.fractionField_lt number
  refine ⟨Nat.pos_of_ne_zero nonzero, ?_⟩
  simp only [ofFloat, Binary64.lowerQuarters, Binary64.significand, Binary64.exponent,
    Nat.pow_eq]
  split_ifs <;> omega

theorem isCanonical_ofFloat
    {number : Float}
    (finite : Binary64.exponentField number < 2047)
    (nonzero : Binary64.significand number ≠ 0) :
    IsCanonical (ofFloat number).significand (ofFloat number).exponent := by
  have bound := Binary64.fractionField_lt number
  simp only [ofFloat]
  simp only [Binary64.significand, Binary64.exponent, Nat.pow_eq] at nonzero ⊢
  split_ifs at nonzero ⊢ <;> constructor <;> omega

end Target

/-- The shortest decimal of a finite number, as whole digits and places, is rounded to the
number. -/
theorem decimalBits_shortest
    {number : Float}
    (finite : Binary64.exponentField number < 2047)
    (nonzero : Binary64.significand number ≠ 0) :
    Binary64.decimalBits
        ((shortest number).digits * Nat.pow 10 (shortest number).exponent.toNat)
        (-((-(shortest number).exponent).toNat : Int)) =
      Binary64.exponentField number * 2 ^ 52 + Binary64.fractionField number := by
  have near : IsNear _ _ (shortest number).value :=
    Target.isNear_shortest (Target.isSound_ofFloat nonzero)
  rw [value_eq] at near
  exact (near.decimalBits_eq (Target.isCanonical_ofFloat finite nonzero)).trans
    (Binary64.magnitudeBits_of_finite finite)

end Decimal
end LatencyChart
