import LatencyChart.Number.Nearest
import Mathlib.Algebra.Order.Field.Power
import Mathlib.Tactic.FieldSimp
import Mathlib.Tactic.Linarith
import Mathlib.Tactic.NormNum
import Mathlib.Tactic.Positivity

/-!
# The numbers near to a binary64 number

Around every positive number lies an interval of the reals that are nearer to it than to any
other number, or as near and the number is even.  A ratio or a decimal in that interval is
rounded to the number.
-/

namespace LatencyChart

/-- A power with an integer exponent is a ratio of powers with natural exponents. -/
theorem zpow_eq_div_pow
    (base : ℚ)
    (exponent : Int) :
    base ^ exponent = base ^ exponent.toNat / base ^ (-exponent).toNat := by
  rcases Int.le_total 0 exponent with nonnegative | nonpositive
  · rw [Int.toNat_of_nonpos (by omega : -exponent ≤ 0), pow_zero, div_one, ← zpow_natCast,
      Int.toNat_of_nonneg nonnegative]
  · rw [Int.toNat_of_nonpos nonpositive, pow_zero, one_div, ← zpow_natCast,
      Int.toNat_of_nonneg (by omega), zpow_neg, inv_inv]

/-! ## The nearest whole number -/

theorem roundHalfEven_of_mul
    {numerator denominator nearest : Nat}
    (positive : 0 < denominator)
    (low : 2 * (nearest * denominator) ≤ 2 * numerator + denominator)
    (high : 2 * numerator ≤ 2 * (nearest * denominator) + denominator)
    (inside : nearest % 2 = 1 →
      2 * (nearest * denominator) < 2 * numerator + denominator ∧
        2 * numerator < 2 * (nearest * denominator) + denominator) :
    roundHalfEven numerator denominator = nearest := by
  have parts := Nat.div_add_mod' numerator denominator
  have restBound := Nat.mod_lt numerator positive
  unfold roundHalfEven
  generalize numerator / denominator = quotient at parts ⊢
  generalize numerator % denominator = rest at parts restBound ⊢
  have notBelow : quotient ≤ nearest := by
    by_contra below
    have product := Nat.mul_le_mul_right denominator (by omega : nearest + 1 ≤ quotient)
    rw [Nat.add_mul] at product
    omega
  have notAbove : nearest ≤ quotient + 1 := by
    by_contra above
    have product := Nat.mul_le_mul_right denominator (by omega : quotient + 2 ≤ nearest)
    rw [Nat.add_mul] at product
    omega
  rcases (by omega : nearest = quotient ∨ nearest = quotient + 1) with rfl | rfl
  · simp only
    split_ifs <;> omega
  · simp only
    rw [Nat.add_mul] at low high inside
    split_ifs <;> omega

/-- A ratio that is at most one half away from a whole number is rounded to it, and at exactly
one half when that number is even. -/
theorem roundHalfEven_eq
    {numerator denominator nearest : Nat}
    (positive : 0 < denominator)
    (low : 2 * (nearest : ℚ) - 1 ≤ 2 * (numerator / denominator))
    (high : 2 * ((numerator : ℚ) / denominator) ≤ 2 * nearest + 1)
    (inside : nearest % 2 = 1 →
      2 * (nearest : ℚ) - 1 < 2 * (numerator / denominator) ∧
        2 * ((numerator : ℚ) / denominator) < 2 * nearest + 1) :
    roundHalfEven numerator denominator = nearest := by
  have positiveCast : (0 : ℚ) < denominator := by exact_mod_cast positive
  rw [← mul_div_assoc] at low high inside
  rw [le_div_iff₀ positiveCast, sub_mul, sub_le_iff_le_add, one_mul, mul_assoc] at low
  rw [div_le_iff₀ positiveCast, add_mul, one_mul, mul_assoc] at high
  rw [lt_div_iff₀ positiveCast, sub_mul, sub_lt_iff_lt_add, one_mul, mul_assoc,
    div_lt_iff₀ positiveCast, add_mul, one_mul, mul_assoc] at inside
  exact roundHalfEven_of_mul positive (by exact_mod_cast low) (by exact_mod_cast high)
    (by exact_mod_cast inside)

namespace Binary64

/-! ## Numbers and what is near to them -/

/-- A positive number `significand * 2 ^ exponent` in the form that its bits give it. -/
structure IsCanonical (significand : Nat) (exponent : Int) : Prop where
  positive : 0 < significand
  short : significand < 2 ^ 53
  lowest : -1074 ≤ exponent
  highest : exponent ≤ 971
  normal : exponent = -1074 ∨ 2 ^ 52 ≤ significand

/-- How far the interval of a positive number reaches downwards, in quarters of its unit
`2 ^ exponent`.  Below a power of two the neighbours are twice as dense. -/
def lowerQuarters (significand : Nat) (exponent : Int) : Nat :=
  if significand = 2 ^ 52 ∧ -1074 < exponent then 1 else 2

/-- A real in the interval of a positive number.  The ends of the interval are as near to a
neighbour, and belong to the neighbour when the significand is odd. -/
structure IsNear (significand : Nat) (exponent : Int) (value : ℚ) : Prop where
  above : (4 * significand : ℚ) - lowerQuarters significand exponent ≤
    4 * (value / 2 ^ exponent)
  below : 4 * (value / 2 ^ exponent) ≤ 4 * significand + 2
  inside : significand % 2 = 1 →
    (4 * significand : ℚ) - lowerQuarters significand exponent < 4 * (value / 2 ^ exponent) ∧
      4 * (value / 2 ^ exponent) < 4 * significand + 2

theorem lowerQuarters_pos
    (significand : Nat)
    (exponent : Int) :
    0 < lowerQuarters significand exponent := by
  unfold lowerQuarters
  split <;> decide

theorem lowerQuarters_le
    (significand : Nat)
    (exponent : Int) :
    lowerQuarters significand exponent ≤ 2 := by
  unfold lowerQuarters
  split <;> decide

theorem isNear_iff
    (significand : Nat)
    (exponent : Int)
    (value : ℚ) :
    IsNear significand exponent value ↔
      if significand % 2 = 0 then
        (4 * significand : ℚ) - lowerQuarters significand exponent ≤
            4 * (value / 2 ^ exponent) ∧
          4 * (value / 2 ^ exponent) ≤ 4 * significand + 2
      else
        (4 * significand : ℚ) - lowerQuarters significand exponent <
            4 * (value / 2 ^ exponent) ∧
          4 * (value / 2 ^ exponent) < 4 * significand + 2 := by
  split
  · next even =>
    constructor
    · intro near
      exact ⟨near.above, near.below⟩
    · rintro ⟨above, below⟩
      exact ⟨above, below, fun odd => by omega⟩
  · next odd =>
    constructor
    · intro near
      exact near.inside (by omega)
    · rintro ⟨above, below⟩
      exact ⟨above.le, below.le, fun _ => ⟨above, below⟩⟩

theorem two_zpow_le
    {low high : Int}
    (ordered : low ≤ high) :
    (2 : ℚ) ^ low ≤ 2 ^ high :=
  zpow_le_zpow_right₀ one_le_two ordered

/-- What is near to a number is at least half the smallest number, and at most the power of
two behind the largest one. -/
theorem IsNear.bounds
    {significand : Nat}
    {exponent : Int}
    {value : ℚ}
    (near : IsNear significand exponent value)
    (canonical : IsCanonical significand exponent) :
    (2 : ℚ) ^ (-1075 : Int) ≤ value ∧ value ≤ 2 ^ (1024 : Int) := by
  have unitPositive : (0 : ℚ) < 2 ^ exponent := by positivity
  have quarters : (lowerQuarters significand exponent : ℚ) ≤ 2 := by
    exact_mod_cast lowerQuarters_le significand exponent
  have positive : (1 : ℚ) ≤ significand := by exact_mod_cast canonical.positive
  have short : (significand : ℚ) + 1 ≤ 2 ^ 53 := by exact_mod_cast canonical.short
  have above := near.above
  have below := near.below
  have half : 2 ^ (-1 : Int) ≤ value / 2 ^ exponent := by
    rw [zpow_neg_one]
    linarith
  have double : value / 2 ^ exponent ≤ 2 ^ (53 : Int) := by
    rw [zpow_ofNat]
    linarith
  rw [le_div_iff₀ unitPositive, ← zpow_add₀ two_ne_zero] at half
  rw [div_le_iff₀ unitPositive, ← zpow_add₀ two_ne_zero] at double
  have lowest := canonical.lowest
  have highest := canonical.highest
  exact ⟨(two_zpow_le (by omega)).trans half, double.trans (two_zpow_le (by omega))⟩

/-! ## The exponent of a ratio -/

theorem lt_two_zpow_log2
    {value : Nat}
    (positive : 0 < value) :
    (value : ℚ) < 2 ^ (value.log2 + 1 : Int) := by
  exact_mod_cast (Nat.log2_lt positive.ne').mp (Nat.lt_succ_self _)

theorem two_zpow_log2_le
    {value : Nat}
    (positive : 0 < value) :
    (2 : ℚ) ^ (value.log2 : Int) ≤ value := by
  exact_mod_cast (Nat.le_log2 positive.ne').mp le_rfl

/-- The binary orders of magnitude of two numbers bound their ratio. -/
theorem ratio_between
    {numerator denominator : Nat}
    (numeratorPositive : 0 < numerator)
    (denominatorPositive : 0 < denominator) :
    (2 : ℚ) ^ ((numerator.log2 : Int) - denominator.log2 - 1) ≤ numerator / denominator ∧
      (numerator / denominator : ℚ) < 2 ^ ((numerator.log2 : Int) - denominator.log2 + 1) := by
  have positive : (0 : ℚ) < denominator := by exact_mod_cast denominatorPositive
  rw [le_div_iff₀ positive, div_lt_iff₀ positive]
  constructor
  · calc (2 : ℚ) ^ ((numerator.log2 : Int) - denominator.log2 - 1) * denominator
        ≤ 2 ^ ((numerator.log2 : Int) - denominator.log2 - 1) *
            2 ^ (denominator.log2 + 1 : Int) :=
          mul_le_mul_of_nonneg_left (lt_two_zpow_log2 denominatorPositive).le (by positivity)
      _ = 2 ^ (numerator.log2 : Int) := by
          rw [← zpow_add₀ two_ne_zero]
          congr 1
          omega
      _ ≤ numerator := two_zpow_log2_le numeratorPositive
  · calc (numerator : ℚ)
        < 2 ^ (numerator.log2 + 1 : Int) := lt_two_zpow_log2 numeratorPositive
      _ = 2 ^ ((numerator.log2 : Int) - denominator.log2 + 1) * 2 ^ (denominator.log2 : Int) := by
          rw [← zpow_add₀ two_ne_zero]
          congr 1
          omega
      _ ≤ 2 ^ ((numerator.log2 : Int) - denominator.log2 + 1) * denominator :=
          mul_le_mul_of_nonneg_left (two_zpow_log2_le denominatorPositive) (by positivity)

/-- A power of two is compared with a ratio in whole numbers. -/
theorem two_zpow_le_ratio_iff
    (numerator : Nat)
    {denominator : Nat}
    (denominatorPositive : 0 < denominator)
    (exponent : Int) :
    (2 : ℚ) ^ exponent ≤ numerator / denominator ↔
      denominator * 2 ^ exponent.toNat ≤ numerator * 2 ^ (-exponent).toNat := by
  have positive : (0 : ℚ) < denominator := by exact_mod_cast denominatorPositive
  rw [zpow_eq_div_pow, div_le_div_iff₀ (by positivity) positive, mul_comm]
  exact_mod_cast Iff.rfl

/-- The exponent of a ratio leaves it a significand of 53 bits, or fewer when it is the
lowest one. -/
theorem ratioExponent_spec
    {numerator denominator : Nat}
    (numeratorPositive : 0 < numerator)
    (denominatorPositive : 0 < denominator) :
    -1074 ≤ ratioExponent numerator denominator ∧
      (numerator / denominator : ℚ) < 2 ^ (53 + ratioExponent numerator denominator) ∧
      (ratioExponent numerator denominator = -1074 ∨
        (2 : ℚ) ^ (52 + ratioExponent numerator denominator) ≤ numerator / denominator) := by
  obtain ⟨above, below⟩ := ratio_between numeratorPositive denominatorPositive
  have reaches := two_zpow_le_ratio_iff numerator denominatorPositive
  unfold ratioExponent
  generalize (numerator.log2 : Int) - denominator.log2 = order at above below ⊢
  generalize (numerator / denominator : ℚ) = ratio at above below reaches ⊢
  have lowCases : max (-1074) (order - 53) = order - 53 ∨
      max (-1074) (order - 53) = -1074 ∧ order - 53 < -1074 := by omega
  have lowest : -1074 ≤ max (-1074) (order - 53) := le_max_left _ _
  generalize max (-1074) (order - 53) = low at lowCases lowest ⊢
  simp only [Nat.pow_eq, (by omega : -53 - low = -(53 + low)), ← reaches]
  split
  · next next =>
    refine ⟨by omega, below.trans_le (two_zpow_le ?_), Or.inr ?_⟩
    · rcases lowCases with rfl | ⟨rfl, small⟩
      · omega
      · exact absurd (two_zpow_le (by omega)) (next.trans_lt below).not_ge
    · rwa [(by omega : 52 + (low + 1) = 53 + low)]
  · next noNext =>
    refine ⟨by omega, not_le.mp noNext, ?_⟩
    rcases lowCases with rfl | ⟨rfl, small⟩
    · exact Or.inr ((two_zpow_le (by omega)).trans above)
    · exact Or.inl rfl

/-- A ratio near to a number has the exponent of the number, or the one below it when the
number is a power of two and the ratio is smaller. -/
theorem IsNear.ratioExponent_eq
    {numerator denominator significand : Nat}
    {exponent : Int}
    (near : IsNear significand exponent (numerator / denominator))
    (canonical : IsCanonical significand exponent)
    (numeratorPositive : 0 < numerator)
    (denominatorPositive : 0 < denominator) :
    ratioExponent numerator denominator = exponent ∨
      ratioExponent numerator denominator = exponent - 1 ∧ significand = 2 ^ 52 ∧
        -1074 < exponent ∧ (numerator / denominator : ℚ) / 2 ^ exponent < 2 ^ 52 := by
  obtain ⟨lowest, below, above⟩ := ratioExponent_spec numeratorPositive denominatorPositive
  generalize ratioExponent numerator denominator = found at lowest below above ⊢
  have unitPositive : (0 : ℚ) < 2 ^ exponent := by positivity
  have nearAbove := near.above
  have nearBelow := near.below
  -- From here on the ratio is counted in units of the number.
  replace below : (numerator / denominator : ℚ) / 2 ^ exponent <
      2 ^ (53 + found - exponent) := by
    rwa [zpow_sub₀ two_ne_zero, div_lt_div_iff_of_pos_right unitPositive]
  replace above : found = -1074 ∨
      (2 : ℚ) ^ (52 + found - exponent) ≤ (numerator / denominator : ℚ) / 2 ^ exponent := by
    rwa [zpow_sub₀ two_ne_zero, div_le_div_iff_of_pos_right unitPositive]
  generalize (numerator / denominator : ℚ) / 2 ^ exponent = ratio at *
  have quarters : (lowerQuarters significand exponent : ℚ) ≤ 2 := by
    exact_mod_cast lowerQuarters_le significand exponent
  rcases lt_trichotomy found exponent with smaller | equal | larger
  · right
    have belowPower : ratio < 2 ^ 52 :=
      below.trans_le (two_zpow_le (by omega : _ ≤ (52 : Int)))
    have large : 2 ^ 52 ≤ significand := canonical.normal.resolve_left (by omega)
    have small : significand ≤ 2 ^ 52 := by
      have bound : (significand : ℚ) < 2 ^ 52 + 1 := by linarith
      exact Nat.lt_succ_iff.mp (by exact_mod_cast bound)
    refine ⟨?_, le_antisymm small large, by omega, belowPower⟩
    by_contra further
    have belowHalf : ratio < 2 ^ 51 :=
      below.trans_le (two_zpow_le (by omega : _ ≤ (51 : Int)))
    have largeCast : (2 ^ 52 : ℚ) ≤ significand := by exact_mod_cast large
    linarith
  · exact Or.inl equal
  · have notLowest : found ≠ -1074 := by
      have bound := canonical.lowest
      omega
    have aboveDouble : 2 ^ 53 ≤ ratio :=
      (two_zpow_le (by omega : (53 : Int) ≤ _)).trans (above.resolve_left notLowest)
    have short : (significand : ℚ) + 1 ≤ 2 ^ 53 := by exact_mod_cast canonical.short
    linarith

/-! ## Rounding what is near -/

/-- A ratio is rounded to the number that it is near to. -/
theorem IsNear.ratioBits_eq
    {numerator denominator significand : Nat}
    {exponent : Int}
    (near : IsNear significand exponent (numerator / denominator))
    (canonical : IsCanonical significand exponent)
    (numeratorPositive : 0 < numerator)
    (denominatorPositive : 0 < denominator) :
    ratioBits numerator denominator = magnitudeBits significand exponent := by
  have scaled (unit : Int) :
      (((numerator * 2 ^ (-unit).toNat : Nat) : ℚ) / (denominator * 2 ^ unit.toNat : Nat)) =
        (numerator / denominator) / 2 ^ unit := by
    rw [zpow_eq_div_pow 2 unit]
    push_cast
    field_simp
  have quarters : (lowerQuarters significand exponent : ℚ) ≤ 2 := by
    exact_mod_cast lowerQuarters_le significand exponent
  have above := near.above
  have below := near.below
  unfold ratioBits
  simp only [Nat.pow_eq]
  rcases near.ratioExponent_eq canonical numeratorPositive denominatorPositive with
    same | ⟨lower, power, notLowest, belowPower⟩
  · rw [same]
    congr 1
    apply roundHalfEven_eq (by positivity)
    · rw [scaled]
      linarith
    · rw [scaled]
      linarith
    · intro odd
      obtain ⟨strictAbove, strictBelow⟩ := near.inside odd
      rw [scaled]
      constructor <;> linarith
  · -- The ratio is rounded up to a power of two, which has the next exponent.
    have halved : (numerator / denominator : ℚ) / 2 ^ (exponent - 1) =
        2 * ((numerator / denominator) / 2 ^ exponent) := by
      rw [zpow_sub_one₀ two_ne_zero]
      field_simp
    have oneQuarter : lowerQuarters significand exponent = 1 := if_pos ⟨power, notLowest⟩
    rw [oneQuarter, power] at above
    have rounded : roundHalfEven (numerator * 2 ^ (-(exponent - 1)).toNat)
        (denominator * 2 ^ (exponent - 1).toNat) = 2 ^ 53 := by
      apply roundHalfEven_eq (by positivity)
      · rw [scaled, halved]
        push_cast at above ⊢
        linarith
      · rw [scaled, halved]
        push_cast
        linarith
      · intro odd
        contradiction
    rw [lower, rounded, power]
    simp only [magnitudeBits, Nat.pow_eq]
    split_ifs <;> omega

/-- A decimal is rounded to the number that it is near to. -/
theorem IsNear.decimalBits_eq
    {digits significand : Nat}
    {places exponent : Int}
    (near : IsNear significand exponent (digits * 10 ^ places))
    (canonical : IsCanonical significand exponent) :
    decimalBits digits places = magnitudeBits significand exponent := by
  obtain ⟨atLeast, atMost⟩ := near.bounds canonical
  have nonzero : digits ≠ 0 := by
    rintro rfl
    rw [Nat.cast_zero, zero_mul] at atLeast
    exact absurd atLeast (not_le.mpr (by positivity))
  have digitsLow : (1 : ℚ) ≤ digits := by exact_mod_cast Nat.pos_of_ne_zero nonzero
  have digitsHigh := lt_two_zpow_log2 (Nat.pos_of_ne_zero nonzero)
  have notHuge : ¬310 < places := by
    intro huge
    have contrary : (10 : ℚ) ^ (311 : Int) ≤ 2 ^ (1024 : Int) := by
      calc (10 : ℚ) ^ (311 : Int)
          ≤ 10 ^ places := zpow_le_zpow_right₀ (by norm_num) (by omega)
        _ ≤ digits * 10 ^ places := le_mul_of_one_le_left (by positivity) digitsLow
        _ ≤ 2 ^ (1024 : Int) := atMost
    have powers : (2 : Nat) ^ 1024 < 10 ^ 311 := by decide +kernel
    exact absurd contrary (not_le.mpr (by exact_mod_cast powers))
  have notTiny : ¬(digits.log2 : Int) + 1 + 3 * places < -1100 := by
    intro tiny
    have shrinks : (10 : ℚ) ^ places ≤ 2 ^ (3 * places) := by
      have eight : (2 : ℚ) ^ (3 : Int) ≤ 10 := by norm_num
      have downwards : 0 ≤ -places := by omega
      have inverse := inv_anti₀ (by positivity)
        (zpow_le_zpow_left₀ downwards (by positivity) eight)
      rwa [← zpow_neg, ← zpow_neg, neg_neg, ← zpow_mul] at inverse
    have contrary : (2 : ℚ) ^ (-1075 : Int) < 2 ^ (-1100 : Int) := by
      calc (2 : ℚ) ^ (-1075 : Int)
          ≤ digits * 10 ^ places := atLeast
        _ < 2 ^ (digits.log2 + 1 : Int) * 10 ^ places :=
            mul_lt_mul_of_pos_right digitsHigh (by positivity)
        _ ≤ 2 ^ (digits.log2 + 1 : Int) * 2 ^ (3 * places) :=
            mul_le_mul_of_nonneg_left shrinks (by positivity)
        _ = 2 ^ (digits.log2 + 1 + 3 * places : Int) := (zpow_add₀ two_ne_zero _ _).symm
        _ ≤ 2 ^ (-1100 : Int) := two_zpow_le tiny.le
    exact absurd contrary (not_lt.mpr (two_zpow_le (by decide)))
  have ratio : ((digits * 10 ^ places.toNat : Nat) : ℚ) / (10 ^ (-places).toNat : Nat) =
      digits * 10 ^ places := by
    rw [zpow_eq_div_pow]
    push_cast
    rw [mul_div_assoc]
  rw [← ratio] at near
  unfold decimalBits
  rw [if_neg nonzero, if_neg notHuge, if_neg notTiny, Nat.pow_eq, Nat.pow_eq]
  exact near.ratioBits_eq canonical (by positivity) (by positivity)

end Binary64
end LatencyChart
