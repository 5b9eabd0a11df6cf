import LatencyChart.Proofs.Number.Monotone

/-!
# Sums keep the order

A running sum takes up infinities and goes on.  As long as it does not come to NaN, greater terms
make no smaller sum: past the greatest number the sum is an infinity and stays one.  The same holds
of quotients by a positive number.  So the mean of some numbers lies between the means that the
same loop gives for copies of the least and of the greatest one.
-/

namespace LatencyChart
namespace Binary64

open Float.Model (Format UnpackedFloat)
open Float.Model.UnpackedFloat

/-! ## Infinities -/

theorem place_eq_top_iff (number : Float) :
    place number = ⊤ ↔ number.toModel.unpack = .infinity .positive := by
  unfold place
  constructor
  · intro atTop
    cases unpacked : number.toModel.unpack with
    | notANumber | zero _ | finite _ _ _ _ =>
        rw [unpacked] at atTop
        exact absurd atTop (ofRat_lt_top _).ne
    | infinity sign =>
        cases sign with
        | positive => rfl
        | negative =>
            rw [unpacked] at atTop
            exact absurd atTop bot_ne_top
  · intro unpacked
    rw [unpacked]
    rfl

theorem place_eq_bot_iff (number : Float) :
    place number = ⊥ ↔ number.toModel.unpack = .infinity .negative := by
  unfold place
  constructor
  · intro atBottom
    cases unpacked : number.toModel.unpack with
    | notANumber | zero _ | finite _ _ _ _ =>
        rw [unpacked] at atBottom
        exact absurd atBottom (bot_lt_ofRat _).ne'
    | infinity sign =>
        cases sign with
        | positive =>
            rw [unpacked] at atBottom
            exact absurd atBottom top_ne_bot
        | negative => rfl
  · intro unpacked
    rw [unpacked]
    rfl

/-- A number between the infinities is finite. -/
theorem isFinite_of_place
    {number : Float}
    (isNumber : number.isNaN = false)
    (notTop : place number ≠ ⊤)
    (notBottom : place number ≠ ⊥) :
    number.isFinite = true := by
  by_contra notFinite
  obtain ⟨sign, unpacked⟩ := exists_infinity isNumber notFinite
  cases sign with
  | positive => exact notTop ((place_eq_top_iff number).mpr unpacked)
  | negative => exact notBottom ((place_eq_bot_iff number).mpr unpacked)

theorem isFinite_of_between
    {low number high : Float}
    (isNumber : number.isNaN = false)
    (lowFinite : low.isFinite = true)
    (highFinite : high.isFinite = true)
    (above : low ≤ number)
    (below : number ≤ high) :
    number.isFinite = true := by
  have infinityIsNotFinite {bound : Float} {sign : Sign} (finite : bound.isFinite = true) :
      bound.toModel.unpack ≠ .infinity sign := by
    intro unpacked
    change bound.toModel.unpack.isFinite = true at finite
    rw [unpacked] at finite
    contradiction
  rw [le_iff_place_le (isNaN_eq_false_of_isFinite lowFinite) isNumber] at above
  rw [le_iff_place_le isNumber (isNaN_eq_false_of_isFinite highFinite)] at below
  apply isFinite_of_place isNumber
  · intro atTop
    rw [atTop, top_le_iff, place_eq_top_iff] at below
    exact infinityIsNotFinite highFinite below
  · intro atBottom
    rw [atBottom, le_bot_iff, place_eq_bot_iff] at above
    exact infinityIsNotFinite lowFinite above

theorem place_eq_top_of_nonneg
    {number : Float}
    (isNumber : number.isNaN = false)
    (nonnegative : 0.0 ≤ number)
    (notFinite : ¬number.isFinite = true) :
    place number = ⊤ := by
  by_contra notTop
  apply notFinite
  apply isFinite_of_place isNumber notTop
  intro atBottom
  rw [le_iff_place_le rfl isNumber, atBottom] at nonnegative
  exact absurd nonnegative (not_le.mpr (bot_lt_ofRat 0))

theorem IsUnsigned.zero_le
    {number : Float}
    (unsigned : IsUnsigned number) :
    0.0 ≤ number := by
  have plain := (isUnsigned_iff number).mp unsigned
  rw [le_iff_place_le rfl unsigned.isNaN_eq_false]
  change Place.ofRat 0 ≤ unpackedPlace number.toModel.unpack
  generalize number.toModel.unpack = unpacked at plain ⊢
  cases plain with
  | infinity => exact le_top
  | zero => exact le_rfl
  | finite positive =>
      refine WithBot.coe_le_coe.mpr (WithTop.coe_le_coe.mpr ?_)
      rw [unpackedValue, signed]
      positivity

/-! ## Sums -/

section Sum

variable {first second : Float} (isNumber : (first + second).isNaN = false)

include isNumber

theorem isNaN_eq_false_of_add : first.isNaN = false ∧ second.isNaN = false := by
  change (first + second).toModel.unpack.isNaN = false at isNumber
  rw [unpack_add] at isNumber
  change first.toModel.unpack.isNaN = false ∧ second.toModel.unpack.isNaN = false
  generalize first.toModel.unpack = left at isNumber ⊢
  generalize second.toModel.unpack = right at isNumber ⊢
  cases left with
  | notANumber => contradiction
  | infinity _ | zero _ | finite _ _ _ _ =>
      cases right with
      | notANumber => contradiction
      | infinity _ | zero _ | finite _ _ _ _ => exact ⟨rfl, rfl⟩

/-- A sum with an infinity in it is that infinity. -/
theorem unpack_add_of_infinity
    {sign : Sign}
    (unpacked : first.toModel.unpack = .infinity sign ∨ second.toModel.unpack = .infinity sign) :
    (first + second).toModel.unpack = .infinity sign := by
  change (first + second).toModel.unpack.isNaN = false at isNumber
  rw [unpack_add] at isNumber ⊢
  generalize first.toModel.unpack = left at isNumber unpacked ⊢
  generalize second.toModel.unpack = right at isNumber unpacked ⊢
  rcases unpacked with rfl | rfl
  · cases right with
    | notANumber => contradiction
    | zero _ | finite _ _ _ _ => rfl
    | infinity other =>
        cases sign <;> cases other <;> first | rfl | contradiction
  · cases left with
    | notANumber => contradiction
    | zero _ | finite _ _ _ _ => rfl
    | infinity other =>
        cases sign <;> cases other <;> first | rfl | contradiction

theorem place_add_eq_top (atTop : place first = ⊤ ∨ place second = ⊤) :
    place (first + second) = ⊤ := by
  rw [place_eq_top_iff, place_eq_top_iff] at atTop
  exact (place_eq_top_iff _).mpr (unpack_add_of_infinity isNumber atTop)

theorem place_add_eq_bot (atBottom : place first = ⊥ ∨ place second = ⊥) :
    place (first + second) = ⊥ := by
  rw [place_eq_bot_iff, place_eq_bot_iff] at atBottom
  exact (place_eq_bot_iff _).mpr (unpack_add_of_infinity isNumber atBottom)

end Sum

/-- Sums are in the order of their summands. -/
theorem add_le_add_of_isNumber
    {low high first second : Float}
    (lowIsNumber : (low + first).isNaN = false)
    (highIsNumber : (high + second).isNaN = false)
    (below : low ≤ high)
    (ordered : first ≤ second) :
    low + first ≤ high + second := by
  obtain ⟨low_isNaN, first_isNaN⟩ := isNaN_eq_false_of_add lowIsNumber
  obtain ⟨high_isNaN, second_isNaN⟩ := isNaN_eq_false_of_add highIsNumber
  have places := (le_iff_place_le low_isNaN high_isNaN).mp below
  have otherPlaces := (le_iff_place_le first_isNaN second_isNaN).mp ordered
  by_cases atBottom : place low = ⊥ ∨ place first = ⊥
  · rw [le_iff_place_le lowIsNumber highIsNumber, place_add_eq_bot lowIsNumber atBottom]
    exact bot_le
  by_cases atTop : place high = ⊤ ∨ place second = ⊤
  · rw [le_iff_place_le lowIsNumber highIsNumber, place_add_eq_top highIsNumber atTop]
    exact le_top
  rw [not_or] at atBottom atTop
  -- Without an infinity at the outer ends there is none between them.
  have lowFinite := isFinite_of_place low_isNaN (ne_top_of_le_ne_top atTop.1 places) atBottom.1
  have highFinite := isFinite_of_place high_isNaN atTop.1 (ne_bot_of_le_ne_bot atBottom.1 places)
  have firstFinite :=
    isFinite_of_place first_isNaN (ne_top_of_le_ne_top atTop.2 otherPlaces) atBottom.2
  have secondFinite :=
    isFinite_of_place second_isNaN atTop.2 (ne_bot_of_le_ne_bot atBottom.2 otherPlaces)
  exact add_le_add_of_finite lowFinite highFinite firstFinite secondFinite
    ((le_iff_value_le lowFinite highFinite).mp below)
    ((le_iff_value_le firstFinite secondFinite).mp ordered)

/-- A running sum that is no NaN at the end was none at the start. -/
theorem isNaN_eq_false_of_foldl_add
    {values : List Float}
    {start : Float}
    (isNumber : (values.foldl (· + ·) start).isNaN = false) :
    start.isNaN = false := by
  induction values generalizing start with
  | nil => exact isNumber
  | cons value values inductionHypothesis =>
      exact (isNaN_eq_false_of_add (inductionHypothesis isNumber)).1

/-- Running sums are in the order of their terms. -/
theorem foldl_add_le_foldl_add
    {lows highs : List Float}
    (ordered : List.Forall₂ (· ≤ ·) lows highs)
    {low high : Float}
    (below : low ≤ high)
    (lowIsNumber : (lows.foldl (· + ·) low).isNaN = false)
    (highIsNumber : (highs.foldl (· + ·) high).isNaN = false) :
    lows.foldl (· + ·) low ≤ highs.foldl (· + ·) high := by
  induction ordered generalizing low high with
  | nil => exact below
  | cons firstOrdered _ inductionHypothesis =>
      exact inductionHypothesis
        (add_le_add_of_isNumber (isNaN_eq_false_of_foldl_add lowIsNumber)
          (isNaN_eq_false_of_foldl_add highIsNumber) below firstOrdered)
        lowIsNumber highIsNumber

theorem sum_le_sum
    {lows highs : List Float}
    (ordered : List.Forall₂ (· ≤ ·) lows highs)
    (lowIsNumber : (sum lows).isNaN = false)
    (highIsNumber : (sum highs).isNaN = false) :
    sum lows ≤ sum highs :=
  foldl_add_le_foldl_add ordered (by decide +kernel) lowIsNumber highIsNumber

/-! ## Quotients -/

section Quotient

variable
  {divisor : Float}
  (divisorFinite : divisor.isFinite = true)
  (positive : 0 < value divisor)

include divisorFinite positive

theorem unpack_div_of_infinity
    {number : Float}
    {sign : Sign}
    (unpacked : number.toModel.unpack = .infinity sign) :
    (number / divisor).toModel.unpack = .infinity sign := by
  have isNumber : number.isNaN = false := by
    change number.toModel.unpack.isNaN = false
    rw [unpacked]
    rfl
  rw [unpack_div isNumber divisorFinite positive.ne', unpacked]
  have divisorUnpacked := isFiniteWith_unpack divisorFinite
  generalize value divisor = point at positive divisorUnpacked
  generalize divisor.toModel.unpack = other at divisorUnpacked ⊢
  cases divisorUnpacked with
  | zero _ => exact absurd rfl positive.ne
  | finite divisorSign significandPositive _ =>
      cases divisorSign with
      | positive => cases sign <;> rfl
      | negative =>
          rw [signed] at positive
          exact absurd positive (not_lt.mpr (neg_nonpos.mpr (by positivity)))

/-- Quotients by a positive number are in the order of the dividends. -/
theorem div_le_div_of_isNumber
    {low high : Float}
    (lowIsNumber : low.isNaN = false)
    (highIsNumber : high.isNaN = false)
    (below : low ≤ high) :
    low / divisor ≤ high / divisor := by
  have lowQuotient := isNaN_div lowIsNumber divisorFinite positive.ne'
  have highQuotient := isNaN_div highIsNumber divisorFinite positive.ne'
  have places := (le_iff_place_le lowIsNumber highIsNumber).mp below
  by_cases atBottom : place low = ⊥
  · have quotientAtBottom : place (low / divisor) = ⊥ := (place_eq_bot_iff _).mpr
      (unpack_div_of_infinity divisorFinite positive ((place_eq_bot_iff low).mp atBottom))
    rw [le_iff_place_le lowQuotient highQuotient, quotientAtBottom]
    exact bot_le
  by_cases atTop : place high = ⊤
  · have quotientAtTop : place (high / divisor) = ⊤ := (place_eq_top_iff _).mpr
      (unpack_div_of_infinity divisorFinite positive ((place_eq_top_iff high).mp atTop))
    rw [le_iff_place_le lowQuotient highQuotient, quotientAtTop]
    exact le_top
  have lowFinite := isFinite_of_place lowIsNumber (ne_top_of_le_ne_top atTop places) atBottom
  have highFinite := isFinite_of_place highIsNumber atTop (ne_bot_of_le_ne_bot atBottom places)
  exact div_le_div_of_finite lowFinite highFinite divisorFinite
    ((le_iff_value_le lowFinite highFinite).mp below) positive

end Quotient

/-! ## Magnitudes -/

theorem neg_roundWithAccuracy
    (sign : Sign)
    (magnitude : Nat)
    (exponent : Int)
    (accuracy : Accuracy) :
    (roundWithAccuracy Format.binary64 sign magnitude exponent accuracy).neg =
      roundWithAccuracy Format.binary64 (-sign) magnitude exponent accuracy := by
  simp only [roundWithAccuracy]
  split <;> rfl

/-- Rounding does not depend on the sign. -/
theorem neg_normalize_alike
    (multiple exponent : Int)
    (zeroSign otherSign : Sign) :
    AreAlike (UnpackedFloat.normalize Format.binary64 multiple exponent zeroSign).neg
      (UnpackedFloat.normalize Format.binary64 (-multiple) exponent otherSign) := by
  unfold UnpackedFloat.normalize
  rcases lt_trichotomy multiple 0 with below | rfl | above
  · rw [compare_lt_iff_lt.mpr below, compare_gt_iff_gt.mpr (neg_pos.mpr below)]
    dsimp only [UnpackedFloat.round]
    rw [neg_roundWithAccuracy]
    exact .same _
  · exact .zeros _ _
  · rw [compare_gt_iff_gt.mpr above, compare_lt_iff_lt.mpr (neg_neg_of_pos above), neg_neg]
    dsimp only [UnpackedFloat.round]
    rw [neg_roundWithAccuracy]
    exact .same _

theorem IsFiniteWith.neg_sub_alike
    {first second : UnpackedFloat}
    {firstValue secondValue : ℚ}
    (firstFinite : IsFiniteWith first firstValue)
    (secondFinite : IsFiniteWith second secondValue) :
    AreAlike (UnpackedFloat.sub Format.binary64 first second).neg
      (UnpackedFloat.sub Format.binary64 second first) := by
  cases firstFinite with
  | zero firstSign =>
      cases secondFinite with
      | zero secondSign => cases firstSign <;> cases secondSign <;> exact .zeros _ _
      | finite secondSign positive canonical => cases secondSign <;> exact .same _
  | @finite firstSign firstSignificand firstExponent firstPositive firstCanonical =>
      cases secondFinite with
      | zero secondSign => cases firstSign <;> exact .same _
      | @finite secondSign secondSignificand secondExponent secondPositive secondCanonical =>
          dsimp only [UnpackedFloat.sub]
          have turned := neg_normalize_alike
            (firstSign.apply (decreaseExponent firstSignificand firstExponent
                (min firstExponent secondExponent)).1 -
              secondSign.apply (decreaseExponent secondSignificand secondExponent
                (min firstExponent secondExponent)).1)
            (min firstExponent secondExponent) .positive .positive
          rw [min_comm secondExponent firstExponent]
          rwa [neg_sub] at turned

theorem abs_saturated_neg (number : UnpackedFloat) :
    (saturated number.neg).abs = (saturated number).abs := by
  cases number with
  | notANumber | infinity _ | zero _ => rfl
  | finite sign significand exponent positive =>
      by_cases high : 971 < exponent
      · simp only [saturated, UnpackedFloat.neg, if_pos high]
        rfl
      · simp only [saturated, UnpackedFloat.neg, if_neg high]
        rfl

theorem AreAlike.saturated
    {first second : UnpackedFloat}
    (alike : AreAlike first second) :
    AreAlike (Binary64.saturated first) (Binary64.saturated second) := by
  cases alike with
  | same => exact .same _
  | zeros => exact .zeros _ _

/-- A distance does not depend on the direction in which it is taken. -/
theorem abs_sub_alike
    {first second : Float}
    (firstFinite : first.isFinite = true)
    (secondFinite : second.isFinite = true) :
    IsAlike (first - second).abs (second - first).abs := by
  have firstUnpacked := isFiniteWith_unpack firstFinite
  have secondUnpacked := isFiniteWith_unpack secondFinite
  have difference : (first - second).toModel.unpack = _ :=
    unpack_pack (firstUnpacked.isRounding_sub secondUnpacked).reduced
  have turned : (second - first).toModel.unpack = _ :=
    unpack_pack (secondUnpacked.isRounding_sub firstUnpacked).reduced
  have alike := (firstUnpacked.neg_sub_alike secondUnpacked).saturated.abs
  rw [abs_saturated_neg, ← difference, ← turned] at alike
  exact alike.pack

/-- A number that is not negative is its own magnitude, up to the sign of zero. -/
theorem abs_alike
    {number : Float}
    (isNumber : number.isNaN = false)
    (nonnegative : 0.0 ≤ number) :
    IsAlike number.abs number := by
  by_cases finite : number.isFinite = true
  · rw [le_iff_value_le isFinite_zero finite, value_zero] at nonnegative
    exact isAlike_of_value_eq (isFinite_abs finite) finite
      (by rw [value_abs finite, abs_of_nonneg nonnegative])
  · have unpacked := (place_eq_top_iff number).mp
      (place_eq_top_of_nonneg isNumber nonnegative finite)
    have packed : (Float.Model.pack (.infinity .positive)).unpack = .infinity .positive :=
      @unpack_pack (.infinity .positive) trivial
    change AreAlike (Float.Model.pack number.toModel.unpack.abs).unpack number.toModel.unpack
    rw [unpacked, UnpackedFloat.abs, packed]
    exact .same _

section Distance

variable
  {low high : Float}
  (lowFinite : low.isFinite = true)
  (highFinite : high.isFinite = true)

include lowFinite highFinite

theorem zero_le_sub (below : value low ≤ value high) : 0.0 ≤ high - low := by
  have vanishes := (sub_beq_zero_iff lowFinite lowFinite).mpr rfl
  have finite := isFinite_sub_of_value_eq lowFinite lowFinite rfl
  rw [beq_iff_value_eq finite isFinite_zero] at vanishes
  rw [(isAlike_of_value_eq isFinite_zero finite vanishes.symm).le_iff (.refl _)]
  exact sub_le_sub_of_finite lowFinite highFinite lowFinite lowFinite below le_rfl

/-- The distance of numbers between bounds is not greater than that of the bounds. -/
theorem abs_sub_le_of_between
    {first second : Float}
    (firstFinite : first.isFinite = true)
    (secondFinite : second.isFinite = true)
    (firstBetween : value low ≤ value first ∧ value first ≤ value high)
    (secondBetween : value low ≤ value second ∧ value second ≤ value high) :
    (first - second).abs ≤ high - low := by
  have distance {near far : Float} (nearFinite : near.isFinite = true)
      (farFinite : far.isFinite = true) (above : value low ≤ value near)
      (below : value far ≤ value high) (ordered : value near ≤ value far) :
      (far - near).abs ≤ high - low := by
    have isNumber := (roundsTo_sub farFinite nearFinite).isNaN_eq_false
    rw [(abs_alike isNumber (zero_le_sub nearFinite farFinite ordered)).le_iff (.refl _)]
    exact sub_le_sub_of_finite farFinite highFinite nearFinite lowFinite below above
  rcases le_total (value second) (value first) with ordered | ordered
  · exact distance secondFinite firstFinite secondBetween.1 firstBetween.2 ordered
  · rw [(abs_sub_alike firstFinite secondFinite).le_iff (.refl _)]
    exact distance firstFinite secondFinite firstBetween.1 secondBetween.2 ordered

end Distance

end Binary64
end LatencyChart
