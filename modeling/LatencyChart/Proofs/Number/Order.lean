import LatencyChart.Proofs.Number.Rounding
import Mathlib.Order.WithBot

/-!
# The order of numbers

Numbers that are not NaN stand among the rationals and two points outside of them, which are the
infinities.  They are compared as these places are, so they are in a linear order.  A NaN compares
with nothing.
-/

namespace LatencyChart
namespace Binary64

open Float.Model (UnpackedFloat)
open Float.Model.UnpackedFloat

/-- The rationals with a least and a greatest point. -/
abbrev Place : Type := WithBot (WithTop ℚ)

/-- The place of a rational. -/
def Place.ofRat (point : ℚ) : Place := ((point : WithTop ℚ) : WithBot (WithTop ℚ))

/-- The place of an unpacked number.  It says nothing where the number is NaN. -/
def unpackedPlace : UnpackedFloat → Place
  | .infinity .positive => ⊤
  | .infinity .negative => ⊥
  | number => .ofRat (unpackedValue number)

/-- The place of a number. -/
def place (number : Float) : Place :=
  unpackedPlace number.toModel.unpack

/-- An unpacked number that is not NaN, at its place. -/
inductive IsAt : UnpackedFloat → Place → Prop
  | finite {number : UnpackedFloat} {point : ℚ} (finite : IsFiniteWith number point) :
      IsAt number (.ofRat point)
  | positive : IsAt (.infinity .positive) ⊤
  | negative : IsAt (.infinity .negative) ⊥

theorem compare_ofRat (first second : ℚ) :
    compare (Place.ofRat first) (Place.ofRat second) = compare first second := by
  have ofRat_lt {low high : ℚ} (below : low < high) : Place.ofRat low < Place.ofRat high :=
    WithBot.coe_lt_coe.mpr (WithTop.coe_lt_coe.mpr below)
  rcases lt_trichotomy first second with below | rfl | above
  · rw [compare_lt_iff_lt.mpr below, compare_lt_iff_lt.mpr (ofRat_lt below)]
  · rw [compare_eq_iff_eq.mpr rfl, compare_eq_iff_eq.mpr rfl]
  · rw [compare_gt_iff_gt.mpr above, compare_gt_iff_gt.mpr (ofRat_lt above)]

theorem ofRat_lt_top (point : ℚ) : Place.ofRat point < ⊤ :=
  WithBot.coe_lt_coe.mpr (WithTop.coe_lt_top point)

theorem bot_lt_ofRat (point : ℚ) : ⊥ < Place.ofRat point :=
  WithBot.bot_lt_coe _

/-- Unpacked numbers are compared as their places are. -/
theorem IsAt.compare_eq
    {first second : UnpackedFloat}
    {firstPlace secondPlace : Place}
    (firstAt : IsAt first firstPlace)
    (secondAt : IsAt second secondPlace) :
    first.compare second = some (compare firstPlace secondPlace) := by
  cases firstAt with
  | finite firstFinite =>
      cases secondAt with
      | finite secondFinite => rw [compare_unpacked firstFinite secondFinite, compare_ofRat]
      | positive =>
          rw [compare_lt_iff_lt.mpr (ofRat_lt_top _)]
          cases firstFinite <;> rfl
      | negative =>
          rw [compare_gt_iff_gt.mpr (bot_lt_ofRat _)]
          cases firstFinite <;> rfl
  | positive =>
      cases secondAt with
      | finite secondFinite =>
          rw [compare_gt_iff_gt.mpr (ofRat_lt_top _)]
          cases secondFinite <;> rfl
      | positive =>
          rw [compare_eq_iff_eq.mpr rfl]
          rfl
      | negative =>
          rw [compare_gt_iff_gt.mpr bot_lt_top]
          rfl
  | negative =>
      cases secondAt with
      | finite secondFinite =>
          rw [compare_lt_iff_lt.mpr (bot_lt_ofRat _)]
          cases secondFinite <;> rfl
      | positive =>
          rw [compare_lt_iff_lt.mpr bot_lt_top]
          rfl
      | negative =>
          rw [compare_eq_iff_eq.mpr rfl]
          rfl

/-- A number that is not NaN is at its place. -/
theorem isAt_place
    {number : Float}
    (isNumber : number.isNaN = false) :
    IsAt number.toModel.unpack (place number) := by
  by_cases finite : number.isFinite = true
  · have unpacked := isFiniteWith_unpack finite
    have placed : place number = .ofRat (value number) := by
      unfold place value
      generalize value number = point at unpacked
      generalize number.toModel.unpack = other at unpacked
      cases unpacked <;> rfl
    rw [placed]
    exact .finite unpacked
  · obtain ⟨sign, unpacked⟩ := exists_infinity isNumber finite
    unfold place
    rw [unpacked]
    cases sign with
    | positive => exact .positive
    | negative => exact .negative

section Comparison

variable
  {first second : Float}
  (firstIsNumber : first.isNaN = false)
  (secondIsNumber : second.isNaN = false)

include firstIsNumber secondIsNumber

theorem compare_unpack_place :
    first.toModel.unpack.compare second.toModel.unpack =
      some (compare (place first) (place second)) :=
  (isAt_place firstIsNumber).compare_eq (isAt_place secondIsNumber)

theorem lt_iff_place_lt :
    first < second ↔ place first < place second := by
  change decide ((first.toModel.unpack.compare second.toModel.unpack == some .lt) = true) =
    true ↔ _
  rw [compare_unpack_place firstIsNumber secondIsNumber, decide_eq_true_iff, beq_iff_eq,
    Option.some_inj, compare_lt_iff_lt]

theorem le_iff_place_le :
    first ≤ second ↔ place first ≤ place second := by
  change decide ((first.toModel.unpack.compare second.toModel.unpack).any (·.isLE) = true) =
    true ↔ _
  rw [compare_unpack_place firstIsNumber secondIsNumber, decide_eq_true_iff, Option.any_some,
    ← Ordering.ne_gt_iff_isLE]
  exact compare_le_iff_le

theorem beq_iff_place_eq :
    (first == second) = true ↔ place first = place second := by
  change (first.toModel.unpack.compare second.toModel.unpack == some .eq) = true ↔ _
  rw [compare_unpack_place firstIsNumber secondIsNumber, beq_iff_eq, Option.some_inj,
    compare_eq_iff_eq]

end Comparison

/-! ## Comparison with NaN -/

theorem unpack_of_isNaN
    {number : Float}
    (isNaN : number.isNaN = true) :
    number.toModel.unpack = .notANumber := by
  change number.toModel.unpack.isNaN = true at isNaN
  cases unpacked : number.toModel.unpack with
  | notANumber => rfl
  | infinity | zero | finite =>
      rw [unpacked] at isNaN
      contradiction

section NotANumber

variable
  {first second : Float}
  (noNumber : first.isNaN = true ∨ second.isNaN = true)

include noNumber

theorem compare_unpack_of_isNaN :
    first.toModel.unpack.compare second.toModel.unpack = none := by
  rcases noNumber with firstIsNaN | secondIsNaN
  · rw [unpack_of_isNaN firstIsNaN]
    rfl
  · rw [unpack_of_isNaN secondIsNaN]
    cases first.toModel.unpack <;> rfl

theorem not_lt_of_isNaN : ¬first < second := by
  change ¬decide ((first.toModel.unpack.compare second.toModel.unpack == some .lt) = true) = true
  rw [compare_unpack_of_isNaN noNumber]
  decide

theorem beq_eq_false_of_isNaN : (first == second) = false := by
  change (first.toModel.unpack.compare second.toModel.unpack == some .eq) = false
  rw [compare_unpack_of_isNaN noNumber]
  rfl

end NotANumber

end Binary64
end LatencyChart
