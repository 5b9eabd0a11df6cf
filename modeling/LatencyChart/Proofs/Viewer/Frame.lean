import LatencyChart.Proofs.Number.Whole
import LatencyChart.Viewer
import Mathlib.Algebra.Order.Round

/-!
# The size of a chart in a window

A length in pixels is the nearest whole number, with halves upwards, and at least one and at most
the greatest number of 32 bits.  An infinite length is cut off at that greatest number.  What is
not a number counts as zero, so it takes one pixel.
-/

namespace LatencyChart
namespace Frame

open Binary64 (signed unpackedValue)
open Float.Model.UnpackedFloat

/-- The rational length that a number stands for.  What is not finite counts as zero. -/
def exactLength (length : Float32) : ℚ :=
  unpackedValue length.toModel.unpack

variable {length : Float32}

theorem halves_of_infinity (infinite : length.toModel.unpack = .infinity .positive) :
    halves length = Nat.pow 2 33 := by
  rw [halves, infinite]

/-- Twice a length that is not infinite is cut off at the point, and at zero. -/
theorem halves_of_not_infinity (notInfinite : length.toModel.unpack ≠ .infinity .positive) :
    (halves length : Int) = max 0 ⌊2 * exactLength length⌋ := by
  unfold halves exactLength
  cases unpacked : length.toModel.unpack with
  | notANumber => simp [unpackedValue]
  | zero sign => simp [unpackedValue]
  | infinity sign =>
      cases sign with
      | positive => exact absurd unpacked notInfinite
      | negative => simp [unpackedValue]
  | finite sign significand exponent positive =>
      have magnitude : (0 : ℚ) < significand * 2 ^ exponent := by positivity
      cases sign with
      | positive =>
          have doubled : 2 * ((significand : ℚ) * 2 ^ exponent) =
              significand * 2 ^ (exponent + 1) := by
            rw [zpow_add_one₀ two_ne_zero]
            ring
          simp only [unpackedValue, signed, doubled, ← Binary64.roundToInt_positive]
          omega
      | negative =>
          have below : ⌊2 * -((significand : ℚ) * 2 ^ exponent)⌋ ≤ 0 := by
            rw [Int.floor_le_iff]
            push_cast
            linarith
          simp only [unpackedValue, signed]
          omega

/-- A chart has at least one column and one row in every window. -/
theorem one_le_pixels (length : Float32) : 1 ≤ pixels length :=
  Nat.le_max_left ..

theorem pixels_le (length : Float32) : pixels length ≤ 4294967295 :=
  Nat.max_le.mpr ⟨by decide, Nat.min_le_left ..⟩

/-- The size of a chart in a window has a column and a row at least, and it is short. -/
theorem isShort_size (frame : Frame) : frame.size.IsShort :=
  ⟨Nat.lt_succ_of_le (pixels_le _), Nat.lt_succ_of_le (pixels_le _)⟩

/-- An infinite length takes all the pixels that 32 bits can count. -/
theorem pixels_of_infinity (infinite : length.toModel.unpack = .infinity .positive) :
    pixels length = 4294967295 := by
  rw [pixels, halves_of_infinity infinite]
  rfl

/-- Any other length is rounded. -/
theorem pixels_of_not_infinity (notInfinite : length.toModel.unpack ≠ .infinity .positive) :
    (pixels length : Int) = max 1 (min 4294967295 (round (exactLength length))) := by
  have halved := halves_of_not_infinity notInfinite
  rw [round_eq_div]
  unfold pixels
  omega

end Frame
end LatencyChart
