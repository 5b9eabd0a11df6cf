import LatencyChart.Raster.Line

/-!
# Discs

A disc is filled with horizontal lines in its middle part and with vertical lines beyond
it. The pixels that its edge crosses are covered in part.
-/

namespace LatencyChart
namespace Bitmap

/-- Draw the lines of a disc at one distance from its centre, and the edge pixels at their
ends. -/
def discStep
    (color : Color)
    (center : Point)
    (radius up down : Int)
    (step : Int)
    (bitmap : Bitmap) : Bitmap :=
  let distance := step - radius
  let away := Binary64.ofInt distance * Binary64.ofInt distance
  let extent := Float.sqrt
    (Binary64.ofInt radius * Binary64.ofInt radius - (if away < 0.00001 then 0.00001 else away))
  let reach := Binary64.toInt32 (Binary64.floor extent)
  let edge := extent - Binary64.floor extent
  let y := center.y + distance
  let x := center.x + distance
  let lines :=
    ((bitmap.line color ⟨center.x - reach, y⟩ ⟨center.x + reach, y⟩).line
      color ⟨x, center.y - reach⟩ ⟨x, up - 1⟩).line
      color ⟨x, down + 1⟩ ⟨x, center.y + reach⟩
  (((lines.cover color edge (center.x - reach - 1) y).cover
    color edge (center.x + reach + 1) y).cover
    color edge x (center.y - reach - 1)).cover
    color edge x (center.y + reach + 1)

/-- Draw a disc. -/
def disc
    (bitmap : Bitmap)
    (color : Color)
    (center : Point)
    (radius : Nat) : Bitmap :=
  let size := Float.ofNat radius
  let halfRoot := Float.sqrt 2.0 / 2.0
  let first := Binary64.toInt32 (Binary64.ceil (size * (1.0 - halfRoot)))
  let last := Binary64.toInt32 (Binary64.floor (size * (1.0 + halfRoot)))
  overRange
    (discStep color center radius (first + center.y - radius) (last + center.y - radius))
    (last - first + 1).toNat first bitmap

end Bitmap
end LatencyChart
