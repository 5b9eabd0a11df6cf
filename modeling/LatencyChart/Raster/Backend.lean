import LatencyChart.Chart.Canvas
import LatencyChart.Raster.Size

/-!
# Drawing into pictures

A backend draws elements into pictures, and may fail at each of them. The chart of a series
is drawn into a black picture, which exists only when its bytes fit into one buffer.
-/

namespace LatencyChart

/-- What draws into pictures. No operation changes the size of a picture, whether it fails
or not. -/
structure Backend where
  canvas : Canvas Bitmap
  size_draw (element : Element) (bitmap : Bitmap) :
    (canvas.draw element bitmap).2.size = bitmap.size
  size_present (bitmap : Bitmap) : (canvas.present bitmap).2.size = bitmap.size

/-- The backend that paints every element. -/
def Backend.painter : Backend where
  canvas :=
    { draw := fun element bitmap => (.ok (), bitmap.paint element)
      present := fun bitmap => (.ok (), bitmap) }
  size_draw element bitmap := Bitmap.size_paint bitmap element
  size_present _ := rfl

/-- A picture of a size has a buffer: it takes fewer than `2 ^ 63` bytes, three per pixel. -/
def Size.HasBuffer (size : Size) : Prop :=
  size.width * size.height * 3 < Nat.pow 2 63

instance (size : Size) : Decidable size.HasBuffer :=
  inferInstanceAs (Decidable (_ < _))

namespace Bitmap

/-- The black picture of a size that has a buffer. -/
def blank? (size : Size) : Option Bitmap :=
  if size.HasBuffer then some (blank size) else none

/-- Draw the chart of a series into a new picture. There is no answer at a size without a
buffer. -/
def ofSeries?
    (backend : Backend)
    (series : Series)
    (style : Style)
    (size : Size) : Option (Except DrawFault Bitmap) :=
  (blank? size).map fun empty =>
    let (outcome, drawn) := backend.canvas.drawSeries series style size empty
    outcome.map fun _ => drawn

end Bitmap
end LatencyChart
