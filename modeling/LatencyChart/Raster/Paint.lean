import LatencyChart.Chart.Basic
import LatencyChart.Raster.Disc
import LatencyChart.Raster.Outline
import LatencyChart.Raster.Polygon

/-!
# Painting

Elements are painted onto a bitmap one over the other. Texts leave no pixels.
-/

namespace LatencyChart
namespace Bitmap

/-- Draw a line through all points of a list, piece by piece. -/
def thinPath
    (bitmap : Bitmap)
    (color : Color)
    (points : List Point) : Bitmap :=
  (points.zip points.tail).foldl (fun picture piece => picture.line color piece.1 piece.2) bitmap

/-- Paint one element. -/
def paint (bitmap : Bitmap) : Element → Bitmap
  | .background color => filled bitmap.size color
  | .segment first last stroke => bitmap.faintLine stroke.color stroke.opacity first last
  | .path points stroke =>
      if stroke.width = 1 then bitmap.thinPath stroke.color points
      else bitmap.polygon stroke.color (Outline.ofPath stroke.width points)
  | .disc center radius color => bitmap.disc color center radius
  | .caption _ => bitmap

/-- Paint a drawing onto a black picture. -/
def ofDrawing (size : Size) (drawing : List Element) : Bitmap :=
  drawing.foldl paint (blank size)

end Bitmap
end LatencyChart
