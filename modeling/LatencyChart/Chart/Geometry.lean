import LatencyChart.Chart.Style

/-!
# Points and boxes

Pixels are addressed by integer points, with `x` to the right and `y` downwards. A box
keeps its left and top edges and stops before its right and bottom edges; it may be empty
or even turned over when there is no room for it.
-/

namespace LatencyChart

/-- The address of a pixel. -/
structure Point where
  x : Int
  y : Int
  deriving DecidableEq, Repr

/-- A point with its coordinates exchanged. -/
def Point.transpose (point : Point) : Point := ⟨point.y, point.x⟩

/-- A range of pixels in both directions. -/
structure Box where
  left : Int
  top : Int
  right : Int
  bottom : Int
  deriving DecidableEq, Repr

namespace Box

/-- The number of columns. -/
def width (box : Box) : Int := box.right - box.left

/-- The number of rows. -/
def height (box : Box) : Int := box.bottom - box.top

/-- The box of a whole figure. -/
def ofSize (size : Size) : Box := ⟨0, 0, size.width, size.height⟩

/-- A box with a margin taken off on every side. -/
def inset (box : Box) (margin : Int) : Box :=
  ⟨box.left + margin, box.top + margin, box.right - margin, box.bottom - margin⟩

/-- The point nearest to a given one between the edges of a box, both edges included. -/
def clamp (box : Box) (point : Point) : Point :=
  ⟨max box.left (min point.x box.right), max box.top (min point.y box.bottom)⟩

end Box
end LatencyChart
