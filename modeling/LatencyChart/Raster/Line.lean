import LatencyChart.Raster.Bitmap

/-!
# Thin lines

Lines are one pixel wide. Horizontal and vertical lines cover whole pixels. A sloped line
is followed along its longer direction: at each step it covers two neighbouring pixels
according to how far the line is from their centres.
-/

namespace LatencyChart

/-- The course of a sloped line along its longer direction, seen so that this direction is
`x`. -/
structure Course where
  /-- Whether the longer direction is that of the rows. -/
  steep : Bool
  first : Point
  last : Point
  /-- The extent of the image along and across the longer direction. -/
  size : Size

namespace Course

/-- The course between two points in an image of a given size. -/
def between (size : Size) (first last : Point) : Course :=
  let steep : Bool := (last.x - first.x).natAbs < (last.y - first.y).natAbs
  let seen (point : Point) : Point := if steep then point.transpose else point
  let ordered : Bool := (seen first).x ≤ (seen last).x
  { steep := steep
    first := if ordered then seen first else seen last
    last := if ordered then seen last else seen first
    size := if steep then ⟨size.height, size.width⟩ else size }

/-- The change of `y` for each step of `x`. -/
def gradient (course : Course) : Float :=
  Binary64.ofInt (course.last.y - course.first.y) / Binary64.ofInt (course.last.x - course.first.x)

/-- The first step whose pixels lie inside the image. -/
def start (course : Course) : Int :=
  let inside := max 0 (min course.first.y (course.size.height - 2))
  course.first.x + Binary64.toInt32 (Binary64.ceil
    (Binary64.ofInt (inside - course.first.y) / course.gradient).abs)

/-- The last step whose pixels are both covered. -/
def stop (course : Course) : Int :=
  let inside := max 0 (min course.last.y (course.size.height - 1))
  let steps := Binary64.toInt32 (Binary64.floor
    (Binary64.ofInt (inside - course.first.y) / course.gradient))
  min (min course.last.x (course.size.width - 2)) (course.first.x + steps - 1)

/-- Cover a pixel of the course. -/
def cover
    (course : Course)
    (color : Color)
    (x y : Int)
    (opacity : Float)
    (bitmap : Bitmap) : Bitmap :=
  if course.steep then bitmap.cover color opacity y x else bitmap.cover color opacity x y

/-- Cover both pixels of consecutive steps. The answer also holds the height after the
last one. -/
def coverSteps
    (course : Course)
    (color : Color)
    (gradient : Float) : Nat → Int → Float → Bitmap → Bitmap × Float
  | 0, _, y, bitmap => (bitmap, y)
  | count + 1, x, y, bitmap =>
      let row := Binary64.toInt32 y
      let below := Binary64.floor y
      let upper := course.cover color x row (1.0 + below - y) bitmap
      coverSteps course color gradient count (x + 1) (y + gradient)
        (course.cover color x (row + 1) (y - below) upper)

/-- Cover the step after the last full one, as far as the line still reaches it. -/
def coverLast
    (course : Course)
    (color : Color)
    (stop : Int)
    (y : Float)
    (bitmap : Bitmap) : Bitmap :=
  let height := Binary64.ofInt course.last.y
  if stop < course.last.x ∧ y < height then
    let row := Binary64.toInt32 y
    let below := Binary64.floor y
    let upper :=
      if 0.00001 < 1.0 + below - y then
        course.cover color (stop + 1) row (1.0 + below - y) bitmap
      else
        bitmap
    if 0.00001 < y - below ∧ y + 1.0 < height then
      course.cover color (stop + 1) (row + 1) (y - below) upper
    else
      upper
  else
    bitmap

/-- Draw the course. -/
def draw
    (course : Course)
    (color : Color)
    (bitmap : Bitmap) : Bitmap :=
  let gradient := course.gradient
  let start := course.start
  let stop := course.stop
  let y := Binary64.ofInt course.first.y + Binary64.ofInt (start - course.first.x) * gradient
  let (covered, y) := course.coverSteps color gradient (stop - start + 1).toNat start y bitmap
  course.coverLast color stop y covered

end Course

namespace Bitmap

/-- Draw a line of full cover between two points. A horizontal line stops one pixel short
when its first point is the right one. -/
def line
    (bitmap : Bitmap)
    (color : Color)
    (first last : Point) : Bitmap :=
  if first.y = last.y then bitmap.fillBox color first ⟨last.x + 1, last.y + 1⟩
  else if first.x = last.x then
    overRange (fun y picture => picture.set color first.x y)
      ((first.y - last.y).natAbs + 1) (min first.y last.y) bitmap
  else (Course.between bitmap.size first last).draw color bitmap

/-- Draw a horizontal or vertical line of partial cover. -/
def faintLine
    (bitmap : Bitmap)
    (color : Color)
    (opacity : Float)
    (first last : Point) : Bitmap :=
  bitmap.coverBox color opacity first ⟨last.x + 1, last.y + 1⟩

end Bitmap
end LatencyChart
