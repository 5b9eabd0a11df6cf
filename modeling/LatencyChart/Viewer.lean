import LatencyChart.Raster.Backend

/-!
# The viewer

The viewer shows a chart in a window. In each frame it works out the size of the chart in
pixels. The chart is drawn anew when that size differs from the size of the last attempt,
and never otherwise. After a failed attempt the window shows the failure instead of a
picture.
-/

namespace LatencyChart

/-- The state of a window during one frame. -/
structure Frame where
  /-- The width of the window in points. -/
  width : Float32
  /-- The height of the window in points. -/
  height : Float32
  pixelsPerPoint : Float32

namespace Frame

/-- The room around the chart on both sides together, in points. -/
def border : Float32 := 16.0

/-- Twice a length, cut off at the point. Infinity counts as `2 ^ 33`, and what is not
positive as zero. -/
def halves (length : Float32) : Nat :=
  match length.toModel.unpack with
  | .finite .positive significand exponent _ =>
      (Float.Model.UnpackedFloat.roundToInt .positive significand (exponent + 1)).toNat
  | .infinity .positive => Nat.pow 2 33
  | _ => 0

/-- The number of pixels of a length, rounded with halves upwards. It is at least one, and
at most the greatest number of 32 bits. -/
def pixels (length : Float32) : Nat :=
  max 1 (min 4294967295 ((halves length + 1) / 2))

/-- The size of the chart in pixels. -/
def size (frame : Frame) : Size :=
  ⟨pixels ((frame.width - border) * frame.pixelsPerPoint),
    pixels ((frame.height - border) * frame.pixelsPerPoint)⟩

end Frame

/-- What a machine has for showing pictures. -/
structure Display where
  /-- What draws the pictures. -/
  backend : Backend
  /-- What comes of a window: nothing when it was closed, and a text when there was none. -/
  window : Except String Unit

/-- The display of a machine without a window system. -/
def Display.missing : Display :=
  ⟨.painter, .error "no window system is available"⟩

/-- A window that shows a chart. -/
structure Viewer where
  series : Series
  style : Style
  /-- The last picture that was drawn. -/
  texture? : Option Bitmap
  /-- The size of the last attempt, and zero by zero before the first. -/
  renderedSize : Size
  /-- Why the last attempt failed, if it did. -/
  failure? : Option DrawFault

namespace Viewer

/-- The viewer of a series before the first frame. -/
def ofSeries (series : Series) (style : Style) : Viewer :=
  ⟨series, style, none, ⟨0, 0⟩, none⟩

/-- What the window shows. -/
inductive View
  | nothing
  | message (text : String)
  | picture (bitmap : Bitmap)

/-- What the window shows in the current state. -/
def view (viewer : Viewer) : View :=
  match viewer.failure?, viewer.texture? with
  | some fault, _ => .message fault.message
  | none, some bitmap => .picture bitmap
  | none, none => .nothing

/-- What a frame does besides changing the state. -/
structure Activity where
  uploads : List Bitmap
  events : List Event

/-- Take in what came of drawing the chart at a size. -/
def accept (viewer : Viewer) (size : Size) : Except DrawFault Bitmap → Viewer × Activity
  | .ok bitmap =>
      ({ viewer with texture? := some bitmap, renderedSize := size, failure? := none },
        ⟨[bitmap], []⟩)
  | .error fault =>
      ({ viewer with renderedSize := size, failure? := some fault },
        ⟨[], [.redrawFailed size.width size.height fault]⟩)

/-- Draw the chart at a size. There is no answer at a size without a buffer. -/
def redraw
    (backend : Backend)
    (viewer : Viewer)
    (size : Size) : Option (Viewer × Activity) :=
  (Bitmap.ofSeries? backend viewer.series viewer.style size).map (viewer.accept size)

/-- Go through one frame. -/
def step
    (backend : Backend)
    (viewer : Viewer)
    (frame : Frame) : Option (Viewer × Activity) :=
  if frame.size = viewer.renderedSize then some (viewer, ⟨[], []⟩)
  else viewer.redraw backend frame.size

/-- Go through frames in order. The answer tells what each of them did. -/
def run
    (backend : Backend)
    (viewer : Viewer) : List Frame → Option (Viewer × List Activity)
  | [] => some (viewer, [])
  | frame :: frames => do
      let (next, activity) ← viewer.step backend frame
      let (final, activities) ← next.run backend frames
      return (final, activity :: activities)

/-- Show a series in a window until it is closed. The chart is drawn once before, so that a
series without a chart is refused at once. There is no answer when the figure or its picture
is too large. -/
def openWindow
    (display : Display)
    (series : Series)
    (style : Style) : Option (Except DrawFault Unit × List Event) := do
  let size ← style.pixels?
  match ← Bitmap.ofSeries? display.backend series style size with
  | .error fault => return (.error fault, [])
  | .ok _ =>
      return (display.window.mapError .viewer, [.viewerOpening size.width size.height])

end Viewer
end LatencyChart
