import LatencyChart.Chart.KeyPoint
import LatencyChart.Chart.Layout
import LatencyChart.Chart.TickLabel

/-!
# Mesh, axes and labels

The mesh is drawn twice: a dense light mesh with the axis descriptions, then a sparse bold
mesh with the axes, their ticks and tick labels. Labels are drawn only in label boxes that
have room.
-/

namespace LatencyChart
namespace Mesh

/-- The most key points of the light mesh on one axis. -/
def lightLimit : Nat := 110

/-- The most key points of the bold mesh on one axis. -/
def boldLimit : Nat := 11

/-- How lines of the light mesh are drawn. -/
def lightStroke : Stroke := ⟨Color.black, 0.05, 1⟩

/-- How lines of the bold mesh are drawn. -/
def boldStroke : Stroke := ⟨Color.black, 0.2, 1⟩

/-- How axes and ticks are drawn. -/
def axisStroke : Stroke := ⟨Color.black, 1.0, 1⟩

/-- The length of a tick: a twentieth of the plot's shorter side, but at most five pixels. -/
def tickLength (plot : Box) : Int :=
  min (Binary64.toInt32
    (Binary64.round (Binary64.ofInt (min plot.width plot.height) * 0.05))) 5

/-- A side of the plotting box. -/
inductive Side
  | top
  | left
  | bottom
  | right
  deriving DecidableEq, Repr

/-- The sides in drawing order. -/
def Side.all : List Side := [.top, .left, .bottom, .right]

/-- Whether the labels at a side belong to the time axis. -/
def Side.showsTime : Side → Bool
  | .top => true
  | .bottom => true
  | .left => false
  | .right => false

/-- The label box at a side. -/
def Side.labels (layout : Layout) : Side → Box
  | .top => layout.topLabels
  | .left => layout.leftLabels
  | .bottom => layout.bottomLabels
  | .right => layout.rightLabels

/-- The ends of the axis at a side, inside its label box. -/
def Side.axisLine (plot labels : Box) : Side → Point × Point
  | .top =>
      (⟨labels.left, labels.bottom - 1⟩, ⟨labels.left + plot.width - 1, labels.bottom - 1⟩)
  | .left =>
      (⟨labels.right - 1, labels.top⟩, ⟨labels.right - 1, labels.top + plot.height - 1⟩)
  | .bottom => (⟨labels.left, labels.top⟩, ⟨labels.left + plot.width - 1, labels.top⟩)
  | .right => (⟨labels.left, labels.top⟩, ⟨labels.left, labels.top + plot.height - 1⟩)

/-- The ends of the tick at a pixel of the axis. -/
def Side.tickLine
    (labels : Box)
    (length along : Int) : Side → Point × Point
  | .top => (⟨along, labels.bottom - 1 - length⟩, ⟨along, labels.bottom - 1⟩)
  | .left => (⟨labels.right - 1 - length, along⟩, ⟨labels.right - 1, along⟩)
  | .bottom => (⟨along, labels.top⟩, ⟨along, labels.top + length⟩)
  | .right => (⟨labels.left, along⟩, ⟨labels.left + length, along⟩)

/-- The tick label at a pixel of the axis, two tick lengths away from it. -/
def Side.tickCaption
    (labels : Box)
    (length along : Int)
    (text : String)
    (fontSize : Float) : Side → Caption
  | .top => ⟨text, ⟨along, labels.bottom - 2 * length⟩, .middle, .bottom, fontSize, .none⟩
  | .left => ⟨text, ⟨labels.right - 2 * length, along⟩, .finish, .center, fontSize, .none⟩
  | .bottom => ⟨text, ⟨along, labels.top + 2 * length⟩, .middle, .top, fontSize, .none⟩
  | .right => ⟨text, ⟨labels.left + 2 * length, along⟩, .start, .center, fontSize, .none⟩

/-- The description of the axis at a side, at the outer edge of its label box. -/
def Side.description
    (labels : Box)
    (text : String)
    (fontSize : Float) : Side → Caption
  | .top =>
      ⟨text, ⟨labels.left + labels.width.tdiv 2, labels.top⟩, .middle, .top, fontSize, .none⟩
  | .left =>
      ⟨text, ⟨labels.left, labels.top + labels.height.tdiv 2⟩, .middle, .top, fontSize,
        .threeQuarters⟩
  | .bottom =>
      ⟨text, ⟨labels.left + labels.width.tdiv 2, labels.bottom⟩, .middle, .bottom, fontSize, .none⟩
  | .right =>
      ⟨text, ⟨labels.right, labels.top + labels.height.tdiv 2⟩, .middle, .top, fontSize, .quarter⟩

/-- Whether a label box has room. -/
def hasRoom (labels : Box) : Bool :=
  labels.width != 0 && labels.height != 0

/-- Whether a pixel lies between the two ends of an axis of some length that starts at a
pixel. -/
def isOnAxis (start length along : Int) : Bool :=
  start + min 0 (length - 1) ≤ along && along ≤ start + max 0 (length - 1)

/-- The lines of a mesh: one per key time, then one per key round-trip time. -/
def lines
    (axes : Axes)
    (plot : Box)
    (limit : Nat)
    (stroke : Stroke) : List Element :=
  (axes.time.keyPoints limit).map (fun time =>
    let column := axes.column plot time
    .segment ⟨column, plot.bottom - 1⟩ ⟨column, plot.top⟩ stroke) ++
  (axes.rtt.keyPoints limit).map (fun rtt =>
    let row := axes.row plot rtt
    .segment ⟨plot.left, row⟩ ⟨plot.right - 1, row⟩ stroke)

/-- A line of the axes, kept inside its label box. -/
def axisPath (labels : Box) (ends : Point × Point) : Element :=
  .path [labels.clamp ends.1, labels.clamp ends.2] axisStroke

/-- The axis at a side with its ticks and tick labels. -/
def axisAt
    (axes : Axes)
    (style : Style)
    (layout : Layout)
    (side : Side) : List Element :=
  let labels := side.labels layout
  let plot := layout.plot
  let length := tickLength plot
  let fontSize := drawnFontSize style.labelFont
  let span := if side.showsTime then axes.time else axes.rtt
  let pixel := if side.showsTime then axes.column plot else axes.row plot
  let start := if side.showsTime then plot.left else plot.top
  let extent := if side.showsTime then plot.width else plot.height
  let onAxis := (span.keyPoints boldLimit).filter fun value => isOnAxis start extent (pixel value)
  axisPath labels (side.axisLine plot labels) ::
    onAxis.flatMap fun value =>
      .caption (side.tickCaption labels length (pixel value) (TickLabel.text value) fontSize) ::
        (if length = 0 then [] else [axisPath labels (side.tickLine labels length (pixel value))])

/-- The description of the axis at a side. -/
def descriptionAt
    (style : Style)
    (layout : Layout)
    (side : Side) : Element :=
  .caption (side.description (side.labels layout)
    (if side.showsTime then style.timeDescription else style.rttDescription)
    (drawnFontSize style.labelFont))

/-- The whole mesh of a chart. -/
def elements
    (axes : Axes)
    (style : Style)
    (layout : Layout) : List Element :=
  let sides := Side.all.filter fun side => hasRoom (side.labels layout)
  lines axes layout.plot lightLimit lightStroke ++
    sides.map (descriptionAt style layout) ++
    lines axes layout.plot boldLimit boldStroke ++
    sides.flatMap (axisAt axes style layout)

end Mesh
end LatencyChart
