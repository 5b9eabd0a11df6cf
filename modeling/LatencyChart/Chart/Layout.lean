import LatencyChart.Chart.Axis
import LatencyChart.Chart.Element

/-!
# Layout of a chart

The figure loses a margin on every side and the height of the title. What is left is cut
into three columns and three rows: the plotting box in the middle, and boxes for labels
around it.
-/

namespace LatencyChart

/-- The size at which a font is drawn, in pixels. -/
def drawnFontSize (font : Nat) : Float :=
  Float.ofNat font / 1.24

/-- The height of a line of text, in pixels. -/
def textHeight (font : Nat) : Int :=
  Binary64.toInt32 (drawnFontSize font)

/-- The boxes of a chart. -/
structure Layout where
  /-- The middle of the upper edge of the title. -/
  titleAnchor : Point
  plot : Box
  topLabels : Box
  leftLabels : Box
  bottomLabels : Box
  rightLabels : Box

namespace Layout

/-- Three consecutive ranges between four cuts in increasing order. -/
structure Cuts where
  before : Int
  first : Int
  second : Int
  after : Int

/-- The four cuts of the range from `low` to `high`, two of them inside it or wherever the
room for labels puts them. -/
def Cuts.sorted (low high first second : Int) : Cuts :=
  match [low, high, first, second].mergeSort (fun left right => left ≤ right) with
  | [before, first, second, after] => ⟨before, first, second, after⟩
  | _ => ⟨low, first, second, high⟩

/-- The layout of a chart in a figure of a given size. -/
def ofStyle (style : Style) (size : Size) : Layout :=
  let outer := (Box.ofSize size).inset style.margin
  let titleHeight := textHeight style.titleFont
  let titlePadding := min (titleHeight.tdiv 2) 5
  let inner := { outer with top := outer.top + 2 * titlePadding + titleHeight }
  let columns :=
    Cuts.sorted inner.left inner.right (inner.left + style.rttLabelRoom) inner.right
  let rows :=
    Cuts.sorted inner.top inner.bottom inner.top (inner.bottom - style.timeLabelRoom)
  { titleAnchor := ⟨outer.left + outer.width.tdiv 2, outer.top + titlePadding⟩
    plot := ⟨columns.first, rows.first, columns.second, rows.second⟩
    topLabels := ⟨columns.first, rows.before, columns.second, rows.first⟩
    leftLabels := ⟨columns.before, rows.first, columns.first, rows.second⟩
    bottomLabels := ⟨columns.first, rows.second, columns.second, rows.after⟩
    rightLabels := ⟨columns.second, rows.first, columns.after, rows.second⟩ }

end Layout

/-- The column of a time in a plotting box. -/
def Axes.column (axes : Axes) (plot : Box) (time : Float) : Int :=
  axes.time.toPixel plot.left (plot.right - 1) time

/-- The row of a round-trip time in a plotting box. Larger times lie higher. -/
def Axes.row (axes : Axes) (plot : Box) (rtt : Float) : Int :=
  axes.rtt.toPixel (plot.bottom - 1) plot.top rtt

/-- The pixel of a sample in a plotting box. -/
def Axes.place (axes : Axes) (plot : Box) (sample : Sample) : Point :=
  plot.clamp ⟨axes.column plot sample.time, axes.row plot sample.rtt⟩

end LatencyChart
