import LatencyChart.Chart.Mesh

/-!
# Charts

A chart shows the finite samples of a series on two axes. Its figures are the lines
through the maximal runs of consecutive finite samples, and one marker per finite sample.
Whether a series has a chart depends on the series alone, and it is decided before
anything is drawn.
-/

namespace LatencyChart

/-- A series that can be drawn, with axes that show all its finite samples. -/
structure Chart where
  series : Series
  axes : Axes

/-- What a chart shows of the data. -/
inductive Figure
  /-- A line through consecutive samples. -/
  | line (samples : List Sample)
  | marker (sample : Sample)

/-- The maximal runs of consecutive finite samples, in order. -/
def Series.finiteRuns (series : Series) : List (List Sample) :=
  (series.samples.splitOnP fun sample => !sample.isFinite).filter fun run => !run.isEmpty

namespace Chart

/-- The chart of a series. -/
def ofSeries? (series : Series) : Except DrawFault Chart :=
  if series.finiteSamples.isEmpty then .error .emptySeries
  else (Axes.fit? series.finiteSamples).map fun axes => ⟨series, axes⟩

/-- The figures of a chart in drawing order: a line for each run of two or more samples,
then the markers. -/
def figures (chart : Chart) : List Figure :=
  (chart.series.finiteRuns.filter fun run => 2 ≤ run.length).map .line ++
    chart.series.finiteSamples.map .marker

/-- The element that draws a figure. -/
def place
    (chart : Chart)
    (style : Style)
    (plot : Box) : Figure → Element
  | .line samples =>
      .path (samples.map (chart.axes.place plot)) ⟨style.lineColor, 1.0, style.lineWidth⟩
  | .marker sample => .disc (chart.axes.place plot sample) style.markerRadius style.lineColor

/-- The title of a chart. -/
def title (style : Style) (layout : Layout) : Element :=
  .caption
    ⟨style.title, layout.titleAnchor, .middle, .top, drawnFontSize style.titleFont, .none⟩

/-- The drawing of a chart in a figure of a given size. -/
def elements
    (chart : Chart)
    (style : Style)
    (size : Size) : List Element :=
  let layout := Layout.ofStyle style size
  .background Color.white :: title style layout ::
    Mesh.elements chart.axes style layout ++
    chart.figures.map (chart.place style layout.plot)

end Chart
end LatencyChart
