import LatencyChart.Proofs.Chart.Figures
import LatencyChart.Proofs.Chart.Position
import LatencyChart.Proofs.Series.Summary

/-!
# The place of a sample in the plotting box

The plotting box lies between sorted cuts, so it is empty at worst and never turned over.  Every
marker and every vertex of a line is the pixel of a finite sample, and the axes hold both of its
numbers.  So the pixel lies in the box, later times are never drawn further to the left, and larger
round-trip times never lower.
-/

namespace LatencyChart

/-! ## Boxes -/

namespace Box

/-- A point between the edges of a box, or on one of them. -/
structure Encloses (box : Box) (point : Point) : Prop where
  left_le : box.left ≤ point.x
  le_right : point.x ≤ box.right
  top_le : box.top ≤ point.y
  le_bottom : point.y ≤ box.bottom

/-- A pixel of a box. -/
structure HasPixel (box : Box) (point : Point) : Prop where
  left_le : box.left ≤ point.x
  lt_right : point.x < box.right
  top_le : box.top ≤ point.y
  lt_bottom : point.y < box.bottom

/-- A box that is not turned over. -/
structure IsUpright (box : Box) : Prop where
  left_le_right : box.left ≤ box.right
  top_le_bottom : box.top ≤ box.bottom

/-- A box with room for a pixel. -/
structure HasRoom (box : Box) : Prop where
  left_lt_right : box.left < box.right
  top_lt_bottom : box.top < box.bottom

theorem HasPixel.clamp_eq
    {box : Box}
    {point : Point}
    (hasPixel : box.HasPixel point) :
    box.clamp point = point := by
  obtain ⟨left, right, top, bottom⟩ := hasPixel
  rw [clamp, min_eq_left right.le, max_eq_right left, min_eq_left bottom.le, max_eq_right top]

theorem IsUpright.encloses_clamp
    {box : Box}
    (upright : box.IsUpright)
    (point : Point) :
    box.Encloses (box.clamp point) := by
  obtain ⟨columns, rows⟩ := upright
  constructor <;> simp only [clamp] <;> omega

end Box

namespace Layout

/-- Sorted cuts are in order. -/
theorem Cuts.first_le_second_sorted (low high first second : Int) :
    (Cuts.sorted low high first second).first ≤ (Cuts.sorted low high first second).second := by
  have ordered := @List.pairwise_mergeSort Int (fun left right => left ≤ right)
    (by simpa using fun _ _ _ => le_trans) (by simpa using le_total) [low, high, first, second]
  have length := @List.length_mergeSort Int (fun left right => left ≤ right)
    [low, high, first, second]
  unfold Cuts.sorted
  generalize [low, high, first, second].mergeSort (fun left right => left ≤ right) = cuts
    at ordered length ⊢
  obtain ⟨before, first, second, after, rfl⟩ := List.length_eq_four.mp length
  simp only [List.pairwise_cons, decide_eq_true_eq] at ordered
  exact ordered.2.1 second (List.mem_cons_self)

/-- The plotting box is never turned over, whatever the style and the size of the figure are. -/
theorem isUpright_plot (style : Style) (size : Size) :
    (ofStyle style size).plot.IsUpright :=
  ⟨Cuts.first_le_second_sorted _ _ _ _, Cuts.first_le_second_sorted _ _ _ _⟩

end Layout

/-! ## Axes -/

/-- The values have positions in a span from zero to one, in their order, and whatever the pixels
at its ends are, the values have pixels between them, in their order too. -/
structure Span.Orders (span : Span) (values : List Float) : Prop where
  isNaN_position : ∀ value ∈ values, (span.position value).isNaN = false
  position_between : ∀ value ∈ values,
    0.0 ≤ span.position value ∧ span.position value ≤ 1.0
  position_mono : ∀ low ∈ values, ∀ high ∈ values, low ≤ high →
    span.position low ≤ span.position high
  toPixel_between : ∀ first last : Int, ∀ value ∈ values,
    min first last ≤ span.toPixel first last value ∧
      span.toPixel first last value ≤ max first last
  toPixel_mono : ∀ first last : Int, ∀ low ∈ values, ∀ high ∈ values, low ≤ high →
    (first ≤ last → span.toPixel first last low ≤ span.toPixel first last high) ∧
      (last ≤ first → span.toPixel first last high ≤ span.toPixel first last low)

theorem Span.Shows.orders
    {span : Span}
    {values : List Float}
    (shows : span.Shows values)
    (finite : ∀ value ∈ values, value.isFinite = true) :
    span.Orders values := by
  have proper := shows.proper
  have holds {value : Float} (member : value ∈ values) : span.Holds value :=
    shows.holds (finite value member) member
  constructor
  case isNaN_position =>
    intro value member
    exact Binary64.isNaN_eq_false_of_isFinite (proper.isPortion_position (holds member)).isFinite
  case position_between =>
    intro value member
    have isPortion := proper.isPortion_position (holds member)
    rw [between_iff_value Binary64.isFinite_zero Binary64.isFinite_one isPortion.isFinite,
      Binary64.value_zero, Binary64.value_one]
    exact ⟨isPortion.nonneg, isPortion.le_one⟩
  case position_mono =>
    intro low lowMember high highMember ordered
    rw [Binary64.le_iff_value_le (finite low lowMember) (finite high highMember)] at ordered
    exact proper.position_le_position (holds lowMember) (holds highMember) ordered
  case toPixel_between =>
    intro first last value member
    exact proper.toPixel_between (holds member) first last
  case toPixel_mono =>
    intro first last low lowMember high highMember ordered
    rw [Binary64.le_iff_value_le (finite low lowMember) (finite high highMember)] at ordered
    exact proper.toPixel_ordered (holds lowMember) (holds highMember) ordered first last

/-- Samples fit on axes when their times and their round-trip times do. -/
theorem Axes.fit?_eq_ok_iff
    (samples : List Sample)
    (axes : Axes) :
    Axes.fit? samples = .ok axes ↔
      Span.fit? (samples.map (·.time)) = .ok axes.time ∧
        Span.fit? (samples.map (·.rtt)) = .ok axes.rtt := by
  unfold Axes.fit?
  cases Span.fit? (samples.map (·.time)) with
  | error fault =>
      change Except.error fault = .ok axes ↔ _
      simp
  | ok time =>
      cases Span.fit? (samples.map (·.rtt)) with
      | error fault =>
          change Except.error fault = .ok axes ↔ _
          simp
      | ok rtt =>
          change Except.ok (Axes.mk time rtt) = .ok axes ↔ _
          cases axes
          simp

/-- The axes of a chart show its finite samples. -/
theorem Chart.axes_show_samples
    {series : Series}
    {chart : Chart}
    (drawable : Chart.ofSeries? series = .ok chart) :
    chart.axes.time.Shows series.finiteTimes ∧ chart.axes.rtt.Shows series.finiteRtts := by
  obtain ⟨someFinite, -, fitted⟩ := (Chart.ofSeries?_eq_ok_iff series chart).mp drawable
  obtain ⟨timeFitted, rttFitted⟩ := (Axes.fit?_eq_ok_iff _ _).mp fitted
  constructor
  · exact Span.shows_of_fit? (mt List.map_eq_nil_iff.mp someFinite)
      (fun _ => Series.isFinite_of_mem_finiteTimes) timeFitted
  · exact Span.shows_of_fit? (mt List.map_eq_nil_iff.mp someFinite)
      (fun _ => Series.isFinite_of_mem_finiteRtts) rttFitted

/-- The axes of a chart give the finite samples places in their order. -/
theorem Chart.axes_order_samples
    {series : Series}
    {chart : Chart}
    (drawable : Chart.ofSeries? series = .ok chart) :
    chart.axes.time.Orders series.finiteTimes ∧ chart.axes.rtt.Orders series.finiteRtts := by
  obtain ⟨timeShows, rttShows⟩ := axes_show_samples drawable
  exact ⟨timeShows.orders fun _ => Series.isFinite_of_mem_finiteTimes,
    rttShows.orders fun _ => Series.isFinite_of_mem_finiteRtts⟩

/-! ## Pixels of samples -/

/-- The points by which an element shows samples: the vertices of a path and the centre of a
disc. -/
def Element.vertices : Element → List Point
  | .path points _ => points
  | .disc center _ _ => [center]
  | _ => []

namespace Chart

/-- The figures of a chart lie in the plotting box, and they show the order of the samples. -/
structure ShowsOrder (chart : Chart) (style : Style) (size : Size) : Prop where
  drawing : chart.elements style size =
    chart.scenery style size ++
      chart.figures.map (chart.place style (Layout.ofStyle style size).plot)
  /-- Every marker and every vertex of a line shows a finite sample. -/
  vertices : ∀ figure ∈ chart.figures,
    ∀ point ∈ (chart.place style (Layout.ofStyle style size).plot figure).vertices,
      ∃ sample ∈ chart.series.finiteSamples, point = chart.pixel style size sample
  enclosed : ∀ sample ∈ chart.series.finiteSamples,
    (Layout.ofStyle style size).plot.Encloses (chart.pixel style size sample)
  /-- Where the box has room, the pixels of the axes are in it without being moved. -/
  inside : (Layout.ofStyle style size).plot.HasRoom →
    ∀ sample ∈ chart.series.finiteSamples,
      (Layout.ofStyle style size).plot.HasPixel (chart.pixel style size sample) ∧
        chart.pixel style size sample =
          ⟨chart.axes.column (Layout.ofStyle style size).plot sample.time,
            chart.axes.row (Layout.ofStyle style size).plot sample.rtt⟩
  laterNotLeft : ∀ first ∈ chart.series.finiteSamples,
    ∀ second ∈ chart.series.finiteSamples, first.time ≤ second.time →
      (chart.pixel style size first).x ≤ (chart.pixel style size second).x
  largerNotLower : ∀ first ∈ chart.series.finiteSamples,
    ∀ second ∈ chart.series.finiteSamples, first.rtt ≤ second.rtt →
      (chart.pixel style size second).y ≤ (chart.pixel style size first).y

theorem mem_finiteSamples_of_mem_run
    {chart : Chart}
    {run : List Sample}
    (runMember : run ∈ chart.series.finiteRuns)
    {sample : Sample}
    (member : sample ∈ run) :
    sample ∈ chart.series.finiteSamples := by
  rw [← chart.series.flatten_finiteRuns]
  exact List.mem_flatten_of_mem runMember member

theorem exists_sample_of_mem_vertices
    {chart : Chart}
    {style : Style}
    {size : Size}
    {figure : Figure}
    (figureMember : figure ∈ chart.figures)
    {point : Point}
    (member :
      point ∈ (chart.place style (Layout.ofStyle style size).plot figure).vertices) :
    ∃ sample ∈ chart.series.finiteSamples, point = chart.pixel style size sample := by
  rcases List.mem_append.mp figureMember with line | marker
  · obtain ⟨run, runMember, rfl⟩ := List.mem_map.mp line
    obtain ⟨sample, sampleMember, rfl⟩ := List.mem_map.mp member
    exact ⟨sample, mem_finiteSamples_of_mem_run (List.mem_of_mem_filter runMember) sampleMember,
      rfl⟩
  · obtain ⟨sample, sampleMember, rfl⟩ := List.mem_map.mp marker
    exact ⟨sample, sampleMember, List.mem_singleton.mp member⟩

section Pixels

variable
  {chart : Chart}
  (timeOrders : chart.axes.time.Orders chart.series.finiteTimes)
  (rttOrders : chart.axes.rtt.Orders chart.series.finiteRtts)
  {plot : Box}
  {first second : Sample}
  (firstMember : first ∈ chart.series.finiteSamples)
  (secondMember : second ∈ chart.series.finiteSamples)

include timeOrders firstMember

include rttOrders in
/-- In a box with room the pixel of a sample needs not be moved. -/
theorem hasPixel_axes (hasRoom : plot.HasRoom) :
    plot.HasPixel ⟨chart.axes.column plot first.time, chart.axes.row plot first.rtt⟩ := by
  obtain ⟨columns, rows⟩ := hasRoom
  have column := timeOrders.toPixel_between plot.left (plot.right - 1) first.time
    (List.mem_map_of_mem firstMember)
  have row := rttOrders.toPixel_between (plot.bottom - 1) plot.top first.rtt
    (List.mem_map_of_mem firstMember)
  constructor <;> simp only [Axes.column, Axes.row] <;> omega

include secondMember

theorem place_x_mono
    (upright : plot.IsUpright)
    (ordered : first.time ≤ second.time) :
    (chart.axes.place plot first).x ≤ (chart.axes.place plot second).x := by
  have columns := (timeOrders.toPixel_mono plot.left (plot.right - 1) first.time
    (List.mem_map_of_mem firstMember) second.time (List.mem_map_of_mem secondMember) ordered).1
  have leftRight := upright.left_le_right
  simp only [Axes.place, Box.clamp, Axes.column]
  -- A box without a column leaves no choice.
  omega

omit timeOrders in
include rttOrders in
theorem place_y_anti
    (upright : plot.IsUpright)
    (ordered : first.rtt ≤ second.rtt) :
    (chart.axes.place plot second).y ≤ (chart.axes.place plot first).y := by
  have rows := (rttOrders.toPixel_mono (plot.bottom - 1) plot.top first.rtt
    (List.mem_map_of_mem firstMember) second.rtt (List.mem_map_of_mem secondMember) ordered).2
  have firstBetween := rttOrders.toPixel_between (plot.bottom - 1) plot.top first.rtt
    (List.mem_map_of_mem firstMember)
  have secondBetween := rttOrders.toPixel_between (plot.bottom - 1) plot.top second.rtt
    (List.mem_map_of_mem secondMember)
  have topBottom := upright.top_le_bottom
  simp only [Axes.place, Box.clamp, Axes.row]
  omega

end Pixels

/-- The axes of a chart give every finite sample a place, and in every style and size all markers
and all vertices of lines lie in the plotting box, with later times never farther to the left and
larger round-trip times never lower. -/
theorem ofSeries?_shows_order
    {series : Series}
    {chart : Chart}
    (drawable : Chart.ofSeries? series = .ok chart) :
    chart.axes.time.Orders series.finiteTimes ∧ chart.axes.rtt.Orders series.finiteRtts ∧
      ∀ (style : Style) (size : Size), chart.ShowsOrder style size := by
  obtain ⟨timeOrders, rttOrders⟩ := axes_order_samples drawable
  obtain ⟨-, rfl, -⟩ := (Chart.ofSeries?_eq_ok_iff series chart).mp drawable
  refine ⟨timeOrders, rttOrders, ?_⟩
  intro style size
  have upright := Layout.isUpright_plot style size
  constructor
  case drawing => rfl
  case vertices =>
    intro figure figureMember point
    exact exists_sample_of_mem_vertices figureMember
  case enclosed =>
    intro sample member
    exact upright.encloses_clamp _
  case inside =>
    intro hasRoom sample member
    have hasPixel := hasPixel_axes timeOrders rttOrders member hasRoom
    have kept : chart.pixel style size sample = _ := hasPixel.clamp_eq
    rw [kept]
    exact ⟨hasPixel, rfl⟩
  case laterNotLeft =>
    intro first firstMember second secondMember
    exact place_x_mono timeOrders firstMember secondMember upright
  case largerNotLower =>
    intro first firstMember second secondMember
    exact place_y_anti rttOrders firstMember secondMember upright

/-- Samples whose times are neighbouring numbers, and whose round-trip times are about as far apart
as numbers can be. -/
def extremeSeries : Series :=
  Series.ofPairs [(0.0, 0.0), (5e-324, 1.7976931348623157e308), (-0.0, 0.0 / 0.0), (0.0, 1e308)]

theorem ofSeries?_extremeSeries :
    ∃ chart, Chart.ofSeries? extremeSeries = .ok chart ∧
      chart.axes.time.Orders extremeSeries.finiteTimes ∧
      chart.axes.rtt.Orders extremeSeries.finiteRtts ∧
      ∀ (style : Style) (size : Size), chart.ShowsOrder style size := by
  cases drawable : Chart.ofSeries? extremeSeries with
  | error fault =>
      have accepted : (Chart.ofSeries? extremeSeries).toBool = true := by decide +kernel
      rw [drawable] at accepted
      exact absurd accepted Bool.false_ne_true
  | ok chart =>
      obtain ⟨times, rtts, places⟩ := ofSeries?_shows_order drawable
      exact ⟨chart, rfl, times, rtts, places⟩

end Chart
end LatencyChart
