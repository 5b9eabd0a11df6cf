import LatencyChart.Proofs.Chart.Drawable
import LatencyChart.Proofs.Svg.TagCount

/-!
# What a chart draws

A drawing starts with its scenery, which shows no sample: the background, the title and the
mesh.  Then come the lines through the maximal runs of two or more finite samples, and then
a marker for each finite sample.  So a line joins two samples exactly when they are
neighbours and both are finite, and it never crosses a sample that is not.

The runs are named by their bounds, the longest stretches of positions of finite samples.
-/

namespace LatencyChart

/-! ## Runs by their bounds -/

namespace Series

/-- A finite sample stands at a position. -/
def IsFiniteAt (series : Series) (position : Nat) : Prop :=
  ∃ sample, series.samples[position]? = some sample ∧ sample.isFinite = true

/-- The bounds of all longest stretches of finite samples, in order. -/
structure AreRunBounds (series : Series) (bounds : List (Nat × Nat)) : Prop where
  ordered : bounds.Pairwise fun earlier later => earlier.2 < later.1
  complete : ∀ first last, (first, last) ∈ bounds ↔ IsStretch series.IsFiniteAt first last

theorem holdsAt_eq_isFiniteAt (series : Series) :
    HoldsAt (fun sample => !sample.isFinite) series.samples = series.IsFiniteAt := by
  funext position
  apply propext
  unfold HoldsAt IsFiniteAt
  simp only [Bool.not_eq_false']

theorem maximalRuns_finiteRuns (series : Series) :
    MaximalRuns (fun sample => !sample.isFinite) series.samples series.finiteRuns :=
  maximalRuns_runsOf series.samples

/-- The runs stand between their bounds. -/
theorem exists_areRunBounds (series : Series) :
    ∃ bounds, series.AreRunBounds bounds ∧
      series.finiteRuns = bounds.map (between series.samples) := by
  obtain ⟨bounds, runs_eq, ordered, complete⟩ := series.maximalRuns_finiteRuns.exists_bounds
  rw [holdsAt_eq_isFiniteAt] at complete
  exact ⟨bounds, ⟨ordered, complete⟩, runs_eq⟩

theorem AreRunBounds.length_between
    {series : Series}
    {bounds : List (Nat × Nat)}
    (areBounds : series.AreRunBounds bounds)
    {bound : Nat × Nat}
    (member : bound ∈ bounds) :
    (between series.samples bound).length = bound.2 - bound.1 := by
  have stretch := (areBounds.complete bound.1 bound.2).mp member
  rw [← holdsAt_eq_isFiniteAt] at stretch
  exact stretch.length_between

/-- Neighbouring positions are those of finite samples exactly when both lie between the
bounds of one run. -/
theorem AreRunBounds.finite_neighbours_iff
    {series : Series}
    {bounds : List (Nat × Nat)}
    (areBounds : series.AreRunBounds bounds)
    (position : Nat) :
    series.IsFiniteAt position ∧ series.IsFiniteAt (position + 1) ↔
      ∃ bound ∈ bounds, bound.1 ≤ position ∧ position + 1 < bound.2 := by
  constructor
  · rintro ⟨here, next⟩
    rw [← holdsAt_eq_isFiniteAt] at here
    obtain ⟨first, last, stretch, fromFirst, beforeLast⟩ := exists_isStretch_of_holdsAt here
    rw [holdsAt_eq_isFiniteAt] at stretch
    refine ⟨(first, last), (areBounds.complete first last).mpr stretch, fromFirst, ?_⟩
    rcases Nat.eq_or_lt_of_le (Nat.succ_le_of_lt beforeLast) with atEnd | inside
    · exact absurd (atEnd ▸ next) stretch.ends
    · exact inside
  · rintro ⟨bound, member, fromFirst, beforeLast⟩
    have stretch := (areBounds.complete bound.1 bound.2).mp member
    exact ⟨stretch.holds position fromFirst (Nat.lt_of_succ_lt beforeLast),
      stretch.holds (position + 1) (Nat.le_succ_of_le fromFirst) beforeLast⟩

/-- A finite sample stands alone when the samples beside it are not finite, or missing. -/
structure IsIsolatedAt (series : Series) (position : Nat) : Prop where
  here : series.IsFiniteAt position
  before : ∀ earlier, earlier + 1 = position → ¬series.IsFiniteAt earlier
  after : ¬series.IsFiniteAt (position + 1)

/-- A sample that stands alone is a run of its own. -/
theorem AreRunBounds.mem_of_isIsolatedAt
    {series : Series}
    {bounds : List (Nat × Nat)}
    (areBounds : series.AreRunBounds bounds)
    {position : Nat}
    (isolated : series.IsIsolatedAt position) :
    (position, position + 1) ∈ bounds := by
  refine (areBounds.complete position (position + 1)).mpr
    ⟨Nat.lt_succ_self position, ?_, isolated.before, isolated.after⟩
  intro passed fromHere upTo
  rw [← Nat.le_antisymm fromHere (Nat.le_of_lt_succ upTo)]
  exact isolated.here

/-- No run of two or more samples takes in one that stands alone. -/
theorem AreRunBounds.not_inside_of_isIsolatedAt
    {series : Series}
    {bounds : List (Nat × Nat)}
    (areBounds : series.AreRunBounds bounds)
    {position : Nat}
    (isolated : series.IsIsolatedAt position)
    {bound : Nat × Nat}
    (member : bound ∈ bounds)
    (long : bound.1 + 2 ≤ bound.2) :
    ¬(bound.1 ≤ position ∧ position < bound.2) := by
  rintro ⟨fromFirst, beforeLast⟩
  have stretch := (areBounds.complete bound.1 bound.2).mp member
  have alone := (areBounds.complete position (position + 1)).mp
    (areBounds.mem_of_isIsolatedAt isolated)
  obtain ⟨first_eq, last_eq⟩ :=
    stretch.eq_of_overlap alone (Nat.lt_succ_of_le fromFirst) beforeLast
  omega

/-- A sample that is not finite can be left out at an end of a series, and beside another
one that is not finite. -/
theorem finiteRuns_erase
    {before after : List Sample}
    {sample : Sample}
    (notFinite : sample.isFinite = false)
    (apart :
      (∀ other ∈ before.getLast?, other.isFinite = false) ∨
        ∀ other ∈ after.head?, other.isFinite = false) :
    (Series.mk (before ++ after)).finiteRuns =
      (Series.mk (before ++ sample :: after)).finiteRuns := by
  rw [finiteRuns_eq_runsOf, finiteRuns_eq_runsOf]
  apply runsOf_erase_separator
  · simpa using notFinite
  · simpa using apart

end Series
/-! ## Scenery and figures -/

/-- An element that shows no sample.  Its only paths are axes and ticks. -/
inductive Element.IsScenery : Element → Prop
  | background (color : Color) : IsScenery (.background color)
  | segment (first last : Point) (stroke : Stroke) : IsScenery (.segment first last stroke)
  | axis (points : List Point) : IsScenery (.path points Mesh.axisStroke)
  | caption (caption : Caption) : IsScenery (.caption caption)

/-- The pieces of line that an element joins points by. -/
def Element.pieces : Element → List (Point × Point)
  | .path points _ => neighbours points
  | _ => []

namespace Mesh

theorem isScenery_of_mem_lines
    {axes : Axes}
    {plot : Box}
    {limit : Nat}
    {stroke : Stroke}
    {element : Element}
    (member : element ∈ lines axes plot limit stroke) :
    element.IsScenery := by
  unfold lines at member
  rcases List.mem_append.mp member with column | row
  · obtain ⟨time, -, rfl⟩ := List.mem_map.mp column
    exact .segment _ _ _
  · obtain ⟨rtt, -, rfl⟩ := List.mem_map.mp row
    exact .segment _ _ _

theorem isScenery_of_mem_axisAt
    {axes : Axes}
    {style : Style}
    {layout : Layout}
    {side : Side}
    {element : Element}
    (member : element ∈ axisAt axes style layout side) :
    element.IsScenery := by
  unfold axisAt at member
  rcases List.mem_cons.mp member with rfl | atTick
  · exact .axis _
  · obtain ⟨value, -, inTick⟩ := List.mem_flatMap.mp atTick
    rcases List.mem_cons.mp inTick with rfl | tick
    · exact .caption _
    · split at tick
      · contradiction
      · rw [List.mem_singleton.mp tick]
        exact .axis _

theorem isScenery_of_mem_elements
    {axes : Axes}
    {style : Style}
    {layout : Layout}
    {element : Element}
    (member : element ∈ elements axes style layout) :
    element.IsScenery := by
  unfold elements at member
  rcases List.mem_append.mp member with drawnFirst | atSide
  · rcases List.mem_append.mp drawnFirst with drawnFirst | bold
    · rcases List.mem_append.mp drawnFirst with light | described
      · exact isScenery_of_mem_lines light
      · obtain ⟨side, -, rfl⟩ := List.mem_map.mp described
        exact .caption _
    · exact isScenery_of_mem_lines bold
  · obtain ⟨side, -, onAxis⟩ := List.mem_flatMap.mp atSide
    exact isScenery_of_mem_axisAt onAxis

end Mesh

namespace Chart

/-- The elements of a chart that show no sample. -/
def scenery (chart : Chart) (style : Style) (size : Size) : List Element :=
  let layout := Layout.ofStyle style size
  .background Color.white :: title style layout :: Mesh.elements chart.axes style layout

/-- The pixel of a sample in a figure of a given size. -/
def pixel (chart : Chart) (style : Style) (size : Size) (sample : Sample) : Point :=
  chart.axes.place (Layout.ofStyle style size).plot sample

/-- The line through samples. -/
def lineThrough
    (chart : Chart)
    (style : Style)
    (size : Size)
    (samples : List Sample) : Element :=
  .path (samples.map (chart.pixel style size)) ⟨style.lineColor, 1.0, style.lineWidth⟩

/-- The lines through the samples between bounds, where these are two or more. -/
def linesThrough
    (chart : Chart)
    (style : Style)
    (size : Size)
    (bounds : List (Nat × Nat)) : List Element :=
  (bounds.filter fun bound => bound.1 + 2 ≤ bound.2).map fun bound =>
    chart.lineThrough style size (between chart.series.samples bound)

/-- The markers of the finite samples, in order. -/
def markers (chart : Chart) (style : Style) (size : Size) : List Element :=
  chart.series.finiteSamples.map fun sample =>
    .disc (chart.pixel style size sample) style.markerRadius style.lineColor

variable (chart : Chart) (style : Style) (size : Size)

theorem isScenery_of_mem_scenery
    {element : Element}
    (member : element ∈ chart.scenery style size) :
    element.IsScenery := by
  unfold scenery at member
  rcases List.mem_cons.mp member with rfl | drawnLater
  · exact .background Color.white
  · rcases List.mem_cons.mp drawnLater with rfl | inMesh
    · exact .caption _
    · exact Mesh.isScenery_of_mem_elements inMesh

/-- A drawing is the scenery, then a line for each run of two or more samples, then the
markers. -/
theorem elements_eq_runs :
    chart.elements style size =
      chart.scenery style size ++
        (chart.series.finiteRuns.filter fun run => 2 ≤ run.length).map
          (chart.lineThrough style size) ++
        chart.markers style size := by
  have figures_eq :
      chart.figures.map (chart.place style (Layout.ofStyle style size).plot) =
        (chart.series.finiteRuns.filter fun run => 2 ≤ run.length).map
            (chart.lineThrough style size) ++
          chart.markers style size := by
    rw [figures, List.map_append, List.map_map, List.map_map]
    rfl
  rw [List.append_assoc, ← figures_eq]
  rfl

/-- The runs of two or more samples are those between bounds that are as far apart. -/
theorem longRuns_eq_between
    {bounds : List (Nat × Nat)}
    (areBounds : chart.series.AreRunBounds bounds)
    (runs_eq : chart.series.finiteRuns = bounds.map (between chart.series.samples)) :
    (chart.series.finiteRuns.filter fun run => 2 ≤ run.length) =
      (bounds.filter fun bound => bound.1 + 2 ≤ bound.2).map (between chart.series.samples) := by
  have long : ∀ bound ∈ bounds,
      decide (bound.1 + 2 ≤ bound.2) =
        decide (2 ≤ (between chart.series.samples bound).length) := by
    intro bound member
    rw [areBounds.length_between member]
    apply decide_eq_decide.mpr
    omega
  rw [runs_eq, List.filter_map, List.filter_congr long]
  rfl

theorem linesThrough_eq_runs
    {bounds : List (Nat × Nat)}
    (areBounds : chart.series.AreRunBounds bounds)
    (runs_eq : chart.series.finiteRuns = bounds.map (between chart.series.samples)) :
    chart.linesThrough style size bounds =
      (chart.series.finiteRuns.filter fun run => 2 ≤ run.length).map
        (chart.lineThrough style size) := by
  rw [chart.longRuns_eq_between areBounds runs_eq, List.map_map]
  rfl

/-- The figures are a line for each run of two or more samples, and then the markers. -/
theorem figures_eq_between
    {bounds : List (Nat × Nat)}
    (areBounds : chart.series.AreRunBounds bounds)
    (runs_eq : chart.series.finiteRuns = bounds.map (between chart.series.samples)) :
    chart.figures =
      (bounds.filter fun bound => bound.1 + 2 ≤ bound.2).map (fun bound =>
          .line (between chart.series.samples bound)) ++
        chart.series.finiteSamples.map .marker := by
  rw [figures, chart.longRuns_eq_between areBounds runs_eq, List.map_map]
  rfl

/-! ## Pieces of line -/

/-- A run of one sample would add no piece to the lines. -/
theorem pieces_lines
    (runs : List (List Sample)) :
    ((runs.filter fun run => 2 ≤ run.length).map (chart.lineThrough style size)).flatMap
        Element.pieces =
      (runs.flatMap neighbours).map fun pair =>
        (chart.pixel style size pair.1, chart.pixel style size pair.2) := by
  induction runs with
  | nil => rfl
  | cons run runs inductionHypothesis =>
      have run_eq : (chart.lineThrough style size run).pieces =
          (neighbours run).map fun pair =>
            (chart.pixel style size pair.1, chart.pixel style size pair.2) :=
        neighbours_map (chart.pixel style size) run
      rw [List.flatMap_cons, List.map_append, ← inductionHypothesis]
      rcases Nat.lt_or_ge run.length 2 with short | long
      · rw [List.filter_cons_of_neg (by simpa using short), neighbours_of_short short]
        rfl
      · rw [List.filter_cons_of_pos (by simpa using long), List.map_cons, List.flatMap_cons,
          run_eq]

/-- The pieces of the lines join the neighbours that are both finite, each pair once. -/
theorem pieces_eq_neighbours :
    (((chart.series.finiteRuns.filter fun run => 2 ≤ run.length).map
          (chart.lineThrough style size)) ++ chart.markers style size).flatMap Element.pieces =
      ((neighbours chart.series.samples).filter fun pair =>
          pair.1.isFinite && pair.2.isFinite).map fun pair =>
        (chart.pixel style size pair.1, chart.pixel style size pair.2) := by
  have markersJoinNothing : (chart.markers style size).flatMap Element.pieces = [] := by
    simp [markers, Element.pieces]
  have joined_eq : joined (fun sample : Sample => !sample.isFinite) =
      fun pair => pair.1.isFinite && pair.2.isFinite := by
    funext pair
    simp only [joined, Bool.not_not]
  rw [List.flatMap_append, markersJoinNothing, List.append_nil, pieces_lines,
    chart.series.maximalRuns_finiteRuns.neighbours_eq_filter, joined_eq]

/-! ## Tags -/

/-- The scenery has no disc. -/
theorem countP_circle_scenery :
    ((chart.scenery style size).countP fun element => element.tagName = "circle") = 0 := by
  rw [List.countP_eq_zero]
  intro element member
  cases chart.isScenery_of_mem_scenery style size member <;> simp [Element.tagName]

/-- Elements under one name are all counted, or none of them. -/
theorem countP_tagName_map
    {α : Type}
    {element : α → Element}
    {own : String}
    (named : ∀ item, (element item).tagName = own)
    (items : List α)
    (name : String) :
    ((items.map element).countP fun drawn => drawn.tagName = name) =
      if own = name then items.length else 0 := by
  have sameForAll : ((fun drawn => decide (drawn.tagName = name)) ∘ element) =
      fun _ => decide (own = name) := by
    funext item
    rw [Function.comp_apply, named]
  rw [List.countP_map, sameForAll]
  split
  · next same => rw [decide_eq_true same, List.countP_true]
  · next other =>
    rw [decide_eq_false other, List.countP_false]
    rfl

theorem countP_tagName_lines
    (runs : List (List Sample))
    (name : String) :
    ((runs.map (chart.lineThrough style size)).countP fun element => element.tagName = name) =
      if "polyline" = name then runs.length else 0 := by
  have named (run : List Sample) :
      (chart.lineThrough style size run).tagName = "polyline" := rfl
  exact countP_tagName_map named runs name

theorem countP_tagName_markers (name : String) :
    ((chart.markers style size).countP fun element => element.tagName = name) =
      if "circle" = name then chart.series.finiteSamples.length else 0 := by
  have named (sample : Sample) :
      (Element.disc (chart.pixel style size sample) style.markerRadius
        style.lineColor).tagName = "circle" := rfl
  exact countP_tagName_map named chart.series.finiteSamples name

/-- The document of a chart has one circle per finite sample. -/
theorem tagCount_circle :
    Svg.tagCount "circle" (Svg.document size (chart.elements style size)) =
      chart.series.finiteSamples.length := by
  rw [Svg.tagCount_document (by decide), elements_eq_runs, List.countP_append,
    List.countP_append, countP_circle_scenery, countP_tagName_lines, countP_tagName_markers]
  simp

/-- The document of a chart has one polyline per run of two or more samples besides those
of the scenery. -/
theorem tagCount_polyline :
    Svg.tagCount "polyline" (Svg.document size (chart.elements style size)) =
      Svg.tagCount "polyline" (Svg.document size (chart.scenery style size)) +
        (chart.series.finiteRuns.filter fun run => 2 ≤ run.length).length := by
  rw [Svg.tagCount_document (by decide), Svg.tagCount_document (by decide), elements_eq_runs,
    List.countP_append, List.countP_append, countP_tagName_lines, countP_tagName_markers]
  simp

/-! ## The whole drawing -/

/-- Series with the same runs have the same drawing, or are refused alike. -/
theorem ofSeries?_of_sameRuns
    {series other : Series}
    (sameRuns : other.finiteRuns = series.finiteRuns) :
    ofSeries? other = (ofSeries? series).map fun chart => ⟨other, chart.axes⟩ := by
  have sameSamples : other.finiteSamples = series.finiteSamples := by
    rw [← Series.flatten_finiteRuns, sameRuns, Series.flatten_finiteRuns]
  unfold ofSeries?
  rw [sameSamples]
  split
  · rfl
  · cases Axes.fit? series.finiteSamples <;> rfl

theorem elements_of_sameRuns
    {chart other : Chart}
    (sameAxes : other.axes = chart.axes)
    (sameRuns : other.series.finiteRuns = chart.series.finiteRuns)
    (style : Style)
    (size : Size) :
    other.elements style size = chart.elements style size := by
  have sameSamples : other.series.finiteSamples = chart.series.finiteSamples := by
    rw [← Series.flatten_finiteRuns, sameRuns, Series.flatten_finiteRuns]
  obtain ⟨series, axes⟩ := chart
  obtain ⟨otherSeries, otherAxes⟩ := other
  cases sameAxes
  unfold elements figures
  rw [sameRuns, sameSamples]
  rfl

end Chart

namespace Canvas

variable {State : Type}

/-- What is drawn of a series is a function of its runs. -/
theorem drawSeries_of_sameRuns
    (canvas : Canvas State)
    {series other : Series}
    (sameRuns : other.finiteRuns = series.finiteRuns)
    (style : Style)
    (size : Size)
    (state : State) :
    canvas.drawSeries other style size state = canvas.drawSeries series style size state := by
  unfold drawSeries
  rw [Chart.ofSeries?_of_sameRuns sameRuns]
  cases drawable : Chart.ofSeries? series with
  | error fault => rfl
  | ok chart =>
      have ownSeries : chart.series = series :=
        ((Chart.ofSeries?_eq_ok_iff series chart).mp drawable).2.1
      have sameElements :
          (Chart.mk other chart.axes).elements style size = chart.elements style size := by
        refine Chart.elements_of_sameRuns ?_ ?_ style size
        · rfl
        · rw [ownSeries]
          exact sameRuns
      simp only [Except.map, sameElements]

/-- What drawing a series on a canvas does, in terms of the bounds of its runs. -/
structure DrawsFigures
    (canvas : Canvas State)
    (series : Series)
    (chart : Chart)
    (style : Style)
    (size : Size)
    (state : State)
    (bounds : List (Nat × Nat)) : Prop where
  areBounds : series.AreRunBounds bounds
  /-- The chart consists of a line for each run of two or more samples, and then a marker for each
  finite sample. -/
  figures : chart.figures =
    (bounds.filter fun bound => bound.1 + 2 ≤ bound.2).map (fun bound =>
        .line (between series.samples bound)) ++
      series.finiteSamples.map .marker
  /-- The lines and the markers are drawn behind the scenery, in order, and nothing else. -/
  draws : canvas.drawSeries series style size state =
    (.ok (), (canvas.present (canvas.drawn
      (chart.scenery style size ++
        (bounds.filter fun bound => bound.1 + 2 ≤ bound.2).map (fun bound =>
          .path ((between series.samples bound).map (chart.pixel style size))
            ⟨style.lineColor, 1.0, style.lineWidth⟩) ++
        series.finiteSamples.map fun sample =>
          .disc (chart.pixel style size sample) style.markerRadius style.lineColor)
      state)).2)
  scenery : ∀ element ∈ chart.scenery style size, element.IsScenery
  /-- The lines join the neighbours that are both finite, in order and each pair once. -/
  pieces : (chart.linesThrough style size bounds ++ chart.markers style size).flatMap
      Element.pieces =
    ((neighbours series.samples).filter fun pair => pair.1.isFinite && pair.2.isFinite).map
      fun pair => (chart.pixel style size pair.1, chart.pixel style size pair.2)
  joined : ∀ position,
    series.IsFiniteAt position ∧ series.IsFiniteAt (position + 1) ↔
      ∃ bound ∈ bounds, bound.1 ≤ position ∧ position + 1 < bound.2
  isolated : ∀ position, series.IsIsolatedAt position →
    ∀ bound ∈ bounds, bound.1 + 2 ≤ bound.2 → ¬(bound.1 ≤ position ∧ position < bound.2)
  sameRuns : ∀ other : Series, other.finiteRuns = series.finiteRuns →
    canvas.drawSeries other style size state = canvas.drawSeries series style size state
  /-- A sample that is not finite can be left out at an end, and beside another such one. -/
  erased : ∀ before sample after,
    series.samples = before ++ sample :: after → sample.isFinite = false →
      ((∀ other ∈ before.getLast?, other.isFinite = false) ∨
        ∀ other ∈ after.head?, other.isFinite = false) →
      canvas.drawSeries ⟨before ++ after⟩ style size state =
        canvas.drawSeries series style size state
  circles : Svg.tagCount "circle" (Svg.document size (chart.elements style size)) =
    series.finiteSamples.length
  polylines : Svg.tagCount "polyline" (Svg.document size (chart.elements style size)) =
    Svg.tagCount "polyline" (Svg.document size (chart.scenery style size)) +
      (bounds.filter fun bound => bound.1 + 2 ≤ bound.2).length

/-- On a canvas that never fails, a series that has a chart is drawn as a line for each
maximal run of two or more finite samples and then a marker for each finite sample. -/
theorem drawSeries_draws_runs_then_markers
    {canvas : Canvas State}
    (neverFails : canvas.NeverFails)
    {series : Series}
    {chart : Chart}
    (drawable : Chart.ofSeries? series = .ok chart)
    (style : Style)
    (size : Size)
    (state : State) :
    ∃ bounds, canvas.DrawsFigures series chart style size state bounds := by
  obtain ⟨-, rfl, -⟩ := (Chart.ofSeries?_eq_ok_iff series chart).mp drawable
  obtain ⟨bounds, areBounds, runs_eq⟩ := chart.series.exists_areRunBounds
  have lines_eq := chart.linesThrough_eq_runs style size areBounds runs_eq
  have elements_eq : chart.elements style size =
      chart.scenery style size ++ chart.linesThrough style size bounds ++
        chart.markers style size := by
    rw [lines_eq, Chart.elements_eq_runs]
  refine ⟨bounds, ?_⟩
  constructor
  case areBounds => exact areBounds
  case figures => exact chart.figures_eq_between areBounds runs_eq
  case draws =>
    rw [drawSeries_of_chart neverFails.drawsAll drawable, neverFails.presents, elements_eq]
    rfl
  case scenery =>
    intro element member
    exact chart.isScenery_of_mem_scenery style size member
  case pieces => rw [lines_eq, Chart.pieces_eq_neighbours]
  case joined => exact areBounds.finite_neighbours_iff
  case isolated =>
    intro position isolated bound member long
    exact areBounds.not_inside_of_isIsolatedAt isolated member long
  case sameRuns =>
    intro other sameRuns
    exact drawSeries_of_sameRuns canvas sameRuns style size state
  case erased =>
    intro before sample after split notFinite apart
    apply drawSeries_of_sameRuns canvas
    rw [Series.finiteRuns_erase notFinite apart, ← split]
  case circles => exact chart.tagCount_circle style size
  case polylines =>
    have counts : (bounds.filter fun bound => bound.1 + 2 ≤ bound.2).length =
        (chart.series.finiteRuns.filter fun run => 2 ≤ run.length).length := by
      simpa [Chart.linesThrough] using congrArg List.length lines_eq
    rw [counts]
    exact chart.tagCount_polyline style size

/-- The canvas that keeps the elements drawn on it, in order. -/
def recording : Canvas (List Element) where
  draw element drawn := (.ok (), drawn ++ [element])
  present drawn := (.ok (), drawn)

theorem recording_neverFails : recording.NeverFails :=
  ⟨fun _ _ => rfl, fun _ => rfl⟩

/-- The recorded drawing of a series is that of its chart. -/
theorem recording_drawSeries
    {series : Series}
    {chart : Chart}
    (drawable : Chart.ofSeries? series = .ok chart)
    (style : Style)
    (size : Size) :
    recording.drawSeries series style size [] = (.ok (), chart.elements style size) := by
  have drawn_eq (elements drawn : List Element) :
      recording.drawn elements drawn = drawn ++ elements := by
    induction elements generalizing drawn with
    | nil => exact (List.append_nil drawn).symm
    | cons element elements inductionHypothesis =>
        have later := inductionHypothesis (drawn ++ [element])
        rw [List.append_assoc] at later
        exact later
  rw [drawSeries_of_chart recording_neverFails.drawsAll drawable, drawn_eq]
  rfl

/-- A series with a gap of one sample at its start, one of two, and one beside a sample that
stands alone. -/
def gappySeries : Series :=
  let nan : Float := 0.0 / 0.0
  let infinity : Float := 1.0 / 0.0
  Series.ofPairs [(nan, 1.0), (0.0, 1.0), (1.0, 2.0), (2.0, infinity), (nan, nan), (3.0, 4.0),
    (nan, 5.0), (4.0, 1.0), (5.0, 1.0), (6.0, 2.0)]

theorem drawSeries_draws_gappySeries :
    ∃ chart bounds, recording.NeverFails ∧ Chart.ofSeries? gappySeries = .ok chart ∧
      recording.DrawsFigures gappySeries chart {} ⟨1000, 500⟩ [] bounds ∧
      gappySeries.finiteSamples.length = 6 := by
  cases drawable : Chart.ofSeries? gappySeries with
  | error fault =>
      have accepted : (Chart.ofSeries? gappySeries).toBool = true := by decide +kernel
      rw [drawable] at accepted
      exact absurd accepted Bool.false_ne_true
  | ok chart =>
      obtain ⟨bounds, draws⟩ :=
        drawSeries_draws_runs_then_markers recording_neverFails drawable {} ⟨1000, 500⟩ []
      exact ⟨chart, bounds, recording_neverFails, rfl, draws, by decide +kernel⟩

end Canvas
end LatencyChart
