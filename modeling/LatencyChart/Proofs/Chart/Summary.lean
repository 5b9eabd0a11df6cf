import LatencyChart.Proofs.Chart.Figures
import LatencyChart.Proofs.Sink.Agreement

/-!
# The summary of what a chart shows

The summary of a series and its chart are worked out apart, and both leave out the samples
that are not finite.  So there is a summary exactly when drawing does not call the series
empty, it counts the markers, its extremes are the bounds that the axis of round-trip times is
fitted to, and its times are those of the first and of the last marker.
-/

namespace LatencyChart

/-- The sample that a figure marks. -/
def Figure.marked? : Figure → Option Sample
  | .line _ => none
  | .marker sample => some sample

/-- Whether an element is a disc. -/
def Element.isDisc : Element → Bool
  | .disc .. => true
  | _ => false

namespace Series

@[simp] theorem finiteSamples_finiteSamples (series : Series) :
    (Series.mk series.finiteSamples).finiteSamples = series.finiteSamples := by
  simp [finiteSamples]

end Series

/-! ## Markers -/

namespace Chart

/-- The samples that a chart marks, in drawing order. -/
def marked (chart : Chart) : List Sample :=
  chart.figures.filterMap Figure.marked?

variable (chart : Chart) (style : Style) (size : Size)

theorem marked_eq_finiteSamples :
    chart.marked = chart.series.finiteSamples := by
  have linesMarkNothing (runs : List (List Sample)) :
      (runs.map Figure.line).filterMap Figure.marked? = [] := by
    simp [List.filterMap_map, Figure.marked?, Function.comp_def]
  rw [marked, figures, List.filterMap_append, linesMarkNothing, List.nil_append,
    List.filterMap_map]
  exact List.filterMap_some

/-- The discs of a drawing are the markers, and nothing else is drawn as a disc. -/
theorem filter_isDisc_elements :
    (chart.elements style size).filter Element.isDisc =
      chart.marked.map fun sample =>
        .disc (chart.pixel style size sample) style.markerRadius style.lineColor := by
  have sceneryHasNone : (chart.scenery style size).filter Element.isDisc = [] := by
    rw [List.filter_eq_nil_iff]
    intro element member
    cases chart.isScenery_of_mem_scenery style size member <;> simp [Element.isDisc]
  have linesHaveNone (runs : List (List Sample)) :
      (runs.map (chart.lineThrough style size)).filter Element.isDisc = [] := by
    simp [List.filter_map, lineThrough, Element.isDisc, Function.comp_def]
  have markersAreDiscs :
      (chart.markers style size).filter Element.isDisc = chart.markers style size := by
    rw [List.filter_eq_self]
    intro element member
    obtain ⟨sample, -, rfl⟩ := List.mem_map.mp member
    rfl
  rw [elements_eq_runs, List.filter_append, List.filter_append, sceneryHasNone, linesHaveNone,
    markersAreDiscs, marked_eq_finiteSamples]
  rfl

end Chart

/-! ## Summaries -/

namespace Summary

theorem ofSeries?_eq_none_iff (series : Series) :
    ofSeries? series = none ↔ series.finiteSamples = [] := by
  unfold ofSeries?
  cases series.finiteSamples with
  | nil => simp
  | cons first rest => simp [extremes?]

/-- A summary is worked out from the finite samples alone. -/
theorem ofSeries?_finiteSamples (series : Series) :
    ofSeries? ⟨series.finiteSamples⟩ = ofSeries? series := by
  unfold ofSeries?
  rw [Series.finiteSamples_finiteSamples]

/-- What a summary says of the finite samples. -/
structure SpeaksOf (summary : Summary) (samples : List Sample) : Prop where
  count : summary.count = samples.length
  extremes : extremes? (samples.map (·.rtt)) = some (summary.min, summary.max)
  firstTime : samples.head?.map (·.time) = some summary.firstTime
  lastTime : samples.getLast?.map (·.time) = some summary.lastTime

theorem speaksOf_of_ofSeries?
    {series : Series}
    {summary : Summary}
    (summarised : ofSeries? series = some summary) :
    summary.SpeaksOf series.finiteSamples := by
  unfold ofSeries? at summarised
  cases samples : series.finiteSamples with
  | nil =>
      rw [samples] at summarised
      contradiction
  | cons first rest =>
      rw [samples] at summarised
      obtain ⟨bounds, extremes, rfl⟩ := Option.map_eq_some_iff.mp summarised
      constructor
      case count => simp
      case extremes => exact extremes
      case firstTime => rfl
      case lastTime =>
        rw [List.getLast?_eq_some_getLast (List.cons_ne_nil first rest)]
        rfl

/-- There is no summary exactly when drawing finds nothing to draw. -/
theorem ofSeries?_eq_none_iff_outcome
    {series : Series}
    {attempt : Attempt}
    (fits : attempt.Fits series)
    (backend : Backend) :
    ofSeries? series = none ↔ attempt.outcome backend series = some (.error .emptySeries) := by
  rw [ofSeries?_eq_none_iff, Attempt.outcome_eq_error_iff fits (Or.inl rfl),
    Series.HasNoChart.emptySeries_iff, Series.finiteSamples_eq_nil_iff]

/-- The axis of round-trip times is fitted to the extremes of the summary. -/
theorem SpeaksOf.fit?_eq
    {summary : Summary}
    {samples : List Sample}
    (speaks : summary.SpeaksOf samples) :
    Span.fit? (samples.map (·.rtt)) = Span.ofBounds? summary.min summary.max := by
  unfold Span.fit?
  rw [speaks.extremes]

/-- Round-trip times that fit on no axis are told by the extremes of the summary. -/
theorem SpeaksOf.range_eq
    {summary : Summary}
    {series : Series}
    (speaks : summary.SpeaksOf series.finiteSamples)
    {span : Span}
    (timesFit : Span.fit? (series.finiteSamples.map (·.time)) = .ok span)
    {fault : DrawFault}
    (noChart : series.HasNoChart fault)
    (isRange : fault.IsRange) :
    fault = .range summary.min summary.max := by
  have unfitRefused {values : List Float} {fault : DrawFault}
      (unfit : Span.IsUnfit values fault) : Span.fit? values = .error fault :=
    (Span.fit?_eq_error_iff unfit.nonempty fault).mpr unfit
  cases noChart with
  | nothingFinite =>
      obtain ⟨min, max, isRange⟩ := isRange
      contradiction
  | unfitTimes unfit =>
      rw [unfitRefused unfit] at timesFit
      contradiction
  | unfitRtts _ unfit =>
      have refused := unfitRefused unfit
      rw [speaks.fit?_eq] at refused
      exact Span.ofBounds?_eq_error refused

/-- What a summary says of a chart and of the attempts to draw it. -/
structure TellsOf (summary : Summary) (series : Series) : Prop where
  /-- The extremes are the bounds that the axis of round-trip times is fitted to. -/
  extremes :
    extremes? (series.finiteSamples.map (·.rtt)) = some (summary.min, summary.max) ∧
      Span.fit? (series.finiteSamples.map (·.rtt)) = Span.ofBounds? summary.min summary.max
  /-- Past the times, only these extremes are told to fit on no axis. -/
  range : ∀ (backend : Backend) (attempt : Attempt) (span : Span) (min max : Float),
    Span.fit? (series.finiteSamples.map (·.time)) = .ok span →
      attempt.outcome backend series = some (.error (.range min max)) →
        min = summary.min ∧ max = summary.max
  /-- The discs that are drawn mark as many samples as are counted, from that of the first
  time to that of the last. -/
  markers : ∀ chart, Chart.ofSeries? series = .ok chart →
    chart.marked.length = summary.count ∧
    chart.marked.head?.map (·.time) = some summary.firstTime ∧
    chart.marked.getLast?.map (·.time) = some summary.lastTime ∧
    ∀ (style : Style) (size : Size), ∃ drawing,
      Canvas.recording.drawSeries series style size [] = (.ok (), drawing) ∧
      drawing.filter Element.isDisc =
        chart.marked.map fun sample =>
          .disc (chart.pixel style size sample) style.markerRadius style.lineColor

theorem SpeaksOf.tellsOf
    {summary : Summary}
    {series : Series}
    (speaks : summary.SpeaksOf series.finiteSamples) :
    summary.TellsOf series := by
  constructor
  case extremes => exact ⟨speaks.extremes, speaks.fit?_eq⟩
  case range =>
    intro backend attempt span min max timesFit failed
    have isRange : (DrawFault.range min max).IsRange := ⟨min, max, rfl⟩
    have fits := attempt.exists_outcome_iff.mp ⟨_, failed⟩
    have noChart := (Attempt.outcome_eq_error_iff fits (Or.inr isRange)).mp failed
    exact DrawFault.range.inj (speaks.range_eq timesFit noChart isRange)
  case markers =>
    intro chart drawable
    have ownSeries := ((Chart.ofSeries?_eq_ok_iff series chart).mp drawable).2.1
    rw [chart.marked_eq_finiteSamples, ownSeries]
    refine ⟨speaks.count.symm, speaks.firstTime, speaks.lastTime, ?_⟩
    intro style size
    refine ⟨_, Canvas.recording_drawSeries drawable style size, ?_⟩
    rw [chart.filter_isDisc_elements, chart.marked_eq_finiteSamples, ownSeries]

/-- A series has no summary exactly when the attempts to draw it find nothing to draw, and an
attempt has an outcome exactly when its numbers fit the machine.  A summary counts the markers of
the chart, its extremes are the bounds of the axis of round-trip times and of every fault on it,
and its times are those of the first and of the last marker.  Samples that are not finite say
nothing to it. -/
theorem ofSeries?_tells_what_is_drawn (series : Series) :
    (∀ (backend : Backend) (attempt : Attempt),
      ((∃ outcome, attempt.outcome backend series = some outcome) ↔ attempt.Fits series) ∧
      (attempt.Fits series → (ofSeries? series = none ↔
        attempt.outcome backend series = some (.error .emptySeries)))) ∧
    (∀ summary, ofSeries? series = some summary → summary.TellsOf series) ∧
    ofSeries? ⟨series.finiteSamples⟩ = ofSeries? series := by
  refine ⟨?_, ?_, ofSeries?_finiteSamples series⟩
  · intro backend attempt
    exact ⟨attempt.exists_outcome_iff, fun fits => ofSeries?_eq_none_iff_outcome fits backend⟩
  · intro summary summarised
    exact (speaksOf_of_ofSeries? summarised).tellsOf

end Summary
end LatencyChart
