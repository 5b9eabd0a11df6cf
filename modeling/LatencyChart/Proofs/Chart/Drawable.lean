import LatencyChart.Chart.Canvas
import LatencyChart.Proofs.MaximalRuns

/-!
# Which series can be drawn

Whether a series has a chart, and why it has none, is read off its finite samples.  There
may be no such sample, their times may fit on no axis, or only their round-trip times.
`HasNoChart` names the cause in that order.
-/

namespace LatencyChart

/-- A fault that says which values fit on no axis. -/
def DrawFault.IsRange (fault : DrawFault) : Prop :=
  ∃ min max, fault = .range min max

/-- The faults that lie in the series. -/
def DrawFault.LiesInSeries (fault : DrawFault) : Prop :=
  fault = .emptySeries ∨ fault.IsRange

/-- Values with finite bounds that no axis has room for. -/
inductive Span.IsUnfit (values : List Float) : DrawFault → Prop
  | bounds {min max : Float}
      (extremes : extremes? values = some (min, max))
      (noRoom : Span.ofBounds? min max = .error (.range min max)) :
      Span.IsUnfit values (.range min max)

/-- Why a series has no chart.  The times are looked at before the round-trip times. -/
inductive Series.HasNoChart (series : Series) : DrawFault → Prop
  | nothingFinite
      (noneFinite : ∀ sample ∈ series.samples, sample.isFinite = false) :
      HasNoChart series .emptySeries
  | unfitTimes {fault : DrawFault}
      (unfit : Span.IsUnfit (series.finiteSamples.map (·.time)) fault) :
      HasNoChart series fault
  | unfitRtts {span : Span} {fault : DrawFault}
      (timesFit : Span.fit? (series.finiteSamples.map (·.time)) = .ok span)
      (unfit : Span.IsUnfit (series.finiteSamples.map (·.rtt)) fault) :
      HasNoChart series fault

namespace Series.HasNoChart

variable {series : Series} {fault : DrawFault}

theorem liesInSeries (noChart : series.HasNoChart fault) : fault.LiesInSeries := by
  cases noChart with
  | nothingFinite => exact Or.inl rfl
  | unfitTimes unfit =>
      obtain ⟨_, _⟩ := unfit
      exact Or.inr ⟨_, _, rfl⟩
  | unfitRtts _ unfit =>
      obtain ⟨_, _⟩ := unfit
      exact Or.inr ⟨_, _, rfl⟩

/-- A series is called empty exactly when no sample is finite. -/
theorem emptySeries_iff (series : Series) :
    series.HasNoChart .emptySeries ↔ ∀ sample ∈ series.samples, sample.isFinite = false := by
  constructor
  · intro noChart
    cases noChart with
    | nothingFinite noneFinite => exact noneFinite
    | unfitTimes unfit => nomatch unfit
    | unfitRtts _ unfit => nomatch unfit
  · exact .nothingFinite

end Series.HasNoChart

namespace Span

/-- Bounds without room are refused with the bounds themselves. -/
theorem ofBounds?_eq_error
    {min max : Float}
    {fault : DrawFault}
    (refused : ofBounds? min max = .error fault) :
    fault = .range min max := by
  simp only [ofBounds?] at refused
  split at refused
  · contradiction
  · split at refused
    · contradiction
    · exact (Except.error.inj refused).symm

theorem fit?_eq_error_iff
    {values : List Float}
    (nonempty : values ≠ [])
    (fault : DrawFault) :
    fit? values = .error fault ↔ IsUnfit values fault := by
  constructor
  · intro refused
    unfold fit? at refused
    cases values with
    | nil => contradiction
    | cons first rest =>
        rw [extremes?_cons] at refused
        have refusedBounds := ofBounds?_eq_error refused
        rw [refusedBounds] at refused ⊢
        exact .bounds (extremes?_cons first rest) refused
  · rintro ⟨extremes, noRoom⟩
    unfold fit?
    rw [extremes]
    exact noRoom

theorem IsUnfit.nonempty
    {values : List Float}
    {fault : DrawFault}
    (unfit : IsUnfit values fault) :
    values ≠ [] := by
  rintro rfl
  obtain ⟨extremes, -⟩ := unfit
  contradiction

end Span

/-- The times are fitted first, and the round-trip times only when the times fit. -/
theorem Axes.fit?_eq_error_iff
    (samples : List Sample)
    (fault : DrawFault) :
    Axes.fit? samples = .error fault ↔
      Span.fit? (samples.map (·.time)) = .error fault ∨
        ∃ span, Span.fit? (samples.map (·.time)) = .ok span ∧
          Span.fit? (samples.map (·.rtt)) = .error fault := by
  unfold Axes.fit?
  -- The round-trip times are reached only past the times.
  cases Span.fit? (samples.map (·.time)) with
  | error cause =>
      change Except.error cause = .error fault ↔ _
      simp
  | ok time =>
      cases Span.fit? (samples.map (·.rtt)) with
      | error cause =>
          change Except.error cause = .error fault ↔ _
          simp
      | ok rtt =>
          change Except.ok _ = .error fault ↔ _
          simp

namespace Series

theorem finiteSamples_eq_nil_iff (series : Series) :
    series.finiteSamples = [] ↔ ∀ sample ∈ series.samples, sample.isFinite = false := by
  unfold finiteSamples
  rw [List.filter_eq_nil_iff]
  simp

/-- The finite samples are those of the runs, in order. -/
theorem flatten_finiteRuns (series : Series) :
    series.finiteRuns.flatten = series.finiteSamples := by
  rw [finiteRuns_eq_runsOf, (maximalRuns_runsOf series.samples).flatten_eq_filter]
  simp [finiteSamples]

end Series

namespace Chart

theorem ofSeries?_of_nonempty
    {series : Series}
    (someFinite : series.finiteSamples ≠ []) :
    ofSeries? series =
      (Axes.fit? series.finiteSamples).map fun axes => ⟨series, axes⟩ := by
  unfold ofSeries?
  rw [if_neg (by simpa using someFinite)]

theorem ofSeries?_of_empty
    {series : Series}
    (noneFinite : series.finiteSamples = []) :
    ofSeries? series = .error .emptySeries := by
  unfold ofSeries?
  rw [noneFinite]
  rfl

/-- A chart shows its series on axes that are fitted to the finite samples. -/
theorem ofSeries?_eq_ok_iff
    (series : Series)
    (chart : Chart) :
    ofSeries? series = .ok chart ↔
      series.finiteSamples ≠ [] ∧ chart.series = series ∧
        Axes.fit? series.finiteSamples = .ok chart.axes := by
  rcases Decidable.em (series.finiteSamples = []) with noneFinite | someFinite
  · rw [ofSeries?_of_empty noneFinite]
    simp [noneFinite]
  · rw [ofSeries?_of_nonempty someFinite]
    cases Axes.fit? series.finiteSamples with
    | error cause => simp [Except.map]
    | ok axes =>
        cases chart with
        | mk drawn shown =>
            simp only [Except.map, Except.ok.injEq, Chart.mk.injEq, ne_eq, someFinite,
              not_false_eq_true, true_and]
            exact and_congr eq_comm Iff.rfl

/-- A series is refused exactly for its own cause. -/
theorem ofSeries?_eq_error_iff
    (series : Series)
    (fault : DrawFault) :
    ofSeries? series = .error fault ↔ series.HasNoChart fault := by
  rcases Decidable.em (series.finiteSamples = []) with noneFinite | someFinite
  · rw [ofSeries?_of_empty noneFinite]
    constructor
    · intro refused
      cases refused
      exact .nothingFinite ((Series.finiteSamples_eq_nil_iff series).mp noneFinite)
    · rintro (_ | unfit | ⟨-, unfit⟩)
      · rfl
      all_goals exact absurd (by rw [noneFinite]; rfl) unfit.nonempty
  · have timesNonempty : series.finiteSamples.map (·.time) ≠ [] := by simpa using someFinite
    have rttsNonempty : series.finiteSamples.map (·.rtt) ≠ [] := by simpa using someFinite
    have fitted : ofSeries? series = .error fault ↔
        Axes.fit? series.finiteSamples = .error fault := by
      rw [ofSeries?_of_nonempty someFinite]
      cases Axes.fit? series.finiteSamples <;> simp [Except.map]
    rw [fitted, Axes.fit?_eq_error_iff, Span.fit?_eq_error_iff timesNonempty]
    constructor
    · rintro (unfit | ⟨span, timesFit, refused⟩)
      · exact .unfitTimes unfit
      · exact .unfitRtts timesFit ((Span.fit?_eq_error_iff rttsNonempty fault).mp refused)
    · rintro (noneFinite | unfit | ⟨timesFit, unfit⟩)
      · exact absurd ((Series.finiteSamples_eq_nil_iff series).mpr noneFinite) someFinite
      · exact Or.inl unfit
      · exact Or.inr ⟨_, timesFit, (Span.fit?_eq_error_iff rttsNonempty fault).mpr unfit⟩

/-- Only a series without finite samples is refused as empty. -/
theorem ofSeries?_eq_emptySeries_iff (series : Series) :
    ofSeries? series = .error .emptySeries ↔ series.finiteSamples = [] := by
  rw [ofSeries?_eq_error_iff, Series.HasNoChart.emptySeries_iff, Series.finiteSamples_eq_nil_iff]

theorem exists_of_toBool
    {series : Series}
    (accepted : (ofSeries? series).toBool = true) :
    ∃ chart, ofSeries? series = .ok chart := by
  cases drawable : ofSeries? series with
  | error fault =>
      rw [drawable] at accepted
      contradiction
  | ok chart => exact ⟨chart, rfl⟩

end Chart

/-! ## Drawing on a canvas -/

namespace Canvas

variable {State : Type}

/-- Every element can be drawn on a canvas in every state. -/
def DrawsAll (canvas : Canvas State) : Prop :=
  ∀ element state, (canvas.draw element state).1 = .ok ()

/-- No operation of a canvas fails in any state. -/
structure NeverFails (canvas : Canvas State) : Prop where
  drawsAll : canvas.DrawsAll
  presents : ∀ state, (canvas.present state).1 = .ok ()

/-- The state of a canvas after elements were drawn on it in order. -/
def drawn
    (canvas : Canvas State)
    (elements : List Element)
    (state : State) : State :=
  elements.foldl (fun current element => (canvas.draw element current).2) state

/-- Where every element can be drawn, only showing the drawing can fail. -/
theorem perform_of_drawsAll
    {canvas : Canvas State}
    (drawsAll : canvas.DrawsAll)
    (elements : List Element)
    (state : State) :
    canvas.perform elements state = canvas.present (canvas.drawn elements state) := by
  induction elements generalizing state with
  | nil => rfl
  | cons element rest inductionHypothesis =>
      have drawn_eq : canvas.draw element state = (.ok (), (canvas.draw element state).2) :=
        Prod.ext (drawsAll element state) rfl
      rw [perform, drawn_eq]
      exact inductionHypothesis (canvas.draw element state).2

/-- A series without a chart is refused before anything is drawn. -/
theorem drawSeries_of_noChart
    (canvas : Canvas State)
    {series : Series}
    {fault : DrawFault}
    (refused : Chart.ofSeries? series = .error fault)
    (style : Style)
    (size : Size)
    (state : State) :
    canvas.drawSeries series style size state = (.error fault, state) := by
  unfold drawSeries
  rw [refused]

theorem drawSeries_of_chart
    {canvas : Canvas State}
    (drawsAll : canvas.DrawsAll)
    {series : Series}
    {chart : Chart}
    (drawable : Chart.ofSeries? series = .ok chart)
    (style : Style)
    (size : Size)
    (state : State) :
    canvas.drawSeries series style size state =
      ((canvas.present (canvas.drawn (chart.elements style size) state)).1.mapError fault,
        (canvas.present (canvas.drawn (chart.elements style size) state)).2) := by
  unfold drawSeries
  rw [drawable]
  simp only [perform_of_drawsAll drawsAll]

/-- What every operation of a canvas keeps, drawing a series keeps. -/
theorem drawSeries_keeps
    {canvas : Canvas State}
    (holds : State → Prop)
    (draws : ∀ element state, holds state → holds (canvas.draw element state).2)
    (presents : ∀ state, holds state → holds (canvas.present state).2)
    (series : Series)
    (style : Style)
    (size : Size)
    {state : State}
    (initially : holds state) :
    holds (canvas.drawSeries series style size state).2 := by
  have performed (elements : List Element) (state : State) (initially : holds state) :
      holds (canvas.perform elements state).2 := by
    induction elements generalizing state with
    | nil => exact presents state initially
    | cons element rest inductionHypothesis =>
        have next := draws element state initially
        rw [perform]
        split
        · next drawn => exact inductionHypothesis _ (by rwa [drawn] at next)
        · next drawn => rwa [drawn] at next
  unfold drawSeries
  cases Chart.ofSeries? series with
  | error cause => exact initially
  | ok chart => exact performed (chart.elements style size) state initially

theorem fault_not_liesInSeries (text : String) : ¬(fault text).LiesInSeries := by
  rintro (isEmpty | ⟨min, max, isRange⟩) <;> contradiction

/-- Drawing a series that has a chart fails only by an operation of the canvas. -/
theorem exists_fault_of_chart
    {canvas : Canvas State}
    {series : Series}
    {chart : Chart}
    (drawable : Chart.ofSeries? series = .ok chart)
    {style : Style}
    {size : Size}
    {state : State}
    {cause : DrawFault}
    (failed : (canvas.drawSeries series style size state).1 = .error cause) :
    ∃ text, cause = fault text := by
  unfold drawSeries at failed
  rw [drawable] at failed
  dsimp only at failed
  cases outcome : (canvas.perform (chart.elements style size) state).1 with
  | ok _ =>
      rw [outcome] at failed
      contradiction
  | error text =>
      rw [outcome] at failed
      exact ⟨text, (Except.error.inj failed).symm⟩

end Canvas
end LatencyChart
