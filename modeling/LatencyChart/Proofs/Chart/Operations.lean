import LatencyChart.Proofs.Sink.Agreement

/-!
# The operations on a canvas

Whether a series has a chart is settled before a canvas sees the first operation.  A canvas that
keeps a log of its operations shows this: for a refused series the log stays empty, and the
operations for a chart are those of its drawing in order, up to the first one that fails.  So a
fault that lies in the series leaves a canvas as it was, and past the first operation only the
canvas itself can be at fault.
-/

namespace LatencyChart

/-- An operation on a canvas. -/
inductive Operation
  | draw (element : Element)
  | present

namespace Chart

/-- The operations that draw a chart and show it. -/
def operations (chart : Chart) (style : Style) (size : Size) : List Operation :=
  (chart.elements style size).map .draw ++ [.present]

end Chart

namespace Canvas

variable {State : Type}

/-- The canvas that also keeps the operations issued on it, in order and whether they fail or
not. -/
def logged (canvas : Canvas State) : Canvas (State × List Operation) where
  draw element state :=
    ((canvas.draw element state.1).1,
      (canvas.draw element state.1).2, state.2 ++ [.draw element])
  present state :=
    ((canvas.present state.1).1, (canvas.present state.1).2, state.2 ++ [.present])

/-- Some of the operations to come were issued: the first ones, but at least one, and all of them
unless the last one issued has failed. -/
structure HasIssued (outcome : Except String Unit) (issued operations : List Operation) :
    Prop where
  nonempty : issued ≠ []
  isPrefix : issued <+: operations
  complete : outcome = .ok () → issued = operations

/-- A log changes nothing of what a canvas does, and it takes in the operations issued. -/
theorem perform_logged
    (canvas : Canvas State)
    (elements : List Element)
    (state : State)
    (log : List Operation) :
    ∃ issued,
      canvas.logged.perform elements (state, log) =
        ((canvas.perform elements state).1, (canvas.perform elements state).2, log ++ issued) ∧
      HasIssued (canvas.perform elements state).1 issued (elements.map .draw ++ [.present]) := by
  induction elements generalizing state log with
  | nil =>
      exact ⟨[.present], rfl, List.cons_ne_nil _ _, List.prefix_refl _, fun _ => rfl⟩
  | cons element rest inductionHypothesis =>
      -- The drawing goes on only past an element that could be drawn.
      cases drawn : canvas.draw element state with
      | mk outcome next =>
          cases outcome with
          | ok _ =>
              obtain ⟨issued, performed, hasIssued⟩ :=
                inductionHypothesis next (log ++ [.draw element])
              refine ⟨.draw element :: issued, ?_, List.cons_ne_nil _ _, ?_, ?_⟩
              · rw [List.append_cons]
                simpa only [perform, logged, drawn] using performed
              · exact List.cons_prefix_cons.mpr ⟨rfl, hasIssued.isPrefix⟩
              · intro succeeded
                simp only [perform, drawn] at succeeded
                rw [hasIssued.complete succeeded]
                rfl
          | error text =>
              refine ⟨[.draw element], ?_, List.cons_ne_nil _ _, ?_, ?_⟩
              · simp only [perform, logged, drawn]
              · exact List.cons_prefix_cons.mpr ⟨rfl, List.nil_prefix⟩
              · intro succeeded
                simp only [perform, drawn] at succeeded
                contradiction

/-- A log changes nothing of how a series is drawn. -/
theorem drawSeries_eq_logged
    (canvas : Canvas State)
    (series : Series)
    (style : Style)
    (size : Size)
    (state : State) :
    canvas.drawSeries series style size state =
      ((canvas.logged.drawSeries series style size (state, [])).1,
        (canvas.logged.drawSeries series style size (state, [])).2.1) := by
  unfold drawSeries
  cases Chart.ofSeries? series with
  | error cause => rfl
  | ok chart =>
      obtain ⟨issued, performed, -⟩ := canvas.perform_logged (chart.elements style size) state []
      dsimp only
      rw [performed]

/-- What a series is to a canvas that keeps a log: either it was refused before the first operation,
for a cause that lies in it, or some operations of its chart were issued, and only the canvas can
have failed. -/
inductive DrawsLogged (series : Series) (style : Style) (size : Size) (state : State) :
    Except DrawFault Unit × State × List Operation → Prop
  | refused {cause : DrawFault} (noChart : series.HasNoChart cause) :
      DrawsLogged series style size state (.error cause, state, [])
  | drawn {chart : Chart} {outcome : Except String Unit} {final : State} {issued : List Operation}
      (drawable : Chart.ofSeries? series = .ok chart)
      (hasIssued : HasIssued outcome issued (chart.operations style size)) :
      DrawsLogged series style size state (outcome.mapError fault, final, issued)

theorem drawsLogged_drawSeries
    (canvas : Canvas State)
    (series : Series)
    (style : Style)
    (size : Size)
    (state : State) :
    DrawsLogged series style size state
      (canvas.logged.drawSeries series style size (state, [])) := by
  cases drawable : Chart.ofSeries? series with
  | error cause =>
      rw [canvas.logged.drawSeries_of_noChart drawable]
      exact .refused ((Chart.ofSeries?_eq_error_iff series cause).mp drawable)
  | ok chart =>
      obtain ⟨issued, performed, hasIssued⟩ :=
        canvas.perform_logged (chart.elements style size) state []
      unfold drawSeries
      rw [drawable]
      dsimp only
      rw [performed]
      exact .drawn drawable hasIssued

namespace DrawsLogged

variable
  {series : Series}
  {style : Style}
  {size : Size}
  {state : State}
  {result : Except DrawFault Unit × State × List Operation}
  (draws : DrawsLogged series style size state result)

include draws

/-- A fault that lies in the series is why it has no chart, and it leaves everything as it was. -/
theorem noChart_of_liesInSeries
    {cause : DrawFault}
    (failed : result.1 = .error cause)
    (inSeries : cause.LiesInSeries) :
    series.HasNoChart cause ∧ result.2 = (state, []) := by
  cases draws with
  | refused noChart =>
      rw [← Except.error.inj failed]
      exact ⟨noChart, rfl⟩
  | @drawn chart outcome final issued drawable hasIssued =>
      cases outcome with
      | ok _ => contradiction
      | error text =>
          rw [← Except.error.inj failed] at inSeries
          exact absurd inSeries (fault_not_liesInSeries text)

/-- Past the first operation, only the canvas can be at fault. -/
theorem isBackend_of_issued
    (someIssued : result.2.2 ≠ [])
    {cause : DrawFault}
    (failed : result.1 = .error cause) :
    ∃ text, cause = .backend text := by
  cases draws with
  | refused noChart => exact absurd rfl someIssued
  | @drawn chart outcome final issued drawable hasIssued =>
      cases outcome with
      | ok _ => contradiction
      | error text => exact ⟨_, (Except.error.inj failed).symm⟩

/-- What is issued belongs to the drawing of the chart, and a success has drawn all of it. -/
theorem isPrefix_of_chart
    {chart : Chart}
    (drawable : Chart.ofSeries? series = .ok chart) :
    result.2.2 ≠ [] ∧ result.2.2 <+: chart.operations style size ∧
      (result.1 = .ok () → result.2.2 = chart.operations style size) := by
  cases draws with
  | @refused cause noChart =>
      rw [(Chart.ofSeries?_eq_error_iff series cause).mpr noChart] at drawable
      contradiction
  | @drawn other outcome final issued otherDrawable hasIssued =>
      rw [drawable] at otherDrawable
      cases otherDrawable
      refine ⟨hasIssued.nonempty, hasIssued.isPrefix, ?_⟩
      intro succeeded
      cases outcome with
      | ok _ => exact hasIssued.complete rfl
      | error text => contradiction

end DrawsLogged

/-- Only a series without finite samples is refused as empty. -/
theorem drawSeries_ne_emptySeries
    (canvas : Canvas State)
    {series : Series}
    (someFinite : series.finiteSamples ≠ [])
    (style : Style)
    (size : Size)
    (state : State) :
    (canvas.drawSeries series style size state).1 ≠ .error .emptySeries := by
  intro failed
  rw [drawSeries_eq_logged] at failed
  have draws := canvas.drawsLogged_drawSeries series style size state
  have noChart := (draws.noChart_of_liesInSeries failed (Or.inl rfl)).1
  rw [Series.HasNoChart.emptySeries_iff, ← Series.finiteSamples_eq_nil_iff] at noChart
  exact someFinite noChart

/-- Whether a series can be drawn is decided before anything is drawn.  On every canvas, in every
state, a fault that lies in the series leaves the canvas as it was, without one operation on it.
Past the first operation only the canvas can be at fault, and what is issued are operations of the
chart, in order.  A file is never refused as empty by its canvas, since it was looked at before. -/
theorem drawSeries_decides_before_drawing
    (canvas : Canvas State)
    (series : Series)
    (style : Style)
    (size : Size)
    (state : State) :
    let drawn := canvas.drawSeries series style size state
    let logged := canvas.logged.drawSeries series style size (state, [])
    drawn = (logged.1, logged.2.1) ∧
    (∀ cause, drawn.1 = .error cause → cause.LiesInSeries →
      series.HasNoChart cause ∧ drawn.2 = state ∧ logged.2 = (state, [])) ∧
    (logged.2.2 ≠ [] → ∀ cause, drawn.1 = .error cause → ∃ text, cause = .backend text) ∧
    (∀ chart, Chart.ofSeries? series = .ok chart →
      logged.2.2 ≠ [] ∧ logged.2.2 <+: chart.operations style size ∧
        (drawn.1 = .ok () → logged.2.2 = chart.operations style size)) ∧
    ∀ (path : PathName) (format : Format) (store : Store),
      ((Sink.renderFile path format series style store).map (·.result) =
          some (.error .emptySeries) ↔
        series.finiteSamples.isEmpty = true) ∧
      (series.finiteSamples.isEmpty = false → ∀ fileSize : Size,
        ((Sink.canvas path format fileSize).drawSeries series style fileSize
          ⟨[], store⟩).1 ≠ .error .emptySeries) := by
  have draws := canvas.drawsLogged_drawSeries series style size state
  dsimp only
  rw [drawSeries_eq_logged]
  refine ⟨rfl, ?_, draws.isBackend_of_issued, fun chart => draws.isPrefix_of_chart, ?_⟩
  · intro cause failed inSeries
    obtain ⟨noChart, start⟩ := draws.noChart_of_liesInSeries failed inSeries
    exact ⟨noChart, congrArg Prod.fst start, start⟩
  · intro path format store
    constructor
    · rw [List.isEmpty_iff]
      exact Sink.result_renderFile_eq_emptySeries_iff
    · intro someFinite fileSize
      apply drawSeries_ne_emptySeries
      simpa using someFinite

end Canvas
end LatencyChart
