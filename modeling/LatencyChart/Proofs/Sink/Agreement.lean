import LatencyChart.Proofs.Sink.File
import LatencyChart.Proofs.Viewer

/-!
# Agreement of the sinks

A chart is drawn into a file of either format, into a picture in memory, and into a picture
that is thrown away before a window opens.  Each of these attempts has its own style, its
own size and its own other causes to fail, and it has no outcome at all when its numbers are too
large for the machine.  The faults that lie in the series are the same for all of them, and a
window that opened never meets one later.
-/

namespace LatencyChart

/-! ## Attempts -/

/-- The ways to draw a series, each with a style, a size and a place of its own. -/
inductive Attempt
  | file (path : PathName) (format : Format) (style : Style) (store : Store)
  | picture (style : Style) (size : Size)
  /-- The picture that is drawn before a window opens, and what comes of the window itself. -/
  | window (opened : Except String Unit) (style : Style)

namespace Attempt

/-- What comes of an attempt to draw a series, where a backend draws the pictures in memory.
There is no outcome when a number is too large for the machine. -/
def outcome (backend : Backend) (series : Series) : Attempt → Option (Except DrawFault Unit)
  | .file path format style store =>
      (Sink.renderFile path format series style store).map (·.result)
  | .picture style size =>
      (Bitmap.ofSeries? backend series style size).map fun drawn => drawn.map fun _ => ()
  | .window opened style =>
      (Viewer.openWindow ⟨backend, opened⟩ series style).map (·.1)

/-- The numbers of an attempt are small enough for the machine: the lengths of a figure have at
most 32 bits, and a picture has fewer than `2 ^ 63` bytes.  The file of a series without finite
samples is not even begun. -/
def Fits (series : Series) : Attempt → Prop
  | .file _ format style _ =>
      series.finiteSamples = [] ∨
        (style.exactPixels.IsShort ∧ (format = .png → style.exactPixels.bytes < 2 ^ 63))
  | .picture _ size => size.bytes < 2 ^ 63
  | .window _ style => style.exactPixels.IsShort ∧ style.exactPixels.bytes < 2 ^ 63

end Attempt

variable
  {backend : Backend}
  {series : Series}
  {chart : Chart}
  {style : Style}
  {fault : DrawFault}

namespace Viewer

variable {display : Display}

/-- What opening a window comes to once the chart was drawn, or was not. -/
def opened (display : Display) (size : Size) :
    Except DrawFault Bitmap → Except DrawFault Unit × List Event
  | .error fault => (.error fault, [])
  | .ok _ => (display.window.mapError .viewer, [.viewerOpening size.width size.height])

theorem openWindow_of_short (short : style.exactPixels.IsShort) :
    openWindow display series style =
      (Bitmap.ofSeries? display.backend series style style.exactPixels).map
        (opened display style.exactPixels) := by
  unfold openWindow
  rw [Style.pixels?_eq_some_iff.mpr ⟨short, rfl⟩]
  dsimp only [Option.bind_eq_bind, Option.bind_some]
  cases Bitmap.ofSeries? display.backend series style style.exactPixels with
  | none => rfl
  | some outcome => cases outcome <;> rfl

theorem openWindow_of_not_short (tooLong : ¬style.exactPixels.IsShort) :
    openWindow display series style = none := by
  unfold openWindow
  rw [Style.pixels?_eq_none_iff.mpr tooLong]
  rfl

/-- A window is tried exactly when the figure is short and its picture has a buffer. -/
theorem openWindow_eq_none_iff :
    openWindow display series style = none ↔
      ¬(style.exactPixels.IsShort ∧ style.exactPixels.HasBuffer) := by
  rcases Decidable.em style.exactPixels.IsShort with short | tooLong
  · rw [openWindow_of_short short, Option.map_eq_none_iff, Bitmap.ofSeries?_eq_none_iff,
      and_iff_right short]
  · exact iff_of_true (openWindow_of_not_short tooLong) fun fits => tooLong fits.1

/-- No window opens for a series without a chart. -/
theorem openWindow_of_noChart
    (refused : Chart.ofSeries? series = .error fault)
    (fits : style.exactPixels.IsShort ∧ style.exactPixels.HasBuffer) :
    openWindow display series style = some (.error fault, []) := by
  rw [openWindow_of_short fits.1, Bitmap.ofSeries?_of_noChart refused fits.2]
  rfl

/-- Behind a chart that was painted, everything depends on the window. -/
theorem openWindow_painter_of_chart
    (drawable : Chart.ofSeries? series = .ok chart)
    (fits : style.exactPixels.IsShort ∧ style.exactPixels.HasBuffer)
    {window : Except String Unit} :
    openWindow ⟨.painter, window⟩ series style =
      some (window.mapError .viewer,
        [.viewerOpening style.exactPixels.width style.exactPixels.height]) := by
  rw [openWindow_of_short fits.1, Bitmap.ofSeries?_of_chart drawable fits.2]
  rfl

/-- For a series that has a chart, only the backend and the window itself can fail. -/
theorem not_liesInSeries_of_openWindow
    (drawable : Chart.ofSeries? series = .ok chart)
    {events : List Event}
    (failed : openWindow display series style = some (.error fault, events)) :
    ¬fault.LiesInSeries := by
  rcases Decidable.em style.exactPixels.IsShort with short | tooLong
  · rw [openWindow_of_short short] at failed
    obtain ⟨outcome, answered, came⟩ := Option.map_eq_some_iff.mp failed
    cases outcome with
    | error cause =>
        cases came
        obtain ⟨text, rfl⟩ := Bitmap.exists_fault_of_ofSeries? drawable answered
        exact Canvas.fault_not_liesInSeries text
    | ok bitmap =>
        cases window : display.window with
        | ok _ =>
            rw [opened, window] at came
            cases came
        | error text =>
            rw [opened, window] at came
            cases came
            rintro (isEmpty | ⟨min, max, isRange⟩) <;> contradiction
  · rw [openWindow_of_not_short tooLong] at failed
    contradiction

end Viewer

namespace Attempt

/-- An attempt has no outcome exactly when its numbers are too large. -/
theorem outcome_eq_none_iff (attempt : Attempt) :
    attempt.outcome backend series = none ↔ ¬attempt.Fits series := by
  cases attempt with
  | file path format style store =>
      rw [outcome, Option.map_eq_none_iff, Sink.renderFile_eq_none_iff, Format.size?_eq_none_iff,
        Format.HasRoom, Size.hasBuffer_iff, Fits, not_or]
  | picture style size =>
      rw [outcome, Option.map_eq_none_iff, Bitmap.ofSeries?_eq_none_iff, Size.hasBuffer_iff, Fits]
  | window opened style =>
      rw [outcome, Option.map_eq_none_iff, Viewer.openWindow_eq_none_iff, Size.hasBuffer_iff, Fits]

theorem exists_outcome_iff (attempt : Attempt) :
    (∃ outcome, attempt.outcome backend series = some outcome) ↔ attempt.Fits series := by
  rw [← Option.ne_none_iff_exists', ne_eq, outcome_eq_none_iff, not_not]

/-- A series without a chart fails every attempt with its own fault. -/
theorem outcome_of_noChart
    (refused : Chart.ofSeries? series = .error fault)
    {attempt : Attempt}
    (fits : attempt.Fits series) :
    attempt.outcome backend series = some (.error fault) := by
  cases attempt with
  | file path format style store =>
      rcases Decidable.em (series.finiteSamples = []) with noneFinite | someFinite
      · rw [Chart.ofSeries?_of_empty noneFinite] at refused
        cases refused
        rw [outcome, Sink.renderFile_of_empty noneFinite]
        rfl
      · have sized := Format.size?_eq_some_iff.mpr ⟨fits.resolve_left someFinite, rfl⟩
        rw [outcome, Sink.renderFile_of_size? someFinite sized,
          Sink.renderAt_of_noChart refused]
        rfl
  | picture style size =>
      rw [outcome, Bitmap.ofSeries?_of_noChart refused fits]
      rfl
  | window opened style =>
      rw [outcome, Viewer.openWindow_of_noChart refused fits]
      rfl

/-- A series that has a chart fails no attempt by a fault that lies in the series. -/
theorem not_liesInSeries_of_outcome
    (drawable : Chart.ofSeries? series = .ok chart)
    {attempt : Attempt}
    (failed : attempt.outcome backend series = some (.error fault)) :
    ¬fault.LiesInSeries := by
  cases attempt with
  | file path format style store =>
      obtain ⟨rendering, rendered, result⟩ := Option.map_eq_some_iff.mp failed
      rcases Sink.renderFile_eq_some_iff.mp rendered with ⟨noneFinite, -⟩ | ⟨-, size, -, rfl⟩
      · rw [Chart.ofSeries?_of_empty noneFinite] at drawable
        contradiction
      · rw [Sink.renderAt_of_chart drawable] at result
        dsimp only at result
        split at result
        · contradiction
        · cases result
          exact Canvas.fault_not_liesInSeries _
  | picture style size =>
      obtain ⟨drawn, answered, unit⟩ := Option.map_eq_some_iff.mp failed
      cases drawn with
      | ok bitmap => contradiction
      | error cause =>
          cases unit
          obtain ⟨text, rfl⟩ := Bitmap.exists_fault_of_ofSeries? drawable answered
          exact Canvas.fault_not_liesInSeries text
  | window opened style =>
      obtain ⟨⟨outcome, events⟩, answered, rfl⟩ := Option.map_eq_some_iff.mp failed
      exact Viewer.not_liesInSeries_of_openWindow drawable answered

/-- An attempt that fits fails by a fault of the series exactly when that is why it has no chart. -/
theorem outcome_eq_error_iff
    {attempt : Attempt}
    (fits : attempt.Fits series)
    (inSeries : fault.LiesInSeries) :
    attempt.outcome backend series = some (.error fault) ↔ series.HasNoChart fault := by
  rw [← Chart.ofSeries?_eq_error_iff]
  constructor
  · intro failed
    cases drawable : Chart.ofSeries? series with
    | error cause =>
        rw [outcome_of_noChart drawable fits] at failed
        rw [Except.error.inj (Option.some.inj failed)]
    | ok chart => exact absurd inSeries (not_liesInSeries_of_outcome drawable failed)
  · intro refused
    exact outcome_of_noChart refused fits

end Attempt

/-- A file is refused as empty exactly when no sample is finite, however large its figure is. -/
theorem Sink.result_renderFile_eq_emptySeries_iff
    {path : PathName}
    {format : Format}
    {store : Store} :
    (renderFile path format series style store).map (·.result) = some (.error .emptySeries) ↔
      series.finiteSamples = [] := by
  constructor
  · intro failed
    let attempt : Attempt := .file path format style store
    have refused : attempt.outcome .painter series = some (.error .emptySeries) := failed
    have fits : attempt.Fits series := attempt.exists_outcome_iff.mp ⟨_, refused⟩
    rw [← Chart.ofSeries?_eq_emptySeries_iff, Chart.ofSeries?_eq_error_iff]
    exact (Attempt.outcome_eq_error_iff fits (Or.inl rfl)).mp refused
  · intro noneFinite
    rw [renderFile_of_empty noneFinite]
    rfl

/-! ## Windows -/

namespace Viewer

variable
  {display : Display}
  {viewer next : Viewer}
  {activity : Activity}
  {size : Size}

/-- A window that was not refused for what lies in its series has a chart to show. -/
theorem exists_chart_of_openWindow
    {outcome : Except DrawFault Unit}
    {events : List Event}
    (opened : openWindow display series style = some (outcome, events))
    (otherCause : ∀ fault, outcome = .error fault → ¬fault.LiesInSeries) :
    ∃ chart, Chart.ofSeries? series = .ok chart := by
  cases drawable : Chart.ofSeries? series with
  | ok chart => exact ⟨chart, rfl⟩
  | error fault =>
      have fits : style.exactPixels.IsShort ∧ style.exactPixels.HasBuffer := by
        refine Classical.byContradiction fun tooLarge => ?_
        rw [openWindow_eq_none_iff.mpr tooLarge] at opened
        contradiction
      rw [openWindow_of_noChart drawable fits] at opened
      cases opened
      have noChart := (Chart.ofSeries?_eq_error_iff series fault).mp drawable
      exact absurd noChart.liesInSeries (otherCause fault rfl)

/-- Redrawing a series that has a chart fails only by the backend. -/
theorem not_liesInSeries_of_redraw
    (drawable : Chart.ofSeries? viewer.series = .ok chart)
    (redrawn : viewer.redraw backend size = some (next, activity))
    (failed : next.failure? = some fault) :
    ¬fault.LiesInSeries := by
  have answered := (attempted_of_redraw redrawn).outcome_of_failure failed
  obtain ⟨text, rfl⟩ := Bitmap.exists_fault_of_ofSeries? drawable answered
  exact Canvas.fault_not_liesInSeries text

/-- The painter redraws every series that has a chart, and no failure is told. -/
theorem noFailure_of_redraw_painter
    (drawable : Chart.ofSeries? viewer.series = .ok chart)
    (redrawn : viewer.redraw .painter size = some (next, activity)) :
    next.failure? = none ∧ activity.events = [] := by
  obtain ⟨bitmap, -, rfl, rfl⟩ | ⟨fault, failed, -, -⟩ := redraw_cases redrawn
  · exact ⟨rfl, rfl⟩
  · rw [Bitmap.ofSeries?_of_chart drawable (Bitmap.hasBuffer_of_ofSeries? failed)] at failed
    cases failed

end Viewer

/-! ## Picture files -/

theorem Format.sizeFault?_png_eq_none_iff (size : Size) :
    Format.png.sizeFault? size = none ↔ size.width ≠ 0 ∧ size.height ≠ 0 := by
  unfold sizeFault?
  split
  · contradiction
  · split
    · next noWidth => simp [noWidth]
    · next someWidth =>
      split
      · next noHeight => simp [noHeight]
      · next someHeight => simp [someWidth, someHeight]

namespace Sink

variable {path : PathName} {store : Store} {rendering : Rendering}

/-- A picture file is written when the series has a chart, the figure has pixels, and a file can
be created. -/
theorem result_renderFile_png_eq_ok_iff
    (rendered : renderFile path .png series style store = some rendering) :
    rendering.result = .ok () ↔
      (∃ chart, Chart.ofSeries? series = .ok chart) ∧
        (style.exactPixels.width ≠ 0 ∧ style.exactPixels.height ≠ 0) ∧
          ∃ place, store.locateNew path = .ok place := by
  rcases renderFile_eq_some_iff.mp rendered with ⟨noneFinite, rfl⟩ | ⟨-, size, sized, rfl⟩
  · refine iff_of_false nofun ?_
    rintro ⟨⟨chart, drawable⟩, -⟩
    rw [Chart.ofSeries?_of_empty noneFinite] at drawable
    contradiction
  · rw [result_renderAt_eq_ok_iff, Format.sizeFault?_png_eq_none_iff,
      (Format.size?_eq_some_iff.mp sized).2]

/-- A picture file holds the picture that is drawn in memory at the size of its style. -/
theorem exists_picture_of_renderFile
    (rendered : renderFile path .png series style store = some rendering)
    (succeeded : rendering.result = .ok ()) :
    ∃ size bitmap, style.pixels? = some size ∧
      Bitmap.ofSeries? .painter series style size = some (.ok bitmap) ∧
      rendering.store.open? path = .ok (.file (.picture bitmap)) := by
  rcases renderFile_eq_some_iff.mp rendered with ⟨-, rfl⟩ | ⟨-, size, sized, rfl⟩
  · contradiction
  · obtain ⟨⟨short, hasRoom⟩, rfl⟩ := Format.size?_eq_some_iff.mp sized
    obtain ⟨chart, drawable, opened⟩ := open?_of_renderAt succeeded
    exact ⟨_, _, Style.pixels?_eq_some_iff.mpr ⟨short, rfl⟩,
      Bitmap.ofSeries?_of_chart drawable (hasRoom rfl), opened⟩

end Sink

/-! ## Agreement -/

/-- What the attempts to draw a series have in common. -/
structure Series.IsJudgedAlike (series : Series) : Prop where
  /-- An attempt has an outcome exactly when its numbers are small enough. -/
  answered_iff : ∀ (backend : Backend) (attempt : Attempt),
    (∃ outcome, attempt.outcome backend series = some outcome) ↔ attempt.Fits series
  /-- The series is refused by an attempt exactly for the cause that it has no chart. -/
  verdict : ∀ (backend : Backend) (attempt : Attempt), attempt.Fits series →
    ∀ fault : DrawFault, fault.LiesInSeries →
      (attempt.outcome backend series = some (.error fault) ↔ series.HasNoChart fault)
  agreement : ∀ (backend other : Backend) (first second : Attempt),
    first.Fits series → second.Fits series → ∀ fault : DrawFault, fault.LiesInSeries →
      (first.outcome backend series = some (.error fault) ↔
        second.outcome other series = some (.error fault))
  empty_iff : series.HasNoChart .emptySeries ↔
    ∀ sample ∈ series.samples, sample.isFinite = false
  liesInSeries : ∀ fault : DrawFault, series.HasNoChart fault → fault.LiesInSeries
  /-- Behind a window that was not refused for its series, no redraw at any size fails by a fault
  of the series, and the painter does not fail at all. -/
  redraws : ∀ (display : Display) (style : Style) (outcome : Except DrawFault Unit)
    (events : List Event),
    Viewer.openWindow display series style = some (outcome, events) →
    (∀ fault, outcome = .error fault → ¬fault.LiesInSeries) →
      ∀ (backend : Backend) (frames : List Frame) (viewer next : Viewer)
        (activities : List Viewer.Activity) (size : Size) (activity : Viewer.Activity),
        (Viewer.ofSeries series style).run backend frames = some (viewer, activities) →
        viewer.redraw backend size = some (next, activity) →
          (∀ fault, next.failure? = some fault → ¬fault.LiesInSeries) ∧
          (backend = .painter → next.failure? = none ∧ activity.events = [])
  /-- A picture file is written when the series has a chart, the figure has pixels, and a file can
  be created, and then it holds the picture drawn in memory. -/
  pictureFile : ∀ (path : PathName) (style : Style) (store : Store) (rendering : Sink.Rendering),
    Sink.renderFile path .png series style store = some rendering →
      (rendering.result = .ok () ↔
        (∃ chart, Chart.ofSeries? series = .ok chart) ∧
          (style.exactPixels.width ≠ 0 ∧ style.exactPixels.height ≠ 0) ∧
            ∃ place, store.locateNew path = .ok place) ∧
      (rendering.result = .ok () →
        ∃ size bitmap, style.pixels? = some size ∧
          Bitmap.ofSeries? .painter series style size = some (.ok bitmap) ∧
          rendering.store.open? path = .ok (.file (.picture bitmap)))

/-- Every attempt to draw a series fails by the same fault that lies in the series, or by
none, whatever its style, its size, its place and its backend.  A window that opened never meets
such a fault later, and a picture file holds the picture drawn in memory. -/
theorem every_attempt_judges_series_alike (series : Series) : series.IsJudgedAlike := by
  constructor
  case answered_iff => exact fun _ attempt => attempt.exists_outcome_iff
  case verdict => exact fun _ _ fits _ inSeries => Attempt.outcome_eq_error_iff fits inSeries
  case agreement =>
    intro backend other first second firstFits secondFits fault inSeries
    rw [Attempt.outcome_eq_error_iff firstFits inSeries,
      Attempt.outcome_eq_error_iff secondFits inSeries]
  case empty_iff => exact Series.HasNoChart.emptySeries_iff series
  case liesInSeries => exact fun _ noChart => noChart.liesInSeries
  case redraws =>
    intro display style outcome events opened otherCause backend frames viewer next activities size
      activity ran redrawn
    obtain ⟨chart, drawable⟩ := Viewer.exists_chart_of_openWindow opened otherCause
    rw [show series = viewer.series from (Viewer.sameSeries_of_run ran).1.symm] at drawable
    refine ⟨fun _ failed => Viewer.not_liesInSeries_of_redraw drawable redrawn failed, ?_⟩
    rintro rfl
    exact Viewer.noFailure_of_redraw_painter drawable redrawn
  case pictureFile =>
    intro path style store rendering rendered
    exact ⟨Sink.result_renderFile_png_eq_ok_iff rendered,
      Sink.exists_picture_of_renderFile rendered⟩

/-- Two replies are written to a picture file that holds the picture drawn in memory, and no
attempt that fits refuses them. -/
theorem every_attempt_accepts_twoReplies :
    ∃ path size bitmap rendering, ({} : Style).pixels? = some size ∧
      Bitmap.ofSeries? .painter Viewer.twoReplies {} size = some (.ok bitmap) ∧
      Sink.renderFile path .png Viewer.twoReplies {} Store.empty = some rendering ∧
      rendering.store.open? path = .ok (.file (.picture bitmap)) ∧
      ∀ (backend : Backend) (attempt : Attempt), attempt.Fits Viewer.twoReplies →
        ∀ fault : DrawFault, fault.LiesInSeries →
          attempt.outcome backend Viewer.twoReplies ≠ some (.error fault) := by
  have judged := every_attempt_judges_series_alike Viewer.twoReplies
  obtain ⟨chart, drawable⟩ : ∃ chart, Chart.ofSeries? Viewer.twoReplies = .ok chart :=
    Chart.exists_of_toBool (by decide +kernel)
  let path : PathName := Text.Utf8.encode "a.png"
  let attempt : Attempt := .file path .png {} Store.empty
  have fits : attempt.Fits Viewer.twoReplies :=
    Or.inr ⟨⟨by decide, by decide⟩, fun _ => by decide⟩
  obtain ⟨outcome, answered⟩ := (judged.answered_iff .painter attempt).mpr fits
  obtain ⟨rendering, rendered, -⟩ :
      ∃ rendering, Sink.renderFile path .png Viewer.twoReplies {} Store.empty = some rendering ∧
        rendering.result = outcome := Option.map_eq_some_iff.mp answered
  obtain ⟨succeeds_iff, holds⟩ := judged.pictureFile path {} Store.empty rendering rendered
  obtain ⟨size, bitmap, sized, drawn, opened⟩ :=
    holds (succeeds_iff.mpr ⟨⟨chart, drawable⟩, ⟨by decide, by decide⟩, _, rfl⟩)
  refine ⟨path, size, bitmap, rendering, sized, drawn, rendered, opened, ?_⟩
  intro backend attempt attemptFits fault inSeries failed
  have noChart := (judged.verdict backend attempt attemptFits fault inSeries).mp failed
  rw [← Chart.ofSeries?_eq_error_iff, drawable] at noChart
  contradiction

end LatencyChart
