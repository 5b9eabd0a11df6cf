import LatencyChart.Proofs.Raster.Backend
import LatencyChart.Proofs.Viewer.Frame
import Mathlib.Data.List.Induction

/-!
# What a viewer shows after each frame

A backend may fail at some sizes and draw at others, so pictures and failures follow each other in
any order.  After every frame the last attempt was made at the size of that frame, and the viewer
holds its outcome: a picture of exactly that size, or the failure.  What the window shows is this
outcome and nothing older, while the texture stays the last picture that was drawn.
-/

namespace LatencyChart
namespace Viewer

/-- What a window shows for the outcome of an attempt to draw. -/
def View.ofOutcome : Except DrawFault Bitmap → View
  | .ok bitmap => .picture bitmap
  | .error fault => .message fault.message

/-- A viewer that holds the outcome of an attempt to draw. -/
def Holds (viewer : Viewer) : Except DrawFault Bitmap → Prop
  | .ok bitmap => viewer.failure? = none ∧ viewer.texture? = some bitmap
  | .error fault => viewer.failure? = some fault

/-- A viewer whose last attempt was made at the given size, and which holds its outcome. -/
structure Attempted
    (viewer : Viewer)
    (backend : Backend)
    (series : Series)
    (style : Style)
    (size : Size) : Prop where
  sameSeries : viewer.series = series
  sameStyle : viewer.style = style
  renderedSize : viewer.renderedSize = size
  outcome : ∃ outcome, Bitmap.ofSeries? backend series style size = some outcome ∧
    viewer.Holds outcome

variable
  {backend : Backend}
  {viewer next : Viewer}
  {activity : Activity}
  {frame : Frame}
  {series : Series}
  {style : Style}
  {size : Size}

theorem Holds.view_eq
    {outcome : Except DrawFault Bitmap}
    (holds : viewer.Holds outcome) :
    viewer.view = View.ofOutcome outcome := by
  unfold view
  cases outcome with
  | ok bitmap =>
      rw [holds.1, holds.2]
      rfl
  | error fault =>
      rw [show viewer.failure? = some fault from holds]
      rfl

/-! ## One frame -/

/-- A redraw takes in a picture or a failure, and nothing else. -/
theorem redraw_cases
    (redrawn : viewer.redraw backend size = some (next, activity)) :
    (∃ bitmap, Bitmap.ofSeries? backend viewer.series viewer.style size = some (.ok bitmap) ∧
      next = { viewer with texture? := some bitmap, renderedSize := size, failure? := none } ∧
      activity = ⟨[bitmap], []⟩) ∨
    (∃ fault, Bitmap.ofSeries? backend viewer.series viewer.style size = some (.error fault) ∧
      next = { viewer with renderedSize := size, failure? := some fault } ∧
      activity = ⟨[], [.redrawFailed size.width size.height fault]⟩) := by
  obtain ⟨outcome, answered, accepted⟩ := Option.map_eq_some_iff.mp redrawn
  cases outcome with
  | ok bitmap =>
      cases accepted
      exact Or.inl ⟨bitmap, answered, rfl, rfl⟩
  | error fault =>
      cases accepted
      exact Or.inr ⟨fault, answered, rfl, rfl⟩

theorem redraw_eq_none_iff :
    viewer.redraw backend size = none ↔ ¬size.HasBuffer := by
  rw [redraw, Option.map_eq_none_iff, Bitmap.ofSeries?_eq_none_iff]

/-- A redraw is an attempt, whatever the viewer held before. -/
theorem attempted_of_redraw
    (redrawn : viewer.redraw backend size = some (next, activity)) :
    next.Attempted backend viewer.series viewer.style size := by
  obtain ⟨bitmap, drawn, rfl, -⟩ | ⟨fault, failed, rfl, -⟩ := redraw_cases redrawn
  · exact ⟨rfl, rfl, rfl, .ok bitmap, drawn, rfl, rfl⟩
  · exact ⟨rfl, rfl, rfl, .error fault, failed, rfl⟩

theorem step_of_sameSize
    (backend : Backend)
    (same : frame.size = viewer.renderedSize) :
    viewer.step backend frame = some (viewer, ⟨[], []⟩) :=
  if_pos same

theorem step_of_otherSize
    (backend : Backend)
    (differs : frame.size ≠ viewer.renderedSize) :
    viewer.step backend frame = viewer.redraw backend frame.size :=
  if_neg differs

/-- A frame of the same size does nothing, and any other frame redraws. -/
theorem step_cases
    (stepped : viewer.step backend frame = some (next, activity)) :
    (frame.size = viewer.renderedSize ∧ next = viewer ∧ activity = ⟨[], []⟩) ∨
      (frame.size ≠ viewer.renderedSize ∧
        viewer.redraw backend frame.size = some (next, activity)) := by
  rcases Decidable.em (frame.size = viewer.renderedSize) with same | differs
  · rw [step_of_sameSize backend same] at stepped
    cases stepped
    exact Or.inl ⟨same, rfl, rfl⟩
  · rw [step_of_otherSize backend differs] at stepped
    exact Or.inr ⟨differs, stepped⟩

/-- The size before the first frame is that of no frame, so the first frame draws. -/
theorem step_ofSeries
    (backend : Backend)
    (series : Series)
    (style : Style)
    (frame : Frame) :
    (ofSeries series style).step backend frame =
      (ofSeries series style).redraw backend frame.size := by
  apply step_of_otherSize
  intro same
  have noColumns : frame.size.width = 0 := congrArg Size.width same
  have someColumns : 1 ≤ frame.size.width := Frame.one_le_pixels _
  omega

/-- A frame of the same size keeps the last attempt, and any other frame makes its own. -/
theorem Attempted.step
    (attempted : viewer.Attempted backend series style size)
    (stepped : viewer.step backend frame = some (next, activity)) :
    next.Attempted backend series style frame.size := by
  obtain ⟨same, rfl, -⟩ | ⟨-, redrawn⟩ := step_cases stepped
  · rw [same, attempted.renderedSize]
    exact attempted
  · rw [← attempted.sameSeries, ← attempted.sameStyle]
    exact attempted_of_redraw redrawn

/-- A frame replaces the texture by what it uploads, keeps it when it uploads nothing, and uploads
nothing when it leaves a failure. -/
theorem texture?_step
    (stepped : viewer.step backend frame = some (next, activity)) :
    next.texture? = activity.uploads.getLast?.or viewer.texture? ∧
      (next.failure? ≠ none → next.texture? = viewer.texture?) := by
  obtain ⟨-, rfl, rfl⟩ | ⟨-, redrawn⟩ := step_cases stepped
  · exact ⟨rfl, fun _ => rfl⟩
  · obtain ⟨bitmap, -, rfl, rfl⟩ | ⟨fault, -, rfl, rfl⟩ := redraw_cases redrawn
    · exact ⟨rfl, fun failed => absurd rfl failed⟩
    · exact ⟨rfl, fun _ => rfl⟩

/-- Past a size that has a buffer, a frame stops the viewer exactly when its own size has none. -/
theorem step_eq_none_iff
    (hasBuffer : viewer.renderedSize.HasBuffer) :
    viewer.step backend frame = none ↔ ¬frame.size.HasBuffer := by
  rcases Decidable.em (frame.size = viewer.renderedSize) with same | differs
  · rw [step_of_sameSize backend same, same]
    exact iff_of_false (Option.some_ne_none _) (not_not.mpr hasBuffer)
  · rw [step_of_otherSize backend differs, redraw_eq_none_iff]

/-- What a frame keeps: the series, the style, and its own size as that of the last attempt. -/
structure Keeps (before after : Viewer) (size : Size) : Prop where
  series : after.series = before.series
  style : after.style = before.style
  renderedSize : after.renderedSize = size

theorem keeps_of_step
    (stepped : viewer.step backend frame = some (next, activity)) :
    viewer.Keeps next frame.size := by
  obtain ⟨same, rfl, -⟩ | ⟨-, redrawn⟩ := step_cases stepped
  · exact ⟨rfl, rfl, same.symm⟩
  · have attempted := attempted_of_redraw redrawn
    exact ⟨attempted.sameSeries, attempted.sameStyle, attempted.renderedSize⟩

/-! ## Any number of frames -/

variable {final : Viewer} {frames : List Frame} {activities : List Activity}

theorem run_cons_eq_some_iff :
    viewer.run backend (frame :: frames) = some (final, activities) ↔
      ∃ next activity later, viewer.step backend frame = some (next, activity) ∧
        next.run backend frames = some (final, later) ∧ activities = activity :: later := by
  rw [run]
  cases viewer.step backend frame with
  | none => simp
  | some stepped =>
      obtain ⟨next, activity⟩ := stepped
      cases ran : next.run backend frames with
      | none => simp [ran]
      | some rest => simp [ran, Prod.ext_iff, eq_comm]

theorem run_append_eq_some_iff {more : List Frame} :
    viewer.run backend (frames ++ more) = some (final, activities) ↔
      ∃ middle before after, viewer.run backend frames = some (middle, before) ∧
        middle.run backend more = some (final, after) ∧ activities = before ++ after := by
  induction frames generalizing viewer activities with
  | nil => simp [run]
  | cons frame frames inductionHypothesis =>
      simp only [List.cons_append, run_cons_eq_some_iff, inductionHypothesis]
      constructor
      · rintro ⟨next, activity, later, stepped, ⟨middle, before, after, ran, rest, rfl⟩, rfl⟩
        exact ⟨middle, activity :: before, after, ⟨next, activity, before, stepped, ran, rfl⟩,
          rest, rfl⟩
      · rintro ⟨middle, _, after, ⟨next, activity, before, stepped, ran, rfl⟩, rest, rfl⟩
        exact ⟨next, activity, before ++ after, stepped, ⟨middle, before, after, ran, rest, rfl⟩,
          rfl⟩

/-- A run over one more frame is a run followed by a step. -/
theorem run_concat_eq_some_iff {last : Frame} :
    viewer.run backend (frames ++ [last]) = some (final, activities) ↔
      ∃ middle before activity, viewer.run backend frames = some (middle, before) ∧
        middle.step backend last = some (final, activity) ∧ activities = before ++ [activity] := by
  rw [run_append_eq_some_iff]
  constructor
  · rintro ⟨middle, before, after, ran, ranLast, rfl⟩
    obtain ⟨next, activity, later, stepped, done, rfl⟩ := run_cons_eq_some_iff.mp ranLast
    cases done
    exact ⟨middle, before, activity, ran, stepped, rfl⟩
  · rintro ⟨middle, before, activity, ran, stepped, rfl⟩
    exact ⟨middle, before, [activity], ran,
      run_cons_eq_some_iff.mpr ⟨final, activity, [], stepped, rfl, rfl⟩, rfl⟩

/-- Frames stop a viewer exactly when the size of one of them has no buffer. -/
theorem run_eq_none_iff
    (hasBuffer : viewer.renderedSize.HasBuffer) :
    viewer.run backend frames = none ↔ ∃ frame ∈ frames, ¬frame.size.HasBuffer := by
  induction frames generalizing viewer with
  | nil => simp [run]
  | cons frame frames inductionHypothesis =>
      simp only [List.mem_cons, exists_eq_or_imp, run]
      cases stepped : viewer.step backend frame with
      | none => exact iff_of_true rfl (Or.inl ((step_eq_none_iff hasBuffer).mp stepped))
      | some answer =>
          obtain ⟨next, activity⟩ := answer
          have frameHasBuffer : frame.size.HasBuffer := by
            refine Decidable.byContradiction fun noBuffer => ?_
            rw [(step_eq_none_iff hasBuffer).mpr noBuffer] at stepped
            contradiction
          have nextHasBuffer : next.renderedSize.HasBuffer := by
            rwa [(keeps_of_step stepped).renderedSize]
          rw [or_iff_right (not_not.mpr frameHasBuffer), ← inductionHypothesis nextHasBuffer]
          cases ran : next.run backend frames <;> simp [ran]

theorem run_ofSeries_eq_none_iff :
    (ofSeries series style).run backend frames = none ↔
      ∃ frame ∈ frames, 2 ^ 63 ≤ frame.size.bytes := by
  have hasBuffer : (ofSeries series style).renderedSize.HasBuffer := by
    show (⟨0, 0⟩ : Size).HasBuffer
    decide
  simp only [run_eq_none_iff hasBuffer, Size.not_hasBuffer_iff]

/-- Frames whose sizes have buffers stop no window. -/
theorem exists_run_ofSeries
    (backend : Backend)
    (series : Series)
    (style : Style)
    (fit : ∀ frame ∈ frames, frame.size.HasBuffer) :
    ∃ viewer activities,
      (ofSeries series style).run backend frames = some (viewer, activities) := by
  cases ran : (ofSeries series style).run backend frames with
  | none =>
      obtain ⟨frame, present, tooLarge⟩ := run_ofSeries_eq_none_iff.mp ran
      exact absurd (fit frame present) (Size.not_hasBuffer_iff.mpr tooLarge)
  | some answer => exact ⟨answer.1, answer.2, rfl⟩

/-- A viewer shows the same series in the same style at any time. -/
theorem sameSeries_of_run
    (ran : viewer.run backend frames = some (final, activities)) :
    final.series = viewer.series ∧ final.style = viewer.style := by
  induction frames generalizing viewer activities with
  | nil =>
      cases ran
      exact ⟨rfl, rfl⟩
  | cons frame frames inductionHypothesis =>
      obtain ⟨next, activity, later, stepped, ranLater, rfl⟩ := run_cons_eq_some_iff.mp ran
      have kept := keeps_of_step stepped
      rw [← kept.series, ← kept.style]
      exact inductionHypothesis ranLater

/-- Every frame ends in an attempt at its own size. -/
theorem attempted_run
    {last : Frame}
    (ran : (ofSeries series style).run backend (frames ++ [last]) = some (final, activities)) :
    final.Attempted backend series style last.size := by
  -- The induction is on the frames from the end: each step starts from the attempt before it.
  induction frames using List.reverseRecOn generalizing last final activities with
  | nil =>
      obtain ⟨middle, before, activity, ranNone, stepped, -⟩ := run_concat_eq_some_iff.mp ran
      cases ranNone
      rw [step_ofSeries] at stepped
      exact attempted_of_redraw stepped
  | append_singleton frames frame inductionHypothesis =>
      obtain ⟨middle, before, activity, ranBefore, stepped, -⟩ := run_concat_eq_some_iff.mp ran
      exact (inductionHypothesis ranBefore).step stepped

/-- The texture is the last picture that was uploaded. -/
theorem texture?_run
    (ran : viewer.run backend frames = some (final, activities)) :
    final.texture? = (activities.flatMap (·.uploads)).getLast?.or viewer.texture? := by
  induction frames generalizing viewer activities with
  | nil =>
      cases ran
      rfl
  | cons frame frames inductionHypothesis =>
      obtain ⟨next, activity, later, stepped, ranLater, rfl⟩ := run_cons_eq_some_iff.mp ran
      rw [inductionHypothesis ranLater, (texture?_step stepped).1, List.flatMap_cons,
        List.getLast?_append, Option.or_assoc]

theorem Attempted.exists_drawn
    (attempted : viewer.Attempted backend series style size)
    (noFailure : viewer.failure? = none) :
    ∃ bitmap, Bitmap.ofSeries? backend series style size = some (.ok bitmap) ∧
      viewer.texture? = some bitmap := by
  obtain ⟨outcome, drawn, holds⟩ := attempted.outcome
  cases outcome with
  | ok bitmap => exact ⟨bitmap, drawn, holds.2⟩
  | error fault =>
      rw [show viewer.failure? = some fault from holds] at noFailure
      contradiction

theorem Attempted.outcome_of_failure
    (attempted : viewer.Attempted backend series style size)
    {fault : DrawFault}
    (failed : viewer.failure? = some fault) :
    Bitmap.ofSeries? backend series style size = some (.error fault) := by
  obtain ⟨outcome, drawn, holds⟩ := attempted.outcome
  cases outcome with
  | ok bitmap =>
      rw [holds.1] at failed
      contradiction
  | error cause =>
      rw [show viewer.failure? = some cause from holds] at failed
      rwa [Option.some.inj failed] at drawn

/-- What a viewer shows after a last frame, when it went through frames with some activities. -/
structure ShowsLastAttempt
    (viewer : Viewer)
    (backend : Backend)
    (series : Series)
    (style : Style)
    (frames : List Frame)
    (last : Frame)
    (activities : List Activity) : Prop where
  /-- The last attempt was made at the size of the last frame. -/
  renderedSize : viewer.renderedSize = last.size
  columns : 1 ≤ viewer.renderedSize.width
  rows : 1 ≤ viewer.renderedSize.height
  short : viewer.renderedSize.IsShort
  /-- The window shows what comes of drawing at that size. -/
  view : ∃ outcome, Bitmap.ofSeries? backend series style viewer.renderedSize = some outcome ∧
    viewer.view = View.ofOutcome outcome
  /-- Without a failure the texture is the picture drawn at that size, and it is shown. -/
  drawn : viewer.failure? = none →
    ∃ bitmap, viewer.texture? = some bitmap ∧ viewer.view = .picture bitmap ∧
      Bitmap.ofSeries? backend series style viewer.renderedSize = some (.ok bitmap) ∧
      bitmap.size = viewer.renderedSize ∧
      bitmap.data.size = 3 * (viewer.renderedSize.width * viewer.renderedSize.height)
  /-- With a failure, drawing at that size fails with it, and only its message is shown. -/
  failed : ∀ fault, viewer.failure? = some fault →
    Bitmap.ofSeries? backend series style viewer.renderedSize = some (.error fault) ∧
      viewer.view = .message fault.message
  /-- The texture is the last picture that was uploaded. -/
  texture : viewer.texture? = (activities.flatMap (·.uploads)).getLast?
  /-- A last frame that leaves a failure keeps the texture. -/
  keptTexture : viewer.failure? ≠ none →
    ∃ before earlier, (ofSeries series style).run backend frames = some (before, earlier) ∧
      viewer.texture? = before.texture?

theorem showsLastAttempt_run
    {last : Frame}
    (ran : (ofSeries series style).run backend (frames ++ [last]) = some (viewer, activities)) :
    viewer.ShowsLastAttempt backend series style frames last activities := by
  have attempted := attempted_run ran
  obtain ⟨outcome, answered, holds⟩ := attempted.outcome
  constructor
  case renderedSize => exact attempted.renderedSize
  case columns =>
    rw [attempted.renderedSize]
    exact Frame.one_le_pixels _
  case rows =>
    rw [attempted.renderedSize]
    exact Frame.one_le_pixels _
  case short =>
    rw [attempted.renderedSize]
    exact last.isShort_size
  case view =>
    rw [attempted.renderedSize]
    exact ⟨outcome, answered, holds.view_eq⟩
  case drawn =>
    intro noFailure
    obtain ⟨bitmap, drawn, texture⟩ := attempted.exists_drawn noFailure
    have size_eq := Bitmap.size_of_ofSeries? drawn
    rw [attempted.renderedSize]
    refine ⟨bitmap, texture, ?_, drawn, size_eq, ?_⟩
    · rw [view, noFailure, texture]
    · rw [bitmap.size_eq, ← size_eq]
      rfl
  case failed =>
    intro fault failed
    rw [attempted.renderedSize, view, failed]
    exact ⟨attempted.outcome_of_failure failed, rfl⟩
  case texture =>
    rw [texture?_run ran]
    exact Option.or_none
  case keptTexture =>
    intro failed
    obtain ⟨before, earlier, activity, ranBefore, stepped, -⟩ := run_concat_eq_some_iff.mp ran
    exact ⟨before, earlier, ranBefore, (texture?_step stepped).2 failed⟩

theorem ShowsLastAttempt.holds
    {last : Frame}
    (shows : viewer.ShowsLastAttempt backend series style frames last activities)
    {outcome : Except DrawFault Bitmap}
    (answered : Bitmap.ofSeries? backend series style last.size = some outcome) :
    viewer.Holds outcome := by
  rw [← shows.renderedSize] at answered
  cases failure : viewer.failure? with
  | none =>
      obtain ⟨bitmap, texture, -, drawn, -⟩ := shows.drawn failure
      rw [drawn] at answered
      cases answered
      exact ⟨failure, texture⟩
  | some fault =>
      rw [(shows.failed fault failure).1] at answered
      cases answered
      exact failure

/-- Frames stop a window exactly when a picture of the size of one of them has too many bytes.
After every frame of a window that was not stopped, the last attempt was made at the size of that
frame, which is never empty, so the first frame draws.  What the window shows is what came of that
attempt: the picture of that size, or the message of the failure, while the texture stays the last
picture that was uploaded.  So nothing is shown that an attempt at the current size does not give,
wherever the backend fails. -/
theorem run_shows_the_last_attempt
    (backend : Backend)
    (series : Series)
    (style : Style)
    (frames : List Frame)
    (last : Frame) :
    let start := ofSeries series style
    (∀ first, start.step backend first = start.redraw backend first.size) ∧
    (start.run backend (frames ++ [last]) = none ↔
      ∃ frame ∈ frames ++ [last], 2 ^ 63 ≤ frame.size.bytes) ∧
    ∀ viewer activities, start.run backend (frames ++ [last]) = some (viewer, activities) →
      viewer.ShowsLastAttempt backend series style frames last activities :=
  ⟨step_ofSeries backend series style, run_ofSeries_eq_none_iff,
    fun _ _ ran => showsLastAttempt_run ran⟩

/-- Two replies, the second twice as late as the first. -/
def twoReplies : Series :=
  Series.ofPairs [(0.0, 10.0), (1.0, 20.0)]

/-- A window that leaves 300 by 150 pixels for the chart. -/
def narrowFrame : Frame :=
  ⟨316.0, 166.0, 1.0⟩

/-- A window that leaves 600 by 150 pixels for the chart. -/
def wideFrame : Frame :=
  ⟨616.0, 166.0, 1.0⟩

theorem size_narrowFrame : narrowFrame.size = ⟨300, 150⟩ := by
  decide +kernel

theorem size_wideFrame : wideFrame.size = ⟨600, 150⟩ := by
  decide +kernel

theorem hasBuffer_narrowFrame : narrowFrame.size.HasBuffer := by
  rw [size_narrowFrame]
  decide

theorem hasBuffer_wideFrame : wideFrame.size.HasBuffer := by
  rw [size_wideFrame]
  decide

/-- A window is widened past what its backend shows, and then narrowed again.  It shows the
failure and not the picture that it still has, and then a picture. -/
theorem run_shows_widened_window :
    let start := ofSeries twoReplies {}
    ∃ widened narrowed did activities,
      start.run (.upTo 300) [narrowFrame, wideFrame] = some (widened, did) ∧
      widened.view = .message (Canvas.fault "too many columns").message ∧
      (∃ bitmap, widened.texture? = some bitmap ∧ bitmap.size = narrowFrame.size) ∧
      start.run (.upTo 300) [narrowFrame, wideFrame, narrowFrame] = some (narrowed, activities) ∧
      ∃ bitmap, narrowed.view = .picture bitmap ∧ bitmap.size = narrowFrame.size := by
  intro start
  obtain ⟨chart, drawable⟩ : ∃ chart, Chart.ofSeries? twoReplies = .ok chart :=
    Chart.exists_of_toBool (by decide +kernel)
  have shows (frames : List Frame) (last : Frame)
      (fit : ∀ frame ∈ frames ++ [last], frame.size.HasBuffer) :
      ∃ viewer did, start.run (.upTo 300) (frames ++ [last]) = some (viewer, did) ∧
        viewer.ShowsLastAttempt (.upTo 300) twoReplies {} frames last did := by
    obtain ⟨viewer, did, ran⟩ := exists_run_ofSeries (.upTo 300) twoReplies {} fit
    obtain ⟨-, -, shown⟩ := run_shows_the_last_attempt (.upTo 300) twoReplies {} frames last
    exact ⟨viewer, did, ran, shown viewer did ran⟩
  have drawn := Bitmap.ofSeries?_upTo drawable hasBuffer_narrowFrame {} 300
  have refused := Bitmap.ofSeries?_upTo drawable hasBuffer_wideFrame {} 300
  rw [if_pos (by rw [size_narrowFrame])] at drawn
  rw [if_neg (by rw [size_wideFrame]; decide)] at refused
  obtain ⟨first, _, ranFirst, showsFirst⟩ := shows [] narrowFrame (by simp [hasBuffer_narrowFrame])
  obtain ⟨widened, did, ran, showsWidened⟩ :=
    shows [narrowFrame] wideFrame (by simp [hasBuffer_narrowFrame, hasBuffer_wideFrame])
  obtain ⟨narrowed, activities, ranAll, showsNarrowed⟩ :=
    shows [narrowFrame, wideFrame] narrowFrame
      (by simp [hasBuffer_narrowFrame, hasBuffer_wideFrame])
  have failed := showsWidened.holds refused
  have held := showsNarrowed.holds drawn
  refine ⟨widened, narrowed, did, activities, ran, failed.view_eq, ?_, ranAll, _, held.view_eq,
    Bitmap.size_ofDrawing ..⟩
  have hasFailure : widened.failure? ≠ none := by
    rw [show widened.failure? = _ from failed]
    exact Option.some_ne_none _
  obtain ⟨before, _, ranBefore, kept⟩ := showsWidened.keptTexture hasFailure
  cases ranFirst.symm.trans ranBefore
  exact ⟨_, kept.trans (showsFirst.holds drawn).2, Bitmap.size_ofDrawing ..⟩

end Viewer
end LatencyChart
