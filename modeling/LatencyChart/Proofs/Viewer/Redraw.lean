import LatencyChart.Proofs.Viewer

/-!
# When a viewer draws

A frame draws exactly when its size differs from the size of the frame before it, and zero by
zero counts as the size before the first one.  Each attempt uploads one picture of that size or
tells one failure at that size, and no other frame does anything.  So what a window shows is
a function of the size of its last frame, also when the backend fails at some sizes only.
-/

namespace LatencyChart
namespace Viewer

/-- The activity of a frame that draws nothing. -/
def Activity.idle : Activity :=
  ⟨[], []⟩

/-- The activity of an attempt to draw a series at a size. -/
inductive Activity.IsAttempt
    (backend : Backend)
    (series : Series)
    (style : Style)
    (size : Size) : Activity → Prop
  | drawn {bitmap : Bitmap}
      (outcome : Bitmap.ofSeries? backend series style size = some (.ok bitmap))
      (size_eq : bitmap.size = size) :
      IsAttempt backend series style size ⟨[bitmap], []⟩
  | failed {fault : DrawFault} {event : Event}
      (outcome : Bitmap.ofSeries? backend series style size = some (.error fault))
      (event_eq : event = .redrawFailed size.width size.height fault)
      (level_eq : event.level = .error)
      (message_eq : event.message = "could not redraw the chart at " ++ toString size.width ++
        "x" ++ toString size.height ++ ": " ++ fault.message) :
      IsAttempt backend series style size ⟨[], [event]⟩

/-- What a frame does is told by its size and the size before it. -/
structure Activity.FollowsSize
    (activity : Activity)
    (backend : Backend)
    (series : Series)
    (style : Style)
    (previous size : Size) : Prop where
  attempt_iff : activity.IsAttempt backend series style size ↔ size ≠ previous
  idle_iff : activity = idle ↔ size = previous

variable
  {backend : Backend}
  {viewer next final : Viewer}
  {activity : Activity}
  {activities : List Activity}
  {frame : Frame}
  {frames : List Frame}
  {series : Series}
  {style : Style}
  {size : Size}

theorem Activity.IsAttempt.ne_idle
    (attempt : activity.IsAttempt backend series style size) :
    activity ≠ idle := by
  cases attempt with
  | drawn => exact fun equal => List.cons_ne_nil _ _ (congrArg uploads equal)
  | failed => exact fun equal => List.cons_ne_nil _ _ (congrArg events equal)

/-! ## One frame -/

theorem isAttempt_of_redraw
    (redrawn : viewer.redraw backend size = some (next, activity)) :
    activity.IsAttempt backend viewer.series viewer.style size := by
  obtain ⟨bitmap, drawn, -, rfl⟩ | ⟨fault, failed, -, rfl⟩ := redraw_cases redrawn
  · exact .drawn drawn (Bitmap.size_of_ofSeries? drawn)
  · exact .failed failed rfl rfl rfl

theorem followsSize_of_step
    (stepped : viewer.step backend frame = some (next, activity)) :
    activity.FollowsSize backend viewer.series viewer.style viewer.renderedSize frame.size := by
  obtain ⟨same, rfl, rfl⟩ | ⟨differs, redrawn⟩ := step_cases stepped
  · have noAttempt : ¬Activity.idle.IsAttempt backend next.series next.style frame.size :=
      fun attempt => attempt.ne_idle rfl
    exact ⟨iff_of_false noAttempt (not_not.mpr same), iff_of_true rfl same⟩
  · have attempt := isAttempt_of_redraw redrawn
    exact ⟨iff_of_true attempt differs, iff_of_false attempt.ne_idle differs⟩

/-! ## Any number of frames -/

/-- Along any frames, each frame follows its size and the size before it. -/
theorem followsSize_of_run
    (ran : viewer.run backend frames = some (final, activities))
    (index : Nat)
    {previous size : Size}
    (before : (viewer.renderedSize :: frames.map Frame.size)[index]? = some previous)
    (here : (frames.map Frame.size)[index]? = some size) :
    ∃ activity, activities[index]? = some activity ∧
      activity.FollowsSize backend viewer.series viewer.style previous size := by
  -- The first frame is a step from this viewer, and all later ones are frames of the next.
  induction frames generalizing viewer activities index with
  | nil => nomatch here
  | cons frame frames inductionHypothesis =>
      obtain ⟨next, activity, later, stepped, ranLater, rfl⟩ := run_cons_eq_some_iff.mp ran
      cases index with
      | zero =>
          cases here
          cases before
          exact ⟨activity, rfl, followsSize_of_step stepped⟩
      | succ index =>
          have kept := keeps_of_step stepped
          have follows := inductionHypothesis ranLater index
          rw [kept.renderedSize, kept.series, kept.style] at follows
          exact follows before here

/-- Frames of the size of the last attempt change nothing and do nothing. -/
theorem run_of_sameSize
    (backend : Backend)
    (viewer : Viewer)
    {repeats : List Frame}
    (same : ∀ frame ∈ repeats, frame.size = viewer.renderedSize) :
    viewer.run backend repeats = some (viewer, List.replicate repeats.length .idle) := by
  induction repeats with
  | nil => rfl
  | cons frame repeats inductionHypothesis =>
      obtain ⟨sameFirst, sameLater⟩ := List.forall_mem_cons.mp same
      exact run_cons_eq_some_iff.mpr
        ⟨viewer, .idle, _, step_of_sameSize backend sameFirst, inductionHypothesis sameLater, rfl⟩

/-- What an attempt leaves to be seen depends on nothing but its size. -/
theorem Attempted.view_eq
    {other : Viewer}
    (attempted : viewer.Attempted backend series style size)
    (otherAttempted : other.Attempted backend series style size) :
    viewer.view = other.view := by
  obtain ⟨outcome, answered, holds⟩ := attempted.outcome
  obtain ⟨otherOutcome, otherAnswered, otherHolds⟩ := otherAttempted.outcome
  rw [answered] at otherAnswered
  cases otherAnswered
  rw [holds.view_eq, otherHolds.view_eq]

/-- A series in a window that shows one thing for each size, and draws only when the size changes. -/
structure ShowsBySize (backend : Backend) (series : Series) (style : Style) : Prop where
  /-- Frames stop a window only when a picture of the size of one of them has too many bytes. -/
  stops_iff : ∀ frames : List Frame,
    (ofSeries series style).run backend frames = none ↔
      ∃ frame ∈ frames, 2 ^ 63 ≤ frame.size.bytes
  /-- What is shown is told by the size of the last frame, whatever came before. -/
  view_eq : ∀ (first second : List Frame) (lastOfFirst lastOfSecond : Frame)
    (viewer other : Viewer) (did otherDid : List Activity),
    (ofSeries series style).run backend (first ++ [lastOfFirst]) = some (viewer, did) →
    (ofSeries series style).run backend (second ++ [lastOfSecond]) = some (other, otherDid) →
    lastOfFirst.size = lastOfSecond.size →
      viewer.view = other.view
  /-- A frame makes an attempt exactly when its size is not that of the frame before it, where
  zero by zero stands before the first. -/
  follows : ∀ (frames : List Frame) (viewer : Viewer) (did : List Activity) (index : Nat)
    (previous size : Size),
    (ofSeries series style).run backend frames = some (viewer, did) →
    ((⟨0, 0⟩ : Size) :: frames.map Frame.size)[index]? = some previous →
    (frames.map Frame.size)[index]? = some size →
      ∃ activity : Activity, did[index]? = some activity ∧
        activity.FollowsSize backend series style previous size
  /-- Nothing is tried again, and nothing changes, before the size does. -/
  rests : ∀ (frames : List Frame) (last : Frame) (repeats : List Frame) (viewer : Viewer)
    (did : List Activity),
    (ofSeries series style).run backend (frames ++ [last]) = some (viewer, did) →
    (∀ frame ∈ repeats, frame.size = last.size) →
      viewer.run backend repeats = some (viewer, List.replicate repeats.length .idle)

/-- What a window shows is a function of the size of its last frame, whatever came before.
Along any frames an attempt to draw is made exactly where the size changes, and it uploads one
picture of that size or tells one failure at it.  All other frames do nothing, so a size at
which drawing failed is not tried again before the size changes. -/
theorem run_shows_by_size_and_draws_on_change
    (backend : Backend)
    (series : Series)
    (style : Style) :
    ShowsBySize backend series style := by
  constructor
  case stops_iff => exact fun _ => run_ofSeries_eq_none_iff
  case view_eq =>
    intro first second lastOfFirst lastOfSecond viewer other did otherDid ran otherRan sameSize
    have attempted := attempted_run ran
    rw [sameSize] at attempted
    exact attempted.view_eq (attempted_run otherRan)
  case follows =>
    intro frames viewer did index previous size ran before here
    exact followsSize_of_run ran index before here
  case rests =>
    intro frames last repeats viewer did ran same
    rw [← (attempted_run ran).renderedSize] at same
    exact run_of_sameSize backend viewer same

/-- A window is wide from the start, or after it was narrow.  A backend that shows no wide picture
leaves the same to be seen, and it is asked once for the wide picture. -/
theorem run_shows_wide_windows_alike :
    let start := ofSeries twoReplies {}
    ∃ viewer other did otherDid,
      start.run (.upTo 300) [narrowFrame, wideFrame] = some (viewer, did) ∧
      start.run (.upTo 300) [wideFrame, wideFrame] = some (other, otherDid) ∧
      viewer.view = other.view ∧
      (∃ activity, otherDid[0]? = some activity ∧
        activity.IsAttempt (.upTo 300) twoReplies {} wideFrame.size) ∧
      otherDid[1]? = some .idle := by
  intro start
  have shows := run_shows_by_size_and_draws_on_change (.upTo 300) twoReplies {}
  obtain ⟨viewer, did, ran⟩ :
      ∃ viewer did, start.run (.upTo 300) [narrowFrame, wideFrame] = some (viewer, did) :=
    exists_run_ofSeries _ _ _ (by simp [hasBuffer_narrowFrame, hasBuffer_wideFrame])
  obtain ⟨other, otherDid, otherRan⟩ :
      ∃ viewer did, start.run (.upTo 300) [wideFrame, wideFrame] = some (viewer, did) :=
    exists_run_ofSeries _ _ _ (by simp [hasBuffer_wideFrame])
  refine ⟨viewer, other, did, otherDid, ran, otherRan, ?_, ?_, ?_⟩
  · exact shows.view_eq [narrowFrame] [wideFrame] _ wideFrame _ _ _ _ ran otherRan rfl
  · obtain ⟨activity, found, followsSize⟩ := shows.follows _ _ _ 0 _ _ otherRan rfl rfl
    refine ⟨activity, found, followsSize.attempt_iff.mpr ?_⟩
    rw [size_wideFrame]
    decide
  · obtain ⟨activity, found, followsSize⟩ := shows.follows _ _ _ 1 _ _ otherRan rfl rfl
    rw [found, followsSize.idle_iff.mpr rfl]

end Viewer
end LatencyChart
