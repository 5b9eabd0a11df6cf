import LatencyChart.Chart.Axis

/-!
# Key points of an axis

The key points of a span lie on a grid whose step is one, two or five times a power of
ten. The step is refined as long as the grid has no more points than asked for.
-/

namespace LatencyChart
namespace KeyPoint

/-- The remainder of a value after whole steps. A remainder that is a whole step up to
rounding counts as none. -/
def remainder (value step : Float) : Float :=
  let rest := value - Binary64.floor (value / step) * step
  if (rest - step).abs < Binary64.epsilon then 0.0 else rest

/-- The least multiple of a step in a span. -/
def firstMultiple (span : Span) (step : Float) : Float :=
  let left := span.low - remainder span.low step
  if left < span.low then left + step else left

/-- The greatest multiple of a step in a span. -/
def lastMultiple (span : Span) (step : Float) : Float :=
  span.high - remainder span.high step

/-- A grid of key points. -/
structure Grid where
  step : Float
  /-- The points are rounded to multiples of the granularity. -/
  granularity : Float

/-- Whether the grid of `step / division` has more than `limit` points in a span. -/
def isTooDense
    (span : Span)
    (limit : Nat)
    (step division : Float) : Bool :=
  let fine := step / division
  let distance := lastMultiple span fine - firstMultiple span fine
  limit < Binary64.toCount (Binary64.round (1.0 + distance / step * division))

/-- The finest grid with at most `limit` points that comes from dividing a step by two,
five and ten over and over. After 700 divisions by ten every step is zero. -/
def refine (span : Span) (limit : Nat) : Nat → Grid → Grid
  | 0, grid => grid
  | count + 1, grid =>
      if isTooDense span limit grid.step 2.0 then grid
      else if isTooDense span limit grid.step 5.0 then { grid with step := grid.step / 2.0 }
      else if isTooDense span limit grid.step 10.0 then { grid with step := grid.step / 5.0 }
      else refine span limit count ⟨grid.step / 10.0, grid.granularity / 10.0⟩

/-- The power of ten at most as large as the width of a span, or the next one when that
has too many points. -/
def startGrid (span : Span) (limit : Nat) : Grid :=
  let width := span.high - span.low
  let step := Float.pow 10.0 (Binary64.floor (Float.log width / Float.log 10.0))
  let granularity := step / 10.0
  if limit < 1 + Binary64.toCount (Binary64.floor (width / step)) then
    ⟨step * 10.0, granularity * 10.0⟩
  else
    ⟨step, granularity⟩

/-- The points from `base + offset` to `right` in steps, at most `count` of them. The
offset is counted from a base so that a small step is not lost against large numbers. -/
def pointsFrom
    (grid : Grid)
    (base right : Float) : Nat → Float → List Float
  | 0, _ => []
  | count + 1, offset =>
      if right - offset - base ≥ -Binary64.epsilon then
        let rounded := Binary64.round (offset / grid.granularity) * grid.granularity
        let offset := if rounded < 0.0 then offset + grid.granularity else offset
        (offset + base) :: pointsFrom grid base right count (offset + grid.step)
      else
        []

/-- No axis has more key points than this. -/
def most : Nat := 100000

/-- The points of a grid in a span. -/
def onGrid (span : Span) (grid : Grid) : List Float :=
  let left := firstMultiple span grid.step
  let base := Binary64.floor (left / grid.granularity) * grid.granularity
  pointsFrom grid base (lastMultiple span grid.step) most (left - base)

end KeyPoint

/-- The key points of a span, about `limit` of them at most. -/
def Span.keyPoints (span : Span) (limit : Nat) : List Float :=
  if limit = 0 then []
  else if (span.low - span.high).abs < Binary64.epsilon then [span.low]
  else KeyPoint.onGrid span (KeyPoint.refine span limit 700 (KeyPoint.startGrid span limit))

end LatencyChart
