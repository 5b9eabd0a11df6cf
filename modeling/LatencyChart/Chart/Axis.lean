import LatencyChart.Event

/-!
# Axes

Each axis shows a span that holds all values with some room on both sides. Values whose
distance is not a finite number fit on no axis.
-/

namespace LatencyChart

/-- The numbers that an axis shows, from `low` to `high`. -/
structure Span where
  low : Float
  high : Float

namespace Span

/-- The room on each side of values from `min` to `max`: a twentieth of their distance,
and for equal values a twentieth of their magnitude, but at least one. -/
def room (min max : Float) : Float :=
  if max - min == 0.0 then
    if 1.0 < min.abs / 20.0 then min.abs / 20.0 else 1.0
  else
    (max - min) / 20.0

/-- The span of values from `min` to `max`, with room on both sides if the result is still
finite. -/
def ofBounds? (min max : Float) : Except DrawFault Span :=
  let low := min - room min max
  let high := max + room min max
  if (high - low).isFinite ∧ low < high then .ok ⟨low, high⟩
  else if (max - min).isFinite ∧ 0.0 < max - min then .ok ⟨min, max⟩
  else .error (.range min max)

/-- The span of a list of values. -/
def fit? (values : List Float) : Except DrawFault Span :=
  match extremes? values with
  | none => ofBounds? 0.0 0.0
  | some bounds => ofBounds? bounds.1 bounds.2

/-- The position of a value in a span, from zero at the low end to one at the high end. -/
def position (span : Span) (value : Float) : Float :=
  (value - span.low) / (span.high - span.low)

/-- The pixel of a value when the span runs from pixel `first` to pixel `last`. -/
def toPixel (span : Span) (first last : Int) (value : Float) : Int :=
  let position := span.position value
  let length := last - first
  if length = 0 then last
  else if position.isInf then
    if Binary64.isNegative position then first else last
  else if 0 < length then
    first + Binary64.toInt32 (Binary64.floor (Binary64.ofInt length * position + 0.001))
  else
    first + Binary64.toInt32 (Binary64.ceil (Binary64.ofInt length * position - 0.001))

end Span

/-- The spans of both axes. -/
structure Axes where
  time : Span
  rtt : Span

/-- The axes that show all samples of a list. The times are fitted first. -/
def Axes.fit? (samples : List Sample) : Except DrawFault Axes := do
  let time ← Span.fit? (samples.map (·.time))
  let rtt ← Span.fit? (samples.map (·.rtt))
  return ⟨time, rtt⟩

end LatencyChart
