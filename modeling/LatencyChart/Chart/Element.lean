import LatencyChart.Chart.Geometry

/-!
# Drawing elements

A drawing is a list of elements, painted one over the other in order.
-/

namespace LatencyChart

/-- How a line is drawn. -/
structure Stroke where
  color : Color
  /-- From zero for nothing to one for full cover. -/
  opacity : Float
  width : Nat

/-- The part of a text that lies at its anchor, from left to right. -/
inductive HorizontalAlign
  | start
  | middle
  | finish
  deriving DecidableEq, Repr

/-- The part of a text that lies at its anchor, from top to bottom. -/
inductive VerticalAlign
  | top
  | center
  | bottom
  deriving DecidableEq, Repr

/-- How far a text is turned about its anchor, clockwise. -/
inductive Turn
  | none
  | quarter
  | threeQuarters
  deriving DecidableEq, Repr

/-- A text in the figure. -/
structure Caption where
  text : String
  anchor : Point
  horizontal : HorizontalAlign
  vertical : VerticalAlign
  fontSize : Float
  turn : Turn

/-- One step of a drawing. -/
inductive Element
  /-- Cover the whole figure. -/
  | background (color : Color)
  /-- A straight line. -/
  | segment (first last : Point) (stroke : Stroke)
  /-- A line through all points in order. -/
  | path (points : List Point) (stroke : Stroke)
  /-- A filled circle. -/
  | disc (center : Point) (radius : Nat) (color : Color)
  | caption (caption : Caption)

end LatencyChart
