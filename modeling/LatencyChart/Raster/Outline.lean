import LatencyChart.Chart.Geometry
import LatencyChart.Number.Binary64

/-!
# Outlines of wide lines

The outline of a wide line runs along its points on one side and back on the other. Where
two pieces of the line meet, the outline turns at the crossing of their shifted sides, or
is cut off when that crossing is far away.
-/

namespace LatencyChart
namespace Outline

/-- A vector in the plane. -/
structure Vector where
  x : Float
  y : Float

/-- The position of a pixel. -/
def Vector.ofPoint (point : Point) : Vector := ⟨Binary64.ofInt point.x, Binary64.ofInt point.y⟩

/-- A vector moved along a direction. -/
def Vector.along (vector direction : Vector) (distance : Float) : Vector :=
  ⟨vector.x + distance * direction.x, vector.y + distance * direction.y⟩

/-- The nearest pixel. -/
def Vector.round (vector : Vector) : Point :=
  ⟨Binary64.toInt32 (Binary64.round vector.x), Binary64.toInt32 (Binary64.round vector.y)⟩

/-- The pixel of the whole parts. -/
def Vector.truncate (vector : Vector) : Point :=
  ⟨Binary64.toInt32 vector.x, Binary64.toInt32 vector.y⟩

/-- The direction from one point to another, of length one. -/
def direction (first last : Point) : Vector :=
  let dx := last.x - first.x
  let dy := last.y - first.y
  let length := Float.sqrt (Binary64.ofInt (dx * dx + dy * dy))
  ⟨Binary64.ofInt dx / length, Binary64.ofInt dy / length⟩

/-- The direction a quarter turn further. -/
def normal (direction : Vector) : Vector := ⟨-direction.y, direction.x⟩

/-- The direction a quarter turn back. -/
def backNormal (direction : Vector) : Vector := ⟨direction.y, -direction.x⟩

/-- The corner at the end of a line, half a width to the side. -/
def endCorner (point : Point) (side : Vector) (width : Nat) : Point :=
  Vector.round
    ⟨Binary64.ofInt point.x + side.x * Float.ofNat width / 2.0,
      Binary64.ofInt point.y + side.y * Float.ofNat width / 2.0⟩

/-- The corners where the pieces from `before` to `here` and from `here` to `after` meet,
at a distance to the side. -/
def joinCorners
    (before here after : Point)
    (distance : Float) : List Point :=
  let arriving := direction before here
  let leaving := direction after here
  let center := Vector.ofPoint here
  let first := center.along (normal arriving) distance
  let second := center.along (backNormal leaving) distance
  if (arriving.y * leaving.x - arriving.x * leaving.y).abs ≤ Binary64.epsilon then
    [first.truncate]
  else
    let parameter :=
      ((second.x - first.x) * (-leaving.y) - (second.y - first.y) * (-leaving.x)) /
        (arriving.x * (-leaving.y) - arriving.y * (-leaving.x))
    let crossing : Vector :=
      ⟨first.x + parameter * arriving.x, first.y + parameter * arriving.y⟩
    let turning := arriving.x * leaving.y - arriving.y * leaving.x
    let dx := crossing.x - center.x
    let dy := crossing.y - center.y
    if 0.0 < turning * distance ∧ 16.0 * distance * distance < dx * dx + dy * dy then
      [first.round, second.round]
    else
      [crossing.round]

/-- The corners along a line after the piece from `before` to `here`. A point that repeats
the one before it has no corner. -/
def side (width : Nat) : Point → Point → List Point → List Point
  | before, here, [] => [endCorner here (backNormal (direction here before)) width]
  | before, here, next :: rest =>
      if next = here then side width before here rest
      else
        joinCorners before here next (Float.ofNat width / 2.0) ++ side width here next rest

/-- One side of the outline of a line. -/
def walk (width : Nat) : List Point → List Point
  | first :: second :: rest =>
      if first = second then walk width (second :: rest)
      else endCorner first (normal (direction first second)) width :: side width first second rest
  | _ => []

/-- The outline of a line of a given width. -/
def ofPath (width : Nat) (points : List Point) : List Point :=
  walk width points ++ walk width points.reverse

end Outline
end LatencyChart
