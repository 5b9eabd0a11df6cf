import LatencyChart.Raster.Line

/-!
# Filled polygons

A polygon is filled line by line along the direction in which it is longer. On each line
the crossings with the edges are sorted and taken in pairs, and what lies between the two
of a pair is filled.
-/

namespace LatencyChart
namespace Polygon

/-- An edge that the sweep line has reached. Edges run along the sweep from `start` to
`finish` across it. -/
structure Edge where
  /-- The number of sweep lines since the edge began. -/
  age : Nat
  /-- The number of sweep lines that the edge spans. -/
  span : Nat
  start : Int
  finish : Int

namespace Edge

/-- The number of sweep lines until the edge ends. -/
def left (edge : Edge) : Nat := edge.span - edge.age

/-- Where the edge crosses the sweep line. -/
def crossing (edge : Edge) : Float :=
  Binary64.ofInt edge.start +
    Binary64.ofInt ((edge.finish - edge.start) * edge.age) / Float.ofNat edge.span

/-- The edges that go on to the next sweep line. -/
def advance (edges : List Edge) : List Edge :=
  (edges.filter fun edge => 0 < edge.left).map fun edge => { edge with age := edge.age + 1 }

end Edge

/-- The sides of a polygon, each with its lower end first, sorted by that end. The sweep
goes along `x`. -/
def sides (corners : List Point) : List (Point × Point) :=
  match corners with
  | [] => []
  | first :: rest =>
      let pairs := corners.zip (rest ++ [first])
      let sorted := pairs.mergeSort fun left right =>
        min left.1.x left.2.x ≤ min right.1.x right.2.x
      sorted.map fun pair => if pair.2.x < pair.1.x then (pair.2, pair.1) else pair

/-- The edge of a side, unless the side lies in one sweep line. -/
def edge? (pair : Point × Point) : Option Edge :=
  if pair.1.x = pair.2.x then none
  else some ⟨0, (pair.2.x - pair.1.x).toNat, pair.1.y, pair.2.y⟩

/-- The pairs of crossings between which a sweep line is filled. An edge that ends here
gives way to one that goes on, and two edges that end here more than one pixel apart
enclose nothing. -/
def pairs : Option Edge → List Edge → List (Float × Float)
  | _, [] => []
  | none, edge :: rest => pairs (some edge) rest
  | some first, second :: rest =>
      if first.left = 0 ∧ second.left ≠ 0 then pairs (some second) rest
      else if first.left ≠ 0 ∧ second.left = 0 then pairs (some first) rest
      else if first.left = 0 ∧ second.left = 0 ∧ 1.0 < second.crossing - first.crossing then
        pairs none rest
      else (first.crossing, second.crossing) :: pairs none rest

/-- Fill one sweep line between two crossings, and cover the pixels that they lie in.
Where the sweep goes along rows, the far pixel is left as it is. -/
def fillBetween
    (color : Color)
    (alongX : Bool)
    (sweep : Int)
    (bitmap : Bitmap)
    (ends : Float × Float) : Bitmap :=
  let point (across : Int) : Point := if alongX then ⟨sweep, across⟩ else ⟨across, sweep⟩
  let inner := Binary64.ceil ends.1
  let outer := Binary64.floor ends.2
  let near := point (Binary64.toInt32 (Binary64.floor ends.1))
  let far := point (Binary64.toInt32 (Binary64.ceil ends.2))
  let filled :=
    bitmap.line color (point (Binary64.toInt32 inner)) (point (Binary64.toInt32 outer))
  (filled.cover color (inner - ends.1) near.x near.y).cover
    color (if alongX then ends.2 - outer else outer - ends.2) far.x far.y

/-- The state of a sweep: the sides not yet reached, the active edges and the picture so
far. -/
structure Sweep where
  waiting : List (Point × Point)
  active : List Edge
  bitmap : Bitmap

/-- Move the sweep to a line and fill it. -/
def sweepLine
    (color : Color)
    (alongX : Bool)
    (position : Int)
    (sweep : Sweep) : Sweep :=
  let reached (pair : Point × Point) : Bool := pair.1.x ≤ position
  let active :=
    (Edge.advance sweep.active ++ (sweep.waiting.takeWhile reached).filterMap edge?).mergeSort
      fun left right => left.crossing ≤ right.crossing
  { waiting := sweep.waiting.dropWhile reached
    active := active
    bitmap := (pairs none active).foldl (fillBetween color alongX position) sweep.bitmap }

/-- The least box that holds all points of a list. -/
def bounds? : List Point → Option (Point × Point)
  | [] => none
  | first :: rest =>
      some (rest.foldl
        (fun corners point =>
          (⟨min corners.1.x point.x, min corners.1.y point.y⟩,
            ⟨max corners.2.x point.x, max corners.2.y point.y⟩))
        (first, first))

end Polygon

/-- Fill the polygon with the given corners. -/
def Bitmap.polygon
    (bitmap : Bitmap)
    (color : Color)
    (corners : List Point) : Bitmap :=
  match Polygon.bounds? corners with
  | none => bitmap
  | some (low, high) =>
      if low.x = high.x ∨ low.y = high.y then bitmap.line color low high
      else
        let alongX : Bool := high.y - low.y < high.x - low.x
        let seen := if alongX then corners else corners.map Point.transpose
        let first := if alongX then low.x else low.y
        let last := if alongX then high.x else high.y
        (Bitmap.overRange (Polygon.sweepLine color alongX) (last - first + 1).toNat first
          ⟨Polygon.sides seen, [], bitmap⟩).bitmap

end LatencyChart
