import LatencyChart.Number.Binary64

/-!
# Shortest decimals

The shortest decimal of a positive number `m * 2 ^ q` is the point of the coarsest decimal
grid that still reads back as that number. The reals that read back as the number form an
interval around it, whose ends belong to it exactly when `m` is even.
-/

namespace LatencyChart

/-- The number `digits * 10 ^ exponent`. -/
structure Decimal where
  digits : Nat
  exponent : Int
  deriving DecidableEq, Repr

namespace Decimal

/-- A positive number `significand * 2 ^ exponent` with the interval of the reals that
read back as it. The interval reaches half a unit of `2 ^ exponent` upwards. -/
structure Target where
  significand : Nat
  exponent : Int
  /-- How far the interval reaches downwards, in quarters of `2 ^ exponent`. -/
  lowerQuarters : Nat

/-- The interval of a positive number. Below a power of two the neighbours are twice as
dense. -/
def Target.ofFloat (number : Float) : Target where
  significand := Binary64.significand number
  exponent := Binary64.exponent number
  lowerQuarters :=
    if Binary64.fractionField number = 0 ∧ 1 < Binary64.exponentField number then 1 else 2

namespace Target

/-- The target is `significand * scaleUp / scaleDown` in units of `10 ^ grid`. -/
def scaleUp (target : Target) (grid : Int) : Nat :=
  Nat.pow 2 target.exponent.toNat * Nat.pow 10 (-grid).toNat

/-- The target is `significand * scaleUp / scaleDown` in units of `10 ^ grid`. -/
def scaleDown (target : Target) (grid : Int) : Nat :=
  Nat.pow 2 (-target.exponent).toNat * Nat.pow 10 grid.toNat

/-- Whether `point * 10 ^ grid` reads back as the target. -/
def readsBack (target : Target) (grid : Int) (point : Nat) : Bool :=
  let scaled := 4 * point * target.scaleDown grid
  let low := (4 * target.significand - target.lowerQuarters) * target.scaleUp grid
  let high := (4 * target.significand + 2) * target.scaleUp grid
  if target.significand % 2 = 0 then low ≤ scaled && scaled ≤ high
  else low < scaled && scaled < high

/-- The nearer of the target's two neighbours on a grid among those that read back. Of two
equally near ones it is the upper. -/
def onGrid? (target : Target) (grid : Int) : Option Nat :=
  let up := target.scaleUp grid
  let down := target.scaleDown grid
  let below := target.significand * up / down
  let nearerBelow : Bool := 2 * (target.significand * up % down) < down
  match target.readsBack grid below, target.readsBack grid (below + 1) with
  | true, true => some (if nearerBelow then below else below + 1)
  | true, false => some below
  | false, true => some (below + 1)
  | false, false => none

/-- The first hit on the grids from `10 ^ grid` downwards, over at most `count` grids. -/
def search (target : Target) : Nat → Int → Decimal
  | 0, grid => ⟨target.significand * target.scaleUp grid / target.scaleDown grid, grid⟩
  | count + 1, grid =>
      match target.onGrid? grid with
      | some point => ⟨point, grid⟩
      | none => search target count (grid - 1)

/-- An exponent of ten whose power is larger than the target. -/
def topGrid (target : Target) : Int :=
  ((target.significand.log2 : Int) + target.exponent) * 30103 / 100000 + 2

/-- The target itself is a point of the grid `min exponent 0`, so the search ends there at
the latest. -/
def shortest (target : Target) : Decimal :=
  search target (target.topGrid - min target.exponent 0).toNat target.topGrid

end Target

/-- The shortest decimal that reads back as a positive number. -/
def shortest (number : Float) : Decimal :=
  (Target.ofFloat number).shortest

end Decimal
end LatencyChart
