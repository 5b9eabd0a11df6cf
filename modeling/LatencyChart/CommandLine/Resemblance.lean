import LatencyChart.CommandLine.Switch

/-!
# Resemblance of names

Two names resemble each other when they share many characters at nearby positions and in
the same order, and the more so the longer their common beginning is. An unknown name is
answered with the switch that it resembles most, if it resembles one well enough.
-/

namespace LatencyChart
namespace CommandLine
namespace Resemblance

/-- How far apart the positions of shared characters may be. -/
def reach (left right : List Char) : Nat :=
  max left.length right.length / 2 - 1

/-- The first position within reach of `position` that holds a character and is not taken
yet. -/
def freePosition?
    (right : List Char)
    (reach position : Nat)
    (character : Char)
    (taken : List Nat) : Option Nat :=
  (right.zipIdx.find? fun candidate =>
    position - reach ≤ candidate.2 ∧ candidate.2 ≤ position + reach ∧
      candidate.1 = character ∧ candidate.2 ∉ taken).map (·.2)

/-- The positions of the second name that the characters of the first take, the latest
first. -/
def taken (left right : List Char) : List Nat :=
  left.zipIdx.foldl
    (fun taken character =>
      (freePosition? right (reach left right) character.2 character.1 taken).toList ++ taken)
    []

/-- The number of positions that are smaller than the one taken before them. -/
def inversions (taken : List Nat) : Nat :=
  (taken.zip taken.tail).countP fun pair => pair.1 < pair.2

/-- The share of matching characters in both names and of ordered ones among the matching. -/
def agreement (left right : List Char) : Float :=
  if left = right then 1.0
  else if left = [] ∨ right = [] ∨ (left.length = 1 ∧ right.length = 1) then 0.0
  else
    let positions := taken left right
    let matching := Float.ofNat positions.length
    if positions = [] then 0.0
    else
      (1.0 / 3.0) *
        (matching / Float.ofNat left.length + matching / Float.ofNat right.length +
          (matching - Float.ofNat (inversions positions)) / matching)

/-- The length of the common beginning of two names. -/
def commonLength (left right : List Char) : Nat :=
  ((left.zip right).takeWhile fun pair => pair.1 == pair.2).length

/-- The resemblance of two names, at most one. -/
def degree (left right : List Char) : Float :=
  let plain := agreement left right
  let raised := plain + 0.1 * Float.ofNat (commonLength left right) * (1.0 - plain)
  if raised ≤ 1.0 then raised else 1.0

/-- The resemblance that a suggestion must exceed. -/
def threshold : Float := 0.8

/-- The switch that a name resembles most, and the first of them if several do. -/
def suggestion? (name : List Char) : Option Switch :=
  (Switch.all.foldl
    (fun (best : Option Switch × Float) switch =>
      let candidate := degree name switch.longName.toList
      if best.2 < candidate then (some switch, candidate) else best)
    (none, threshold)).1

end Resemblance
end CommandLine
end LatencyChart
