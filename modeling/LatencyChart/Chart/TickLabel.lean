import LatencyChart.Number.Text

/-!
# Tick labels

A tick label shows a number with at least one and at most five places, fewer when the
number is closer to a shorter one than the last place could show.
-/

namespace LatencyChart
namespace TickLabel

/-- A number rounded to few places, with the number of places. -/
structure Rounded where
  value : Float
  places : Nat

/-- Round a number to the fewest places that are off by less than `tolerance`, at most
`count` places. -/
def round : Nat → Float → Float → Rounded
  | 0, number, _ => ⟨number, 0⟩
  | count + 1, number, tolerance =>
      if tolerance ≥ 1.0 then ⟨number, 0⟩
      else if number - Binary64.floor number < tolerance then ⟨Binary64.floor number, 0⟩
      else if Binary64.ceil number - number < tolerance then ⟨Binary64.ceil number, 0⟩
      else
        let rest := round count ((number - Binary64.floor number) * 10.0) (tolerance * 10.0)
        ⟨Binary64.floor number + rest.value / 10.0, rest.places + 1⟩

/-- The digits after the point: `places` digits without the zeros at their end, but at
least one digit. -/
def placesText (value places : Nat) : List Char :=
  let digits := Number.paddedDigits places value
  let kept := (digits.reverse.dropWhile (· == '0')).reverse
  if kept = [] then ['0'] else kept

/-- The text of the label of a number. -/
def text (number : Float) : String :=
  let rounded := round 8 number 0.00001
  let isBelow : Bool := rounded.value < 0.0
  let magnitude := if isBelow then -rounded.value else rounded.value
  let whole := Binary64.floor magnitude
  let scaled := (magnitude - whole) * Float.ofNat (Nat.pow 10 rounded.places)
  let fraction := Binary64.toCount (Binary64.round scaled)
  let sign := if isBelow then ['-'] else []
  String.ofList
    (sign ++ Number.fixedText 0 whole ++ ['.'] ++
      (if rounded.places = 0 then ['0'] else placesText fraction rounded.places))

end TickLabel
end LatencyChart
