import LatencyChart.Number.Nearest
import LatencyChart.Number.Shortest

/-!
# The text of a number

Numbers are written positionally, never with an exponent: either with the fewest digits
that read back, or rounded to a fixed number of places. The sign of a zero is written; a
NaN has no sign.
-/

namespace LatencyChart
namespace Number

/-- The decimal digits of a natural number. -/
def digitsText (value : Nat) : List Char :=
  Nat.toDigits 10 value

/-- The digits of a natural number with zeros in front up to the given width. -/
def paddedDigits (width value : Nat) : List Char :=
  List.replicate (width - (digitsText value).length) '0' ++ digitsText value

/-- The text of `value / 10 ^ places`, with a point exactly when there are places. -/
def positional (value places : Nat) : List Char :=
  if places = 0 then digitsText value
  else
    digitsText (value / Nat.pow 10 places) ++ ['.'] ++
      paddedDigits places (value % Nat.pow 10 places)

/-- The positional text of a decimal. -/
def decimalText (decimal : Decimal) : List Char :=
  positional (decimal.digits * Nat.pow 10 decimal.exponent.toNat) (-decimal.exponent).toNat

/-- Write a sign before the text of a magnitude. -/
def signed (number : Float) (magnitude : List Char) : List Char :=
  if Binary64.isNegative number then '-' :: magnitude else magnitude

/-- Write a number that is not finite by its name, and any other as the given text of its
magnitude. -/
def withNames (number : Float) (magnitude : List Char) : List Char :=
  if number.isNaN then ['N', 'a', 'N']
  else if number.isInf then signed number ['i', 'n', 'f']
  else signed number magnitude

/-- The characters of a number's shortest text. -/
def shortestText (number : Float) : List Char :=
  withNames number
    (if Binary64.significand number = 0 then ['0'] else decimalText (Decimal.shortest number))

/-- The characters of a number rounded to a fixed number of places, where a half goes to
the even digit. -/
def fixedText (places : Nat) (number : Float) : List Char :=
  let exponent := Binary64.exponent number
  withNames number
    (positional
      (roundHalfEven
        (Binary64.significand number * Nat.pow 2 exponent.toNat * Nat.pow 10 places)
        (Nat.pow 2 (-exponent).toNat))
      places)

/-- The shortest text of a number. -/
def text (number : Float) : String :=
  String.ofList (shortestText number)

/-- The text of a number with a fixed number of places. -/
def fixed (places : Nat) (number : Float) : String :=
  String.ofList (fixedText places number)

end Number
end LatencyChart
