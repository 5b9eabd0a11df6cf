import LatencyChart.Number.Nearest

/-!
# Number literals

A literal is an optional sign followed by `inf`, `infinity` or `nan` in any mixture of
ASCII cases, or by decimal digits with at most one point and an optional exponent. Its
value is the nearest binary64 number.
-/

namespace LatencyChart
namespace Number

/-- Why a text is no literal. -/
inductive LiteralFault
  | empty
  | malformed
  deriving DecidableEq, Repr

/-- The text of a literal fault. -/
def LiteralFault.message : LiteralFault → String
  | .empty => "cannot parse float from empty string"
  | .malformed => "invalid float literal"

namespace Literal

/-- The digit that a character stands for. -/
def digitValue (character : Char) : Nat :=
  character.toNat - '0'.toNat

/-- The value of a run of digits. -/
def digitsValue (digits : List Char) : Nat :=
  digits.foldl (fun value digit => 10 * value + digitValue digit) 0

/-- The value of the digits of an exponent. Digits after the value has reached 65536 are
ignored: every such power of ten is out of range. -/
def exponentValue (digits : List Char) : Nat :=
  digits.foldl
    (fun value digit => if value < 65536 then 10 * value + digitValue digit else value) 0

/-- Separate an optional sign from the rest. The first part is whether the sign is a
minus. -/
def splitSign : List Char → Bool × List Char
  | '+' :: rest => (false, rest)
  | '-' :: rest => (true, rest)
  | rest => (false, rest)

/-- The leading digits of a text and what follows them. -/
def splitDigits (text : List Char) : List Char × List Char :=
  (text.takeWhile Char.isDigit, text.dropWhile Char.isDigit)

/-- The exponent at the end of a literal: none, or the letter e, an optional sign and
digits. -/
def exponent? (text : List Char) : Option Int :=
  match text with
  | [] => some 0
  | mark :: rest =>
      let (negative, digits) := splitSign rest
      if (mark = 'e' ∨ mark = 'E') ∧ digits ≠ [] ∧ digits.all Char.isDigit then
        some (if negative then -(exponentValue digits : Int) else exponentValue digits)
      else
        none

/-- The digits after an optional point and what follows them. -/
def splitFraction : List Char → List Char × List Char
  | '.' :: rest => splitDigits rest
  | rest => ([], rest)

/-- The value of an unsigned literal made of digits. -/
def decimal? (negative : Bool) (text : List Char) : Option Float :=
  let (whole, afterWhole) := splitDigits text
  let (fraction, afterFraction) := splitFraction afterWhole
  if whole = [] ∧ fraction = [] then none
  else
    (exponent? afterFraction).map fun exponent =>
      Binary64.ofDecimal negative (digitsValue (whole ++ fraction)) (exponent - fraction.length)

/-- The value of an unsigned literal that is a word. -/
def word? (negative : Bool) (text : List Char) : Option Float :=
  let lowered := text.map Char.toLower
  if lowered = ['n', 'a', 'n'] then
    some Binary64.notANumber
  else if lowered = ['i', 'n', 'f'] ∨ lowered = ['i', 'n', 'f', 'i', 'n', 'i', 't', 'y'] then
    some (if negative then -Binary64.infinity else Binary64.infinity)
  else
    none

/-- The value of a literal. -/
def read (text : List Char) : Except LiteralFault Float :=
  if text = [] then .error .empty
  else
    let (negative, magnitude) := splitSign text
    match (word? negative magnitude).or (decimal? negative magnitude) with
    | some number => .ok number
    | none => .error .malformed

end Literal
end Number
end LatencyChart
