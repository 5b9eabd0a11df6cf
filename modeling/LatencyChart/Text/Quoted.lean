import LatencyChart.Text.Visibility

/-!
# Quoted text

Quoted text stands between double quotes on one line. Quotes, backslashes and the common
control characters are written with a backslash, and every other character that a reader
could not see or could not tell from its neighbour is written by its code point.
-/

namespace LatencyChart
namespace Text
namespace Quoted

/-- The written form of one character inside quotes. -/
def encodeChar (character : Char) : List Char :=
  match character with
  | '\x00' => ['\\', '0']
  | '\t' => ['\\', 't']
  | '\n' => ['\\', 'n']
  | '\r' => ['\\', 'r']
  | '"' => ['\\', '"']
  | '\\' => ['\\', '\\']
  | _ =>
      if isJoining character || isHidden character then
        ['\\', 'u', '\x7b'] ++ Nat.toDigits 16 character.toNat ++ ['\x7d']
      else
        [character]

/-- The written form of a text, quotes included. -/
def encode (text : List Char) : List Char :=
  ['"'] ++ text.flatMap encodeChar ++ ['"']

end Quoted

/-- The written form of a text between double quotes. -/
def quoted (text : String) : String :=
  String.ofList (Quoted.encode text.toList)

end Text
end LatencyChart
