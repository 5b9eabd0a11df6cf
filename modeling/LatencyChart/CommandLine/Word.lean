import LatencyChart.Text.Utf8

/-!
# Words of a command line

The form of a word decides how it is read. Two dashes alone end the switches. A longer
word after two or more dashes is a long name with an optional value behind an equals sign.
A word after one dash is a row of letters. All other words are plain, and so is a single
dash.
-/

namespace LatencyChart
namespace CommandLine

/-- The byte that starts a switch. -/
def dash : UInt8 := 0x2D

/-- The byte that separates a name from its value. -/
def equals : UInt8 := 0x3D

/-- A word of a command line, by its form. -/
inductive Word
  /-- The mark after which no switch follows. -/
  | separator
  | name (name : Bytes) (value? : Option Bytes)
  | letters (letters : Bytes)
  | plain (text : Bytes)
  deriving DecidableEq, Repr

namespace Word

/-- The long name in front of the first equals sign, and the value behind it. -/
def ofName (text : Bytes) : Word :=
  match text.dropWhile (· != equals) with
  | [] => .name text none
  | _ :: value => .name (text.takeWhile (· != equals)) (some value)

/-- The form of a word. -/
def ofBytes (word : Bytes) : Word :=
  if word = [dash, dash] then .separator
  else if [dash, dash].isPrefixOf word then ofName (word.dropWhile (· == dash))
  else if word.head? = some dash ∧ word ≠ [dash] then .letters word.tail
  else .plain word

end Word
end CommandLine
end LatencyChart
