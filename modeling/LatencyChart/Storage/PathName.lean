import LatencyChart.Text.Utf8

/-!
# Path names

A path is a byte sequence cut into components at slashes. Empty components and components
that are a single dot name no place of their own.
-/

namespace LatencyChart

/-- The name of a file or directory, which need not be text. -/
abbrev PathName := Bytes

namespace PathName

/-- The byte that separates the components of a path. -/
def slash : UInt8 := 0x2F

/-- The byte that separates a name from its extension. -/
def dot : UInt8 := 0x2E

/-- The components of a path that are neither empty nor a single dot. -/
def components (path : PathName) : List Bytes :=
  (path.splitOn slash).filter fun component => !(component == [] || component == [dot])

/-- The last component of a path, unless that leads upwards. -/
def fileName? (path : PathName) : Option Bytes :=
  (components path).getLast?.filter (· != [dot, dot])

/-- The part of a name after its last dot, unless that dot is its first byte. -/
def nameExtension? (name : Bytes) : Option Bytes :=
  let pieces := name.splitOn dot
  if pieces.length < 2 ∨ pieces.dropLast = [[]] then none else pieces.getLast?

/-- The extension of the last component. -/
def extension? (path : PathName) : Option Bytes :=
  (fileName? path).bind nameExtension?

/-- The text that shows a path, with U+FFFD for bytes that are not text. -/
def display (path : PathName) : String :=
  String.ofList (Text.Utf8.decodeLenient path)

end PathName
end LatencyChart
