import LatencyChart.Fault

/-!
# Lines of a source

A source is read piece by piece. How its bytes fall into pieces does not matter, so the
answers of the source are first flattened to signals: bytes, pauses and faults. A line
ends at a newline or a pause. A carriage return directly before a newline belongs to the
line end. A pause with no bytes before it ends the source, and a fault ends it too and
hides the bytes already read of its line.
-/

namespace LatencyChart

/-- One answer of a source. -/
inductive ReadEvent
  | chunk (bytes : Bytes)
  | failed (cause : IoFault)

namespace Series

/-- One step in the life of a source. -/
inductive Signal
  | byte (value : UInt8)
  /-- The source had nothing to give. -/
  | pause
  | fault (cause : IoFault)

/-- The signals of one answer. An interrupted attempt leaves no trace. -/
def Signal.ofEvent : ReadEvent → List Signal
  | .chunk [] => [.pause]
  | .chunk bytes => bytes.map .byte
  | .failed (.plain .interrupted) => []
  | .failed cause => [.fault cause]

/-- The signals of a source, in order. -/
def Signal.ofEvents (events : List ReadEvent) : List Signal :=
  events.flatMap Signal.ofEvent

/-- A line as it was read: its bytes without the line end, or the fault that cut it off. -/
abbrev RawLine := Except IoFault Bytes

/-- What ends a line. -/
inductive LineEnd
  | newline
  | pause
  | fault (cause : IoFault)

/-- The signals from some point on, seen as the rest of a line and the lines after it. -/
structure Remainder where
  /-- The bytes up to the end of the current line. -/
  bytes : Bytes
  lineEnd : LineEnd
  later : List RawLine

/-- The byte of a newline. -/
def newline : UInt8 := 0x0A

/-- The byte of a carriage return. -/
def carriageReturn : UInt8 := 0x0D

/-- A line without a carriage return at its end. -/
def dropReturn (line : Bytes) : Bytes :=
  if line.getLast? = some carriageReturn then line.dropLast else line

namespace Remainder

/-- The lines of a source whose next line is the given one. -/
def lines (remainder : Remainder) : List RawLine :=
  match remainder.lineEnd with
  | .newline => .ok (dropReturn remainder.bytes) :: remainder.later
  | .pause => if remainder.bytes = [] then [] else .ok remainder.bytes :: remainder.later
  | .fault cause => [.error cause]

/-- Put one signal in front. -/
def push : Signal → Remainder → Remainder
  | .byte value, remainder =>
      if value = newline then ⟨[], .newline, remainder.lines⟩
      else { remainder with bytes := value :: remainder.bytes }
  | .pause, remainder => ⟨[], .pause, remainder.lines⟩
  | .fault cause, _ => ⟨[], .fault cause, []⟩

/-- The end of a source. -/
def done : Remainder := ⟨[], .pause, []⟩

end Remainder

/-- The lines that a source gives. -/
def linesOf (signals : List Signal) : List RawLine :=
  (signals.foldr Remainder.push Remainder.done).lines

end Series
end LatencyChart
