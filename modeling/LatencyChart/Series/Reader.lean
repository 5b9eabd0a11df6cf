import LatencyChart.Event
import LatencyChart.Series.Line
import LatencyChart.Text.Blank

/-!
# Reading a series

A line without fields is blank and skipped. Any other line must hold exactly two fields,
both number literals. The first line that cannot be read or is no sample decides the
outcome, whatever follows it. The first accepted time that is smaller than the one before
it is reported once.
-/

namespace LatencyChart
namespace Series

/-- What a line holds. -/
inductive Reading
  | blank
  | sample (value : Sample)

/-- Read one field as a number. -/
def readNumber (field : List Char) : Except LineFault Float :=
  (Number.Literal.read field).mapError (.invalidNumber (String.ofList field))

/-- Read the text of one line. -/
def readText (text : List Char) : Except LineFault Reading :=
  match Text.fields text with
  | [] => .ok .blank
  | [timeField, rttField] => do
      let time ← readNumber timeField
      let rtt ← readNumber rttField
      return .sample ⟨time, rtt⟩
  | fields => .error (.fieldCount fields.length)

/-- Read the line with a given number. -/
def readLine (number : Nat) (line : RawLine) : Except LoadFault Reading :=
  match line with
  | .error cause => .error (.read number cause)
  | .ok bytes =>
      match Text.Utf8.decode? bytes with
      | none => .error (.read number .invalidText)
      | some text => (readText text).mapError (.parse number (String.ofList text))

/-- The outcome of reading lines in order up to the first fault. -/
structure Scan where
  /-- The accepted samples with the numbers of their lines. -/
  accepted : List (Nat × Sample)
  blanks : Nat
  fault? : Option LoadFault

namespace Scan

/-- The scan of no lines. -/
def empty : Scan := ⟨[], 0, none⟩

/-- Put a line in front. A fault there hides everything after it. -/
def push (line : RawLine × Nat) (scan : Scan) : Scan :=
  match readLine line.2 line.1 with
  | .error fault => ⟨[], 0, some fault⟩
  | .ok .blank => { scan with blanks := scan.blanks + 1 }
  | .ok (.sample sample) => { scan with accepted := (line.2, sample) :: scan.accepted }

/-- Scan lines whose numbers start at a given one. -/
def ofLines (lines : List RawLine) (first : Nat) : Scan :=
  (lines.zipIdx first).foldr push empty

/-- The accepted samples in order. -/
def series (scan : Scan) : Series :=
  ⟨scan.accepted.map (·.2)⟩

/-- The series, or the first fault. -/
def result (scan : Scan) : Except LoadFault Series :=
  match scan.fault? with
  | some fault => .error fault
  | none => .ok scan.series

end Scan

/-- Report the first of some numbered samples whose time is smaller than the one before
it. -/
def firstStepBack? : List (Nat × Sample) → Option Event
  | (_, previous) :: (line, sample) :: rest =>
      if sample.time < previous.time then
        some (.timeGoesBack previous.time sample.time line)
      else
        firstStepBack? ((line, sample) :: rest)
  | _ => none

/-- The events of a scan: at most one step back in time, and the counts of a whole input. -/
def Scan.events (scan : Scan) : List Event :=
  (firstStepBack? scan.accepted).toList ++
    (if scan.fault?.isNone then [.parsed scan.accepted.length scan.blanks] else [])

/-- The outcome of loading a series, and what was told meanwhile. -/
structure Loading where
  result : Except LoadFault Series
  events : List Event

/-- Load a series from signals. -/
def ofSignals (signals : List Signal) : Loading :=
  let scan := Scan.ofLines (linesOf signals) 1
  ⟨scan.result, scan.events⟩

/-- Load a series from a source that is read piece by piece. -/
def ofEvents (events : List ReadEvent) : Loading :=
  ofSignals (Signal.ofEvents events)

/-- Load a series from the bytes of a text. -/
def ofBytes (bytes : Bytes) : Loading :=
  ofSignals (bytes.map .byte)

end Series
end LatencyChart
