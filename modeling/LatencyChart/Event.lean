import LatencyChart.Fault
import LatencyChart.Series.Summary

/-!
# Events

An event is something worth telling the user while a run goes on. Its level says how
urgent it is, and its origin names the part of the program that tells it.
-/

namespace LatencyChart

/-- The urgency of an event. -/
inductive Level
  | debug
  | info
  | warn
  | error
  deriving DecidableEq, Repr

/-- The name of a level. -/
def Level.name : Level → String
  | .debug => "DEBUG"
  | .info => "INFO"
  | .warn => "WARN"
  | .error => "ERROR"

/-- Something worth telling. -/
inductive Event
  /-- A time is smaller than the one before it. -/
  | timeGoesBack (previous time : Float) (line : Nat)
  /-- A whole input was read. -/
  | parsed (samples blanks : Nat)
  /-- A run knows its input and output; without an output it opens the viewer. -/
  | started (input : PathName) (output? : Option PathName)
  | summarised (summary : Summary)
  | nothingFinite (input : PathName)
  | chartWritten (path : PathName)
  | viewerOpening (width height : Nat)
  | redrawFailed (width height : Nat) (fault : DrawFault)
  | failed (failure : Failure)

namespace Event

/-- The urgency of each event. -/
def level : Event → Level
  | .timeGoesBack .. => .warn
  | .parsed .. => .debug
  | .started .. => .info
  | .summarised .. => .info
  | .nothingFinite .. => .warn
  | .chartWritten .. => .info
  | .viewerOpening .. => .debug
  | .redrawFailed .. => .error
  | .failed .. => .error

/-- The part of the program that tells each event. -/
def origin : Event → String
  | .chartWritten .. => "rtt_plot::render"
  | .viewerOpening .. => "rtt_plot::viewer"
  | .redrawFailed .. => "rtt_plot::viewer"
  | _ => "rtt_plot"

/-- The message of each event. -/
def message : Event → String
  | .timeGoesBack previous time line =>
      "time goes back from " ++ Number.text previous ++ " to " ++ Number.text time ++
        " at line " ++ toString line
  | .parsed samples blanks =>
      "parsed " ++ toString samples ++ " samples, skipped " ++ toString blanks ++ " blank lines"
  | .started input none => "read data from " ++ input.display ++ " and open the viewer"
  | .started input (some output) =>
      "read data from " ++ input.display ++ " and plot to " ++ output.display
  | .summarised summary => summary.render
  | .nothingFinite input => "no finite samples in " ++ input.display
  | .chartWritten path => "chart written to " ++ path.display
  | .viewerOpening width height =>
      "opening the viewer at " ++ toString width ++ "x" ++ toString height
  | .redrawFailed width height fault =>
      "could not redraw the chart at " ++ toString width ++ "x" ++ toString height ++ ": " ++
        fault.message
  | .failed failure => failure.message

/-- Whether an event is told: details only when they are asked for. -/
def isTold (verbose : Bool) (event : Event) : Bool :=
  verbose || event.level != .debug

/-- How a character of a message is told. Characters that steer a terminal are written by
their codes. -/
def toldChar (character : Char) : List Char :=
  let code := character.toNat
  if code = 0x07 ∨ code = 0x08 ∨ code = 0x0C then '\\' :: 'x' :: '0' :: Nat.toDigits 16 code
  else if code = 0x1B ∨ code = 0x7F then '\\' :: 'x' :: Nat.toDigits 16 code
  else if 0x80 ≤ code ∧ code ≤ 0x9F then
    ['\\', 'u', '\x7b'] ++ Nat.toDigits 16 code ++ ['\x7d']
  else [character]

/-- The text that tells an event, with the level right-aligned. -/
def render (event : Event) : String :=
  (if event.level.name.length < 5 then " " else "") ++ event.level.name ++ " " ++ event.origin ++
    ": " ++ String.ofList (event.message.toList.flatMap toldChar)

end Event
end LatencyChart
