import LatencyChart.Text.Utf8

/-!
# Switches

A switch selects what a command does. Each switch has a long name and a letter. Two of
them take a value, which is the name of a file.
-/

namespace LatencyChart
namespace CommandLine

/-- What can be selected on a command line. -/
inductive Switch
  | input
  | output
  | verbose
  | help
  | version
  deriving DecidableEq, Repr

namespace Switch

/-- All switches. -/
def all : List Switch := [.input, .output, .verbose, .help, .version]

/-- The switches that make up the options of a run, in the order in which they are listed. -/
def options : List Switch := [.input, .output, .verbose]

/-- The name of a switch after two dashes. -/
def longName : Switch → String
  | .input => "file"
  | .output => "output"
  | .verbose => "verbose"
  | .help => "help"
  | .version => "version"

/-- The name of a switch after a single dash. -/
def letter : Switch → Char
  | .input => 'f'
  | .output => 'o'
  | .verbose => 'v'
  | .help => 'h'
  | .version => 'V'

/-- What the value of a switch is called, when it takes one. -/
def valueName? : Switch → Option String
  | .input => some "input_txtfile"
  | .output => some "output_file"
  | _ => none

/-- Whether a switch takes a value. -/
def takesValue (switch : Switch) : Bool :=
  switch.valueName?.isSome

/-- The name under which a fault reports a switch. -/
def title (switch : Switch) : String :=
  switch.valueName?.getD switch.longName

/-- How a switch is written in full. -/
def usage (switch : Switch) : String :=
  "--" ++ switch.longName ++
    match switch.valueName? with
    | some name => " <" ++ name ++ ">"
    | none => ""

/-- The switch with a given long name. -/
def ofLongName? (name : Bytes) : Option Switch :=
  all.find? fun switch => Text.Utf8.encode switch.longName == name

/-- The switch with a given letter. -/
def ofLetter? (letter : UInt8) : Option Switch :=
  all.find? fun switch => switch.letter.toUInt8 == letter

end Switch
end CommandLine
end LatencyChart
