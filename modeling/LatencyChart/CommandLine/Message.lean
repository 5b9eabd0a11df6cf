import LatencyChart.CommandLine.Options

/-!
# What a command line is answered with

A wish for help or for the version is granted. A fault is told with the part of the usage
that it concerns. All texts name the program as it was called.
-/

namespace LatencyChart
namespace CommandLine

/-- The name of the program. -/
def programName : String := "rtt_plot"

/-- The version of the program. -/
def version : String := "0.1.0"

/-- The name under which the program was called: the last component of the first word, if
that is text. -/
def calledName (words : List Bytes) : String :=
  match (words.head?.bind PathName.fileName?).bind Text.Utf8.decode? with
  | some name => String.ofList name
  | none => programName

/-- The name and version of a program called under some name. A name with blanks in it is
shown with dashes instead, and any other is not shown. -/
def versionText (called : String) : String :=
  let shown :=
    if called.toList.contains ' ' then
      String.ofList (called.toList.map fun character => if character = ' ' then '-' else character)
    else
      programName
  shown ++ " " ++ version

namespace Switch

/-- What a switch is good for. -/
def purpose : Switch → String
  | .input =>
      "name of the two-column text file with time [s] and RTT [ms] [default: " ++
        Options.defaultInput ++ "]"
  | .output => "write the chart to this svg or png file instead of opening a window"
  | .verbose => "print debug information"
  | .help => "Prints help information"
  | .version => "Prints version information"

/-- How a switch can be written. -/
def spellings (switch : Switch) : String :=
  "-" ++ switch.letter.toString ++ ", " ++ switch.usage

/-- A table of switches in two aligned columns. -/
def table (switches : List Switch) : List String :=
  let width := (switches.map fun switch => switch.spellings.length).foldl max 0
  switches.map fun switch =>
    let room := String.ofList (List.replicate (width - switch.spellings.length) ' ')
    "    " ++ switch.spellings ++ room ++ "    " ++ switch.purpose

end Switch

/-- The usage when no particular option is concerned. -/
def generalUsage : String := "[FLAGS] [OPTIONS]"

/-- The text that explains the program. -/
def helpText (called : String) : String :=
  "\n".intercalate
    ([versionText called, "Luca Peruzzo", "cli app to plot the RTT time series", "",
        "USAGE:", "    " ++ called ++ " " ++ generalUsage, "", "FLAGS:"] ++
      Switch.table [.help, .version, .verbose] ++ ["", "OPTIONS:"] ++
      Switch.table [.input, .output])

/-- The usage of some options. -/
def usageOf (switches : List Switch) : String :=
  if switches = [] then generalUsage else " ".intercalate (switches.map Switch.usage)

/-- The text of a fault with the usage that it concerns. -/
def faultText (called what usage : String) : String :=
  "error: " ++ what ++ "\n\nUSAGE:\n    " ++ called ++ " " ++ usage ++
    "\n\nFor more information try --help"

/-- The question that follows an unknown name, with the suggested switch in green. -/
def suggestionText (switch : Switch) : String :=
  "\n\tDid you mean \x1b[32m--\x1b[0m\x1b[32m" ++ switch.longName ++ "\x1b[0m?"

namespace Stop

/-- Whether a command line is at fault. -/
def isFault : Stop → Bool
  | .help => false
  | .version => false
  | _ => true

/-- What a command line is answered with. -/
def text (called : String) : Stop → String
  | .help => helpText called
  | .version => versionText called
  | .unknown word suggestion? met =>
      faultText called
        ("Found argument '" ++ word ++ "' which wasn't expected, or isn't valid in this context" ++
          (suggestion?.map suggestionText).getD "")
        (usageOf (match suggestion? with
          | some switch => [switch]
          | none => met))
  | .repeated switch met =>
      faultText called
        ("The argument '" ++ switch.usage ++
          "' was provided more than once, but cannot be used multiple times")
        (usageOf met)
  | .missingValue switch met =>
      faultText called
        ("The argument '" ++ switch.usage ++ "' requires a value but none was supplied")
        (usageOf met)
  | .unreadable => "unexpected invalid UTF-8 code point"

end Stop
end CommandLine
end LatencyChart
