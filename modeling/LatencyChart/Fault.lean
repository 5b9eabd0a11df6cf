import LatencyChart.Number.Literal
import LatencyChart.Number.Text
import LatencyChart.Storage.PathName
import LatencyChart.Text.Quoted

/-!
# Faults

Loading, drawing and whole runs fail for the causes listed here. Each cause has one
message, and a message that repeats text of the input quotes it.
-/

namespace LatencyChart

/-- A refusal by the file system. -/
inductive SystemFault
  | missing
  | notDirectory
  | isDirectory
  | nameTooLong
  deriving DecidableEq, Repr

namespace SystemFault

/-- The number of a refusal. -/
def code : SystemFault → Nat
  | .missing => 2
  | .notDirectory => 20
  | .isDirectory => 21
  | .nameTooLong => 36

/-- The one-word name of a refusal. -/
def name : SystemFault → String
  | .missing => "NotFound"
  | .notDirectory => "NotADirectory"
  | .isDirectory => "IsADirectory"
  | .nameTooLong => "InvalidFilename"

/-- The description of a refusal. -/
def text : SystemFault → String
  | .missing => "No such file or directory"
  | .notDirectory => "Not a directory"
  | .isDirectory => "Is a directory"
  | .nameTooLong => "File name too long"

end SystemFault

/-- A kind of input or output fault without further detail. -/
inductive IoKind
  | timedOut
  | connectionReset
  | unexpectedEnd
  | permissionDenied
  | notFound
  | invalidData
  | interrupted
  | other
  deriving DecidableEq, Repr

/-- The description of a kind of fault. -/
def IoKind.text : IoKind → String
  | .timedOut => "timed out"
  | .connectionReset => "connection reset"
  | .unexpectedEnd => "unexpected end of file"
  | .permissionDenied => "permission denied"
  | .notFound => "entity not found"
  | .invalidData => "invalid data"
  | .interrupted => "operation interrupted"
  | .other => "other error"

/-- Why a source could not be opened or read. -/
inductive IoFault
  | system (cause : SystemFault)
  | plain (kind : IoKind)
  /-- The name of the source holds a NUL byte. -/
  | nulInName
  /-- The bytes read are not UTF-8. -/
  | invalidText
  | custom (text : String)
  deriving DecidableEq, Repr

namespace IoFault

/-- The message of an input or output fault. -/
def message : IoFault → String
  | .system cause => cause.text ++ " (os error " ++ toString cause.code ++ ")"
  | .plain kind => kind.text
  | .nulInName => "file name contained an unexpected NUL byte"
  | .invalidText => "stream did not contain valid UTF-8"
  | .custom text => text

/-- The structural description of an input or output fault, with names for its parts. -/
def debugText : IoFault → String
  | .system cause =>
      "Os \x7b code: " ++ toString cause.code ++ ", kind: " ++ cause.name ++ ", message: " ++
        Text.quoted cause.text ++ " \x7d"
  | .nulInName =>
      "Error \x7b kind: InvalidInput, message: " ++ Text.quoted nulInName.message ++ " \x7d"
  | fault => Text.quoted fault.message

end IoFault

/-- Why a line is not a sample. -/
inductive LineFault
  | fieldCount (count : Nat)
  | invalidNumber (field : String) (cause : Number.LiteralFault)
  deriving DecidableEq, Repr

/-- The message of a line fault. -/
def LineFault.message : LineFault → String
  | .fieldCount count => "expected 2 tokens but got " ++ toString count
  | .invalidNumber field cause =>
      "invalid number " ++ Text.quoted field ++ " (" ++ cause.message ++ ")"

/-- Why a series could not be loaded. -/
inductive LoadFault
  /-- The file could not be opened. -/
  | access (path : PathName) (cause : IoFault)
  /-- A line could not be read. -/
  | read (line : Nat) (cause : IoFault)
  /-- A line that is not blank is not a sample. -/
  | parse (line : Nat) (content : String) (reason : LineFault)
  deriving DecidableEq, Repr

/-- The message of a load fault. -/
def LoadFault.message : LoadFault → String
  | .access path cause => "could not open " ++ path.display ++ ": " ++ cause.message
  | .read line cause => "could not read line " ++ toString line ++ ": " ++ cause.message
  | .parse line content reason =>
      "line " ++ toString line ++ ": " ++ reason.message ++ ", found " ++ Text.quoted content

/-- Why a chart could not be drawn. -/
inductive DrawFault
  /-- No sample is finite. -/
  | emptySeries
  /-- The name of the output has no known extension. -/
  | unsupportedFormat (path : String)
  /-- The distance between the bounds is no finite number. -/
  | range (min max : Float)
  | backend (text : String)
  | viewer (text : String)

/-- The message of a draw fault. -/
def DrawFault.message : DrawFault → String
  | .emptySeries => "no samples to plot"
  | .unsupportedFormat path =>
      "unsupported output format " ++ Text.quoted path ++ ", use .svg or .png"
  | .range min max =>
      "cannot fit values from " ++ Number.text min ++ " to " ++ Number.text max ++ " on an axis"
  | .backend text => "drawing failed: " ++ text
  | .viewer text => "could not run the viewer: " ++ text

/-- Why a run failed. -/
inductive Failure
  | load (fault : LoadFault)
  | draw (fault : DrawFault)

namespace Failure

/-- The message of a failure. -/
def message : Failure → String
  | .load fault => fault.message
  | .draw fault => fault.message

/-- Whether a line was not a sample. -/
def isParse : Failure → Bool
  | .load (.parse ..) => true
  | _ => false

/-- Whether the input could not be opened or read. -/
def isFileAccess : Failure → Bool
  | .load (.access ..) => true
  | .load (.read ..) => true
  | _ => false

/-- The messages of the faults behind a failure, nearest first. -/
def sources : Failure → List String
  | .load (.access _ cause) => [cause.message]
  | .load (.read _ cause) => [cause.message]
  | _ => []

end Failure
end LatencyChart
