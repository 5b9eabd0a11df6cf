import LatencyChart.Run

/-!
# The command

The command reads its input from disk, runs on a store that takes any output, and then
writes to disk what the run left in the store. Its lines go to the standard error stream.
-/

namespace LatencyChart
namespace Command

/-- The fault behind an error of the system. -/
def faultOf (cause : IO.Error) : IoFault :=
  match cause with
  | .noFileOrDirectory .. => .system .missing
  | .inappropriateType _ code _ =>
      .system (if code.toNat = SystemFault.isDirectory.code then .isDirectory else .notDirectory)
  | .invalidArgument (some _) .. => .system .nameTooLong
  | _ => .custom (toString cause)

/-- Open a path. A directory can be opened, although it cannot be read. -/
def openPath (path : PathName) : IO (Except IoFault Entry) := do
  if path.contains 0 then
    return .error .nulInName
  try
    let content ← IO.FS.readBinFile path.display
    return .ok (.file (.bytes content.toList))
  catch cause =>
    match faultOf cause with
    | .system .isDirectory => return .ok .directory
    | fault => return .error fault

/-- Write a file. -/
def writePath (path : PathName) (content : Content) : IO (Except IoFault Unit) := do
  try
    IO.FS.writeBinFile path.display ⟨content.toBytes.toArray⟩
    return .ok ()
  catch cause =>
    return .error (faultOf cause)

/-- A store in which a path can be written. -/
def storeFor (path : PathName) : Store :=
  Store.empty.makeDirectory (path.take (path.length - ((PathName.fileName? path).getD []).length))

/-- The outcome of a run whose output was refused. An earlier failure stays. -/
def refuse
    (format : Format)
    (cause : IoFault)
    (outcome : Outcome) : Outcome :=
  match outcome.result with
  | .ok () =>
      { outcome with
        result := .error (.draw (Canvas.fault (format.createFault cause)))
        events := outcome.events.dropLast }
  | .error _ => outcome

/-- Write the output of a run to disk. -/
def commit (sink : Sink) (outcome : Outcome) : IO Outcome := do
  match sink with
  | .viewer => return outcome
  | .file path format =>
      match outcome.store.open? path with
      | .ok (.file content) =>
          match ← writePath path content with
          | .ok () => return outcome
          | .error cause => return refuse format cause outcome
      | _ => return outcome

/-- Run with options that were read. -/
def runOptions (options : CommandLine.Options) : IO (Option Outcome) := do
  match Sink.ofOutput? options.output? with
  | .error _ => return Run.ofOptions .missing options .empty
  | .ok sink =>
      let loading := Series.ofOpened options.input (← openPath options.input)
      let store := storeFor (options.output?.getD [])
      (Run.ofLoading .missing options sink loading store).mapM (commit sink)

/-- Tell what a report holds. -/
def tell (report : Report) : IO UInt32 := do
  (← IO.getStdout).putStr report.printed
  for line in report.told do
    (← IO.getStderr).putStrLn line
  return report.exitCode.toUInt32

/-- Run the command on the words that follow its name. -/
def run (arguments : List String) : IO UInt32 := do
  let words := (CommandLine.programName :: arguments).map Text.Utf8.encode
  match CommandLine.Options.ofWords? words with
  | .error stop => tell (Report.ofStop (CommandLine.calledName words) stop .empty)
  | .ok options =>
      match ← runOptions options with
      | some outcome => tell (Report.ofOutcome options.verbose outcome)
      | none => return 101

end Command
end LatencyChart

/-- The command. -/
def main (arguments : List String) : IO UInt32 :=
  LatencyChart.Command.run arguments
