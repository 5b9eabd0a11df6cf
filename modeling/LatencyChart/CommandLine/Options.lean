import LatencyChart.CommandLine.Use
import LatencyChart.Storage.PathName

/-!
# Options of a run

The uses of switches on a command line make up the options of a run. No switch may be used
twice, an output must have a name, and the names must be text. An input without a name is
the default one.
-/

namespace LatencyChart
namespace CommandLine

/-- The options of a run. -/
structure Options where
  input : PathName
  /-- The file to write; without one the viewer is opened. -/
  output? : Option PathName
  /-- Whether details are told. -/
  verbose : Bool
  deriving DecidableEq, Repr

namespace Options

/-- The input that is read when none is named. -/
def defaultInput : String := "./rtt.txt"

/-- The number of uses of a switch. -/
def count (switch : Switch) (uses : List Use) : Nat :=
  uses.countP fun use => use.switch == switch

/-- The value given to a switch. -/
def value? (switch : Switch) (uses : List Use) : Option Bytes :=
  uses.findSome? fun use => if use.switch = switch then use.value? else none

/-- The options met in a whole command line, where the input counts always. -/
def met (uses : List Use) : List Switch :=
  Use.met (⟨.input, none⟩ :: uses)

/-- Whether an output is asked for without its name. -/
def lacksOutputName (uses : List Use) : Bool :=
  count .output uses != 0 && value? .output uses == none

/-- Whether the latest use is an output that still waits for its name. -/
def awaitsOutputName (uses : List Use) : Bool :=
  uses.head? == some ⟨.output, none⟩ && lacksOutputName uses

/-- The first fault of the uses, if any. -/
def fault? (uses : List Use) : Option Stop :=
  if awaitsOutputName uses then some (.missingValue .output (met uses))
  else if 1 < count .input uses then some (.repeated .input (met uses))
  else if lacksOutputName uses then some (.missingValue .output (met uses))
  else if 1 < count .output uses then some (.repeated .output (met uses))
  else if 1 < count .verbose uses then some (.repeated .verbose (met uses))
  else if uses.any fun use => use.value?.any fun value => Text.Utf8.decode? value == none then
    some .unreadable
  else none

/-- The options that uses of switches make up. -/
def ofUses? (uses : List Use) : Except Stop Options :=
  match fault? uses with
  | some stop => .error stop
  | none =>
      .ok
        { input := (value? .input uses).getD (Text.Utf8.encode defaultInput)
          output? := value? .output uses
          verbose := count .verbose uses != 0 }

/-- Read the options of a command line, whose first word names the program. -/
def ofWords? (words : List Bytes) : Except Stop Options :=
  (Use.scan words.tail []).bind ofUses?

end Options
end CommandLine
end LatencyChart
