import LatencyChart.CommandLine.Message
import LatencyChart.Series.File
import LatencyChart.Sink.Basic

/-!
# Runs

A run checks the name of its output, loads its input, summarises it and renders the chart.
The first failure ends it. A report adds to that what the command line itself leads to,
and the lines that are told on the way.
-/

namespace LatencyChart

/-- What a run leaves behind. -/
structure Outcome where
  result : Except Failure Unit
  store : Store
  events : List Event

namespace Run

/-- The event that starts a run. -/
def started (options : CommandLine.Options) : Event :=
  .started options.input options.output?

/-- The event that describes a loaded series. -/
def described (input : PathName) (series : Series) : Event :=
  match Summary.ofSeries? series with
  | some summary => .summarised summary
  | none => .nothingFinite input

/-- The part of a run after a series was loaded. -/
def render
    (display : Display)
    (options : CommandLine.Options)
    (sink : Sink)
    (series : Series)
    (store : Store) : Option Outcome :=
  (sink.render display series {} store).map fun rendering =>
    ⟨rendering.result.mapError .draw, rendering.store,
      described options.input series :: rendering.events⟩

/-- The part of a run after its input was read. -/
def ofLoading
    (display : Display)
    (options : CommandLine.Options)
    (sink : Sink)
    (loading : Series.Loading)
    (store : Store) : Option Outcome :=
  let outcome? : Option Outcome :=
    match loading.result with
    | .error fault => some ⟨.error (.load fault), store, []⟩
    | .ok series => render display options sink series store
  outcome?.map fun outcome =>
    { outcome with events := started options :: loading.events ++ outcome.events }

/-- A whole run. -/
def ofOptions
    (display : Display)
    (options : CommandLine.Options)
    (store : Store) : Option Outcome :=
  match Sink.ofOutput? options.output? with
  | .error fault => some ⟨.error (.draw fault), store, []⟩
  | .ok sink => ofLoading display options sink (Series.ofPath options.input store) store

end Run

namespace Outcome

/-- The events of a run, where a failure is the last one. -/
def allEvents (outcome : Outcome) : List Event :=
  outcome.events ++
    match outcome.result with
    | .error failure => [.failed failure]
    | .ok () => []

/-- The exit code of a run. -/
def exitCode (outcome : Outcome) : Nat :=
  match outcome.result with
  | .error _ => 1
  | .ok () => 0

end Outcome

/-- What a command leads to. -/
structure Report where
  exitCode : Nat
  /-- The text that answers the command. -/
  printed : String
  /-- The lines told besides. -/
  told : List String
  store : Store

namespace Report

/-- The report on a command line that no run follows from. -/
def ofStop
    (called : String)
    (stop : CommandLine.Stop)
    (store : Store) : Report :=
  let text := stop.text called
  match stop with
  | .unreadable => ⟨101, "", [text], store⟩
  | _ =>
      if stop.isFault then ⟨1, "", text.splitOn "\n", store⟩
      else ⟨0, text ++ "\n", [], store⟩

/-- The report on a run. -/
def ofOutcome (verbose : Bool) (outcome : Outcome) : Report :=
  ⟨outcome.exitCode, "",
    (outcome.allEvents.filter (Event.isTold verbose)).flatMap fun event =>
      event.render.splitOn "\n",
    outcome.store⟩

/-- The report on a command line, whose first word names the program. There is none when a
size outgrows the machine. -/
def ofWords
    (display : Display)
    (words : List Bytes)
    (store : Store) : Option Report :=
  match CommandLine.Options.ofWords? words with
  | .error stop => some (ofStop (CommandLine.calledName words) stop store)
  | .ok options => (Run.ofOptions display options store).map (ofOutcome options.verbose)

end Report
end LatencyChart
