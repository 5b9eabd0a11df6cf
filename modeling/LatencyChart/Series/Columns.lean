import LatencyChart.Series.File

/-!
# Series in two columns

The times and the round-trip times of a series may be kept in two lists that grow one after the
other. Nothing but the way in which columns are made keeps their lengths equal, and whoever
goes through both at once sees no more than the shorter one.
-/

namespace LatencyChart

/-- Times and round-trip times, each in a list of their own. -/
structure Columns where
  times : List Float
  rtts : List Float
  deriving DecidableEq

/-- The columns of a series. -/
def Series.columns (series : Series) : Columns :=
  ⟨series.times, series.rtts⟩

namespace Columns

/-- The columns without entries. -/
def empty : Columns := ⟨[], []⟩

/-- Put a time at the end of the times. -/
def pushTime (columns : Columns) (time : Float) : Columns :=
  { columns with times := columns.times ++ [time] }

/-- Put a round-trip time at the end of the round-trip times. -/
def pushRtt (columns : Columns) (rtt : Float) : Columns :=
  { columns with rtts := columns.rtts ++ [rtt] }

/-- Lengthen one column after the other. -/
def push (columns : Columns) (time rtt : Float) : Columns :=
  (columns.pushTime time).pushRtt rtt

/-- The number of times.  The round-trip times are not counted. -/
def length (columns : Columns) : Nat :=
  columns.times.length

/-- Go through both columns at once, as far as both of them last. -/
def pairs (columns : Columns) : List (Float × Float) :=
  columns.times.zip columns.rtts

/-- The columns of pairs that come one after another. -/
def ofPairs (pairs : List (Float × Float)) : Columns :=
  pairs.foldl (fun columns pair => columns.push pair.1 pair.2) empty

/-- The text of columns, one line per pair. -/
def renderChars (columns : Columns) : List Char :=
  columns.pairs.flatMap fun pair => (Sample.mk pair.1 pair.2).render

/-! ## Reading into columns -/

/-- What reading has gathered up to some line. -/
structure Progress where
  columns : Columns
  blanks : Nat
  /-- Whether a step back in time was told. -/
  warned : Bool
  events : List Event

namespace Progress

/-- Nothing was read. -/
def start : Progress := ⟨empty, 0, false, []⟩

/-- Tell the first step back in time, from the last time to the one on the given line. -/
def watch (progress : Progress) (line : Nat) (time : Float) : Progress :=
  match progress.columns.times.getLast? with
  | some previous =>
      if time < previous ∧ progress.warned = false then
        { progress with
          warned := true
          events := progress.events ++ [.timeGoesBack previous time line] }
      else
        progress
  | none => progress

/-- Take in what the given line holds. -/
def take (progress : Progress) (line : Nat) : Series.Reading → Progress
  | .blank => { progress with blanks := progress.blanks + 1 }
  | .sample sample =>
      let watched := progress.watch line sample.time
      { watched with columns := watched.columns.push sample.time sample.rtt }

/-- Read lines from the given number on.  The first fault ends the reading, and of what was
gathered only the events are left. -/
def readLines : List Series.RawLine → Nat → Progress → Except LoadFault Columns × List Event
  | [], _, progress =>
      (.ok progress.columns,
        progress.events ++ [.parsed progress.columns.length progress.blanks])
  | line :: lines, number, progress =>
      match Series.readLine number line with
      | .error fault => (.error fault, progress.events)
      | .ok reading => readLines lines (number + 1) (progress.take number reading)

end Progress

/-- Read columns from a source. -/
def ofEvents (answers : List ReadEvent) : Except LoadFault Columns × List Event :=
  Progress.readLines (Series.linesOf (Series.Signal.ofEvents answers)) 1 .start

/-- Read columns from a path in a store. -/
def ofPath (path : PathName) (store : Store) : Except LoadFault Columns × List Event :=
  match store.open? path with
  | .ok entry => ofEvents entry.readEvents
  | .error cause => (.error (.access path cause), [])

end Columns

end LatencyChart
