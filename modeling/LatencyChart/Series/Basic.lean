import LatencyChart.Number.Text

/-!
# Samples and series

A sample pairs a time in seconds with the round-trip time measured then, in milliseconds.
A series is a list of samples in file order; its times need not increase, and its numbers
need not be finite.
-/

namespace LatencyChart

/-- A round-trip time in milliseconds, measured at a time in seconds. -/
structure Sample where
  time : Float
  rtt : Float
  deriving DecidableEq

namespace Sample

-- Unlike the derived equality, which tells samples apart by the bits of their numbers.
/-- Numerical equality of both numbers: a NaN differs from itself, and the zeros are
equal. -/
instance : BEq Sample where
  beq left right := left.time == right.time && left.rtt == right.rtt

/-- A sample is finite when both of its numbers are. -/
def isFinite (sample : Sample) : Bool :=
  sample.time.isFinite && sample.rtt.isFinite

/-- The line of text that stands for a sample. -/
def render (sample : Sample) : List Char :=
  Number.shortestText sample.time ++ [' '] ++ Number.shortestText sample.rtt ++ ['\n']

end Sample

/-- Samples in file order. -/
structure Series where
  samples : List Sample
  deriving DecidableEq

namespace Series

/-- Numerical equality of series of equal length. -/
instance : BEq Series where
  beq left right := left.samples == right.samples

/-- The series without samples. -/
def empty : Series := ⟨[]⟩

/-- The series of a list of times with their round-trip times. -/
def ofPairs (pairs : List (Float × Float)) : Series :=
  ⟨pairs.map fun pair => ⟨pair.1, pair.2⟩⟩

/-- The times of a series with their round-trip times. -/
def toPairs (series : Series) : List (Float × Float) :=
  series.samples.map fun sample => (sample.time, sample.rtt)

/-- The times of a series in file order. -/
def times (series : Series) : List Float :=
  series.samples.map (·.time)

/-- The round-trip times of a series in file order. -/
def rtts (series : Series) : List Float :=
  series.samples.map (·.rtt)

/-- The number of samples. -/
def length (series : Series) : Nat :=
  series.samples.length

/-- Whether a series has no samples. -/
def isEmpty (series : Series) : Bool :=
  series.samples.isEmpty

/-- The samples in the opposite order. -/
def reverse (series : Series) : Series :=
  ⟨series.samples.reverse⟩

/-- The finite samples in file order. -/
def finiteSamples (series : Series) : List Sample :=
  series.samples.filter Sample.isFinite

/-- The text of a series, one line per sample. -/
def renderChars (series : Series) : List Char :=
  series.samples.flatMap Sample.render

/-- The text of a series, one line per sample. -/
def render (series : Series) : String :=
  String.ofList series.renderChars

@[simp] theorem toPairs_ofPairs (pairs : List (Float × Float)) :
    (ofPairs pairs).toPairs = pairs := by
  simp [ofPairs, toPairs, Function.comp_def]

@[simp] theorem ofPairs_toPairs (series : Series) :
    ofPairs series.toPairs = series := by
  simp [ofPairs, toPairs, Function.comp_def]

@[simp] theorem length_times (series : Series) :
    series.times.length = series.length := by
  simp [times, length]

@[simp] theorem length_rtts (series : Series) :
    series.rtts.length = series.length := by
  simp [rtts, length]

end Series
end LatencyChart
