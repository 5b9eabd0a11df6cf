import LatencyChart.Series.Basic
import LatencyChart.Series.Extremes

/-!
# Summary of a series

The summary describes the finite samples of a series, which are the samples a chart shows.
Sums run in file order from negative zero, so that the sum of no change at all keeps no
sign of its own.
-/

namespace LatencyChart

/-- The sum of a list in order, starting from negative zero. -/
def sum (values : List Float) : Float :=
  values.foldl (· + ·) Binary64.negativeZero

/-- The absolute differences between consecutive values. -/
def changes (values : List Float) : List Float :=
  List.zipWith (fun earlier later => (later - earlier).abs) values values.tail

/-- The mean absolute difference between consecutive values, and zero below two values. -/
def jitter (values : List Float) : Float :=
  if values.length < 2 then 0.0
  else sum (changes values) / Float.ofNat (values.length - 1)

/-- Figures about the finite samples of a series, in milliseconds and seconds. -/
structure Summary where
  count : Nat
  min : Float
  max : Float
  mean : Float
  /-- The mean absolute difference between consecutive round-trip times. -/
  jitter : Float
  firstTime : Float
  lastTime : Float

namespace Summary

/-- The summary of a series, or `none` when no sample is finite. -/
def ofSeries? (series : Series) : Option Summary :=
  match series.finiteSamples with
  | [] => none
  | first :: rest =>
      let rtts := (first :: rest).map (·.rtt)
      (extremes? rtts).map fun bounds =>
        { count := rtts.length
          min := bounds.1
          max := bounds.2
          mean := sum rtts / Float.ofNat rtts.length
          jitter := LatencyChart.jitter rtts
          firstTime := first.time
          lastTime := ((first :: rest).getLast (List.cons_ne_nil first rest)).time }

/-- The sentence that states a summary: times in full, round-trip times to three places. -/
def render (summary : Summary) : String :=
  toString summary.count ++ " samples from " ++ Number.text summary.firstTime ++ " s to " ++
    Number.text summary.lastTime ++ " s, RTT min " ++ Number.fixed 3 summary.min ++
    " ms, max " ++ Number.fixed 3 summary.max ++ " ms, avg " ++ Number.fixed 3 summary.mean ++
    " ms, jitter " ++ Number.fixed 3 summary.jitter ++ " ms"

end Summary
end LatencyChart
