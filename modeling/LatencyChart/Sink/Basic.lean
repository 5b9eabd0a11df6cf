import LatencyChart.Chart.Canvas
import LatencyChart.Sink.Format
import LatencyChart.Viewer

/-!
# Sinks

A sink is where a chart goes: a file, or the viewer when no output is named. A file is
touched only if some sample is finite. It is then written even when the axes cannot be
fitted, with a drawing that is empty.
-/

namespace LatencyChart

/-- Where a chart goes. -/
inductive Sink
  | file (path : PathName) (format : Format)
  | viewer

namespace Sink

/-- The sink of an optional output path. -/
def ofOutput? : Option PathName → Except DrawFault Sink
  | none => .ok .viewer
  | some path => (Format.ofPath? path).map (.file path)

/-- A file on the way: the elements drawn so far and the store that it will be written to. -/
structure Draft where
  /-- The elements drawn so far, the latest first. -/
  drawn : List Element
  store : Store

/-- The elements of a draft in drawing order. -/
def Draft.drawing (draft : Draft) : List Element :=
  draft.drawn.reverse

/-- The canvas that collects a drawing and writes it to a file. -/
def canvas
    (path : PathName)
    (format : Format)
    (size : Size) : Canvas Draft where
  draw element draft := (.ok (), { draft with drawn := element :: draft.drawn })
  present draft :=
    let (outcome, store) := format.save path size draft.drawing draft.store
    (outcome, { draft with store := store })

/-- What rendering leaves behind. -/
structure Rendering where
  result : Except DrawFault Unit
  store : Store
  events : List Event

/-- Write the chart of a series to a file at a size. A draft that was not shown is written
as it is, whether that succeeds or not. -/
def renderAt
    (path : PathName)
    (format : Format)
    (series : Series)
    (style : Style)
    (size : Size)
    (store : Store) : Rendering :=
  match (canvas path format size).drawSeries series style size ⟨[], store⟩ with
  | (.ok (), draft) => ⟨.ok (), draft.store, [.chartWritten path]⟩
  | (.error fault, draft) =>
      ⟨.error fault, (format.save path size draft.drawing draft.store).2, []⟩

/-- Write the chart of a series to a file. There is no answer when some sample is finite and
the figure is too large. -/
def renderFile
    (path : PathName)
    (format : Format)
    (series : Series)
    (style : Style)
    (store : Store) : Option Rendering :=
  if series.finiteSamples.isEmpty then some ⟨.error .emptySeries, store, []⟩
  else (format.size? style).map fun size => renderAt path format series style size store

/-- Render the chart of a series. -/
def render
    (display : Display)
    (sink : Sink)
    (series : Series)
    (style : Style)
    (store : Store) : Option Rendering :=
  match sink with
  | .file path format => renderFile path format series style store
  | .viewer =>
      (Viewer.openWindow display series style).map fun opened =>
        ⟨opened.1, store, opened.2⟩

end Sink
end LatencyChart
