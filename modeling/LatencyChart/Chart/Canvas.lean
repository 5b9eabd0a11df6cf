import LatencyChart.Chart.Basic

/-!
# Canvases

A canvas is anything that elements can be drawn on and that shows its drawing when it is
done. Every operation may fail. A series without a chart is refused before the first
operation.
-/

namespace LatencyChart

/-- The operations of a canvas on its state. A failure has a text, and leaves a state too. -/
structure Canvas (State : Type) where
  draw : Element → State → Except String Unit × State
  present : State → Except String Unit × State

namespace Canvas

/-- Draw elements in order and show the drawing. The first failure ends it. -/
def perform {State : Type}
    (canvas : Canvas State) : List Element → State → Except String Unit × State
  | [], state => canvas.present state
  | element :: rest, state =>
      match canvas.draw element state with
      | (.ok (), next) => perform canvas rest next
      | (.error text, next) => (.error text, next)

/-- The fault of a failed operation. -/
def fault (text : String) : DrawFault :=
  .backend ("backend error: Drawing backend error: " ++ text)

/-- Draw the chart of a series. -/
def drawSeries {State : Type}
    (canvas : Canvas State)
    (series : Series)
    (style : Style)
    (size : Size)
    (state : State) : Except DrawFault Unit × State :=
  match Chart.ofSeries? series with
  | .error cause => (.error cause, state)
  | .ok chart =>
      let (outcome, final) := canvas.perform (chart.elements style size) state
      (outcome.mapError fault, final)

end Canvas
end LatencyChart
