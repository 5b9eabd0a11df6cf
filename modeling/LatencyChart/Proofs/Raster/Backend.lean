import LatencyChart.Proofs.Chart.Drawable
import LatencyChart.Raster.Backend
import Mathlib.Algebra.Ring.Nat

/-!
# Pictures of a series

At every size that has a buffer, drawing a series into a picture has an answer: a picture of
exactly that size, the fault that lies in the series, or a fault of the backend.  At any other
size it has none.
-/

namespace LatencyChart

/-- The bytes of a picture of a size, three per pixel. -/
def Size.bytes (size : Size) : Nat :=
  size.width * size.height * 3

theorem Size.hasBuffer_iff {size : Size} : size.HasBuffer ↔ size.bytes < 2 ^ 63 :=
  Iff.rfl

theorem Size.not_hasBuffer_iff {size : Size} : ¬size.HasBuffer ↔ 2 ^ 63 ≤ size.bytes :=
  Nat.not_lt

/-- The backend that paints every element, but shows no picture of more columns than given. -/
def Backend.upTo (columns : Nat) : Backend where
  canvas :=
    { draw := fun element bitmap => (.ok (), bitmap.paint element)
      present := fun bitmap =>
        (if bitmap.size.width ≤ columns then .ok () else .error "too many columns", bitmap) }
  size_draw element bitmap := Bitmap.size_paint bitmap element
  size_present _ := rfl

namespace Bitmap

variable {backend : Backend} {series : Series} {style : Style} {size : Size}

theorem ofSeries?_of_hasBuffer
    (hasBuffer : size.HasBuffer)
    (backend : Backend)
    (series : Series)
    (style : Style) :
    ofSeries? backend series style size =
      some ((backend.canvas.drawSeries series style size (blank size)).1.map fun _ =>
        (backend.canvas.drawSeries series style size (blank size)).2) := by
  rw [ofSeries?, blank?, if_pos hasBuffer]
  rfl

/-- Only a size without a buffer has no answer. -/
theorem ofSeries?_eq_none_iff :
    ofSeries? backend series style size = none ↔ ¬size.HasBuffer := by
  constructor
  · intro noAnswer hasBuffer
    rw [ofSeries?_of_hasBuffer hasBuffer] at noAnswer
    contradiction
  · intro noBuffer
    rw [ofSeries?, blank?, if_neg noBuffer]
    rfl

theorem hasBuffer_of_ofSeries?
    {outcome : Except DrawFault Bitmap}
    (answered : ofSeries? backend series style size = some outcome) :
    size.HasBuffer := by
  refine Decidable.byContradiction fun noBuffer => ?_
  rw [ofSeries?_eq_none_iff.mpr noBuffer] at answered
  contradiction

/-- The picture of a chart has the size that was asked for. -/
theorem size_of_ofSeries?
    {bitmap : Bitmap}
    (drawn : ofSeries? backend series style size = some (.ok bitmap)) :
    bitmap.size = size := by
  rw [ofSeries?_of_hasBuffer (hasBuffer_of_ofSeries? drawn)] at drawn
  have kept : (backend.canvas.drawSeries series style size (blank size)).2.size = size := by
    apply Canvas.drawSeries_keeps fun picture : Bitmap => picture.size = size
    · intro element picture same
      rw [backend.size_draw, same]
    · intro picture same
      rw [backend.size_present, same]
    · rfl
  cases outcome : (backend.canvas.drawSeries series style size (blank size)).1 with
  | error cause =>
      rw [outcome] at drawn
      cases drawn
  | ok _ =>
      rw [outcome] at drawn
      cases drawn
      exact kept

/-- A series without a chart is refused at every size that has a buffer. -/
theorem ofSeries?_of_noChart
    {fault : DrawFault}
    (refused : Chart.ofSeries? series = .error fault)
    (hasBuffer : size.HasBuffer) :
    ofSeries? backend series style size = some (.error fault) := by
  rw [ofSeries?_of_hasBuffer hasBuffer, Canvas.drawSeries_of_noChart _ refused]
  rfl

/-- A series that has a chart is not drawn only when an operation of the backend fails. -/
theorem exists_fault_of_ofSeries?
    {chart : Chart}
    (drawable : Chart.ofSeries? series = .ok chart)
    {cause : DrawFault}
    (failed : ofSeries? backend series style size = some (.error cause)) :
    ∃ text, cause = Canvas.fault text := by
  rw [ofSeries?_of_hasBuffer (hasBuffer_of_ofSeries? failed)] at failed
  cases outcome : (backend.canvas.drawSeries series style size (blank size)).1 with
  | error other =>
      rw [outcome] at failed
      cases failed
      exact Canvas.exists_fault_of_chart drawable outcome
  | ok _ =>
      rw [outcome] at failed
      cases failed

/-! ## Painting -/

/-- The painter draws every series that has a chart, at every size that has a buffer. -/
theorem ofSeries?_of_chart
    {chart : Chart}
    (drawable : Chart.ofSeries? series = .ok chart)
    (hasBuffer : size.HasBuffer) :
    ofSeries? .painter series style size =
      some (.ok (ofDrawing size (chart.elements style size))) := by
  have drawsAll : Backend.painter.canvas.DrawsAll := fun _ _ => rfl
  rw [ofSeries?_of_hasBuffer hasBuffer, Canvas.drawSeries_of_chart drawsAll drawable]
  rfl

theorem ofSeries?_upTo
    {chart : Chart}
    (drawable : Chart.ofSeries? series = .ok chart)
    (hasBuffer : size.HasBuffer)
    (style : Style)
    (columns : Nat) :
    ofSeries? (.upTo columns) series style size =
      some (if size.width ≤ columns then .ok (ofDrawing size (chart.elements style size))
        else .error (Canvas.fault "too many columns")) := by
  have drawsAll : (Backend.upTo columns).canvas.DrawsAll := fun _ _ => rfl
  have drawn_eq : (Backend.upTo columns).canvas.drawn (chart.elements style size) (blank size) =
      ofDrawing size (chart.elements style size) := rfl
  rw [ofSeries?_of_hasBuffer hasBuffer, Canvas.drawSeries_of_chart drawsAll drawable, drawn_eq]
  simp only [Backend.upTo, size_ofDrawing]
  split <;> rfl

end Bitmap
end LatencyChart
