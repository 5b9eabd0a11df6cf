import LatencyChart.Proofs.Chart.Drawable
import LatencyChart.Proofs.Storage.Write
import LatencyChart.Sink.Basic

/-!
# Writing a chart to a file

A series without a chart is refused with its own fault, whatever the path.  Any other series
is drawn as a whole first, and then only the file can be refused.
-/

namespace LatencyChart

namespace Format

/-- A drawing is saved when its size has an encoding and a file can be created. -/
theorem save_eq_ok_iff
    (format : Format)
    (path : PathName)
    (size : Size)
    (drawing : List Element)
    (store written : Store) :
    format.save path size drawing store = (.ok (), written) ↔
      format.sizeFault? size = none ∧
        store.write path (format.content size drawing) = .ok written := by
  unfold save
  cases format.sizeFault? size with
  | none =>
      cases store.write path (format.content size drawing) <;> simp
  | some text =>
      cases store.write path (.bytes []) <;> simp

/-- Where no file can be created, nothing is saved. -/
theorem save_of_locateNew_error
    (format : Format)
    {path : PathName}
    {store : Store}
    {cause : IoFault}
    (noPlace : store.locateNew path = .error cause)
    (size : Size)
    (drawing : List Element) :
    format.save path size drawing store = (.error (format.createFault cause), store) := by
  have refused (content : Content) : store.write path content = .error cause :=
    (store.write_eq_error_iff path content cause).mpr noPlace
  unfold save
  rw [refused, refused]
  cases format.sizeFault? size <;> rfl

/-- Whatever comes of it, saving changes nothing but the file. -/
theorem changesOnly_save
    (format : Format)
    (path : PathName)
    (size : Size)
    (drawing : List Element)
    (store : Store) :
    store.ChangesOnly path (format.save path size drawing store).2 := by
  unfold save
  cases format.sizeFault? size with
  | none =>
      cases wrote : store.write path (format.content size drawing) with
      | ok written => exact Store.changesOnly_of_write wrote
      | error cause => exact Store.ChangesOnly.refl store path
  | some text =>
      cases wrote : store.write path (.bytes []) with
      | ok written => exact Store.changesOnly_of_write wrote
      | error cause => exact Store.ChangesOnly.refl store path

end Format

namespace Sink

theorem canvas_drawsAll
    (path : PathName)
    (format : Format)
    (size : Size) :
    (canvas path format size).DrawsAll :=
  fun _ _ => rfl

/-- A draft collects the elements drawn on it, and leaves the store alone. -/
theorem drawn_canvas
    (path : PathName)
    (format : Format)
    (size : Size)
    (elements : List Element)
    (draft : Draft) :
    (canvas path format size).drawn elements draft =
      ⟨elements.reverse ++ draft.drawn, draft.store⟩ := by
  induction elements generalizing draft with
  | nil => rfl
  | cons element elements inductionHypothesis =>
      have later := inductionHypothesis { draft with drawn := element :: draft.drawn }
      rw [List.reverse_cons, List.append_assoc]
      exact later

/-- Showing a draft saves the elements drawn on it. -/
theorem present_drawn
    (path : PathName)
    (format : Format)
    (size : Size)
    (elements : List Element)
    (store : Store) :
    (canvas path format size).present
        ((canvas path format size).drawn elements ⟨[], store⟩) =
      ((format.save path size elements store).1,
        ⟨elements.reverse, (format.save path size elements store).2⟩) := by
  rw [drawn_canvas, List.append_nil]
  simp only [canvas, Draft.drawing, List.reverse_reverse]

/-! ## At a size -/

section Size

variable
  {series : Series}
  {chart : Chart}
  {path : PathName}
  {format : Format}
  {style : Style}
  {size : Size}
  {store : Store}

/-- A series without a chart is refused with its own fault, and the empty drawing is saved. -/
theorem renderAt_of_noChart
    {fault : DrawFault}
    (refused : Chart.ofSeries? series = .error fault) :
    renderAt path format series style size store =
      ⟨.error fault, (format.save path size [] store).2, []⟩ := by
  unfold renderAt
  rw [Canvas.drawSeries_of_noChart _ refused]
  rfl

/-- A chart is saved as a whole. -/
theorem renderAt_of_chart (drawable : Chart.ofSeries? series = .ok chart) :
    renderAt path format series style size store =
      let saved := format.save path size (chart.elements style size) store
      match saved.1 with
      | .ok () => ⟨.ok (), saved.2, [.chartWritten path]⟩
      | .error text =>
          ⟨.error (Canvas.fault text),
            (format.save path size (chart.elements style size) saved.2).2, []⟩ := by
  unfold renderAt
  rw [Canvas.drawSeries_of_chart (canvas_drawsAll path format size) drawable, present_drawn]
  dsimp only
  cases (format.save path size (chart.elements style size) store).1 with
  | ok _ => rfl
  | error text => simp only [mapError_error, Draft.drawing, List.reverse_reverse]

theorem renderAt_of_saved
    (drawable : Chart.ofSeries? series = .ok chart)
    {written : Store}
    (saved : format.save path size (chart.elements style size) store = (.ok (), written)) :
    renderAt path format series style size store = ⟨.ok (), written, [.chartWritten path]⟩ := by
  rw [renderAt_of_chart drawable]
  dsimp only
  rw [saved]

/-- Where no file can be created, a chart leaves the store alone. -/
theorem renderAt_of_locateNew_error
    (drawable : Chart.ofSeries? series = .ok chart)
    {cause : IoFault}
    (noPlace : store.locateNew path = .error cause) :
    renderAt path format series style size store =
      ⟨.error (Canvas.fault (format.createFault cause)), store, []⟩ := by
  rw [renderAt_of_chart drawable]
  dsimp only
  rw [format.save_of_locateNew_error noPlace]
  dsimp only
  rw [format.save_of_locateNew_error noPlace]

/-- A file was rendered only by saving the whole drawing of a chart. -/
theorem exists_saved_of_renderAt
    (rendered : (renderAt path format series style size store).result = .ok ()) :
    ∃ chart written, Chart.ofSeries? series = .ok chart ∧
      format.save path size (chart.elements style size) store = (.ok (), written) := by
  cases drawable : Chart.ofSeries? series with
  | error fault =>
      rw [renderAt_of_noChart drawable] at rendered
      contradiction
  | ok chart =>
      rw [renderAt_of_chart drawable] at rendered
      dsimp only at rendered
      split at rendered
      · next saved => exact ⟨chart, _, rfl, Prod.ext saved rfl⟩
      · contradiction

/-- A file is rendered when its series has a chart, the size has an encoding, and a file can
be created. -/
theorem result_renderAt_eq_ok_iff :
    (renderAt path format series style size store).result = .ok () ↔
      (∃ chart, Chart.ofSeries? series = .ok chart) ∧
        format.sizeFault? size = none ∧ ∃ place, store.locateNew path = .ok place := by
  constructor
  · intro rendered
    obtain ⟨chart, written, drawable, saved⟩ := exists_saved_of_renderAt rendered
    obtain ⟨encodable, wrote⟩ := (Format.save_eq_ok_iff ..).mp saved
    obtain ⟨place, found, -⟩ := (Store.write_eq_ok_iff ..).mp wrote
    exact ⟨⟨chart, drawable⟩, encodable, place, found⟩
  · rintro ⟨⟨chart, drawable⟩, encodable, place, found⟩
    have wrote := (Store.write_eq_ok_iff store _ path
      (format.content size (chart.elements style size))).mpr ⟨place, found, rfl⟩
    rw [renderAt_of_saved drawable ((Format.save_eq_ok_iff ..).mpr ⟨encodable, wrote⟩)]

/-- A file that was rendered holds the whole drawing of its chart. -/
theorem open?_of_renderAt
    (rendered : (renderAt path format series style size store).result = .ok ()) :
    ∃ chart, Chart.ofSeries? series = .ok chart ∧
      (renderAt path format series style size store).store.open? path =
        .ok (.file (format.content size (chart.elements style size))) := by
  obtain ⟨chart, written, drawable, saved⟩ := exists_saved_of_renderAt rendered
  refine ⟨chart, drawable, ?_⟩
  rw [renderAt_of_saved drawable saved]
  exact Store.open?_of_write ((Format.save_eq_ok_iff ..).mp saved).2

end Size

end Sink

/-! ## At the size of a style -/

namespace Format

variable {format : Format} {style : Style} {size : Size}

theorem size?_eq_some_iff :
    format.size? style = some size ↔
      (style.exactPixels.IsShort ∧ format.HasRoom style.exactPixels) ∧
        size = style.exactPixels := by
  simp only [size?, Option.filter_eq_some_iff, Style.pixels?_eq_some_iff, decide_eq_true_eq]
  constructor
  · rintro ⟨⟨short, rfl⟩, hasRoom⟩
    exact ⟨⟨short, hasRoom⟩, rfl⟩
  · rintro ⟨⟨short, hasRoom⟩, rfl⟩
    exact ⟨⟨short, rfl⟩, hasRoom⟩

theorem size?_eq_none_iff :
    format.size? style = none ↔
      ¬(style.exactPixels.IsShort ∧ format.HasRoom style.exactPixels) := by
  rw [Option.eq_none_iff_forall_ne_some]
  constructor
  · intro noSize fits
    exact noSize style.exactPixels (size?_eq_some_iff.mpr ⟨fits, rfl⟩)
  · intro tooLarge size sized
    exact tooLarge (size?_eq_some_iff.mp sized).1

end Format

namespace Sink

section Style

variable
  {series : Series}
  {path : PathName}
  {format : Format}
  {style : Style}
  {size : Size}
  {store : Store}

/-- Nothing is touched when no sample is finite. -/
theorem renderFile_of_empty (noneFinite : series.finiteSamples = []) :
    renderFile path format series style store = some ⟨.error .emptySeries, store, []⟩ := by
  rw [renderFile, noneFinite]
  rfl

theorem renderFile_of_size?
    (someFinite : series.finiteSamples ≠ [])
    (sized : format.size? style = some size) :
    renderFile path format series style store =
      some (renderAt path format series style size store) := by
  rw [renderFile, if_neg (by simpa using someFinite), sized]
  rfl

/-- There is no answer only for finite samples in a figure that is too large. -/
theorem renderFile_eq_none_iff :
    renderFile path format series style store = none ↔
      series.finiteSamples ≠ [] ∧ format.size? style = none := by
  rcases Decidable.em (series.finiteSamples = []) with noneFinite | someFinite
  · simp [renderFile_of_empty noneFinite, noneFinite]
  · cases sized : format.size? style with
    | none => simp [renderFile, someFinite, sized]
    | some size => simp [renderFile_of_size? someFinite sized]

/-- Every answer is the refusal of an empty series, or the rendering at the size of the style. -/
theorem renderFile_eq_some_iff {rendering : Rendering} :
    renderFile path format series style store = some rendering ↔
      (series.finiteSamples = [] ∧ rendering = ⟨.error .emptySeries, store, []⟩) ∨
        (series.finiteSamples ≠ [] ∧ ∃ size, format.size? style = some size ∧
          rendering = renderAt path format series style size store) := by
  rcases Decidable.em (series.finiteSamples = []) with noneFinite | someFinite
  · simp [renderFile_of_empty noneFinite, noneFinite, eq_comm]
  · cases sized : format.size? style with
    | none => simp [renderFile, someFinite, sized]
    | some size => simp [renderFile_of_size? someFinite sized, someFinite, eq_comm]

end Style

end Sink
end LatencyChart
