import LatencyChart.Proofs.Sink.Agreement

/-!
# What a refused chart does to its file

A series without finite samples is refused before its file is touched.  A series whose samples
fit on no axis is refused only when the drawing has begun, and then the empty drawing takes the
place of what the file held.
-/

namespace LatencyChart

/-! ## Stores that agree -/

namespace Store

/-- A store that holds at every place what another one holds. -/
structure Agrees (before after : Store) : Prop where
  working : after.working = before.working
  entries : ∀ place, after.entry? place = before.entry? place

theorem Agrees.refl (store : Store) : store.Agrees store :=
  ⟨rfl, fun _ => rfl⟩

/-- Putting a file where it stands already changes nothing. -/
theorem agrees_put_iff
    {store : Store}
    {place : Place}
    (notRoot : place ≠ [])
    (entry : Entry) :
    store.Agrees (store.put place entry) ↔ store.entry? place = some entry := by
  constructor
  · intro agrees
    rw [← agrees.entries place]
    exact entry?_put_self store notRoot entry
  · intro stands
    refine ⟨rfl, ?_⟩
    intro other
    rcases Decidable.em (other = place) with rfl | different
    · rw [stands]
      exact entry?_put_self store notRoot entry
    · exact entry?_put_of_ne store different entry

end Store

/-! ## Saving -/

namespace Format

/-- What a file holds after a drawing was saved to it. -/
def saved (format : Format) (size : Size) (drawing : List Element) : Content :=
  match format.sizeFault? size with
  | none => format.content size drawing
  | some _ => .bytes []

theorem save_of_locateNew_ok
    (format : Format)
    {path : PathName}
    {store : Store}
    {place : Place}
    (found : store.locateNew path = .ok place)
    (size : Size)
    (drawing : List Element) :
    (format.save path size drawing store).2 =
      store.put place (.file (format.saved size drawing)) := by
  have written (content : Content) :
      store.write path content = .ok (store.put place (.file content)) :=
    (store.write_eq_ok_iff _ path content).mpr ⟨place, found, rfl⟩
  unfold save saved
  cases format.sizeFault? size with
  | none => simp only [written]
  | some text => simp only [written]

/-- Saving leaves the files as they were when no file can be created, or when the file holds
already what is saved. -/
theorem agrees_save_iff
    (format : Format)
    (path : PathName)
    (size : Size)
    (drawing : List Element)
    (store : Store) :
    store.Agrees (format.save path size drawing store).2 ↔
      (∃ cause, store.locateNew path = .error cause) ∨
        store.open? path = .ok (.file (format.saved size drawing)) := by
  cases found : store.locateNew path with
  | error cause =>
      rw [format.save_of_locateNew_error found]
      exact iff_of_true (Store.Agrees.refl store) (Or.inl ⟨cause, rfl⟩)
  | ok place =>
      have isNew := Store.isNewPlace_of_locateNew found
      rw [format.save_of_locateNew_ok found, Store.agrees_put_iff isNew.ne_root,
        Store.open?_eq_ok_iff]
      constructor
      · intro stands
        exact Or.inr ⟨place, isNew.locate, stands⟩
      · rintro (⟨cause, noPlace⟩ | ⟨other, located, stands⟩)
        · contradiction
        · rw [isNew.locate] at located
          cases located
          exact stands

end Format

/-! ## Refused charts -/

namespace Sink

/-- A rendering that refuses the series leaves the store alone when nothing is finite, and else
saves the empty drawing. -/
theorem eq_of_renderFile_error
    {path : PathName}
    {format : Format}
    {series : Series}
    {style : Style}
    {store : Store}
    {rendering : Rendering}
    (rendered : renderFile path format series style store = some rendering)
    {fault : DrawFault}
    (inSeries : fault.LiesInSeries)
    (refused : rendering.result = .error fault) :
    (fault = .emptySeries ∧ rendering.store = store) ∨
      (fault.IsRange ∧ style.pixels? = some style.exactPixels ∧
        rendering.store = (format.save path style.exactPixels [] store).2) := by
  rcases renderFile_eq_some_iff.mp rendered with ⟨-, rfl⟩ | ⟨someFinite, size, sized, rfl⟩
  · exact Or.inl ⟨(Except.error.inj refused).symm, rfl⟩
  · obtain ⟨⟨short, -⟩, rfl⟩ := Format.size?_eq_some_iff.mp sized
    have failed : (Attempt.file path format style store).outcome .painter series =
        some (.error fault) := by
      rw [Attempt.outcome, rendered, ← refused]
      rfl
    cases drawable : Chart.ofSeries? series with
    | ok chart => exact absurd inSeries (Attempt.not_liesInSeries_of_outcome drawable failed)
    | error cause =>
        rw [renderAt_of_noChart drawable] at refused ⊢
        cases refused
        have notEmpty : fault ≠ .emptySeries := by
          rintro rfl
          exact someFinite ((Chart.ofSeries?_eq_emptySeries_iff series).mp drawable)
        exact Or.inr ⟨inSeries.resolve_left notEmpty, Style.pixels?_eq_some_iff.mpr ⟨short, rfl⟩,
          rfl⟩

/-- A chart that is refused for what lies in its series leaves the files as they were when
nothing is finite, when no file can be created, or when the file holds the empty drawing
already.  In every other case that drawing takes the place of what the file held. -/
theorem renderFile_keeps_files_iff
    {path : PathName}
    {format : Format}
    {series : Series}
    {style : Style}
    {store : Store}
    {rendering : Rendering}
    (rendered : renderFile path format series style store = some rendering)
    {fault : DrawFault}
    (inSeries : fault.LiesInSeries)
    (refused : rendering.result = .error fault) :
    (store.Agrees rendering.store ↔
      fault = .emptySeries ∨ (∃ cause, store.locateNew path = .error cause) ∨
        store.open? path = .ok (.file (format.saved style.exactPixels []))) ∧
    (fault = .emptySeries → rendering.store = store) ∧
    (fault ≠ .emptySeries → style.pixels? = some style.exactPixels ∧
      ∀ place, store.locateNew path = .ok place →
        rendering.store = store.put place (.file (format.saved style.exactPixels []))) := by
  rcases eq_of_renderFile_error rendered inSeries refused with
    ⟨rfl, kept⟩ | ⟨⟨min, max, rfl⟩, sized, saved⟩
  · rw [kept]
    exact ⟨iff_of_true (Store.Agrees.refl store) (Or.inl rfl), fun _ => rfl,
      fun other => absurd rfl other⟩
  · have otherFault : DrawFault.range min max ≠ .emptySeries := DrawFault.noConfusion
    rw [saved, or_iff_right otherFault]
    exact ⟨format.agrees_save_iff path style.exactPixels [] store,
      fun same => absurd same otherFault,
      fun _ => ⟨sized, fun _ found => format.save_of_locateNew_ok found style.exactPixels []⟩⟩

/-! ## A file that is lost -/

/-- Two samples whose round-trip times are too far apart for an axis. -/
def farApart : Series :=
  Series.ofPairs [(0.0, 1e308), (1.0, -1e308)]

/-- The path of a file in the working directory. -/
def chartPath : PathName :=
  Text.Utf8.encode "a.svg"

/-- The place that the path leads to. -/
def chartPlace : Place :=
  Store.empty.working ++ [chartPath]

/-- A store that holds a file at the path. -/
def storeWithFile : Store :=
  Store.empty.put chartPlace (.file (.bytes (Text.Utf8.encode "old content")))

/-- Their file is begun before their round-trip times are found to be too far apart. -/
theorem renderFile_farApart_eq :
    ∃ min max, (DrawFault.range min max).LiesInSeries ∧
      renderFile chartPath .svg farApart {} storeWithFile =
        some ⟨.error (.range min max),
          (Format.svg.save chartPath ({} : Style).exactPixels [] storeWithFile).2, []⟩ := by
  have someFinite : farApart.finiteSamples ≠ [] := by
    have notEmpty : farApart.finiteSamples.isEmpty = false := by decide +kernel
    simpa using notEmpty
  have sized : Format.svg.size? {} = some ({} : Style).exactPixels := rfl
  cases outcome : Chart.ofSeries? farApart with
  | ok chart =>
      have refused : (Chart.ofSeries? farApart).toBool = false := by decide +kernel
      rw [outcome] at refused
      exact absurd refused.symm Bool.false_ne_true
  | error fault =>
      have noChart := (Chart.ofSeries?_eq_error_iff farApart fault).mp outcome
      rcases noChart.liesInSeries with rfl | ⟨min, max, rfl⟩
      · exact absurd ((Chart.ofSeries?_eq_emptySeries_iff farApart).mp outcome) someFinite
      · refine ⟨min, max, noChart.liesInSeries, ?_⟩
        rw [renderFile_of_size? someFinite sized, renderAt_of_noChart outcome]

theorem locateNew_storeWithFile :
    storeWithFile.locateNew chartPath = .ok chartPlace := by
  rfl

/-- Saving the empty drawing changes what the file holds. -/
theorem not_agrees_save_storeWithFile :
    ¬storeWithFile.Agrees
      (Format.svg.save chartPath ({} : Style).exactPixels [] storeWithFile).2 := by
  have held :
      storeWithFile.open? chartPath =
        .ok (.file (.bytes (Text.Utf8.encode "old content"))) := by
    rfl
  rw [Format.agrees_save_iff, held, locateNew_storeWithFile]
  rintro (⟨cause, noPlace⟩ | already)
  · contradiction
  · have sameBytes := Content.bytes.inj (Entry.file.inj (Except.ok.inj already))
    exact absurd sameBytes (by decide +kernel)

theorem renderFile_farApart :
    ∃ min max rendering, (DrawFault.range min max).LiesInSeries ∧
      renderFile chartPath .svg farApart {} storeWithFile = some rendering ∧
      rendering.result = .error (.range min max) ∧
      rendering.store =
        storeWithFile.put chartPlace (.file (Format.svg.saved ({} : Style).exactPixels [])) := by
  obtain ⟨min, max, inSeries, rendered⟩ := renderFile_farApart_eq
  obtain ⟨-, -, overwritten⟩ := renderFile_keeps_files_iff rendered inSeries rfl
  exact ⟨min, max, _, inSeries, rendered, rfl,
    (overwritten DrawFault.noConfusion).2 chartPlace locateNew_storeWithFile⟩

/-- Samples too far apart for an axis cost the file what it held. -/
theorem renderFile_farApart_loses_file :
    ∃ min max rendering, renderFile chartPath .svg farApart {} storeWithFile = some rendering ∧
      rendering.result = .error (.range min max) ∧
      ¬storeWithFile.Agrees rendering.store := by
  obtain ⟨min, max, -, rendered⟩ := renderFile_farApart_eq
  exact ⟨min, max, _, rendered, rfl, not_agrees_save_storeWithFile⟩

end Sink
end LatencyChart
