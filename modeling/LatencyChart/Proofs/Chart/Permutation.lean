import LatencyChart.Proofs.Chart.Placement
import LatencyChart.Proofs.Chart.Summary

/-!
# The order of samples

Series with the same samples in another order have the same extremes up to the sign of a zero: of
equal numbers the first is kept, and it may be either zero.  Fitting an axis does not make more of
this difference, so the axes differ in the sign of a zero at most, and every sample keeps its
pixel.  What the order does change are the lines, the first and last time, and the rounding of the
averages.
-/

namespace LatencyChart

/-! ## Permuted lists -/

/-- The least key is the same in every order. -/
theorem IsLeastBy.key_eq_of_perm
    {α β : Type}
    [PartialOrder β]
    {key : α → β}
    {first second : α}
    {elements other : List α}
    (firstLeast : IsLeastBy key first elements)
    (secondLeast : IsLeastBy key second other)
    (permuted : elements.Perm other) :
    key first = key second :=
  le_antisymm (firstLeast.le second (permuted.mem_iff.mpr secondLeast.mem))
    (secondLeast.le first (permuted.mem_iff.mp firstLeast.mem))

namespace Series

variable {series other : Series} (permuted : series.samples.Perm other.samples)

include permuted

theorem perm_finiteSamples : series.finiteSamples.Perm other.finiteSamples :=
  permuted.filter _

theorem perm_finiteTimes : series.finiteTimes.Perm other.finiteTimes :=
  (perm_finiteSamples permuted).map _

theorem perm_finiteRtts : series.finiteRtts.Perm other.finiteRtts :=
  (perm_finiteSamples permuted).map _

end Series

namespace Binary64

/-- Finite numbers that are alike are equal. -/
theorem IsAlike.beq
    {first second : Float}
    (alike : IsAlike first second)
    (finite : first.isFinite = true) :
    (first == second) = true :=
  (beq_iff_value_eq finite (alike.isFinite_eq ▸ finite)).mpr alike.value_eq

end Binary64

namespace Span

open Binary64

/-- The extremes of permuted numbers are alike. -/
theorem extremes_alike_of_perm
    {values other : List Float}
    (finite : ∀ value ∈ values, value.isFinite = true)
    (permuted : values.Perm other)
    {bounds otherBounds : Float × Float}
    (found : extremes? values = some bounds)
    (otherFound : extremes? other = some otherBounds) :
    (bounds.1.isFinite = true ∧ IsAlike bounds.1 otherBounds.1) ∧
      (bounds.2.isFinite = true ∧ IsAlike bounds.2 otherBounds.2) := by
  have otherFinite : ∀ value ∈ other, value.isFinite = true :=
    fun value member => finite value (permuted.mem_iff.mpr member)
  have extremes := areExtremes_of_finite finite found
  have otherExtremes := areExtremes_of_finite otherFinite otherFound
  have minFinite := finite _ extremes.least.mem
  have maxFinite := finite _ extremes.greatest.mem
  exact ⟨⟨minFinite, isAlike_of_value_eq minFinite (otherFinite _ otherExtremes.least.mem)
      (extremes.least.key_eq_of_perm otherExtremes.least permuted)⟩,
    maxFinite, isAlike_of_value_eq maxFinite (otherFinite _ otherExtremes.greatest.mem)
      (extremes.greatest.key_eq_of_perm otherExtremes.greatest permuted)⟩

/-! ## Spans that are alike -/

/-- Spans whose ends differ in the sign of a zero at most. -/
structure IsAlike (span other : Span) : Prop where
  low : Binary64.IsAlike span.low other.low
  high : Binary64.IsAlike span.high other.high

/-- What comes of fitting a span to bounds, and to bounds that are alike. -/
inductive FitsAlike : Except DrawFault Span → Except DrawFault Span → Prop
  | fitted {span other : Span} (alike : span.IsAlike other) : FitsAlike (.ok span) (.ok other)
  | unfit {min min' max max' : Float}
      (sameMin : (min == min') = true)
      (sameMax : (max == max') = true) :
      FitsAlike (.error (.range min max)) (.error (.range min' max'))

section Bounds

variable
  {min min' max max' : Float}
  (minAlike : Binary64.IsAlike min min')
  (maxAlike : Binary64.IsAlike max max')

include minAlike maxAlike

theorem room_alike : Binary64.IsAlike (room min max) (room min' max') := by
  have magnitude := minAlike.abs.div_right 20.0
  have distance := maxAlike.sub minAlike
  unfold room
  rw [distance.beq_eq (.refl 0.0)]
  simp only [(Binary64.IsAlike.refl 1.0).lt_iff magnitude]
  split_ifs
  · exact magnitude
  · exact .refl 1.0
  · exact distance.div_right 20.0

/-- The sign of a zero does not decide whether an axis has room. -/
theorem ofBounds?_alike
    (minFinite : min.isFinite = true)
    (maxFinite : max.isFinite = true) :
    FitsAlike (ofBounds? min max) (ofBounds? min' max') := by
  have room := room_alike minAlike maxAlike
  have low := minAlike.sub room
  have high := maxAlike.add room
  have distance := maxAlike.sub minAlike
  unfold ofBounds?
  simp only [(high.sub low).isFinite_eq, low.lt_iff high, distance.isFinite_eq,
    (Binary64.IsAlike.refl 0.0).lt_iff distance]
  split_ifs
  · exact .fitted ⟨low, high⟩
  · exact .fitted ⟨minAlike, maxAlike⟩
  · exact .unfit (minAlike.beq minFinite) (maxAlike.beq maxFinite)

end Bounds

/-- The spans of permuted numbers are alike. -/
theorem fit?_alike
    {values other : List Float}
    (finite : ∀ value ∈ values, value.isFinite = true)
    (permuted : values.Perm other) :
    FitsAlike (fit? values) (fit? other) := by
  unfold fit?
  cases found : extremes? values with
  | none =>
      cases values with
      | nil =>
          rw [permuted.nil_eq.symm]
          exact ofBounds?_alike (.refl 0.0) (.refl 0.0) isFinite_zero isFinite_zero
      | cons first rest => contradiction
  | some bounds =>
      cases otherFound : extremes? other with
      | none =>
          cases other with
          | nil =>
              rw [permuted.eq_nil] at found
              contradiction
          | cons first rest => contradiction
      | some otherBounds =>
          obtain ⟨⟨minFinite, minAlike⟩, maxFinite, maxAlike⟩ :=
            extremes_alike_of_perm finite permuted found otherFound
          exact ofBounds?_alike minAlike maxAlike minFinite maxFinite

namespace IsAlike

variable
  {span other : Span}
  (alike : span.IsAlike other)
  (proper : span.IsProper)

include alike proper

theorem width_eq : other.high - other.low = span.high - span.low := by
  have widths := alike.high.sub alike.low
  exact eq_of_value_eq (widths.isFinite_eq ▸ proper.widthFinite) proper.widthFinite
    widths.value_eq.symm proper.value_width_pos.ne'

theorem position_alike (number : Float) :
    Binary64.IsAlike (span.position number) (other.position number) := by
  unfold position
  rw [alike.width_eq proper]
  exact ((Binary64.IsAlike.refl number).sub alike.low).div_right _

/-- A number has the same pixel on axes that are alike. -/
theorem toPixel_eq
    {number : Float}
    (holds : span.Holds number)
    (first last : Int) :
    span.toPixel first last number = other.toPixel first last number := by
  have position := alike.position_alike proper number
  have isPortion := proper.isPortion_position holds
  have scaled (length : Int) := position.mul_left (ofInt length)
  have counted (length : Int) := (scaled length).add (.refl 0.001)
  have countedDown (length : Int) := (scaled length).sub (.refl 0.001)
  rw [Span.toPixel_eq span isPortion.isFinite,
    Span.toPixel_eq other (position.isFinite_eq ▸ isPortion.isFinite)]
  split_ifs with alone up
  · rfl
  · have finite := (stepsUp_spec isPortion (sub_pos.mpr up)).1
    have otherFinite := (counted (last - first)).isFinite_eq ▸ finite
    rw [stepsUp, stepsUp, toInt32_floor finite, toInt32_floor otherFinite,
      (counted (last - first)).value_eq]
  · have finite := (stepsDown_spec isPortion (by omega : last - first < 0)).1
    have otherFinite := (countedDown (last - first)).isFinite_eq ▸ finite
    rw [stepsDown, stepsDown, toInt32_ceil finite, toInt32_ceil otherFinite,
      (countedDown (last - first)).value_eq]

end IsAlike

/-- Spans with equal ends. -/
structure HasSameEnds (span other : Span) : Prop where
  low : (span.low == other.low) = true
  high : (span.high == other.high) = true

theorem IsAlike.hasSameEnds
    {span other : Span}
    (alike : span.IsAlike other)
    (proper : span.IsProper) :
    span.HasSameEnds other :=
  ⟨alike.low.beq proper.lowFinite, alike.high.beq proper.highFinite⟩

/-- A span that does not end at zero. -/
structure AvoidsZero (span : Span) : Prop where
  low : (span.low == 0.0) = false
  high : (span.high == 0.0) = false

theorem IsAlike.eq_of_avoidsZero
    {span other : Span}
    (alike : span.IsAlike other)
    (proper : span.IsProper)
    (avoidsZero : span.AvoidsZero) :
    span = other := by
  have same {number other : Float} (alike : Binary64.IsAlike number other)
      (finite : number.isFinite = true) (apart : (number == 0.0) = false) : number = other := by
    rw [← Bool.not_eq_true, beq_iff_value_eq finite isFinite_zero, value_zero] at apart
    exact (eq_of_value_eq (alike.isFinite_eq ▸ finite) finite alike.value_eq.symm apart).symm
  obtain ⟨low, high⟩ := span
  obtain ⟨otherLow, otherHigh⟩ := other
  rw [mk.injEq]
  exact ⟨same alike.low proper.lowFinite avoidsZero.low,
    same alike.high proper.highFinite avoidsZero.high⟩

end Span

/-! ## Charts -/

namespace Chart

/-- Charts with equal axes and the same markers, in one order or another. -/
structure MarksAlike (chart other : Chart) : Prop where
  time : chart.axes.time.HasSameEnds other.axes.time
  rtt : chart.axes.rtt.HasSameEnds other.axes.rtt
  marked : chart.marked.Perm other.marked
  markers : ∀ (style : Style) (size : Size),
    ((chart.elements style size).filter Element.isDisc).Perm
      ((other.elements style size).filter Element.isDisc)
  /-- Axes that do not end at zero are the same, and then only lines are drawn otherwise. -/
  scenery : chart.axes.time.AvoidsZero → chart.axes.rtt.AvoidsZero →
    ∀ (style : Style) (size : Size), chart.scenery style size = other.scenery style size

theorem ofSeries?_of_unfit
    {series : Series}
    (someFinite : series.finiteSamples ≠ [])
    {fault : DrawFault}
    (unfit : Axes.fit? series.finiteSamples = .error fault) :
    ofSeries? series = .error fault := by
  rw [ofSeries?_of_nonempty someFinite, unfit]
  rfl

theorem ofSeries?_of_fitted
    {series : Series}
    (someFinite : series.finiteSamples ≠ [])
    {time rtt : Span}
    (timeFitted : Span.fit? series.finiteTimes = .ok time)
    (rttFitted : Span.fit? series.finiteRtts = .ok rtt) :
    ofSeries? series = .ok ⟨series, ⟨time, rtt⟩⟩ :=
  (ofSeries?_eq_ok_iff series _).mpr
    ⟨someFinite, rfl, (Axes.fit?_eq_ok_iff _ _).mpr ⟨timeFitted, rttFitted⟩⟩

section Alike

variable
  {chart other : Chart}
  (timeShows : chart.axes.time.Shows chart.series.finiteTimes)
  (rttShows : chart.axes.rtt.Shows chart.series.finiteRtts)
  (timeAlike : chart.axes.time.IsAlike other.axes.time)
  (rttAlike : chart.axes.rtt.IsAlike other.axes.rtt)

include timeShows rttShows timeAlike rttAlike

/-- On axes that are alike, a finite sample has the same pixel. -/
theorem pixel_eq_of_isAlike
    (style : Style)
    (size : Size)
    {sample : Sample}
    (member : sample ∈ chart.series.finiteSamples) :
    chart.pixel style size sample = other.pixel style size sample := by
  have finite := sample.isFinite_iff.mp (Series.mem_finiteSamples_iff.mp member).2
  have timeHolds := timeShows.holds finite.1 (List.mem_map_of_mem member)
  have rttHolds := rttShows.holds finite.2 (List.mem_map_of_mem member)
  simp only [pixel, Axes.place, Axes.column, Axes.row,
    timeAlike.toPixel_eq timeShows.proper timeHolds,
    rttAlike.toPixel_eq rttShows.proper rttHolds]

/-- On axes that are alike, permuted samples have the same markers. -/
theorem marksAlike_of_perm
    (permuted : chart.series.finiteSamples.Perm other.series.finiteSamples) :
    chart.MarksAlike other := by
  constructor
  case time => exact timeAlike.hasSameEnds timeShows.proper
  case rtt => exact rttAlike.hasSameEnds rttShows.proper
  case marked => rwa [marked_eq_finiteSamples, marked_eq_finiteSamples]
  case markers =>
    intro style size
    have sameDisc : chart.series.finiteSamples.map (fun sample =>
          Element.disc (chart.pixel style size sample) style.markerRadius style.lineColor) =
        chart.series.finiteSamples.map fun sample =>
          .disc (other.pixel style size sample) style.markerRadius style.lineColor :=
      List.map_congr_left fun sample member => by
        rw [pixel_eq_of_isAlike timeShows rttShows timeAlike rttAlike style size member]
    rw [filter_isDisc_elements, filter_isDisc_elements, marked_eq_finiteSamples,
      marked_eq_finiteSamples, sameDisc]
    exact permuted.map _
  case scenery =>
    intro timeAvoidsZero rttAvoidsZero style size
    have sameTime := timeAlike.eq_of_avoidsZero timeShows.proper timeAvoidsZero
    have sameRtt := rttAlike.eq_of_avoidsZero rttShows.proper rttAvoidsZero
    have sameAxes : chart.axes = other.axes :=
      (Axes.mk.injEq _ _ _ _).mpr ⟨sameTime, sameRtt⟩
    rw [scenery, scenery, sameAxes]

end Alike

end Chart

namespace Series

/-- Series that are both empty to a chart, that both fit on no axis for equal bounds, or that have
charts with equal axes and the same markers. -/
inductive DrawsAlike (series other : Series) : Prop
  | empty
      (isEmpty : Chart.ofSeries? series = .error .emptySeries)
      (otherIsEmpty : Chart.ofSeries? other = .error .emptySeries)
  | range {min min' max max' : Float}
      (unfit : Chart.ofSeries? series = .error (.range min max))
      (otherUnfit : Chart.ofSeries? other = .error (.range min' max'))
      (sameMin : (min == min') = true)
      (sameMax : (max == max') = true)
  | charts {chart otherChart : Chart}
      (drawable : Chart.ofSeries? series = .ok chart)
      (otherDrawable : Chart.ofSeries? other = .ok otherChart)
      (marksAlike : chart.MarksAlike otherChart)

theorem DrawsAlike.finiteSamples_eq_nil_iff
    {series other : Series}
    (drawsAlike : series.DrawsAlike other) :
    series.finiteSamples = [] ↔ other.finiteSamples = [] := by
  rw [← Chart.ofSeries?_eq_emptySeries_iff, ← Chart.ofSeries?_eq_emptySeries_iff]
  cases drawsAlike with
  | empty isEmpty otherIsEmpty => exact iff_of_true isEmpty otherIsEmpty
  | range unfit otherUnfit => simp [unfit, otherUnfit]
  | charts drawable otherDrawable => simp [drawable, otherDrawable]

/-- Series with the same samples in another order are drawn alike. -/
theorem drawsAlike_of_perm
    {series other : Series}
    (permuted : series.samples.Perm other.samples) :
    series.DrawsAlike other := by
  have samples := perm_finiteSamples permuted
  rcases eq_or_ne series.finiteSamples [] with noneFinite | someFinite
  · have otherNoneFinite : other.finiteSamples = [] := (noneFinite ▸ samples).nil_eq.symm
    exact .empty (Chart.ofSeries?_of_empty noneFinite) (Chart.ofSeries?_of_empty otherNoneFinite)
  · have otherSomeFinite : other.finiteSamples ≠ [] :=
      fun otherNoneFinite => someFinite (otherNoneFinite ▸ samples).eq_nil
    have times := Span.fit?_alike (fun _ => isFinite_of_mem_finiteTimes) (perm_finiteTimes permuted)
    have rtts := Span.fit?_alike (fun _ => isFinite_of_mem_finiteRtts) (perm_finiteRtts permuted)
    have refused {series : Series} (nonempty : series.finiteSamples ≠ []) {fault : DrawFault} :=
      fun cause => Chart.ofSeries?_of_unfit nonempty
        ((Axes.fit?_eq_error_iff series.finiteSamples fault).mpr cause)
    generalize timeFit : Span.fit? series.finiteTimes = time at times
    generalize otherTimeFit : Span.fit? other.finiteTimes = otherTime at times
    generalize rttFit : Span.fit? series.finiteRtts = rtt at rtts
    generalize otherRttFit : Span.fit? other.finiteRtts = otherRtt at rtts
    -- The times are fitted first, so the round-trip times matter only where these fit.
    cases times with
    | unfit sameMin sameMax =>
        exact .range (refused someFinite (Or.inl timeFit))
          (refused otherSomeFinite (Or.inl otherTimeFit)) sameMin sameMax
    | @fitted time otherTime timeAlike =>
        cases rtts with
        | unfit sameMin sameMax =>
            exact .range (refused someFinite (Or.inr ⟨time, timeFit, rttFit⟩))
              (refused otherSomeFinite (Or.inr ⟨otherTime, otherTimeFit, otherRttFit⟩))
              sameMin sameMax
        | @fitted rtt otherRtt rttAlike =>
            have drawable := Chart.ofSeries?_of_fitted someFinite timeFit rttFit
            obtain ⟨timeShows, rttShows⟩ := Chart.axes_show_samples drawable
            exact .charts drawable
              (Chart.ofSeries?_of_fitted otherSomeFinite otherTimeFit otherRttFit)
              (Chart.marksAlike_of_perm timeShows rttShows timeAlike rttAlike samples)

end Series

/-! ## Attempts -/

/-- Whether a drawing can be saved does not depend on what is drawn. -/
theorem Format.fst_save_eq
    (format : Format)
    (path : PathName)
    (size : Size)
    (drawing other : List Element)
    (store : Store) :
    (format.save path size drawing store).1 = (format.save path size other store).1 := by
  unfold save
  cases format.sizeFault? size with
  | some text => rfl
  | none =>
      cases place : store.locateNew path with
      | error cause =>
          rw [(store.write_eq_error_iff path (format.content size drawing) cause).mpr place,
            (store.write_eq_error_iff path (format.content size other) cause).mpr place]
      | ok found =>
          have writes (content : Content) : ∃ written, store.write path content = .ok written := by
            cases wrote : store.write path content with
            | ok written => exact ⟨written, rfl⟩
            | error cause =>
                rw [(store.write_eq_error_iff path content cause).mp wrote] at place
                contradiction
          obtain ⟨written, wrote⟩ := writes (format.content size drawing)
          obtain ⟨otherWritten, otherWrote⟩ := writes (format.content size other)
          rw [wrote, otherWrote]

namespace Attempt

/-- What comes of two attempts: equal bounds that fit on no axis, or else the same. -/
inductive AreAlike :
    Option (Except DrawFault Unit) → Option (Except DrawFault Unit) → Prop
  | range {min min' max max' : Float}
      (sameMin : (min == min') = true)
      (sameMax : (max == max') = true) :
      AreAlike (some (.error (.range min max))) (some (.error (.range min' max')))
  | same (outcome : Option (Except DrawFault Unit))
      (notRange : ∀ fault, outcome = some (.error fault) → ¬fault.IsRange) :
      AreAlike outcome outcome

variable {series other : Series}

/-- Whether the numbers of an attempt fit does not depend on which samples are finite. -/
theorem fits_congr
    (attempt : Attempt)
    (emptyAlike : series.finiteSamples = [] ↔ other.finiteSamples = []) :
    attempt.Fits series ↔ attempt.Fits other := by
  cases attempt with
  | file path format style store => rw [Fits, Fits, emptyAlike]
  | picture style size => rfl
  | window opened style => rfl

/-- Whether a chart can be put in its place does not depend on the chart. -/
theorem outcome_eq_of_charts
    (attempt : Attempt)
    {chart otherChart : Chart}
    (drawable : Chart.ofSeries? series = .ok chart)
    (otherDrawable : Chart.ofSeries? other = .ok otherChart)
    (fits : attempt.Fits series) :
    attempt.outcome .painter series = attempt.outcome .painter other := by
  cases attempt with
  | file path format style store =>
      have someFinite := ((Chart.ofSeries?_eq_ok_iff series chart).mp drawable).1
      have otherSomeFinite := ((Chart.ofSeries?_eq_ok_iff other otherChart).mp otherDrawable).1
      have sized := Format.size?_eq_some_iff.mpr ⟨fits.resolve_left someFinite, rfl⟩
      rw [outcome, outcome, Sink.renderFile_of_size? someFinite sized,
        Sink.renderFile_of_size? otherSomeFinite sized, Sink.renderAt_of_chart drawable,
        Sink.renderAt_of_chart otherDrawable]
      dsimp only [Option.map_some]
      rw [format.fst_save_eq path style.exactPixels (chart.elements style style.exactPixels)
        (otherChart.elements style style.exactPixels)]
      cases (format.save path style.exactPixels
        (otherChart.elements style style.exactPixels) store).1 with
      | ok _ => dsimp only
      | error text => dsimp only
  | picture style size =>
      -- The pictures differ, and only their being there is told.
      have told (bitmap : Bitmap) :
          (some (Except.ok bitmap : Except DrawFault Bitmap)).map
            (fun drawn => drawn.map fun _ => ()) = some (.ok ()) := rfl
      rw [outcome, outcome, Bitmap.ofSeries?_of_chart drawable fits,
        Bitmap.ofSeries?_of_chart otherDrawable fits, told, told]
  | window opened style =>
      rw [outcome, outcome, Viewer.openWindow_painter_of_chart drawable fits,
        Viewer.openWindow_painter_of_chart otherDrawable fits]

/-- Series that are drawn alike are drawn alike by every attempt. -/
theorem areAlike_of_drawsAlike
    (attempt : Attempt)
    (drawsAlike : series.DrawsAlike other) :
    AreAlike (attempt.outcome .painter series) (attempt.outcome .painter other) := by
  have emptyAlike := drawsAlike.finiteSamples_eq_nil_iff
  rcases Classical.em (attempt.Fits series) with fits | tooLarge
  · have otherFits := (attempt.fits_congr emptyAlike).mp fits
    cases drawsAlike with
    | empty isEmpty otherIsEmpty =>
        rw [outcome_of_noChart isEmpty fits, outcome_of_noChart otherIsEmpty otherFits]
        refine .same _ ?_
        rintro fault failed ⟨min, max, rfl⟩
        cases failed
    | range unfit otherUnfit sameMin sameMax =>
        rw [outcome_of_noChart unfit fits, outcome_of_noChart otherUnfit otherFits]
        exact .range sameMin sameMax
    | charts drawable otherDrawable marksAlike =>
        rw [← attempt.outcome_eq_of_charts drawable otherDrawable fits]
        refine .same _ ?_
        intro fault failed isRange
        exact not_liesInSeries_of_outcome drawable failed (Or.inr isRange)
  · rw [attempt.outcome_eq_none_iff.mpr tooLarge,
      attempt.outcome_eq_none_iff.mpr (mt (attempt.fits_congr emptyAlike).mpr tooLarge)]
    exact .same _ nofun

end Attempt

/-! ## Summaries -/

namespace Summary

/-- No summaries, or summaries with the same count and equal extremes. -/
inductive AreAlike : Option Summary → Option Summary → Prop
  | none : AreAlike none none
  | some {summary other : Summary}
      (count_eq : summary.count = other.count)
      (sameMin : (summary.min == other.min) = true)
      (sameMax : (summary.max == other.max) = true) :
      AreAlike (some summary) (some other)

theorem areAlike_of_perm
    {series other : Series}
    (permuted : series.samples.Perm other.samples) :
    AreAlike (ofSeries? series) (ofSeries? other) := by
  have samples := Series.perm_finiteSamples permuted
  have none_iff : ofSeries? series = none ↔ ofSeries? other = none := by
    rw [ofSeries?_eq_none_iff, ofSeries?_eq_none_iff, ← List.length_eq_zero_iff, samples.length_eq,
      List.length_eq_zero_iff]
  cases summarised : ofSeries? series with
  | none =>
      rw [none_iff.mp summarised]
      exact .none
  | some summary =>
      cases otherSummarised : ofSeries? other with
      | none =>
          rw [none_iff.mpr otherSummarised] at summarised
          contradiction
      | some otherSummary =>
          have speaks := speaksOf_of_ofSeries? summarised
          have otherSpeaks := speaksOf_of_ofSeries? otherSummarised
          obtain ⟨⟨minFinite, minAlike⟩, maxFinite, maxAlike⟩ :=
            Span.extremes_alike_of_perm (fun _ => Series.isFinite_of_mem_finiteRtts)
              (Series.perm_finiteRtts permuted) speaks.extremes otherSpeaks.extremes
          refine .some ?_ (minAlike.beq minFinite) (maxAlike.beq maxFinite)
          rw [speaks.count, otherSpeaks.count, samples.length_eq]

end Summary

/-- In every order of its samples a series is empty to a chart, or it fits on no axis for equal
bounds, or its chart has equal axes and the same markers.  Every attempt to draw it ends alike, and
its summary has the same count and equal extremes. -/
theorem Series.drawn_alike_in_any_order
    {series other : Series}
    (permuted : series.samples.Perm other.samples) :
    series.DrawsAlike other ∧
      (∀ attempt : Attempt,
        Attempt.AreAlike (attempt.outcome .painter series) (attempt.outcome .painter other)) ∧
      Summary.AreAlike (Summary.ofSeries? series) (Summary.ofSeries? other) :=
  ⟨drawsAlike_of_perm permuted,
    fun attempt => attempt.areAlike_of_drawsAlike (drawsAlike_of_perm permuted),
    Summary.areAlike_of_perm permuted⟩

/-- A series with both zeros among its extremes, and with samples that are not finite. -/
def zerosSeries : Series :=
  Series.ofPairs [(0.0, 0.0), (0.0 / 0.0, 1.0), (-0.0, -0.0), (1.0, 1.0 / 0.0), (5e-324, -0.0)]

theorem drawn_alike_zerosSeries :
    zerosSeries.samples.Perm zerosSeries.samples.reverse ∧
      zerosSeries.DrawsAlike ⟨zerosSeries.samples.reverse⟩ ∧
      (∀ attempt : Attempt, Attempt.AreAlike (attempt.outcome .painter zerosSeries)
        (attempt.outcome .painter ⟨zerosSeries.samples.reverse⟩)) ∧
      Summary.AreAlike (Summary.ofSeries? zerosSeries)
        (Summary.ofSeries? ⟨zerosSeries.samples.reverse⟩) := by
  have permuted : zerosSeries.samples.Perm zerosSeries.samples.reverse :=
    (List.reverse_perm zerosSeries.samples).symm
  obtain ⟨drawn, attempted, summarised⟩ :=
    @Series.drawn_alike_in_any_order zerosSeries ⟨zerosSeries.samples.reverse⟩ permuted
  exact ⟨permuted, drawn, attempted, summarised⟩

end LatencyChart
