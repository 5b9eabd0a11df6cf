import LatencyChart.Proofs.Chart.Span
import LatencyChart.Proofs.Chart.Summary
import LatencyChart.Proofs.Number.Sum

/-!
# The figures of a summary

A summary counts the finite samples of a series, its extremes are round-trip times of such samples,
and its times are the first and the last of theirs.  Its mean is not NaN, and its jitter is not NaN
and has no sign, also where sums or differences overflow.  The length of a series is a count of at
most 64 bits, so that there is a number for it.
-/

namespace LatencyChart

theorem Sample.isFinite_iff (sample : Sample) :
    sample.isFinite = true ↔ sample.time.isFinite = true ∧ sample.rtt.isFinite = true :=
  Bool.and_eq_true_iff

namespace Series

variable (series : Series)

/-- The times of the finite samples. -/
def finiteTimes : List Float :=
  series.finiteSamples.map (·.time)

/-- The round-trip times of the finite samples. -/
def finiteRtts : List Float :=
  series.finiteSamples.map (·.rtt)

theorem length_finiteTimes : series.finiteTimes.length = series.finiteSamples.length :=
  List.length_map _

theorem length_finiteRtts : series.finiteRtts.length = series.finiteSamples.length :=
  List.length_map _

variable {series}

theorem mem_finiteSamples_iff {sample : Sample} :
    sample ∈ series.finiteSamples ↔ sample ∈ series.samples ∧ sample.isFinite = true :=
  List.mem_filter

theorem mem_finiteRtts_iff {rtt : Float} :
    rtt ∈ series.finiteRtts ↔
      ∃ sample ∈ series.samples, sample.isFinite = true ∧ sample.rtt = rtt := by
  unfold finiteRtts
  simp only [List.mem_map, mem_finiteSamples_iff, and_assoc]

theorem isFinite_of_mem_finiteRtts
    {rtt : Float}
    (member : rtt ∈ series.finiteRtts) :
    rtt.isFinite = true := by
  obtain ⟨sample, -, finite, rfl⟩ := mem_finiteRtts_iff.mp member
  exact (sample.isFinite_iff.mp finite).2

theorem isFinite_of_mem_finiteTimes
    {time : Float}
    (member : time ∈ series.finiteTimes) :
    time.isFinite = true := by
  obtain ⟨sample, finiteMember, rfl⟩ := List.mem_map.mp member
  exact (sample.isFinite_iff.mp (mem_finiteSamples_iff.mp finiteMember).2).1

end Series

namespace Summary

/-- What the figures of a summary are. -/
structure IsSummaryOf (summary : Summary) (series : Series) : Prop where
  count_pos : 1 ≤ summary.count
  count_eq : summary.count = series.samples.countP Sample.isFinite
  minIsRtt : ∃ sample ∈ series.samples, sample.isFinite = true ∧ sample.rtt = summary.min
  maxIsRtt : ∃ sample ∈ series.samples, sample.isFinite = true ∧ sample.rtt = summary.max
  between : ∀ sample ∈ series.samples, sample.isFinite = true →
    summary.min ≤ sample.rtt ∧ sample.rtt ≤ summary.max
  firstTime_eq : series.finiteTimes[0]? = some summary.firstTime
  lastTime_eq : series.finiteTimes[summary.count - 1]? = some summary.lastTime
  firstTimeFinite : summary.firstTime.isFinite = true
  lastTimeFinite : summary.lastTime.isFinite = true
  mean_isNaN : summary.mean.isNaN = false
  jitter_isNaN : summary.jitter.isNaN = false
  jitter_isNegative : Binary64.isNegative summary.jitter = false

/-- The mean and the jitter of a summary are those of the round-trip times. -/
theorem averages_of_ofSeries?
    {series : Series}
    {summary : Summary}
    (summarised : ofSeries? series = some summary) :
    summary.mean = sum series.finiteRtts / Float.ofNat series.finiteRtts.length ∧
      summary.jitter = LatencyChart.jitter series.finiteRtts := by
  unfold ofSeries? at summarised
  unfold Series.finiteRtts
  cases samples : series.finiteSamples with
  | nil =>
      rw [samples] at summarised
      contradiction
  | cons first rest =>
      rw [samples] at summarised
      obtain ⟨bounds, extremes, rfl⟩ := Option.map_eq_some_iff.mp summarised
      exact ⟨rfl, rfl⟩

namespace SpeaksOf

variable
  {series : Series}
  {summary : Summary}
  (speaks : summary.SpeaksOf series.finiteSamples)

include speaks

theorem areExtremes :
    AreExtremes Binary64.value (summary.min, summary.max) series.finiteRtts :=
  Span.areExtremes_of_finite (fun _ => Series.isFinite_of_mem_finiteRtts) speaks.extremes

theorem count_pos : 1 ≤ summary.count := by
  rw [speaks.count, ← series.length_finiteRtts]
  exact List.length_pos_of_mem speaks.areExtremes.least.mem

theorem getElem?_finiteTimes_zero :
    series.finiteTimes[0]? = some summary.firstTime := by
  rw [← speaks.firstTime, Series.finiteTimes, ← List.head?_eq_getElem?, List.head?_map]

theorem getElem?_finiteTimes_last :
    series.finiteTimes[summary.count - 1]? = some summary.lastTime := by
  rw [← speaks.lastTime, speaks.count, ← series.length_finiteTimes, Series.finiteTimes,
    ← List.getLast?_eq_getElem?, List.getLast?_map]

theorem between
    {sample : Sample}
    (member : sample ∈ series.samples)
    (finite : sample.isFinite = true) :
    summary.min ≤ sample.rtt ∧ sample.rtt ≤ summary.max := by
  have extremes := speaks.areExtremes
  have rttMember := Series.mem_finiteRtts_iff.mpr ⟨sample, member, finite, rfl⟩
  have minFinite := Series.isFinite_of_mem_finiteRtts extremes.least.mem
  have maxFinite := Series.isFinite_of_mem_finiteRtts extremes.greatest.mem
  rw [Span.between_iff_value minFinite maxFinite (Series.isFinite_of_mem_finiteRtts rttMember)]
  exact extremes.between rttMember

end SpeaksOf

/-- Every series with a finite sample has a summary, and no other has one.  The times have as many
places as are looked up in them, and a summary has the figures of the finite samples: none of them
is NaN, and the jitter has no sign. -/
theorem ofSeries?_isSummaryOf
    (series : Series)
    (short : series.samples.length < 2 ^ 64) :
    (ofSeries? series = none ↔ ∀ sample ∈ series.samples, sample.isFinite = false) ∧
    (∀ bounds, extremes? series.finiteRtts = some bounds →
      0 < series.finiteTimes.length ∧
        series.finiteRtts.length - 1 < series.finiteTimes.length) ∧
    ∀ summary, ofSeries? series = some summary → summary.IsSummaryOf series := by
  refine ⟨?_, ?_, ?_⟩
  · rw [ofSeries?_eq_none_iff, Series.finiteSamples_eq_nil_iff]
  · intro bounds found
    rw [series.length_finiteTimes, ← series.length_finiteRtts]
    cases rtts : series.finiteRtts with
    | nil =>
        rw [rtts] at found
        contradiction
    | cons first rest =>
        rw [List.length_cons]
        omega
  · intro summary summarised
    have speaks := speaksOf_of_ofSeries? summarised
    obtain ⟨mean_eq, jitter_eq⟩ := averages_of_ofSeries? summarised
    have finite : ∀ rtt ∈ series.finiteRtts, rtt.isFinite = true :=
      fun rtt => Series.isFinite_of_mem_finiteRtts
    have nonempty : 0 < series.finiteRtts.length := by
      rw [series.length_finiteRtts, ← speaks.count]
      exact speaks.count_pos
    have shortRtts : series.finiteRtts.length < 2 ^ 64 := by
      rw [series.length_finiteRtts]
      exact (List.length_filter_le _ _).trans_lt short
    have jitterUnsigned := Binary64.isUnsigned_jitter finite shortRtts
    rw [← jitter_eq] at jitterUnsigned
    constructor
    case count_pos => exact speaks.count_pos
    case count_eq => rw [speaks.count, Series.finiteSamples, List.countP_eq_length_filter]
    case minIsRtt => exact Series.mem_finiteRtts_iff.mp speaks.areExtremes.least.mem
    case maxIsRtt => exact Series.mem_finiteRtts_iff.mp speaks.areExtremes.greatest.mem
    case between => exact fun sample => speaks.between
    case firstTime_eq => exact speaks.getElem?_finiteTimes_zero
    case lastTime_eq => exact speaks.getElem?_finiteTimes_last
    case firstTimeFinite =>
      exact Series.isFinite_of_mem_finiteTimes
        (List.mem_of_getElem? speaks.getElem?_finiteTimes_zero)
    case lastTimeFinite =>
      exact Series.isFinite_of_mem_finiteTimes
        (List.mem_of_getElem? speaks.getElem?_finiteTimes_last)
    case mean_isNaN =>
      rw [mean_eq]
      exact Binary64.isNaN_mean finite nonempty shortRtts
    case jitter_isNaN => exact jitterUnsigned.isNaN_eq_false
    case jitter_isNegative => exact jitterUnsigned.isNegative_eq_false

/-- Round-trip times whose sum and whose differences overflow, and a sample that is not finite. -/
def overflowingSeries : Series :=
  ⟨[⟨0.0, Float.ofBits 0x7FEFFFFFFFFFFFFF⟩, ⟨1.0, Float.ofBits 0x7FEFFFFFFFFFFFFF⟩,
    ⟨2.0, Binary64.infinity⟩, ⟨3.0, Float.ofBits 0xFFEFFFFFFFFFFFFF⟩]⟩

theorem ofSeries?_overflowingSeries :
    overflowingSeries.samples.length < 2 ^ 64 ∧
      ∃ summary, ofSeries? overflowingSeries = some summary ∧
        summary.mean.isInf = true ∧ summary.jitter.isInf = true ∧
        summary.IsSummaryOf overflowingSeries := by
  have short : overflowingSeries.samples.length < 2 ^ 64 := by decide
  have overflows : (ofSeries? overflowingSeries).any
      (fun summary => summary.mean.isInf && summary.jitter.isInf) = true := by
    decide +kernel
  rw [Option.any_eq_true] at overflows
  obtain ⟨summary, summarised, infinite⟩ := overflows
  rw [Bool.and_eq_true] at infinite
  exact ⟨short, summary, summarised, infinite.1, infinite.2,
    (ofSeries?_isSummaryOf overflowingSeries short).2.2 summary summarised⟩

end Summary
end LatencyChart
