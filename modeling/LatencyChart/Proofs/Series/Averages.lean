import LatencyChart.Proofs.Number.Mean
import LatencyChart.Proofs.Series.Summary

/-!
# How far averages leave the extremes

A mean and a jitter are worked out in rounded steps, so they need not lie between the extremes:
three times the number next to a tenth has a mean above it.  What holds is that they lie between
what the same loop makes of copies of the extremes.  So they stay between the extremes where the
multiples of these are numbers, and elsewhere they leave them by the drift of the roundings, as
long as no sum overflows.

Lengths are below `2 ^ 64` throughout, since a count is turned into a number from 64 bits.
-/

namespace LatencyChart

open Binary64

/-! ## Jitter as a mean -/

theorem length_changes (values : List Float) :
    (changes values).length = values.length - 1 := by
  rw [changes, List.length_zipWith, List.length_tail]
  omega

theorem jitter_eq_mean
    {values : List Float}
    (several : 2 ≤ values.length) :
    jitter values = mean (changes values) := by
  rw [jitter, if_neg (not_lt.mpr several), mean, length_changes]

section Changes

variable
  {values : List Float}
  {min max : Float}
  (finite : ∀ number ∈ values, number.isFinite = true)
  (extremes : AreExtremes value (min, max) values)

include finite extremes

/-- No change is greater than the distance of the extremes. -/
theorem changes_le_distance
    {change : Float}
    (member : change ∈ changes values) :
    change ≤ max - min := by
  unfold changes at member
  obtain ⟨index, bound, rfl⟩ := List.mem_iff_getElem.mp member
  have earlierMember := List.getElem_mem (List.lt_length_left_of_zipWith bound)
  have laterMember :=
    List.mem_of_mem_tail (List.getElem_mem (List.lt_length_right_of_zipWith bound))
  rw [List.getElem_zipWith]
  exact abs_sub_le_of_between (finite _ extremes.least.mem) (finite _ extremes.greatest.mem)
    (finite _ laterMember) (finite _ earlierMember) (extremes.between laterMember)
    (extremes.between earlierMember)

/-- Where the extremes have a finite distance, the changes are finite and between zero and it. -/
theorem value_change_between
    (distanceFinite : (max - min).isFinite = true)
    {change : Float}
    (member : change ∈ changes values) :
    change.isFinite = true ∧ 0 ≤ value change ∧ value change ≤ value (max - min) := by
  have unsigned := isUnsigned_of_mem_changes finite member
  have above := unsigned.zero_le
  have below := changes_le_distance finite extremes member
  have changeFinite := isFinite_of_between unsigned.isNaN_eq_false isFinite_zero distanceFinite
    above below
  rw [le_iff_value_le isFinite_zero changeFinite, value_zero] at above
  exact ⟨changeFinite, above, (le_iff_value_le changeFinite distanceFinite).mp below⟩

end Changes

/-! ## Means between extremes -/

/-- The greatest magnitude of numbers between bounds. -/
def reach (min max : Float) : ℚ :=
  Max.max |value min| |value max|

section Mean

variable
  {values : List Float}
  {min max : Float}
  (finite : ∀ number ∈ values, number.isFinite = true)
  (extremes : AreExtremes value (min, max) values)
  (short : values.length < 2 ^ 64)

include extremes

theorem abs_value_le_reach
    {number : Float}
    (member : number ∈ values) :
    |value number| ≤ reach min max :=
  abs_le_max_abs_abs (extremes.between member).1 (extremes.between member).2

include finite short

/-- The mean of numbers lies between the means of copies of their extremes. -/
theorem mean_between :
    meanOfCopies values.length min ≤ mean values ∧
      mean values ≤ meanOfCopies values.length max := by
  have nonempty := List.length_pos_of_mem extremes.least.mem
  have minFinite := finite _ extremes.least.mem
  have maxFinite := finite _ extremes.greatest.mem
  constructor
  · apply meanOfCopies_le_mean nonempty short (isNaN_sum finite)
      (isNaN_eq_false_of_isFinite minFinite)
    intro number member
    exact (le_iff_value_le minFinite (finite number member)).mpr (extremes.between member).1
  · apply mean_le_meanOfCopies nonempty short (isNaN_sum finite)
      (isNaN_eq_false_of_isFinite maxFinite)
    intro number member
    exact (le_iff_value_le (finite number member) maxFinite).mpr (extremes.between member).2

/-- Where the multiples of the extremes are numbers, the mean lies between the extremes. -/
theorem mean_between_of_exactMultiples
    (minExact : HasExactMultiples values.length min)
    (maxExact : HasExactMultiples values.length max) :
    (mean values).isFinite = true ∧ min ≤ mean values ∧ mean values ≤ max := by
  have nonempty := List.length_pos_of_mem extremes.least.mem
  have minFinite := finite _ extremes.least.mem
  have maxFinite := finite _ extremes.greatest.mem
  obtain ⟨lowFinite, low_eq⟩ := value_meanOfCopies minFinite minExact nonempty short
  obtain ⟨highFinite, high_eq⟩ := value_meanOfCopies maxFinite maxExact nonempty short
  obtain ⟨above, below⟩ := mean_between finite extremes short
  rw [(isAlike_of_value_eq lowFinite minFinite low_eq).le_iff (.refl _)] at above
  rw [IsAlike.le_iff (.refl _) (isAlike_of_value_eq highFinite maxFinite high_eq)] at below
  exact ⟨isFinite_of_between (isNaN_mean finite nonempty short) minFinite maxFinite above below,
    above, below⟩

/-- Magnitudes that stay below overflow with the drift of the sum give a finite mean. -/
theorem isFinite_mean_of_reach
    (below : (1 + drift values.length) * (values.length * reach min max) < overflowBound) :
    (mean values).isFinite = true := by
  have nonempty := List.length_pos_of_mem extremes.least.mem
  have total := totalMagnitude_le fun number => abs_value_le_reach extremes
  have growth := drift_nonneg values.length
  exact isFinite_mean nonempty short finite
    ((mul_le_mul_of_nonneg_left total (by linarith)).trans_lt below)

end Mean

/-! ## Jitter below the distance of the extremes -/

section Jitter

variable
  {values : List Float}
  {min max : Float}
  (finite : ∀ number ∈ values, number.isFinite = true)
  (extremes : AreExtremes value (min, max) values)
  (several : 2 ≤ values.length)
  (short : values.length < 2 ^ 64)

include finite extremes several short

/-- The jitter is not above the mean of copies of the distance of the extremes. -/
theorem jitter_le_meanOfCopies :
    jitter values ≤ meanOfCopies (values.length - 1) (max - min) := by
  have nonempty : 0 < (changes values).length := by
    rw [length_changes]
    omega
  have sumUnsigned := isUnsigned_sum (List.ne_nil_of_length_pos nonempty)
    fun change => isUnsigned_of_mem_changes finite
  rw [jitter_eq_mean several, ← length_changes]
  exact mean_le_meanOfCopies nonempty (by rw [length_changes]; omega)
    sumUnsigned.isNaN_eq_false
    (roundsTo_sub (finite _ extremes.greatest.mem) (finite _ extremes.least.mem)).isNaN_eq_false
    fun change => changes_le_distance finite extremes

theorem jitter_le_of_exactMultiples
    (exact : HasExactMultiples (values.length - 1) (max - min)) :
    jitter values ≤ max - min := by
  have minFinite := finite _ extremes.least.mem
  have maxFinite := finite _ extremes.greatest.mem
  have isNumber := (roundsTo_sub maxFinite minFinite).isNaN_eq_false
  have below := jitter_le_meanOfCopies finite extremes several short
  by_cases distanceFinite : (max - min).isFinite = true
  · obtain ⟨copiesFinite, copies_eq⟩ :=
      value_meanOfCopies distanceFinite exact (by omega) (by omega)
    rwa [IsAlike.le_iff (.refl _)
      (isAlike_of_value_eq copiesFinite distanceFinite copies_eq)] at below
  · have nonnegative := zero_le_sub minFinite maxFinite
      (extremes.between extremes.greatest.mem).1
    rw [le_iff_place_le (isUnsigned_jitter finite short).isNaN_eq_false isNumber,
      place_eq_top_of_nonneg isNumber nonnegative distanceFinite]
    exact le_top

/-- A finite jitter leaves the distance of the extremes by the leeway of its roundings at most. -/
theorem value_jitter_le
    (jitterFinite : (jitter values).isFinite = true)
    (distanceFinite : (max - min).isFinite = true) :
    value (jitter values) ≤
      value (max - min) + leeway (values.length + 1) (value (max - min)) := by
  have nonempty : 0 < (changes values).length := by
    rw [length_changes]
    omega
  have between : ∀ change ∈ changes values, 0 ≤ value change ∧ value change ≤ value (max - min) :=
    fun change member => (value_change_between finite extremes distanceFinite member).2
  rw [jitter_eq_mean several] at jitterFinite ⊢
  have near := (value_mean_between nonempty (by rw [length_changes]; omega) jitterFinite between
    fun change member => by
      rw [abs_of_nonneg (between change member).1]
      exact (between change member).2).2
  have roundings : (changes values).length + 2 = values.length + 1 := by
    rw [length_changes]
    omega
  rwa [roundings] at near

end Jitter

/-! ## Averages of a summary -/

namespace Summary

/-- What the averages of a summary have to do with its extremes. -/
structure AveragesFollow (summary : Summary) : Prop where
  /-- The mean lies between what the loop makes of copies of the extremes. -/
  meanBetween :
    meanOfCopies summary.count summary.min ≤ summary.mean ∧
      summary.mean ≤ meanOfCopies summary.count summary.max
  /-- The jitter is not above what the loop makes of copies of their distance. -/
  jitterBelow :
    if summary.count = 1 then summary.jitter = 0.0
    else summary.jitter ≤ meanOfCopies (summary.count - 1) (summary.max - summary.min)
  /-- Where the multiples of the extremes are numbers, the mean lies between the extremes. -/
  meanExact :
    HasExactMultiples summary.count summary.min → HasExactMultiples summary.count summary.max →
      summary.mean.isFinite = true ∧ summary.min ≤ summary.mean ∧ summary.mean ≤ summary.max
  jitterExact :
    summary.count = 1 ∨ HasExactMultiples (summary.count - 1) (summary.max - summary.min) →
      summary.jitter ≤ summary.max - summary.min
  meanFinite :
    (1 + drift summary.count) * (summary.count * reach summary.min summary.max) < overflowBound →
      summary.mean.isFinite = true
  /-- A finite mean leaves the extremes by the leeway of its roundings at most. -/
  meanNear : summary.mean.isFinite = true →
    value summary.min - leeway (summary.count + 2) (reach summary.min summary.max) ≤
        value summary.mean ∧
      value summary.mean ≤
        value summary.max + leeway (summary.count + 2) (reach summary.min summary.max)
  jitterNear : summary.jitter.isFinite = true → (summary.max - summary.min).isFinite = true →
    value summary.jitter ≤
      value (summary.max - summary.min) +
        leeway (summary.count + 1) (value (summary.max - summary.min))

/-- The averages of every summary follow its extremes. -/
theorem ofSeries?_averagesFollow
    {series : Series}
    {summary : Summary}
    (short : series.samples.length < 2 ^ 64)
    (summarised : ofSeries? series = some summary) :
    summary.AveragesFollow := by
  have speaks := speaksOf_of_ofSeries? summarised
  have extremes := speaks.areExtremes
  have finite : ∀ rtt ∈ series.finiteRtts, rtt.isFinite = true :=
    fun rtt => Series.isFinite_of_mem_finiteRtts
  have count_eq : summary.count = series.finiteRtts.length := by
    rw [speaks.count, series.length_finiteRtts]
  have positive := speaks.count_pos
  have shortRtts : series.finiteRtts.length < 2 ^ 64 := by
    rw [series.length_finiteRtts]
    exact (List.length_filter_le _ _).trans_lt short
  obtain ⟨mean_eq, jitter_eq⟩ := averages_of_ofSeries? summarised
  change summary.mean = Binary64.mean series.finiteRtts at mean_eq
  rw [count_eq] at positive
  have minFinite := finite _ extremes.least.mem
  have maxFinite := finite _ extremes.greatest.mem
  have alone (single : summary.count = 1) : summary.jitter = 0.0 := by
    rw [jitter_eq, LatencyChart.jitter, if_pos (by omega)]
  constructor
  case meanBetween =>
    rw [mean_eq, count_eq]
    exact mean_between finite extremes shortRtts
  case jitterBelow =>
    split
    · next single => exact alone single
    · next several =>
      rw [jitter_eq, count_eq]
      exact jitter_le_meanOfCopies finite extremes (by omega) shortRtts
  case meanExact =>
    rw [mean_eq, count_eq]
    exact mean_between_of_exactMultiples finite extremes shortRtts
  case jitterExact =>
    intro exact
    by_cases single : summary.count = 1
    · rw [alone single]
      exact zero_le_sub minFinite maxFinite (extremes.between extremes.greatest.mem).1
    · have multiples := exact.resolve_left single
      rw [count_eq] at multiples
      rw [jitter_eq]
      exact jitter_le_of_exactMultiples finite extremes (by omega) shortRtts multiples
  case meanFinite =>
    rw [mean_eq, count_eq]
    exact isFinite_mean_of_reach finite extremes shortRtts
  case meanNear =>
    rw [mean_eq, count_eq]
    intro meanFinite
    exact value_mean_between positive shortRtts meanFinite
      (fun number => extremes.between) (fun number => abs_value_le_reach extremes)
  case jitterNear =>
    intro jitterFinite distanceFinite
    have distance := zero_le_sub minFinite maxFinite (extremes.between extremes.greatest.mem).1
    rw [le_iff_value_le isFinite_zero distanceFinite, value_zero] at distance
    by_cases single : summary.count = 1
    · rw [alone single, value_zero]
      exact add_nonneg distance (leeway_nonneg _ distance)
    · rw [jitter_eq] at jitterFinite ⊢
      rw [count_eq]
      exact value_jitter_le finite extremes (by omega) shortRtts jitterFinite distanceFinite

/-- Three times the number next to a tenth, whose mean is the number above it. -/
def risingSeries : Series :=
  Series.ofPairs [(0.0, 0.1), (1.0, 0.1), (2.0, 0.1)]

theorem averagesFollow_risingSeries :
    risingSeries.samples.length < 2 ^ 64 ∧
      ∃ summary, ofSeries? risingSeries = some summary ∧ summary.AveragesFollow := by
  have short : risingSeries.samples.length < 2 ^ 64 := by decide
  have isSummarised : (ofSeries? risingSeries).isSome = true := by decide +kernel
  obtain ⟨summary, summarised⟩ := Option.isSome_iff_exists.mp isSummarised
  exact ⟨short, summary, summarised, ofSeries?_averagesFollow short summarised⟩

/-- Six times the number next to a tenth, whose mean is the number below it. -/
def sinkingSeries : Series :=
  Series.ofPairs [(0.0, 0.1), (1.0, 0.1), (2.0, 0.1), (3.0, 0.1), (4.0, 0.1), (5.0, 0.1)]

/-- Three changes by the number next to a tenth. -/
def swingingSeries : Series :=
  Series.ofPairs [(0.0, 0.0), (1.0, 0.1), (2.0, 0.0), (3.0, 0.1)]

/-- Twice the greatest number. -/
def greatestSeries : Series :=
  Series.ofPairs [(0.0, 1.7976931348623157e308), (1.0, 1.7976931348623157e308)]

/-- Averages need not stay between the extremes, and a mean need not be finite. -/
theorem averages_leave_extremes :
    (∃ summary, ofSeries? risingSeries = some summary ∧ ¬summary.mean ≤ summary.max) ∧
    (∃ summary, ofSeries? sinkingSeries = some summary ∧ ¬summary.min ≤ summary.mean) ∧
    (∃ summary, ofSeries? swingingSeries = some summary ∧
      ¬summary.jitter ≤ summary.max - summary.min) ∧
    ∃ summary, ofSeries? greatestSeries = some summary ∧ ¬summary.mean.isFinite = true := by
  have found {series : Series} {property : Summary → Prop} [DecidablePred property]
      (fails : (ofSeries? series).any (fun summary => !property summary) = true) :
      ∃ summary, ofSeries? series = some summary ∧ ¬property summary := by
    rw [Option.any_eq_true] at fails
    simpa using fails
  exact ⟨found (by decide +kernel), found (by decide +kernel), found (by decide +kernel),
    found (by decide +kernel)⟩

end Summary
end LatencyChart
