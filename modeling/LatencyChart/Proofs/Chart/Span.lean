import LatencyChart.Chart.Axis
import LatencyChart.Proofs.Number.Arithmetic
import LatencyChart.Proofs.Series.Extremes

/-!
# What a span shows

A span that is fitted to finite numbers is not degenerate, its width is a finite number, and all
the numbers lie in it.  Rounding takes nothing of this away, since it never passes a number.
-/

namespace LatencyChart
namespace Span

open Binary64

/-- A span that is neither degenerate nor too wide. -/
structure IsProper (span : Span) : Prop where
  lowFinite : span.low.isFinite = true
  highFinite : span.high.isFinite = true
  ordered : span.low < span.high
  widthFinite : (span.high - span.low).isFinite = true
  widthPositive : 0.0 < span.high - span.low

/-- A proper span on which every one of the values has a place. -/
structure Shows (span : Span) (values : List Float) : Prop where
  proper : span.IsProper
  contains : ∀ value ∈ values, span.low ≤ value ∧ value ≤ span.high

/-- The room that is left beside values with given bounds: a twentieth of their distance, and for
equal values a twentieth of their magnitude, but at least one. -/
def IsMargin (values : List Float) (min max margin : Float) : Prop :=
  ((∀ value ∈ values, (value == min) = true) →
    margin = if 1.0 < min.abs / 20.0 then min.abs / 20.0 else 1.0) ∧
  ((¬∀ value ∈ values, (value == min) = true) → margin = (max - min) / 20.0)

/-- A span that leaves a margin beside values.  Where its width would not be finite, it goes from
the least value to the greatest. -/
def Pads (span : Span) (min max margin : Float) : Prop :=
  (((max + margin) - (min - margin)).isFinite = true ∧ span = ⟨min - margin, max + margin⟩) ∨
  (((max + margin) - (min - margin)).isFinite = false ∧ span = ⟨min, max⟩ ∧ min < max)

/-! ## The margin -/

theorem isFinite_twenty : (20.0 : Float).isFinite = true := rfl

theorem value_twenty : value 20.0 = 20 := by
  change signed .positive (((5 * 2 ^ 50 : Nat) : ℚ) * 2 ^ (-48 : Int)) = 20
  norm_num [signed]

theorem twenty_apart : value 20.0 ≠ 0 := by
  rw [value_twenty]
  norm_num

theorem value_div_twenty_nonneg
    {number : Float}
    (finite : number.isFinite = true)
    (nonnegative : 0 ≤ value number)
    (quotientFinite : (number / 20.0).isFinite = true) :
    0 ≤ value (number / 20.0) := by
  have isRounded := isRounded_div finite isFinite_twenty twenty_apart
  rw [value_twenty] at isRounded
  have above := isRounded.ge_of_ge quotientFinite isFinite_zero (by rw [value_zero]; positivity)
  rw [value_zero] at above
  exact above

section Bounds

variable
  {min max : Float}
  (minFinite : min.isFinite = true)
  (maxFinite : max.isFinite = true)
  (bounds : value min ≤ value max)

include minFinite maxFinite bounds

theorem value_room_nonneg (finite : (room min max).isFinite = true) :
    0 ≤ value (room min max) := by
  unfold room at finite ⊢
  split_ifs at finite ⊢ with same more
  · exact value_div_twenty_nonneg (isFinite_abs minFinite)
      (by rw [value_abs minFinite]; exact abs_nonneg _) finite
  · rw [value_one]
    exact zero_le_one
  · have distanceFinite := isFinite_of_div isFinite_twenty finite
    have distance := (isRounded_sub maxFinite minFinite).ge_of_ge distanceFinite isFinite_zero
      (by rw [value_zero]; exact sub_nonneg.mpr bounds)
    rw [value_zero] at distance
    exact value_div_twenty_nonneg distanceFinite distance finite

/-- Bounds with room beside them lie around the bounds themselves. -/
theorem padded_around
    (widthFinite : ((max + room min max) - (min - room min max)).isFinite = true) :
    (min - room min max).isFinite = true ∧ (max + room min max).isFinite = true ∧
      value (min - room min max) ≤ value min ∧ value max ≤ value (max + room min max) := by
  obtain ⟨highFinite, lowFinite⟩ := isFinite_of_sub widthFinite
  have roomFinite := (isFinite_of_add highFinite).2
  have nonnegative := value_room_nonneg minFinite maxFinite bounds roomFinite
  refine ⟨lowFinite, highFinite, ?_, ?_⟩
  · exact (isRounded_sub minFinite roomFinite).le_of_le lowFinite minFinite (by linarith)
  · exact (isRounded_add maxFinite roomFinite).ge_of_ge highFinite maxFinite (by linarith)

end Bounds

/-! ## Fitted spans -/

/-- Finite numbers have the extremes of their values. -/
theorem areExtremes_of_finite
    {values : List Float}
    (finite : ∀ value ∈ values, value.isFinite = true)
    {bounds : Float × Float}
    (found : extremes? values = some bounds) :
    AreExtremes Binary64.value bounds values := by
  apply areExtremes_of_extremes? _ found
  intro first firstMember second secondMember
  exact lt_iff_value_lt (finite first firstMember) (finite second secondMember)

/-- Some numbers have extremes. -/
theorem exists_extremes
    {values : List Float}
    (nonempty : values ≠ [])
    (finite : ∀ value ∈ values, value.isFinite = true) :
    ∃ min max, extremes? values = some (min, max) ∧
      AreExtremes Binary64.value (min, max) values := by
  cases values with
  | nil => contradiction
  | cons first rest =>
      have found := extremes?_cons first rest
      exact ⟨_, _, found, areExtremes_of_finite finite found⟩

theorem between_iff_value
    {low high number : Float}
    (lowFinite : low.isFinite = true)
    (highFinite : high.isFinite = true)
    (finite : number.isFinite = true) :
    low ≤ number ∧ number ≤ high ↔
      value low ≤ value number ∧ value number ≤ value high := by
  rw [le_iff_value_le lowFinite finite, le_iff_value_le finite highFinite]

theorem isProper_of_lt
    {span : Span}
    (lowFinite : span.low.isFinite = true)
    (highFinite : span.high.isFinite = true)
    (ordered : span.low < span.high)
    (widthFinite : (span.high - span.low).isFinite = true) :
    span.IsProper := by
  refine ⟨lowFinite, highFinite, ordered, widthFinite, ?_⟩
  rw [lt_iff_value_lt isFinite_zero widthFinite, value_zero,
    value_sub_pos_iff highFinite lowFinite widthFinite]
  exact (lt_iff_value_lt lowFinite highFinite).mp ordered

/-- Bounds that are not too far apart become a proper span with room beside them, and where that
would be too wide, the span itself. -/
theorem ofBounds?_eq_ok
    {min max : Float}
    {span : Span}
    (minFinite : min.isFinite = true)
    (maxFinite : max.isFinite = true)
    (bounds : value min ≤ value max)
    (fitted : ofBounds? min max = .ok span) :
    span.IsProper ∧ value span.low ≤ value min ∧ value max ≤ value span.high ∧
      span.Pads min max (room min max) := by
  unfold ofBounds? at fitted
  dsimp only at fitted
  split_ifs at fitted with padded plain
  · obtain ⟨widthFinite, ordered⟩ := padded
    obtain ⟨lowFinite, highFinite, below, above⟩ :=
      padded_around minFinite maxFinite bounds widthFinite
    rw [← Except.ok.inj fitted]
    exact ⟨isProper_of_lt lowFinite highFinite ordered widthFinite, below, above,
      Or.inl ⟨widthFinite, rfl⟩⟩
  · obtain ⟨distanceFinite, positive⟩ := plain
    rw [lt_iff_value_lt isFinite_zero distanceFinite, value_zero,
      value_sub_pos_iff maxFinite minFinite distanceFinite] at positive
    have ordered : min < max := (lt_iff_value_lt minFinite maxFinite).mpr positive
    have tooWide : ((max + room min max) - (min - room min max)).isFinite = false := by
      -- A finite width would have been taken, since rounding keeps the bounds in order.
      rw [← Bool.not_eq_true]
      intro widthFinite
      obtain ⟨lowFinite, highFinite, below, above⟩ :=
        padded_around minFinite maxFinite bounds widthFinite
      have paddedOrder := (lt_iff_value_lt lowFinite highFinite).mpr
        ((below.trans_lt positive).trans_le above)
      exact padded ⟨widthFinite, paddedOrder⟩
    rw [← Except.ok.inj fitted]
    exact ⟨isProper_of_lt minFinite maxFinite ordered distanceFinite, le_rfl, le_rfl,
      Or.inr ⟨tooWide, rfl, ordered⟩⟩

/-- The room beside the bounds of values is the margin of the values. -/
theorem isMargin_room
    {values : List Float}
    {min max : Float}
    (finite : ∀ value ∈ values, value.isFinite = true)
    (extremes : AreExtremes Binary64.value (min, max) values) :
    IsMargin values min max (room min max) := by
  have minFinite := finite min extremes.least.mem
  have maxFinite := finite max extremes.greatest.mem
  have allEqual_iff : (∀ value ∈ values, (value == min) = true) ↔ (max - min == 0.0) = true := by
    rw [sub_beq_zero_iff maxFinite minFinite]
    constructor
    · intro allEqual
      exact (beq_iff_value_eq maxFinite minFinite).mp (allEqual max extremes.greatest.mem)
    · intro same value member
      rw [beq_iff_value_eq (finite value member) minFinite]
      obtain ⟨above, below⟩ := extremes.between member
      exact le_antisymm (below.trans_eq same) above
  unfold IsMargin room
  rw [allEqual_iff]
  constructor
  · intro same
    rw [if_pos same]
  · intro different
    rw [if_neg different]

/-- The span of finite values shows them all.  It leaves a margin beside them, unless its width
would not be finite then, and in that case it goes from the least value to the greatest. -/
theorem fit?_shows_values
    {values : List Float}
    {span : Span}
    (nonempty : values ≠ [])
    (finite : ∀ value ∈ values, value.isFinite = true)
    (fitted : fit? values = .ok span) :
    span.Shows values ∧
      ∃ min max margin, extremes? values = some (min, max) ∧
        min ∈ values ∧ max ∈ values ∧ (∀ value ∈ values, min ≤ value ∧ value ≤ max) ∧
        IsMargin values min max margin ∧ span.Pads min max margin := by
  cases found : extremes? values with
  | none =>
      cases values with
      | nil => contradiction
      | cons first rest => contradiction
  | some bounds =>
      obtain ⟨min, max⟩ := bounds
      have extremes : AreExtremes Binary64.value (min, max) values :=
        areExtremes_of_extremes?
          (fun first firstMember second secondMember =>
            lt_iff_value_lt (finite first firstMember) (finite second secondMember))
          found
      have minMember := extremes.least.mem
      have maxMember := extremes.greatest.mem
      have minFinite := finite min minMember
      have maxFinite := finite max maxMember
      unfold fit? at fitted
      rw [found] at fitted
      obtain ⟨proper, below, above, pads⟩ :=
        ofBounds?_eq_ok minFinite maxFinite (extremes.between maxMember).1 fitted
      refine ⟨⟨proper, ?_⟩, min, max, room min max, rfl, minMember, maxMember, ?_,
        isMargin_room finite extremes, pads⟩
      · intro value member
        obtain ⟨leastLe, leGreatest⟩ := extremes.between member
        exact (between_iff_value proper.lowFinite proper.highFinite (finite value member)).mpr
          ⟨below.trans leastLe, leGreatest.trans above⟩
      · intro value member
        exact (between_iff_value minFinite maxFinite (finite value member)).mpr
          (extremes.between member)

-- Between neighbouring numbers a twentieth of the distance rounds to nothing.
example :
    (fit? [0.0, 5e-324]).toOption.map (fun span => (span.low.toBits, span.high.toBits)) =
      some (0, 1) := by
  decide +kernel

/-- Values from zero to the greatest number: with a margin beside them their width would not be
finite. -/
def widestValues : List Float :=
  [0.0, -0.0, 1.7976931348623157e308]

theorem fit?_widestValues :
    ∃ span, widestValues ≠ [] ∧ (∀ value ∈ widestValues, value.isFinite = true) ∧
      fit? widestValues = .ok span ∧ span.Shows widestValues ∧
      ∃ min max margin, extremes? widestValues = some (min, max) ∧
        IsMargin widestValues min max margin ∧ span.Pads min max margin := by
  have nonempty : widestValues ≠ [] := List.cons_ne_nil _ _
  have finite : ∀ value ∈ widestValues, value.isFinite = true := by decide +kernel
  cases fitted : fit? widestValues with
  | error fault =>
      have accepted : (fit? widestValues).toBool = true := by decide +kernel
      rw [fitted] at accepted
      exact absurd accepted Bool.false_ne_true
  | ok span =>
      obtain ⟨shows, min, max, margin, found, -, -, -, isMargin, pads⟩ :=
        fit?_shows_values nonempty finite fitted
      exact ⟨span, nonempty, finite, rfl, shows, min, max, margin, found, isMargin, pads⟩

end Span
end LatencyChart
