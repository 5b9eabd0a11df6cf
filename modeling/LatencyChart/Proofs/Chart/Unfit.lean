import LatencyChart.Proofs.Chart.Drawable
import LatencyChart.Proofs.Chart.Span
import LatencyChart.Proofs.Number.Overflow

/-!
# Which values fit on no axis

Finite values are refused in two cases.  Their distance may not be a finite number.  Values that
are all equal have no distance, but there is no finite number for the room beside them when they
are too large, and without room their span would be degenerate.
-/

namespace LatencyChart
namespace Span

open Binary64

/-- The least magnitude of equal values for which the room beside them is not finite. -/
def flatLimit : Float := Float.ofBits 0x7FEE79E79E79E79E

/-- Bounds that are not a finite distance apart, or equal ones that are too large for room beside
them. -/
inductive IsOutOfRange (min max : Float) : Prop
  | apart (distance : (max - min).isInf = true)
  | flat (same : (min == max) = true) (large : flatLimit ≤ min.abs)

/-! ## The margin of equal values -/

/-- The margin of equal values is a twentieth of their magnitude rounded, but at least one. -/
structure IsFlatMargin (center margin : ℚ) : Prop where
  one_le : 1 ≤ margin
  le_of_le : ∀ bound, IsOnGrid bound → 1 ≤ bound → |center| / 20 ≤ bound →
    margin ≤ bound
  ge_of_ge : ∀ bound, IsOnGrid bound → bound ≤ |center| / 20 → bound ≤ margin

/-- The room beside equal values is finite. -/
theorem isFlatMargin_room
    {min max : Float}
    (minFinite : min.isFinite = true)
    (maxFinite : max.isFinite = true)
    (same : value max = value min) :
    (room min max).isFinite = true ∧ IsFlatMargin (value min) (value (room min max)) := by
  have magnitudeFinite := isFinite_abs minFinite
  have rounds := roundsTo_div magnitudeFinite isFinite_twenty twenty_apart
  rw [value_twenty, value_abs minFinite] at rounds
  have within : |(|value min| / 20)| < overflowBound := by
    rw [abs_of_nonneg (by positivity)]
    have below := abs_value_lt_overflowBound minFinite
    have nonnegative := abs_nonneg (value min)
    linarith
  have quotientFinite := rounds.isFinite_of_abs_lt within
  have nearest := rounds.isRounded.nearest quotientFinite
  unfold room
  rw [if_pos ((sub_beq_zero_iff maxFinite minFinite).mpr same)]
  split_ifs with more
  · refine ⟨quotientFinite, ?_, ?_, ?_⟩
    · rw [← value_one]
      exact ((lt_iff_value_lt isFinite_one quotientFinite).mp more).le
    · exact fun bound onGrid _ below => nearest.le_of_le onGrid below
    · exact fun bound onGrid above => nearest.ge_of_ge onGrid above
  · rw [lt_iff_value_lt isFinite_one quotientFinite, not_lt, value_one] at more
    refine ⟨isFinite_one, ?_, ?_, ?_⟩ <;> rw [value_one]
    · exact fun bound _ least _ => least
    · exact fun bound onGrid above => (nearest.ge_of_ge onGrid above).trans more

theorem IsFlatMargin.le_max
    {number : Float}
    {margin : ℚ}
    (isMargin : IsFlatMargin (value number) margin)
    (finite : number.isFinite = true) :
    margin ≤ max 1 |value number| := by
  have magnitudeOnGrid := isOnGrid_value (isFinite_abs finite)
  have one : IsOnGrid 1 := by
    rw [← value_one]
    exact isOnGrid_value isFinite_one
  rw [value_abs finite] at magnitudeOnGrid
  have nonnegative := abs_nonneg (value number)
  rcases le_total |value number| 1 with small | large
  · rw [max_eq_left small]
    exact isMargin.le_of_le 1 one le_rfl (by linarith)
  · rw [max_eq_right large]
    exact isMargin.le_of_le _ magnitudeOnGrid large (by linarith)

/-- A margin takes in the room beside equal values: rounded, the values with and without it are
apart. -/
theorem IsFlatMargin.lt
    {number : Float}
    {margin low high : ℚ}
    (isMargin : IsFlatMargin (value number) margin)
    (finite : number.isFinite = true)
    (lowNearest : IsNearest (value number - margin) low)
    (highNearest : IsNearest (value number + margin) high) :
    low < high := by
  have onGrid := isOnGrid_value finite
  have least := isMargin.one_le
  have below := lowNearest.le_of_le onGrid (by linarith)
  have above := highNearest.ge_of_ge onGrid (by linarith)
  by_contra! meet
  have highSame : high = value number := by linarith
  have lowSame : low = value number := by linarith
  obtain ⟨step, positive, stepOnGrid, nextOnGrid, small⟩ :=
    (isFiniteWith_unpack finite).exists_step
  change IsOnGrid (|value number| + step) at nextOnGrid
  change step ≤ 1 ∨ 2 ^ 52 * step ≤ |value number| at small
  have within : step ≤ margin := by
    rcases small with small | small
    · exact small.trans least
    · exact isMargin.ge_of_ge step stepOnGrid (by linarith)
  -- The next point of the grid away from zero is nearer than the value itself.
  rcases abs_cases (value number) with ⟨size, -⟩ | ⟨size, -⟩
  · rw [size] at nextOnGrid
    have near := highNearest.near _ nextOnGrid
    rw [highSame, abs_of_nonpos (by linarith), abs_of_nonpos (by linarith)] at near
    linarith
  · rw [size] at nextOnGrid
    have near := lowNearest.near _ nextOnGrid.neg
    rw [lowSame, abs_of_nonneg (by linarith), abs_of_nonneg (by linarith)] at near
    linarith

/-! ## The limit of equal values -/

theorem value_flatLimit : value flatLimit = 8578285004515230 * topUnit := by
  change signed .positive (((8578285004515230 : Nat) : ℚ) * 2 ^ (971 : Int)) = _
  rw [signed, topUnit]
  norm_num

theorem isOnGrid_limit_div_twenty : IsOnGrid (value flatLimit / 20) := by
  refine ⟨6862628003612184, 967, by norm_num, by norm_num, ?_⟩
  have finer : (2 : ℚ) ^ (971 : Int) = 2 ^ (967 : Int) * 2 ^ (4 : Int) :=
    zpow_add₀ two_ne_zero 967 4
  have sixteen : (2 : ℚ) ^ (4 : Int) = 16 := by norm_num
  rw [value_flatLimit, topUnit, finer, sixteen, Int.cast_ofNat]
  ring

/-- At the limit, the margin reaches the bound of overflow. -/
theorem limit_add_margin : value flatLimit + value flatLimit / 20 = overflowBound := by
  rw [value_flatLimit, overflowBound]
  ring

theorem one_le_limit_div_twenty : 1 ≤ value flatLimit / 20 := by
  have unit : (2 : ℚ) ^ (0 : Int) ≤ topUnit := by
    rw [topUnit]
    exact zpow_le_zpow_right₀ one_le_two (by norm_num)
  rw [zpow_zero] at unit
  rw [value_flatLimit]
  linarith

namespace IsFlatMargin

variable
  {center margin : ℚ}
  (isMargin : IsFlatMargin center margin)

include isMargin

theorem add_lt_overflowBound (below : |center| < value flatLimit) :
    |center| + margin < overflowBound := by
  have atMost := isMargin.le_of_le _ isOnGrid_limit_div_twenty one_le_limit_div_twenty
    (by linarith)
  have limit := limit_add_margin
  linarith

/-- The bound of overflow is met by the margin only at the limit. -/
theorem eq_limit_of_add_le
    (above : value flatLimit ≤ |center|)
    (within : |center| + margin ≤ overflowBound) :
    |center| = value flatLimit := by
  have atLeast := isMargin.ge_of_ge _ isOnGrid_limit_div_twenty (by linarith)
  have limit := limit_add_margin
  linarith

end IsFlatMargin

/-- Equal values with their margin on both sides, as numbers. -/
structure IsFlatSpan (center margin low high : Float) : Prop where
  centerFinite : center.isFinite = true
  marginFinite : margin.isFinite = true
  isMargin : IsFlatMargin (value center) (value margin)
  low_rounds : RoundsTo (value center - value margin) low
  high_rounds : RoundsTo (value center + value margin) high

namespace IsFlatSpan

variable
  {center margin low high : Float}
  (isFlatSpan : IsFlatSpan center margin low high)

include isFlatSpan

/-- The span of equal values is not too wide when its ends are finite. -/
theorem isFinite_width
    (lowFinite : low.isFinite = true)
    (highFinite : high.isFinite = true) :
    (high - low).isFinite = true := by
  have onGrid := isOnGrid_value isFlatSpan.centerFinite
  have least := isFlatSpan.isMargin.one_le
  have lowNearest := isFlatSpan.low_rounds.isRounded.nearest lowFinite
  have highNearest := isFlatSpan.high_rounds.isRounded.nearest highFinite
  have ordered := isFlatSpan.isMargin.lt isFlatSpan.centerFinite lowNearest highNearest
  have lowBound := abs_lt.mp (abs_value_lt_overflowBound lowFinite)
  have highBound := abs_lt.mp (abs_value_lt_overflowBound highFinite)
  apply (roundsTo_sub highFinite lowFinite).isFinite_of_abs_lt
  rw [abs_of_pos (sub_pos.mpr ordered)]
  have lowSign := lowNearest.ge_of_ge isOnGrid_zero
  have highSign := highNearest.le_of_le isOnGrid_zero
  have bounded := isFlatSpan.isMargin.le_max isFlatSpan.centerFinite
  rcases le_total |value center| 1 with small | large
  · rw [max_eq_left small] at bounded
    have two : IsOnGrid ((2 : Nat) : ℚ) := isOnGrid_natCast (by norm_num)
    have four := natCast_lt_overflowBound (by norm_num : 4 < 2 ^ 64)
    rw [abs_le] at small
    rw [Nat.abs_cast] at four
    push_cast at two four
    have below := lowNearest.ge_of_ge two.neg (by linarith)
    have above := highNearest.le_of_le two (by linarith)
    linarith
  · rw [max_eq_right large] at bounded
    -- Both ends have the sign of the values.
    rcases abs_cases (value center) with ⟨size, -⟩ | ⟨size, -⟩
    · have above := lowSign (by linarith)
      linarith
    · have below := highSign (by linarith)
      linarith

/-- Below the limit both ends are finite. -/
theorem isFinite_ends (below : |value center| < value flatLimit) :
    low.isFinite = true ∧ high.isFinite = true := by
  have reach := isFlatSpan.isMargin.add_lt_overflowBound below
  have least := isFlatSpan.isMargin.one_le
  have size : |value margin| = value margin := abs_of_nonneg (by linarith)
  constructor
  · apply isFlatSpan.low_rounds.isFinite_of_abs_lt
    have triangle := abs_sub (value center) (value margin)
    linarith
  · apply isFlatSpan.high_rounds.isFinite_of_abs_lt
    have triangle := abs_add_le (value center) (value margin)
    linarith

/-- Past the limit an end may only be finite where the limit is met. -/
theorem eq_limit_of_isFinite
    (above : value flatLimit ≤ |value center|)
    (lowFinite : low.isFinite = true)
    (highFinite : high.isFinite = true) :
    |value center| = value flatLimit := by
  apply isFlatSpan.isMargin.eq_limit_of_add_le above
  have lowBound := abs_le.mp (isFlatSpan.low_rounds.isRounded.abs_le_overflowBound lowFinite)
  have highBound := abs_le.mp (isFlatSpan.high_rounds.isRounded.abs_le_overflowBound highFinite)
  rcases abs_cases (value center) with ⟨size, -⟩ | ⟨size, -⟩ <;> linarith

end IsFlatSpan

theorem isFlatSpan_of_same
    {min max : Float}
    (minFinite : min.isFinite = true)
    (maxFinite : max.isFinite = true)
    (same : value max = value min) :
    IsFlatSpan min (room min max) (min - room min max) (max + room min max) := by
  obtain ⟨roomFinite, isMargin⟩ := isFlatMargin_room minFinite maxFinite same
  have highRounds := roundsTo_add maxFinite roomFinite
  rw [same] at highRounds
  exact ⟨minFinite, roomFinite, isMargin, roundsTo_sub minFinite roomFinite, highRounds⟩

/-- Where equal values meet the limit, the end away from zero is not finite. -/
theorem not_isFinite_ends_of_eq_limit
    {min max : Float}
    (minFinite : min.isFinite = true)
    (maxFinite : max.isFinite = true)
    (same : value max = value min)
    (meets : |value min| = value flatLimit) :
    ¬((min - room min max).isFinite = true ∧ (max + room min max).isFinite = true) := by
  have limitFinite : flatLimit.isFinite = true := rfl
  have negatedFinite : (-flatLimit).isFinite = true := rfl
  have positive : 0 < value flatLimit := by linarith [one_le_limit_div_twenty]
  have negated : value (-flatLimit) = -value flatLimit := by
    rw [value_flatLimit]
    change signed .negative (((8578285004515230 : Nat) : ℚ) * 2 ^ (971 : Int)) = _
    rw [signed, topUnit]
    norm_num
  rcases abs_cases (value min) with ⟨size, -⟩ | ⟨size, -⟩
  · have minIs := eq_of_value_eq minFinite limitFinite (by linarith) positive.ne'
    have maxIs := eq_of_value_eq maxFinite limitFinite (by linarith) positive.ne'
    rw [minIs, maxIs]
    decide +kernel
  · have minIs := eq_of_value_eq minFinite negatedFinite (by linarith) (by linarith)
    have maxIs := eq_of_value_eq maxFinite negatedFinite (by linarith) (by linarith)
    rw [minIs, maxIs]
    decide +kernel

/-! ## Refusals -/

section Bounds

variable
  {min max : Float}
  (minFinite : min.isFinite = true)
  (maxFinite : max.isFinite = true)

include minFinite maxFinite

/-- Bounds that are apart are refused when their distance is not finite, and only then. -/
theorem ofBounds?_eq_error_iff_of_lt (apart : value min < value max) :
    ofBounds? min max = .error (.range min max) ↔ (max - min).isFinite = false := by
  constructor
  · intro refused
    rw [← Bool.not_eq_true]
    intro distanceFinite
    have positive : 0.0 < max - min := by
      rw [lt_iff_value_lt isFinite_zero distanceFinite, value_zero,
        value_sub_pos_iff maxFinite minFinite distanceFinite]
      exact apart
    unfold ofBounds? at refused
    dsimp only at refused
    split_ifs at refused with padded plain
    exact plain ⟨distanceFinite, positive⟩
  · intro distanceInfinite
    have tooWide : ((max + room min max) - (min - room min max)).isFinite ≠ true := by
      -- The room is a part of the distance.
      intro widthFinite
      have roomFinite := (isFinite_of_add (isFinite_of_sub widthFinite).1).2
      have different : ¬(max - min == 0.0) = true := by
        rw [sub_beq_zero_iff maxFinite minFinite]
        exact apart.ne'
      unfold room at roomFinite
      rw [if_neg different] at roomFinite
      have distanceFinite := isFinite_of_div isFinite_twenty roomFinite
      rw [distanceInfinite] at distanceFinite
      contradiction
    unfold ofBounds?
    dsimp only
    rw [if_neg (fun padded => tooWide padded.1), if_neg]
    rw [distanceInfinite]
    exact fun plain => absurd plain.1 Bool.false_ne_true

/-- Equal bounds are refused from the limit on. -/
theorem ofBounds?_eq_error_iff_of_same (same : value max = value min) :
    ofBounds? min max = .error (.range min max) ↔ value flatLimit ≤ |value min| := by
  have isFlatSpan := isFlatSpan_of_same minFinite maxFinite same
  have noDistance : ¬0.0 < max - min := by
    have distanceFinite := isFinite_sub_of_value_eq maxFinite minFinite same
    rw [lt_iff_value_lt isFinite_zero distanceFinite, value_zero,
      value_sub_pos_iff maxFinite minFinite distanceFinite, same]
    exact lt_irrefl _
  have endsFinite_iff :
      ((min - room min max).isFinite = true ∧ (max + room min max).isFinite = true) ↔
        |value min| < value flatLimit := by
    refine ⟨?_, isFlatSpan.isFinite_ends⟩
    rintro ⟨lowFinite, highFinite⟩
    by_contra! above
    have meets := isFlatSpan.eq_limit_of_isFinite above lowFinite highFinite
    exact not_isFinite_ends_of_eq_limit minFinite maxFinite same meets ⟨lowFinite, highFinite⟩
  rw [← not_lt, ← endsFinite_iff]
  unfold ofBounds?
  dsimp only
  rw [if_neg (fun plain : _ ∧ 0.0 < max - min => noDistance plain.2)]
  constructor
  · rintro refused ⟨lowFinite, highFinite⟩
    have ordered := (lt_iff_value_lt lowFinite highFinite).mpr
      (isFlatSpan.isMargin.lt minFinite (isFlatSpan.low_rounds.isRounded.nearest lowFinite)
        (isFlatSpan.high_rounds.isRounded.nearest highFinite))
    rw [if_pos ⟨isFlatSpan.isFinite_width lowFinite highFinite, ordered⟩] at refused
    contradiction
  · intro notFinite
    rw [if_neg]
    rintro ⟨widthFinite, -⟩
    exact notFinite (isFinite_of_sub widthFinite).symm

theorem isOutOfRange_iff_of_lt (apart : value min < value max) :
    IsOutOfRange min max ↔ (max - min).isFinite = false := by
  rw [← (roundsTo_sub maxFinite minFinite).isInf_iff]
  constructor
  · rintro (distance | ⟨same, -⟩)
    · exact distance
    · exact absurd ((beq_iff_value_eq minFinite maxFinite).mp same) apart.ne
  · exact .apart

theorem isOutOfRange_iff_of_same (same : value max = value min) :
    IsOutOfRange min max ↔ value flatLimit ≤ |value min| := by
  have limitFinite : flatLimit.isFinite = true := rfl
  rw [← value_abs minFinite, ← le_iff_value_le limitFinite (isFinite_abs minFinite)]
  constructor
  · rintro (distance | ⟨-, large⟩)
    · rw [(roundsTo_sub maxFinite minFinite).isInf_iff,
        isFinite_sub_of_value_eq maxFinite minFinite same] at distance
      contradiction
    · exact large
  · exact .flat ((beq_iff_value_eq minFinite maxFinite).mpr same.symm)

/-- Bounds in order are refused exactly when they are out of range. -/
theorem ofBounds?_eq_error_iff (bounds : value min ≤ value max) :
    ofBounds? min max = .error (.range min max) ↔ IsOutOfRange min max := by
  rcases bounds.lt_or_eq with apart | same
  · rw [ofBounds?_eq_error_iff_of_lt minFinite maxFinite apart,
      isOutOfRange_iff_of_lt minFinite maxFinite apart]
  · rw [ofBounds?_eq_error_iff_of_same minFinite maxFinite same.symm,
      isOutOfRange_iff_of_same minFinite maxFinite same.symm]

end Bounds

/-- Finite values fit on no axis exactly when they are out of range: their distance overflows, or
they are all equal and too large for room beside them.  The fault names the least and the greatest
of them, and in range there is a span. -/
theorem fit?_refuses_out_of_range
    {values : List Float}
    (nonempty : values ≠ [])
    (finite : ∀ value ∈ values, value.isFinite = true) :
    ∃ min max, extremes? values = some (min, max) ∧ min ∈ values ∧ max ∈ values ∧
      (∀ value ∈ values, min ≤ value ∧ value ≤ max) ∧
      (∀ fault, fit? values = .error fault ↔
        fault = .range min max ∧ IsOutOfRange min max) ∧
      (¬IsOutOfRange min max → ∃ span, fit? values = .ok span) := by
  obtain ⟨min, max, found, extremes⟩ := exists_extremes nonempty finite
  have minMember := extremes.least.mem
  have maxMember := extremes.greatest.mem
  have minFinite := finite min minMember
  have maxFinite := finite max maxMember
  have fit_eq : fit? values = ofBounds? min max := by
    unfold fit?
    rw [found]
  have refused_iff : ∀ fault, fit? values = .error fault ↔
      fault = .range min max ∧ IsOutOfRange min max := by
    intro fault
    rw [fit_eq, ← ofBounds?_eq_error_iff minFinite maxFinite (extremes.between maxMember).1]
    constructor
    · intro refused
      have named := ofBounds?_eq_error refused
      exact ⟨named, named ▸ refused⟩
    · rintro ⟨rfl, refused⟩
      exact refused
  refine ⟨min, max, found, minMember, maxMember, ?_, refused_iff, ?_⟩
  · intro value member
    exact (between_iff_value minFinite maxFinite (finite value member)).mpr
      (extremes.between member)
  · intro inRange
    cases fitted : fit? values with
    | error fault => exact absurd ((refused_iff fault).mp fitted).2 inRange
    | ok span => exact ⟨span, rfl⟩

/-- Two equal values at the limit. -/
def limitValues : List Float := [flatLimit, flatLimit]

theorem fit?_limitValues :
    limitValues ≠ [] ∧ (∀ value ∈ limitValues, value.isFinite = true) ∧
      fit? limitValues = .error (.range flatLimit flatLimit) := by
  have nonempty : limitValues ≠ [] := List.cons_ne_nil _ _
  have finite : ∀ value ∈ limitValues, value.isFinite = true := by decide +kernel
  refine ⟨nonempty, finite, ?_⟩
  obtain ⟨min, max, found, -, -, -, refused_iff, -⟩ := fit?_refuses_out_of_range nonempty finite
  have bounds : extremes? limitValues = some (flatLimit, flatLimit) := rfl
  rw [bounds] at found
  obtain ⟨rfl, rfl⟩ := Prod.mk.inj (Option.some.inj found)
  exact (refused_iff _).mpr ⟨rfl, .flat (by decide +kernel) (by decide +kernel)⟩

-- The number just below the limit still has room on both sides.
example : (fit? [Float.ofBits 0x7FEE79E79E79E79D]).toBool = true := by
  decide +kernel

/-- The greatest number. -/
def greatestNumber : Float := Float.ofBits 0x7FEFFFFFFFFFFFFF

/-- The greatest number alone fits on no axis, although its distance from itself is zero. -/
theorem fit?_greatestNumber :
    greatestNumber.isFinite = true ∧ (greatestNumber - greatestNumber).isInf = false ∧
      fit? [greatestNumber] = .error (.range greatestNumber greatestNumber) := by
  have finite : greatestNumber.isFinite = true := rfl
  have flat : IsOutOfRange greatestNumber greatestNumber :=
    .flat (by decide +kernel) (by decide +kernel)
  exact ⟨finite, by decide +kernel, (ofBounds?_eq_error_iff finite finite le_rfl).mpr flat⟩

end Span
end LatencyChart
