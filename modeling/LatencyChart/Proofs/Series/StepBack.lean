import LatencyChart.Proofs.Number.Order
import LatencyChart.Proofs.Series.Concatenation
import Mathlib.Data.List.Chain

/-!
# The log of a loading

While a text is loaded, the first accepted time that is smaller than the one before it is reported,
and no other.  Without NaN among the times there is nothing to report exactly when they are in
order.  When the whole text was read, its samples and its blank lines are counted last.
-/

namespace LatencyChart
namespace Series

/-! ## Accepted samples -/

/-- The samples that are accepted up to the first faulty line, with the numbers of their lines.
Lines are numbered from `number` on. -/
inductive Accepts : Nat → List Bytes → List (Nat × Sample) → Prop
  | none {number : Nat} : Accepts number [] []
  | faulty {number : Nat} {line : Bytes} {lines : List Bytes} {fault : LoadFault}
      (isFaulty : IsFaultyLine number line fault) :
      Accepts number (line :: lines) []
  | blank {number : Nat} {line : Bytes} {lines : List Bytes} {accepted : List (Nat × Sample)}
      (isBlank : IsBlankLine line)
      (later : Accepts (number + 1) lines accepted) :
      Accepts number (line :: lines) accepted
  | sample {number : Nat} {line : Bytes} {sample : Sample} {lines : List Bytes}
      {accepted : List (Nat × Sample)}
      (holds : IsSampleLine line sample)
      (later : Accepts (number + 1) lines accepted) :
      Accepts number (line :: lines) ((number, sample) :: accepted)

theorem exists_accepts
    (number : Nat)
    (lines : List Bytes) :
    ∃ accepted, Accepts number lines accepted := by
  induction lines generalizing number with
  | nil => exact ⟨[], .none⟩
  | cons line lines inductionHypothesis =>
      obtain ⟨accepted, later⟩ := inductionHypothesis (number + 1)
      rcases isSoundLine_or_isFaultyLine number line with
        (blank | ⟨sample, holds⟩) | ⟨fault, faulty⟩
      · exact ⟨accepted, .blank blank later⟩
      · exact ⟨(number, sample) :: accepted, .sample holds later⟩
      · exact ⟨[], .faulty faulty⟩

/-- The accepted samples of a scan are those of its lines. -/
theorem Accepts.accepted_ofLines
    {number : Nat}
    {lines : List Bytes}
    {accepted : List (Nat × Sample)}
    (accepts : Accepts number lines accepted) :
    (Scan.ofLines (lines.map .ok) number).accepted = accepted := by
  induction accepts with
  | none => rfl
  | faulty isFaulty =>
      rw [List.map_cons, Scan.ofLines_cons, Scan.push, readLine_of_faulty isFaulty]
  | @blank number line lines accepted isBlank _ inductionHypothesis =>
      rw [List.map_cons, Scan.ofLines_cons, Scan.push, readLine_of_blank number isBlank]
      exact inductionHypothesis
  | @sample number line sample lines accepted holds _ inductionHypothesis =>
      rw [List.map_cons, Scan.ofLines_cons, Scan.push, readLine_of_sample number holds]
      exact congrArg ((number, sample) :: ·) inductionHypothesis

/-- Without a fault every line holds a sample or is counted as blank. -/
theorem Scan.length_add_blanks
    {lines : List RawLine}
    {number : Nat}
    (sound : (ofLines lines number).fault? = none) :
    (ofLines lines number).accepted.length + (ofLines lines number).blanks = lines.length := by
  induction lines generalizing number with
  | nil => rfl
  | cons line lines inductionHypothesis =>
      rw [ofLines_cons, push] at sound ⊢
      have counted := @inductionHypothesis (number + 1)
      generalize ofLines lines (number + 1) = later at sound counted ⊢
      cases reading : readLine number line with
      | error fault =>
          simp only [reading] at sound
          contradiction
      | ok held =>
          cases held with
          | blank =>
              simp only [reading] at sound ⊢
              rw [List.length_cons, ← counted sound, Nat.add_assoc]
          | sample sample =>
              simp only [reading] at sound ⊢
              rw [List.length_cons, List.length_cons, ← counted sound, Nat.add_right_comm]

/-! ## Steps back -/

/-- Behind an index the time is smaller than at it, and the event tells both times and the line of
the smaller one. -/
inductive StepsBackAt (accepted : List (Nat × Sample)) (index : Nat) : Event → Prop
  | intro {earlier later : Nat × Sample}
      (first : accepted[index]? = some earlier)
      (second : accepted[index + 1]? = some later)
      (back : later.2.time < earlier.2.time) :
      StepsBackAt accepted index (.timeGoesBack earlier.2.time later.2.time later.1)

/-- The event tells the step back with the least index. -/
def IsFirstStepBack (accepted : List (Nat × Sample)) (event : Event) : Prop :=
  ∃ index, StepsBackAt accepted index event ∧
    ∀ smaller < index, ∀ other, ¬StepsBackAt accepted smaller other

theorem stepsBackAt_succ_iff
    (first : Nat × Sample)
    (rest : List (Nat × Sample))
    (index : Nat)
    (event : Event) :
    StepsBackAt (first :: rest) (index + 1) event ↔ StepsBackAt rest index event := by
  constructor
  · rintro ⟨earlier, later, back⟩
    exact ⟨earlier, later, back⟩
  · rintro ⟨earlier, later, back⟩
    exact ⟨earlier, later, back⟩

theorem stepsBackAt_zero_iff
    (first second : Nat × Sample)
    (rest : List (Nat × Sample))
    (event : Event) :
    StepsBackAt (first :: second :: rest) 0 event ↔
      second.2.time < first.2.time ∧
        event = .timeGoesBack first.2.time second.2.time second.1 := by
  constructor
  · rintro ⟨earlier, later, back⟩
    obtain rfl := Option.some.inj earlier
    obtain rfl := Option.some.inj later
    exact ⟨back, rfl⟩
  · rintro ⟨back, rfl⟩
    exact ⟨rfl, rfl, back⟩

/-- Either no step back is found and there is none, or the first one is found. -/
theorem firstStepBack?_cases (accepted : List (Nat × Sample)) :
    (firstStepBack? accepted = none ∧ ∀ index event, ¬StepsBackAt accepted index event) ∨
      ∃ event, firstStepBack? accepted = some event ∧ IsFirstStepBack accepted event := by
  induction accepted with
  | nil =>
      refine Or.inl ⟨rfl, ?_⟩
      rintro index event ⟨first, -, -⟩
      contradiction
  | cons first rest inductionHypothesis =>
      cases rest with
      | nil =>
          refine Or.inl ⟨rfl, ?_⟩
          rintro index event ⟨-, second, -⟩
          contradiction
      | cons second rest =>
          rw [firstStepBack?]
          split
          · next back =>
            refine Or.inr ⟨_, rfl, 0, (stepsBackAt_zero_iff ..).mpr ⟨back, rfl⟩, ?_⟩
            intro smaller below
            contradiction
          · next forth =>
            -- Steps at later indices are those of the rest, one index further.
            have noneHere (event : Event) : ¬StepsBackAt (first :: second :: rest) 0 event :=
              fun steps => forth ((stepsBackAt_zero_iff ..).mp steps).1
            rcases inductionHypothesis with
              ⟨notFound, noneLater⟩ | ⟨event, found, index, steps, least⟩
            · refine Or.inl ⟨notFound, ?_⟩
              intro index event
              cases index with
              | zero => exact noneHere event
              | succ index => exact mt (stepsBackAt_succ_iff ..).mp (noneLater index event)
            · refine Or.inr ⟨event, found, index + 1, (stepsBackAt_succ_iff ..).mpr steps, ?_⟩
              intro smaller below other
              cases smaller with
              | zero => exact noneHere other
              | succ smaller =>
                  rw [stepsBackAt_succ_iff]
                  exact least smaller (Nat.lt_of_succ_lt_succ below) other

theorem firstStepBack?_eq_none_iff (accepted : List (Nat × Sample)) :
    firstStepBack? accepted = none ↔ ∀ index event, ¬StepsBackAt accepted index event := by
  rcases firstStepBack?_cases accepted with ⟨notFound, noSteps⟩ | ⟨event, found, index, steps, -⟩
  · exact iff_of_true notFound noSteps
  · rw [found]
    exact iff_of_false (Option.some_ne_none event) fun noSteps => noSteps index event steps

theorem StepsBackAt.unique
    {accepted : List (Nat × Sample)}
    {index : Nat}
    {event other : Event}
    (steps : StepsBackAt accepted index event)
    (otherSteps : StepsBackAt accepted index other) :
    event = other := by
  obtain ⟨first, second, -⟩ := steps
  obtain ⟨otherFirst, otherSecond, -⟩ := otherSteps
  obtain rfl := Option.some.inj (first.symm.trans otherFirst)
  obtain rfl := Option.some.inj (second.symm.trans otherSecond)
  rfl

/-- No two events tell the first step back. -/
theorem IsFirstStepBack.unique
    {accepted : List (Nat × Sample)}
    {event other : Event}
    (isFirst : IsFirstStepBack accepted event)
    (otherIsFirst : IsFirstStepBack accepted other) :
    event = other := by
  obtain ⟨index, steps, least⟩ := isFirst
  obtain ⟨otherIndex, otherSteps, otherLeast⟩ := otherIsFirst
  rcases lt_trichotomy index otherIndex with below | rfl | above
  · exact absurd steps (otherLeast index below event)
  · exact steps.unique otherSteps
  · exact absurd otherSteps (least otherIndex above other)

theorem firstStepBack?_eq_some_iff
    (accepted : List (Nat × Sample))
    (event : Event) :
    firstStepBack? accepted = some event ↔ IsFirstStepBack accepted event := by
  rcases firstStepBack?_cases accepted with ⟨notFound, noSteps⟩ | ⟨first, found, isFirst⟩
  · rw [notFound]
    refine iff_of_false (Option.some_ne_none event).symm ?_
    rintro ⟨index, steps, -⟩
    exact noSteps index event steps
  · rw [found, Option.some_inj]
    constructor
    · rintro rfl
      exact isFirst
    · exact isFirst.unique

/-! ## Times in order -/

/-- There is no step back exactly when the places of neighbouring times are in order. -/
theorem noStepBack_iff_isChain
    {accepted : List (Nat × Sample)}
    (numbers : ∀ line ∈ accepted, line.2.time.isNaN = false) :
    (∀ index event, ¬StepsBackAt accepted index event) ↔
      (accepted.map fun line => Binary64.place line.2.time).IsChain (· ≤ ·) := by
  have back_iff {earlier later : Nat × Sample} (earlierMember : earlier ∈ accepted)
      (laterMember : later ∈ accepted) :
      later.2.time < earlier.2.time ↔
        ¬Binary64.place earlier.2.time ≤ Binary64.place later.2.time := by
    rw [Binary64.lt_iff_place_lt (numbers later laterMember) (numbers earlier earlierMember),
      not_le]
  rw [List.isChain_map, List.isChain_iff_getElem]
  constructor
  · intro noSteps index bound
    by_contra unordered
    have back := (back_iff (List.getElem_mem _) (List.getElem_mem _)).mpr unordered
    exact noSteps index _
      ⟨List.getElem?_eq_getElem (by omega), List.getElem?_eq_getElem bound, back⟩
  · rintro ordered index event ⟨first, second, back⟩
    rw [back_iff (List.mem_of_getElem? first) (List.mem_of_getElem? second)] at back
    obtain ⟨laterBound, rfl⟩ := List.getElem?_eq_some_iff.mp second
    obtain ⟨earlierBound, rfl⟩ := List.getElem?_eq_some_iff.mp first
    exact back (ordered index laterBound)

/-- Times of which none is NaN are all in order when no time is smaller than the one before it,
and only then. -/
theorem noStepBack_iff_pairwise
    {accepted : List (Nat × Sample)}
    (numbers : ∀ line ∈ accepted, line.2.time.isNaN = false) :
    (∀ index event, ¬StepsBackAt accepted index event) ↔
      (accepted.map (·.2.time)).Pairwise (· ≤ ·) := by
  rw [noStepBack_iff_isChain numbers, List.isChain_iff_pairwise, List.pairwise_map,
    List.pairwise_map]
  apply List.Pairwise.iff_of_mem
  intro earlier later earlierMember laterMember
  exact (Binary64.le_iff_place_le (numbers earlier earlierMember)
    (numbers later laterMember)).symm

/-! ## The log of a text -/

/-- What the warnings of a loading are, by the samples that were accepted. -/
structure ReportsSteps (accepted : List (Nat × Sample)) (warnings : List Event) : Prop where
  atMostOne : warnings.length ≤ 1
  some_iff : warnings ≠ [] ↔ ∃ index event, StepsBackAt accepted index event
  mem_iff : ∀ event, event ∈ warnings ↔ IsFirstStepBack accepted event
  none_iff_ordered : (∀ line ∈ accepted, line.2.time.isNaN = false) →
    (warnings = [] ↔ (accepted.map (·.2.time)).Pairwise (· ≤ ·))

theorem reportsSteps_firstStepBack? (accepted : List (Nat × Sample)) :
    ReportsSteps accepted (firstStepBack? accepted).toList := by
  have none_iff := firstStepBack?_eq_none_iff accepted
  rw [← Option.toList_eq_nil_iff] at none_iff
  constructor
  case atMostOne => cases firstStepBack? accepted <;> simp
  case some_iff =>
    rw [ne_eq, none_iff]
    push Not
    rfl
  case mem_iff =>
    intro event
    rw [Option.mem_toList, firstStepBack?_eq_some_iff]
  case none_iff_ordered =>
    intro numbers
    rw [none_iff, noStepBack_iff_pairwise numbers]

/-- What is told while a text is loaded.  Of the samples up to the first faulty line, the first one
with a smaller time than the sample before it is reported, whatever becomes of the text.  Of a text
that is read as a whole, the samples and the blank lines are counted last, and together they are all
its lines.  A report leaves the series as it is. -/
theorem ofBytes_log_is_exact (text : Bytes) :
    ∃ lines accepted, CutIntoLines text lines ∧ Accepts 1 lines accepted ∧
      (ofBytes text).events = (ofBytes text).warnings ++ (ofBytes text).details ∧
      ReportsSteps accepted (ofBytes text).warnings ∧
      (∀ series, (ofBytes text).result = .ok series →
        series.samples = accepted.map (·.2) ∧
        ∃ blanks, (ofBytes text).details = [.parsed accepted.length blanks] ∧
          accepted.length + blanks = lines.length) ∧
      (∀ fault, (ofBytes text).result = .error fault → (ofBytes text).details = []) := by
  obtain ⟨lines, cut⟩ := exists_cut text
  obtain ⟨accepted, accepts⟩ := exists_accepts 1 lines
  have scan_eq : scanOf text = Scan.ofLines (lines.map .ok) 1 := by
    rw [scanOf, cut.linesOf_eq]
  have accepted_eq : (scanOf text).accepted = accepted := by
    rw [scan_eq, accepts.accepted_ofLines]
  refine ⟨lines, accepted, cut, accepts, ?_, ?_, ?_, ?_⟩
  · rw [warnings_ofBytes, details_ofBytes]
    rfl
  · rw [warnings_ofBytes, accepted_eq]
    exact reportsSteps_firstStepBack? accepted
  · intro series loaded
    obtain ⟨sound, rfl⟩ := (result_ofBytes_eq_ok_iff_fault? text series).mp loaded
    refine ⟨?_, (scanOf text).blanks, ?_, ?_⟩
    · rw [← accepted_eq]
      rfl
    · rw [details_ofBytes, sound, accepted_eq]
      rfl
    · rw [← accepted_eq]
      rw [scan_eq] at sound ⊢
      rw [Scan.length_add_blanks sound, List.length_map]
  · intro fault refused
    rw [result_ofBytes_eq_error_iff_fault?] at refused
    rw [details_ofBytes, refused]
    rfl

end Series
end LatencyChart
