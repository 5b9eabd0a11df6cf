import LatencyChart.Chart.Basic
import LatencyChart.Text.Blank

/-!
# Maximal runs

A list falls into gaps, whose elements separate, and runs, whose elements do not.  A run is
maximal when a separator, or nothing, stands on both of its sides.  The fields of a text and
the lines of a chart are maximal runs: the first of characters that are not blank, the
second of finite samples.

`MaximalRuns` states the cut without saying how it is found, and `runsOf` finds it.
`IsStretch` says where in the list a maximal run stands.
-/

namespace LatencyChart

/-- A list holds exactly the given maximal runs, in order. -/
inductive MaximalRuns {α : Type} (separates : α → Bool) : List α → List (List α) → Prop
  | none {gap : List α}
      (gapSeparates : ∀ element ∈ gap, separates element = true) :
      MaximalRuns separates gap []
  | next {gap run rest : List α} {runs : List (List α)}
      (gapSeparates : ∀ element ∈ gap, separates element = true)
      (runNonempty : run ≠ [])
      (runHolds : ∀ element ∈ run, separates element = false)
      (runEnds : ∀ element ∈ rest.head?, separates element = true)
      (later : MaximalRuns separates rest runs) :
      MaximalRuns separates (gap ++ run ++ rest) (run :: runs)

/-- The pieces of a list between its separators, without the empty ones. -/
def runsOf {α : Type} (separates : α → Bool) (list : List α) : List (List α) :=
  (list.splitOnP separates).filter fun run => !run.isEmpty

theorem fields_eq_runsOf (text : List Char) :
    Text.fields text = runsOf Text.isBlank text := rfl

theorem finiteRuns_eq_runsOf (series : Series) :
    series.finiteRuns = runsOf (fun sample => !sample.isFinite) series.samples := rfl

section Cutting

variable {α : Type} {separates : α → Bool}

@[simp] theorem runsOf_nil : runsOf separates ([] : List α) = [] := rfl

/-- Runs never reach across a separator. -/
theorem runsOf_append_separator
    (before after : List α)
    {separator : α}
    (isSeparator : separates separator = true) :
    runsOf separates (before ++ separator :: after) =
      runsOf separates before ++ runsOf separates after := by
  unfold runsOf
  rw [List.splitOnP_append_cons before after isSeparator, List.filter_append]

theorem runsOf_cons_separator
    (rest : List α)
    {separator : α}
    (isSeparator : separates separator = true) :
    runsOf separates (separator :: rest) = runsOf separates rest :=
  runsOf_append_separator [] rest isSeparator

/-- A gap in front belongs to no run. -/
theorem runsOf_gap_append
    {gap : List α}
    (gapSeparates : ∀ element ∈ gap, separates element = true)
    (rest : List α) :
    runsOf separates (gap ++ rest) = runsOf separates rest := by
  induction gap with
  | nil => rfl
  | cons separator gap inductionHypothesis =>
      rw [List.cons_append, runsOf_cons_separator _ (gapSeparates separator (by simp))]
      exact inductionHypothesis fun element member =>
        gapSeparates element (List.mem_cons_of_mem separator member)

/-- A run in front that ends at a separator, or at the end, is the first run. -/
theorem runsOf_run_append
    {run rest : List α}
    (runNonempty : run ≠ [])
    (runHolds : ∀ element ∈ run, separates element = false)
    (runEnds : ∀ element ∈ rest.head?, separates element = true) :
    runsOf separates (run ++ rest) = run :: runsOf separates rest := by
  have kept : (!run.isEmpty) = true := by simpa using runNonempty
  cases rest with
  | nil => simp [runsOf, List.splitOnP_eq_singleton runHolds, kept]
  | cons separator rest =>
      have isSeparator : separates separator = true := runEnds separator rfl
      rw [runsOf_append_separator run rest isSeparator, runsOf_cons_separator rest isSeparator]
      simp [runsOf, List.splitOnP_eq_singleton runHolds, kept]

/-- Where a separator, or nothing, stands on one side of a cut, no run reaches across it. -/
theorem runsOf_append
    {before after : List α}
    (apart :
      (∀ element ∈ before.getLast?, separates element = true) ∨
        ∀ element ∈ after.head?, separates element = true) :
    runsOf separates (before ++ after) = runsOf separates before ++ runsOf separates after := by
  rcases apart with beforeEnds | afterStarts
  · rcases List.eq_nil_or_concat before with rfl | ⟨front, separator, rfl⟩
    · rfl
    · have isSeparator : separates separator = true := beforeEnds separator (by simp)
      rw [List.concat_eq_append, List.append_assoc, List.singleton_append,
        runsOf_append_separator front _ isSeparator, runsOf_append_separator front _ isSeparator,
        runsOf_nil, List.append_nil]
  · cases after with
    | nil => rw [List.append_nil, runsOf_nil, List.append_nil]
    | cons separator rest =>
        have isSeparator : separates separator = true := afterStarts separator rfl
        rw [runsOf_append_separator before rest isSeparator,
          runsOf_cons_separator rest isSeparator]

/-- A separator at an end of a list, or beside another separator, can be left out. -/
theorem runsOf_erase_separator
    {before after : List α}
    {separator : α}
    (isSeparator : separates separator = true)
    (apart :
      (∀ element ∈ before.getLast?, separates element = true) ∨
        ∀ element ∈ after.head?, separates element = true) :
    runsOf separates (before ++ after) = runsOf separates (before ++ separator :: after) := by
  rw [runsOf_append apart, runsOf_append_separator before after isSeparator]

/-- No list can be cut into maximal runs in two ways. -/
theorem MaximalRuns.runsOf_eq
    {list : List α}
    {runs : List (List α)}
    (maximal : MaximalRuns separates list runs) :
    runsOf separates list = runs := by
  induction maximal with
  | @none gap gapSeparates =>
      have empty := runsOf_gap_append gapSeparates []
      rwa [List.append_nil] at empty
  | next gapSeparates runNonempty runHolds runEnds _ inductionHypothesis =>
      rw [List.append_assoc, runsOf_gap_append gapSeparates,
        runsOf_run_append runNonempty runHolds runEnds, inductionHypothesis]

/-- A separator in front widens the first gap. -/
theorem MaximalRuns.cons_separator
    {list : List α}
    {runs : List (List α)}
    {separator : α}
    (isSeparator : separates separator = true)
    (maximal : MaximalRuns separates list runs) :
    MaximalRuns separates (separator :: list) runs := by
  cases maximal with
  | none gapSeparates =>
      exact .none (List.forall_mem_cons.mpr ⟨isSeparator, gapSeparates⟩)
  | @next gap run rest runs gapSeparates runNonempty runHolds runEnds later =>
      have longerGap : ∀ element ∈ separator :: gap, separates element = true :=
        List.forall_mem_cons.mpr ⟨isSeparator, gapSeparates⟩
      exact .next longerGap runNonempty runHolds runEnds later

/-- An element in front that does not separate starts a run, or lengthens the first one. -/
theorem MaximalRuns.exists_cons
    {list : List α}
    {runs : List (List α)}
    {first : α}
    (firstHolds : separates first = false)
    (maximal : MaximalRuns separates list runs) :
    ∃ longer, MaximalRuns separates (first :: list) longer := by
  have noGap : ∀ element ∈ ([] : List α), separates element = true := by simp
  have alone (rest : List α) (runs : List (List α))
      (ends : ∀ element ∈ rest.head?, separates element = true)
      (later : MaximalRuns separates rest runs) :
      MaximalRuns separates (first :: rest) ([first] :: runs) := by
    have runHolds : ∀ element ∈ [first], separates element = false := by simpa using firstHolds
    exact .next noGap (List.cons_ne_nil first []) runHolds ends later
  cases maximal with
  | none gapSeparates =>
      refine ⟨[[first]], alone list [] ?_ (.none gapSeparates)⟩
      intro element member
      exact gapSeparates element (List.mem_of_mem_head? member)
  | @next gap run rest runs gapSeparates runNonempty runHolds runEnds later =>
      cases gap with
      | nil =>
          have longerHolds : ∀ element ∈ first :: run, separates element = false :=
            List.forall_mem_cons.mpr ⟨firstHolds, runHolds⟩
          exact ⟨(first :: run) :: runs,
            .next noGap (List.cons_ne_nil first run) longerHolds runEnds later⟩
      | cons separator gap =>
          refine ⟨[first] :: run :: runs, alone _ _ ?_
            (.next gapSeparates runNonempty runHolds runEnds later)⟩
          intro element member
          cases member
          exact gapSeparates separator (by simp)

theorem exists_maximalRuns (list : List α) :
    ∃ runs, MaximalRuns separates list runs := by
  induction list with
  | nil => exact ⟨[], .none (by simp)⟩
  | cons first rest inductionHypothesis =>
      obtain ⟨runs, maximal⟩ := inductionHypothesis
      cases firstHolds : separates first with
      | true => exact ⟨runs, maximal.cons_separator firstHolds⟩
      | false => exact maximal.exists_cons firstHolds

/-- Every list is cut into its maximal runs. -/
theorem maximalRuns_runsOf (list : List α) :
    MaximalRuns separates list (runsOf separates list) := by
  obtain ⟨runs, maximal⟩ : ∃ runs, MaximalRuns separates list runs := exists_maximalRuns list
  rw [maximal.runsOf_eq]
  exact maximal

/-- Two runs with one separator between them. -/
theorem maximalRuns_pair
    {first second : List α}
    {separator : α}
    (firstNonempty : first ≠ [])
    (firstHolds : ∀ element ∈ first, separates element = false)
    (isSeparator : separates separator = true)
    (secondNonempty : second ≠ [])
    (secondHolds : ∀ element ∈ second, separates element = false) :
    MaximalRuns separates (first ++ separator :: second) [first, second] := by
  have alone : runsOf separates second = [second] := by
    have nothingBehind : ∀ element ∈ ([] : List α).head?, separates element = true := by simp
    have cut := runsOf_run_append secondNonempty secondHolds nothingBehind
    rwa [List.append_nil, runsOf_nil] at cut
  have cut : runsOf separates (first ++ separator :: second) = [first, second] := by
    rw [runsOf_run_append firstNonempty firstHolds (by simpa using isSeparator),
      runsOf_cons_separator second isSeparator, alone]
  rw [← cut]
  exact maximalRuns_runsOf _

/-- A run is neither empty nor cut by a separator. -/
theorem MaximalRuns.mem
    {list run : List α}
    {runs : List (List α)}
    (maximal : MaximalRuns separates list runs)
    (member : run ∈ runs) :
    run ≠ [] ∧ ∀ element ∈ run, separates element = false := by
  induction maximal with
  | none => simp at member
  | next _ runNonempty runHolds _ _ inductionHypothesis =>
      rcases List.mem_cons.mp member with equal | later
      · rw [equal]
        exact ⟨runNonempty, runHolds⟩
      · exact inductionHypothesis later

/-- The runs hold the elements that do not separate, in order. -/
theorem MaximalRuns.flatten_eq_filter
    {list : List α}
    {runs : List (List α)}
    (maximal : MaximalRuns separates list runs) :
    runs.flatten = list.filter fun element => !separates element := by
  induction maximal with
  | none gapSeparates =>
      symm
      simpa [List.filter_eq_nil_iff] using gapSeparates
  | @next gap run rest _ gapSeparates _ runHolds _ _ inductionHypothesis =>
      have gapDropped : (gap.filter fun element => !separates element) = [] := by
        simpa [List.filter_eq_nil_iff] using gapSeparates
      have runKept : (run.filter fun element => !separates element) = run := by
        simpa [List.filter_eq_self] using runHolds
      rw [List.flatten_cons, inductionHypothesis, List.filter_append, List.filter_append,
        gapDropped, runKept, List.nil_append]

end Cutting

section Neighbours

variable {α : Type} {separates : α → Bool}

/-- The neighbours in a list, in order. -/
def neighbours (list : List α) : List (α × α) :=
  list.zip list.tail

@[simp] theorem neighbours_nil : neighbours ([] : List α) = [] := rfl

@[simp] theorem neighbours_singleton (element : α) : neighbours [element] = [] := rfl

@[simp] theorem neighbours_cons_cons (first second : α) (rest : List α) :
    neighbours (first :: second :: rest) = (first, second) :: neighbours (second :: rest) := rfl

theorem neighbours_map
    {β : Type}
    (function : α → β)
    (list : List α) :
    neighbours (list.map function) =
      (neighbours list).map fun pair => (function pair.1, function pair.2) := by
  unfold neighbours
  rw [← List.map_tail, List.zip_map]
  rfl

theorem neighbours_of_short
    {list : List α}
    (short : list.length < 2) :
    neighbours list = [] := by
  match list, short with
  | [], _ => rfl
  | [_], _ => rfl

/-- Whether neither of two neighbours separates. -/
def joined (separates : α → Bool) (pair : α × α) : Bool :=
  !separates pair.1 && !separates pair.2

/-- A separator in front adds no joined neighbours. -/
theorem joinedNeighbours_cons_separator
    (list : List α)
    {separator : α}
    (isSeparator : separates separator = true) :
    (neighbours (separator :: list)).filter (joined separates) =
      (neighbours list).filter (joined separates) := by
  cases list with
  | nil => rfl
  | cons second rest => simp [joined, isSeparator]

theorem joinedNeighbours_gap_append
    {gap : List α}
    (gapSeparates : ∀ element ∈ gap, separates element = true)
    (list : List α) :
    (neighbours (gap ++ list)).filter (joined separates) =
      (neighbours list).filter (joined separates) := by
  induction gap with
  | nil => rfl
  | cons separator gap inductionHypothesis =>
      obtain ⟨isSeparator, others⟩ := List.forall_mem_cons.mp gapSeparates
      rw [List.cons_append, joinedNeighbours_cons_separator _ isSeparator,
        inductionHypothesis others]

/-- All neighbours in a run are joined, and none across its end. -/
theorem joinedNeighbours_run_append
    {run rest : List α}
    (runHolds : ∀ element ∈ run, separates element = false)
    (runEnds : ∀ element ∈ rest.head?, separates element = true) :
    (neighbours (run ++ rest)).filter (joined separates) =
      neighbours run ++ (neighbours rest).filter (joined separates) := by
  induction run with
  | nil => rfl
  | cons first run inductionHypothesis =>
      obtain ⟨firstHolds, others⟩ := List.forall_mem_cons.mp runHolds
      have later := inductionHypothesis others
      cases run with
      | nil =>
          cases rest with
          | nil => rfl
          | cons separator rest =>
              have isSeparator : separates separator = true := runEnds separator rfl
              simp [joined, isSeparator]
      | cons second run =>
          have secondHolds : separates second = false := others second (by simp)
          rw [List.cons_append] at later ⊢
          simpa [joined, firstHolds, secondHolds] using later

/-- The neighbours inside the runs are the neighbours in the list of which neither
separates, each of them once and in order. -/
theorem MaximalRuns.neighbours_eq_filter
    {list : List α}
    {runs : List (List α)}
    (maximal : MaximalRuns separates list runs) :
    runs.flatMap neighbours = (neighbours list).filter (joined separates) := by
  induction maximal with
  | @none gap gapSeparates =>
      have empty := joinedNeighbours_gap_append gapSeparates []
      rw [List.append_nil] at empty
      rw [empty]
      rfl
  | next gapSeparates _ runHolds runEnds _ inductionHypothesis =>
      rw [List.append_assoc, joinedNeighbours_gap_append gapSeparates,
        joinedNeighbours_run_append runHolds runEnds, List.flatMap_cons, inductionHypothesis]

end Neighbours

/-! ## Positions of maximal runs -/

/-- The positions from `first` on and before `last` are a longest stretch on which a
property holds. -/
structure IsStretch (property : Nat → Prop) (first last : Nat) : Prop where
  nonempty : first < last
  holds : ∀ position, first ≤ position → position < last → property position
  starts : ∀ position, position + 1 = first → ¬property position
  ends : ¬property last

namespace IsStretch

variable {property : Nat → Prop} {first last otherFirst otherLast : Nat}

theorem first_le_of_overlap
    (stretch : IsStretch property first last)
    (other : IsStretch property otherFirst otherLast)
    (overlap : first < otherLast) :
    first ≤ otherFirst := by
  cases first with
  | zero => exact Nat.zero_le _
  | succ before =>
      rcases Nat.lt_or_ge otherFirst (before + 1) with earlier | later
      · have holds := other.holds before (by omega) (by omega)
        exact absurd holds (stretch.starts before rfl)
      · exact later

theorem last_le_of_overlap
    (stretch : IsStretch property first last)
    (other : IsStretch property otherFirst otherLast)
    (overlap : first < otherLast) :
    last ≤ otherLast := by
  rcases Nat.lt_or_ge otherLast last with longer | fits
  · exact absurd (stretch.holds otherLast (by omega) longer) other.ends
  · exact fits

/-- Longest stretches that share a position are the same. -/
theorem eq_of_overlap
    (stretch : IsStretch property first last)
    (other : IsStretch property otherFirst otherLast)
    (overlap : first < otherLast)
    (otherOverlap : otherFirst < last) :
    first = otherFirst ∧ last = otherLast :=
  ⟨Nat.le_antisymm (stretch.first_le_of_overlap other overlap)
      (other.first_le_of_overlap stretch otherOverlap),
    Nat.le_antisymm (stretch.last_le_of_overlap other overlap)
      (other.last_le_of_overlap stretch otherOverlap)⟩

/-- Going back from a position on which a property holds leads to a start. -/
theorem exists_start
    {position : Nat}
    (holds : property position) :
    ∃ first, first ≤ position ∧
      (∀ passed, first ≤ passed → passed ≤ position → property passed) ∧
        ∀ before, before + 1 = first → ¬property before := by
  induction position with
  | zero =>
      refine ⟨0, Nat.le_refl 0, ?_, ?_⟩
      · intro passed _ atMost
        rwa [Nat.le_zero.mp atMost]
      · intro before next
        contradiction
  | succ earlier inductionHypothesis =>
      rcases Classical.em (property earlier) with goesOn | starts
      · obtain ⟨first, atMost, passes, isStart⟩ := inductionHypothesis goesOn
        refine ⟨first, Nat.le_succ_of_le atMost, ?_, isStart⟩
        intro passed fromFirst upTo
        rcases Nat.le_succ_iff.mp upTo with inside | here
        · exact passes passed fromFirst inside
        · rwa [here]
      · refine ⟨earlier + 1, Nat.le_refl _, ?_, ?_⟩
        · intro passed fromFirst upTo
          rwa [Nat.le_antisymm upTo fromFirst]
        · intro before next
          rwa [Nat.succ.inj next]

/-- Going on from a position on which a property holds to one on which it does not leads
past an end. -/
theorem exists_end
    {position distance : Nat}
    (holds : property position)
    (fails : ¬property (position + distance)) :
    ∃ last, position < last ∧
      (∀ passed, position ≤ passed → passed < last → property passed) ∧ ¬property last := by
  induction distance generalizing position with
  | zero => exact absurd holds fails
  | succ distance inductionHypothesis =>
      rcases Classical.em (property (position + 1)) with goesOn | ends
      · rw [← Nat.add_assoc, Nat.add_right_comm] at fails
        obtain ⟨last, beyond, passes, isEnd⟩ := inductionHypothesis goesOn fails
        refine ⟨last, Nat.lt_of_succ_lt beyond, ?_, isEnd⟩
        intro passed fromHere upTo
        rcases Nat.eq_or_lt_of_le fromHere with here | later
        · rwa [← here]
        · exact passes passed later upTo
      · refine ⟨position + 1, Nat.lt_succ_self position, ?_, ends⟩
        intro passed fromHere upTo
        rwa [Nat.le_antisymm (Nat.le_of_lt_succ upTo) fromHere]

/-- A position on which a property holds lies in a longest stretch, if the property fails
further on. -/
theorem exists_of_holds
    {position distance : Nat}
    (holds : property position)
    (fails : ¬property (position + distance)) :
    ∃ first last, IsStretch property first last ∧ first ≤ position ∧ position < last := by
  obtain ⟨first, atMost, passesBack, isStart⟩ := exists_start holds
  obtain ⟨last, beyond, passesOn, isEnd⟩ := exists_end holds fails
  refine ⟨first, last, ⟨Nat.lt_of_le_of_lt atMost beyond, ?_, isStart, isEnd⟩, atMost, beyond⟩
  intro passed fromFirst upTo
  rcases Nat.le_total passed position with back | on
  · exact passesBack passed fromFirst back
  · exact passesOn passed on upTo

theorem shift_iff
    {shifted : Nat → Prop}
    (distance : Nat)
    (agrees : ∀ position, shifted (position + distance) ↔ property position)
    (fresh : ¬property 0) :
    IsStretch shifted (first + distance) (last + distance) ↔ IsStretch property first last := by
  constructor
  · rintro ⟨nonempty, holds, starts, ends⟩
    refine ⟨by omega, ?_, ?_, fun held => ends ((agrees last).mpr held)⟩
    · intro position afterFirst beforeLast
      exact (agrees position).mp (holds _ (by omega) (by omega))
    · intro position next held
      exact starts (position + distance) (by omega) ((agrees position).mpr held)
  · rintro ⟨nonempty, holds, starts, ends⟩
    have positive : first ≠ 0 := by
      rintro rfl
      exact fresh (holds 0 (Nat.le_refl 0) nonempty)
    refine ⟨by omega, ?_, ?_, fun held => ends ((agrees last).mp held)⟩
    · intro position afterFirst beforeLast
      obtain ⟨before, rfl⟩ := Nat.exists_eq_add_of_le' (Nat.le_trans (by omega) afterFirst :
        distance ≤ position)
      exact (agrees before).mpr (holds before (by omega) (by omega))
    · intro position next held
      obtain ⟨before, rfl⟩ := Nat.exists_eq_add_of_le' (by omega : distance ≤ position)
      exact starts before (by omega) ((agrees before).mp held)

end IsStretch

section Positions

variable {α : Type} {separates : α → Bool}

/-- An element that does not separate stands at a position. -/
def HoldsAt
    (separates : α → Bool)
    (list : List α)
    (position : Nat) : Prop :=
  ∃ element, list[position]? = some element ∧ separates element = false

/-- The elements from the first bound on and before the second. -/
def between (list : List α) (bounds : Nat × Nat) : List α :=
  (list.drop bounds.1).take (bounds.2 - bounds.1)

/-- Bounds moved by a distance. -/
def shiftBounds (distance : Nat) (bounds : Nat × Nat) : Nat × Nat :=
  (bounds.1 + distance, bounds.2 + distance)

theorem between_append_shift
    (front list : List α)
    (bounds : Nat × Nat) :
    between (front ++ list) (shiftBounds front.length bounds) = between list bounds := by
  unfold between shiftBounds
  rw [List.drop_append, List.drop_eq_nil_of_le (Nat.le_add_left _ _), Nat.add_sub_cancel,
    Nat.add_sub_add_right, List.nil_append]

theorem between_run
    (gap run rest : List α) :
    between (gap ++ run ++ rest) (gap.length, (gap ++ run).length) = run := by
  unfold between
  rw [List.append_assoc, List.drop_left, List.length_append, Nat.add_sub_cancel_left,
    List.take_left]

theorem holdsAt_append_right
    (front list : List α)
    (position : Nat) :
    HoldsAt separates (front ++ list) (position + front.length) ↔
      HoldsAt separates list position := by
  unfold HoldsAt
  rw [List.getElem?_append_right (Nat.le_add_left _ _), Nat.add_sub_cancel]

theorem holdsAt_append_left
    {front : List α}
    (list : List α)
    {position : Nat}
    (inFront : position < front.length) :
    HoldsAt separates (front ++ list) position ↔ HoldsAt separates front position := by
  unfold HoldsAt
  rw [List.getElem?_append_left inFront]

theorem not_holdsAt_of_all_separate
    {list : List α}
    (allSeparate : ∀ element ∈ list, separates element = true)
    (position : Nat) :
    ¬HoldsAt separates list position := by
  rintro ⟨element, found, holds⟩
  have separated := allSeparate element (List.mem_of_getElem? found)
  rw [holds] at separated
  contradiction

theorem holdsAt_of_none_separates
    {list : List α}
    (noneSeparates : ∀ element ∈ list, separates element = false)
    {position : Nat}
    (inside : position < list.length) :
    HoldsAt separates list position :=
  ⟨list[position], List.getElem?_eq_getElem inside, noneSeparates _ (List.getElem_mem inside)⟩

theorem not_holdsAt_zero
    {list : List α}
    (ends : ∀ element ∈ list.head?, separates element = true) :
    ¬HoldsAt separates list 0 := by
  rintro ⟨element, found, holds⟩
  have separated := ends element (by rw [List.head?_eq_getElem?, found]; rfl)
  rw [holds] at separated
  contradiction

/-- The run behind a gap is a longest stretch. -/
theorem isStretch_run
    {gap run rest : List α}
    (gapSeparates : ∀ element ∈ gap, separates element = true)
    (runNonempty : run ≠ [])
    (runHolds : ∀ element ∈ run, separates element = false)
    (runEnds : ∀ element ∈ rest.head?, separates element = true) :
    IsStretch (HoldsAt separates (gap ++ run ++ rest)) gap.length (gap ++ run).length := by
  have positive : 0 < run.length := List.length_pos_iff.mpr runNonempty
  refine ⟨by rw [List.length_append]; omega, ?_, ?_, ?_⟩
  · intro position afterFirst beforeLast
    obtain ⟨offset, rfl⟩ := Nat.exists_eq_add_of_le' afterFirst
    rw [holdsAt_append_left rest beforeLast, holdsAt_append_right]
    rw [List.length_append] at beforeLast
    exact holdsAt_of_none_separates runHolds (by omega)
  · intro position next
    rw [List.append_assoc, holdsAt_append_left _ (by omega)]
    exact not_holdsAt_of_all_separate gapSeparates position
  · have behind : HoldsAt separates (gap ++ run ++ rest) (0 + (gap ++ run).length) ↔
        HoldsAt separates rest 0 := holdsAt_append_right (gap ++ run) rest 0
    rw [Nat.zero_add] at behind
    rw [behind]
    exact not_holdsAt_zero runEnds

/-- Behind a gap the first longest stretch is the run that follows it, and the others are
those of the rest. -/
theorem isStretch_append_append
    {gap run rest : List α}
    (gapSeparates : ∀ element ∈ gap, separates element = true)
    (runNonempty : run ≠ [])
    (runHolds : ∀ element ∈ run, separates element = false)
    (runEnds : ∀ element ∈ rest.head?, separates element = true)
    (first last : Nat) :
    IsStretch (HoldsAt separates (gap ++ run ++ rest)) first last ↔
      (first = gap.length ∧ last = (gap ++ run).length) ∨
        ∃ bounds : Nat × Nat, IsStretch (HoldsAt separates rest) bounds.1 bounds.2 ∧
          shiftBounds (gap ++ run).length bounds = (first, last) := by
  have firstRun := isStretch_run gapSeparates runNonempty runHolds runEnds
  have shifts (first last : Nat) :
      IsStretch (HoldsAt separates (gap ++ run ++ rest)) (first + (gap ++ run).length)
          (last + (gap ++ run).length) ↔ IsStretch (HoldsAt separates rest) first last :=
    IsStretch.shift_iff (gap ++ run).length (holdsAt_append_right (gap ++ run) rest)
      (not_holdsAt_zero runEnds)
  constructor
  · intro stretch
    rcases Nat.lt_or_ge first (gap ++ run).length with inFront | behind
    · left
      have pastGap : gap.length ≤ first := by
        rcases Nat.lt_or_ge first gap.length with inGap | past
        · have holds := stretch.holds first (Nat.le_refl first) stretch.nonempty
          rw [List.append_assoc, holdsAt_append_left _ inGap] at holds
          exact absurd holds (not_holdsAt_of_all_separate gapSeparates first)
        · exact past
      exact stretch.eq_of_overlap firstRun inFront
        (Nat.lt_of_le_of_lt pastGap stretch.nonempty)
    · right
      obtain ⟨restFirst, rfl⟩ := Nat.exists_eq_add_of_le' behind
      obtain ⟨restLast, rfl⟩ := Nat.exists_eq_add_of_le'
        (Nat.le_trans behind (Nat.le_of_lt stretch.nonempty))
      exact ⟨(restFirst, restLast), (shifts restFirst restLast).mp stretch, rfl⟩
  · rintro (⟨rfl, rfl⟩ | ⟨bounds, stretch, shifted⟩)
    · exact firstRun
    · obtain ⟨rfl, rfl⟩ := Prod.mk.inj shifted
      exact (shifts bounds.1 bounds.2).mpr stretch

theorem not_holdsAt_of_length_le
    {list : List α}
    {position : Nat}
    (beyond : list.length ≤ position) :
    ¬HoldsAt separates list position := by
  rintro ⟨element, found, -⟩
  rw [List.getElem?_eq_none beyond] at found
  contradiction

/-- Every element that does not separate lies in a longest stretch. -/
theorem exists_isStretch_of_holdsAt
    {list : List α}
    {position : Nat}
    (holds : HoldsAt separates list position) :
    ∃ first last, IsStretch (HoldsAt separates list) first last ∧
      first ≤ position ∧ position < last :=
  IsStretch.exists_of_holds holds
    (not_holdsAt_of_length_le (Nat.le_add_left list.length position))

/-- A stretch of a list has one element at each of its positions. -/
theorem IsStretch.length_between
    {list : List α}
    {first last : Nat}
    (stretch : IsStretch (HoldsAt separates list) first last) :
    (between list (first, last)).length = last - first := by
  obtain ⟨element, found, -⟩ := stretch.holds (last - 1)
    (Nat.le_sub_one_of_lt stretch.nonempty) (Nat.sub_one_lt_of_lt stretch.nonempty)
  have inside : last - 1 < list.length := (List.getElem?_eq_some_iff.mp found).1
  simp only [between, List.length_take, List.length_drop]
  omega

/-- The maximal runs are the parts of the list on its longest stretches, in order. -/
theorem MaximalRuns.exists_bounds
    {list : List α}
    {runs : List (List α)}
    (maximal : MaximalRuns separates list runs) :
    ∃ bounds : List (Nat × Nat),
      runs = bounds.map (between list) ∧
        bounds.Pairwise (fun earlier later => earlier.2 < later.1) ∧
        ∀ first last, (first, last) ∈ bounds ↔ IsStretch (HoldsAt separates list) first last := by
  induction maximal with
  | none gapSeparates =>
      refine ⟨[], rfl, List.Pairwise.nil, fun first last => ?_⟩
      simp only [List.not_mem_nil, false_iff]
      intro stretch
      exact not_holdsAt_of_all_separate gapSeparates first
        (stretch.holds first (Nat.le_refl first) stretch.nonempty)
  | @next gap run rest runs gapSeparates runNonempty runHolds runEnds _ inductionHypothesis =>
      obtain ⟨bounds, runs_eq, ordered, complete⟩ := inductionHypothesis
      refine ⟨(gap.length, (gap ++ run).length) :: bounds.map (shiftBounds (gap ++ run).length),
        ?_, ?_, ?_⟩
      · rw [List.map_cons, between_run, runs_eq, List.map_map]
        congr 2
        funext bound
        exact (between_append_shift (gap ++ run) rest bound).symm
      · refine List.pairwise_cons.mpr ⟨?_, ?_⟩
        · intro later member
          obtain ⟨⟨first, last⟩, found, rfl⟩ := List.mem_map.mp member
          have stretch := (complete first last).mp found
          have positive : first ≠ 0 := by
            rintro rfl
            exact not_holdsAt_zero runEnds (stretch.holds 0 (Nat.le_refl 0) stretch.nonempty)
          simp only [shiftBounds]
          omega
        · refine List.pairwise_map.mpr (ordered.imp ?_)
          intro earlier later before
          simp only [shiftBounds]
          omega
      · intro first last
        rw [isStretch_append_append gapSeparates runNonempty runHolds runEnds, List.mem_cons,
          List.mem_map, Prod.mk.injEq]
        refine or_congr Iff.rfl (exists_congr fun bound => and_congr ?_ Iff.rfl)
        exact complete bound.1 bound.2

end Positions

end LatencyChart
