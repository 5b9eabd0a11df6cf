import LatencyChart.Series.Extremes
import Mathlib.Order.Lattice
import Mathlib.Order.OrderDual

/-!
# The extremes of a list

Where the elements of a list are compared as their keys in a linear order are, the extremes of
the list are elements with the least and the greatest key.  Of elements with equal keys it is the
first that is kept.
-/

namespace LatencyChart

/-- An element of a list whose key is the least one. -/
structure IsLeastBy {α β : Type} [LE β] (key : α → β) (least : α) (elements : List α) :
    Prop where
  mem : least ∈ elements
  le : ∀ element ∈ elements, key least ≤ key element

/-- Elements of a list with the least and the greatest key. -/
structure AreExtremes {α β : Type} [LE β] (key : α → β) (bounds : α × α)
    (elements : List α) : Prop where
  least : IsLeastBy key bounds.1 elements
  greatest : IsLeastBy (OrderDual.toDual ∘ key) bounds.2 elements

/-- All keys lie between those of the extremes. -/
theorem AreExtremes.between
    {α β : Type}
    [LE β]
    {key : α → β}
    {bounds : α × α}
    {elements : List α}
    (extremes : AreExtremes key bounds elements)
    {element : α}
    (member : element ∈ elements) :
    key bounds.1 ≤ key element ∧ key element ≤ key bounds.2 :=
  ⟨extremes.least.le element member, extremes.greatest.le element member⟩

theorem IsLeastBy.append
    {α β : Type}
    [LinearOrder β]
    {key : α → β}
    {least : α}
    {seen : List α}
    (isLeast : IsLeastBy key least seen)
    {element : α}
    {replaces : Prop}
    [Decidable replaces]
    (decides : replaces ↔ key element < key least) :
    IsLeastBy key (if replaces then element else least) (seen ++ [element]) := by
  constructor
  case mem =>
    split
    · exact List.mem_append_right seen (List.mem_singleton_self element)
    · exact List.mem_append_left [element] isLeast.mem
  case le =>
    intro other member
    rcases List.mem_append.mp member with old | new
    · have above := isLeast.le other old
      split
      · next replaced => exact (decides.mp replaced).le.trans above
      · exact above
    · rw [List.mem_singleton.mp new]
      split
      · exact le_rfl
      · next kept => exact not_lt.mp (mt decides.mpr kept)

/-- The first element of a list whose key is the least one. -/
structure IsFirstLeastBy {α β : Type} [LinearOrder β] (key : α → β) (least : α)
    (elements : List α) : Prop extends IsLeastBy key least elements where
  first : elements.find? (fun element => key element = key least) = some least

theorem IsFirstLeastBy.append
    {α β : Type}
    [LinearOrder β]
    {key : α → β}
    {least : α}
    {seen : List α}
    (isLeast : IsFirstLeastBy key least seen)
    {element : α}
    {replaces : Prop}
    [Decidable replaces]
    (decides : replaces ↔ key element < key least) :
    IsFirstLeastBy key (if replaces then element else least) (seen ++ [element]) := by
  refine ⟨isLeast.toIsLeastBy.append decides, ?_⟩
  rw [List.find?_append]
  split
  · next replaced =>
    -- A key that is less than the least one was not seen before.
    have noEqual : seen.find? (fun other => key other = key element) = none := by
      rw [List.find?_eq_none]
      intro other member
      have below := (decides.mp replaced).trans_le (isLeast.le other member)
      simpa using below.ne'
    rw [noEqual]
    simp
  · rw [isLeast.first]
    rfl

/-- The first elements of a list with the least and the greatest key. -/
structure AreFirstExtremes {α β : Type} [LinearOrder β] (key : α → β) (bounds : α × α)
    (elements : List α) : Prop where
  least : IsFirstLeastBy key bounds.1 elements
  greatest : IsFirstLeastBy (OrderDual.toDual ∘ key) bounds.2 elements

section Extremes

variable
  {α β : Type}
  [LT α] [DecidableLT α] [LinearOrder β]
  {key : α → β}

/-- Widening takes in one more element. -/
theorem AreFirstExtremes.widen
    {bounds : α × α}
    {seen : List α}
    (extremes : AreFirstExtremes key bounds seen)
    {element : α}
    (ordered : ∀ first ∈ seen ++ [element], ∀ second ∈ seen ++ [element],
      first < second ↔ key first < key second) :
    AreFirstExtremes key (LatencyChart.widen bounds element) (seen ++ [element]) := by
  have isNew := List.mem_append_right seen (List.mem_singleton_self element)
  have leastOld := List.mem_append_left [element] extremes.least.mem
  have greatestOld := List.mem_append_left [element] extremes.greatest.mem
  exact ⟨extremes.least.append (ordered element isNew bounds.1 leastOld),
    extremes.greatest.append (ordered bounds.2 greatestOld element isNew)⟩

theorem AreFirstExtremes.foldl_widen
    {bounds : α × α}
    {seen rest : List α}
    (extremes : AreFirstExtremes key bounds seen)
    (ordered : ∀ first ∈ seen ++ rest, ∀ second ∈ seen ++ rest,
      first < second ↔ key first < key second) :
    AreFirstExtremes key (rest.foldl LatencyChart.widen bounds) (seen ++ rest) := by
  induction rest generalizing bounds seen with
  | nil =>
      rw [List.append_nil]
      exact extremes
  | cons element rest inductionHypothesis =>
      rw [List.append_cons] at ordered ⊢
      apply inductionHypothesis
      · apply extremes.widen
        intro first firstMember second secondMember
        exact ordered first (List.mem_append_left rest firstMember) second
          (List.mem_append_left rest secondMember)
      · exact ordered

/-- The extremes of a list are the first elements with the least and the greatest key. -/
theorem areFirstExtremes_of_extremes?
    {elements : List α}
    (ordered : ∀ first ∈ elements, ∀ second ∈ elements,
      first < second ↔ key first < key second)
    {bounds : α × α}
    (found : extremes? elements = some bounds) :
    AreFirstExtremes key bounds elements := by
  cases elements with
  | nil => contradiction
  | cons first rest =>
      rw [extremes?_cons] at found
      rw [← Option.some.inj found]
      have alone : AreFirstExtremes key (first, first) [first] :=
        ⟨⟨⟨by simp, by simp⟩, by simp⟩, ⟨⟨by simp, by simp⟩, by simp⟩⟩
      exact alone.foldl_widen ordered

/-- The extremes of a list are elements with the least and the greatest key. -/
theorem areExtremes_of_extremes?
    {elements : List α}
    (ordered : ∀ first ∈ elements, ∀ second ∈ elements,
      first < second ↔ key first < key second)
    {bounds : α × α}
    (found : extremes? elements = some bounds) :
    AreExtremes key bounds elements := by
  have extremes := areFirstExtremes_of_extremes? ordered found
  exact ⟨extremes.least.toIsLeastBy, extremes.greatest.toIsLeastBy⟩

end Extremes
end LatencyChart
