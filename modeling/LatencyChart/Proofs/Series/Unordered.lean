import LatencyChart.Proofs.Number.Order
import LatencyChart.Proofs.Series.Extremes
import Mathlib.Order.Bounds.Basic

/-!
# Extremes among elements that compare with nothing

An element that is neither below nor above any other replaces no extreme, and where it stands first
nothing replaces it.  So the extremes of a list that begins with a number are those of the numbers
in it, whatever NaNs stand between them.  In a linear order every element has its say.
-/

namespace LatencyChart

/-! ## Elements that compare with nothing -/

/-- An element that is neither below nor above any element. -/
def IsUnordered {α : Type} [LT α] (element : α) : Prop :=
  ∀ other, ¬element < other ∧ ¬other < element

section Unordered

variable
  {α : Type}
  [LT α] [DecidableLT α]

theorem extremes?_eq_none_iff (elements : List α) :
    extremes? elements = none ↔ elements = [] := by
  cases elements with
  | nil => simp
  | cons first rest => simp

/-- An unordered element replaces no bound. -/
theorem IsUnordered.widen_eq
    {element : α}
    (unordered : IsUnordered element)
    (bounds : α × α) :
    widen bounds element = bounds := by
  rw [widen, if_neg (unordered bounds.1).1, if_neg (unordered bounds.2).2]

/-- An unordered element that is both bounds stays both. -/
theorem IsUnordered.foldl_widen_eq
    {first : α}
    (unordered : IsUnordered first)
    (rest : List α) :
    rest.foldl widen (first, first) = (first, first) := by
  apply List.foldl_fixed'
  intro element
  rw [widen, if_neg (unordered element).2, if_neg (unordered element).1]

/-- Unordered elements may be left out of a pass. -/
theorem foldl_widen_filter
    {keeps : α → Bool}
    (leftOut : ∀ element, keeps element = false → IsUnordered element)
    (elements : List α)
    (bounds : α × α) :
    (elements.filter keeps).foldl widen bounds = elements.foldl widen bounds := by
  rw [List.foldl_filter]
  congr 1
  funext bounds element
  split
  · rfl
  · next dropped =>
    exact ((leftOut element (Bool.eq_false_of_not_eq_true dropped)).widen_eq bounds).symm

/-- Unordered elements behind the first leave no trace. -/
theorem extremes?_filter
    {keeps : α → Bool}
    (leftOut : ∀ element, keeps element = false → IsUnordered element)
    {first : α}
    (kept : keeps first = true)
    (rest : List α) :
    extremes? ((first :: rest).filter keeps) = extremes? (first :: rest) := by
  rw [List.filter_cons_of_pos kept, extremes?_cons, extremes?_cons, foldl_widen_filter leftOut]

end Unordered

/-! ## A linear order -/

/-- In a linear order the extremes are the least and the greatest element. -/
theorem isLeast_isGreatest_of_extremes?
    {α : Type}
    [LE α] [LT α] [DecidableLT α] [Std.IsLinearOrder α] [Std.LawfulOrderLT α]
    {elements : List α}
    {bounds : α × α}
    (found : extremes? elements = some bounds) :
    IsLeast {element | element ∈ elements} bounds.1 ∧
      IsGreatest {element | element ∈ elements} bounds.2 := by
  classical
  let _ : LinearOrder α :=
    { le_refl := Std.le_refl
      le_trans := fun _ _ _ => Std.le_trans
      le_antisymm := fun _ _ => Std.le_antisymm
      le_total := fun _ _ => Std.le_total
      lt_iff_le_not_ge := Std.LawfulOrderLT.lt_iff
      toDecidableLE := Classical.decRel _ }
  have extremes : AreExtremes id bounds elements :=
    areExtremes_of_extremes? (fun _ _ _ _ => Iff.rfl) found
  exact ⟨⟨extremes.least.mem, extremes.least.le⟩, extremes.greatest.mem, extremes.greatest.le⟩

/-! ## Numbers -/

open Binary64

section Numbers

variable {α : Type}

/-- Whether an element stands for a number that is not NaN. -/
def standsForNumber (number : α → Float) (element : α) : Bool :=
  !(number element).isNaN

theorem standsForNumber_iff (number : α → Float) (element : α) :
    standsForNumber number element = true ↔ (number element).isNaN = false := by
  rw [standsForNumber, Bool.not_eq_true']

/-- Elements are compared as the numbers are that they stand for.  Numbers stand for themselves, and
patterns of bits for the numbers that they encode. -/
def AreComparedAs [LT α] (number : α → Float) : Prop :=
  ∀ first second : α, first < second ↔ number first < number second

/-- The bounds of elements some of which may stand for NaN. -/
structure AreNumberExtremes (number : α → Float) (bounds : α × α) (elements : List α) :
    Prop where
  least_mem : bounds.1 ∈ elements
  greatest_mem : bounds.2 ∈ elements
  /-- Of elements that stand for equal numbers the first is kept, so the zeros do not replace
  each other. -/
  least_first : elements.find? (fun element => number element == number bounds.1) = some bounds.1
  greatest_first :
    elements.find? (fun element => number element == number bounds.2) = some bounds.2
  between : ∀ element ∈ elements, (number element).isNaN = false →
    number bounds.1 ≤ number element ∧ number element ≤ number bounds.2

variable {number : α → Float}

/-- The first element with the least key among the numbers is the first that stands for its
number among all elements. -/
theorem IsFirstLeastBy.find?_beq
    {β : Type}
    [LinearOrder β]
    {key : α → β}
    {least : α}
    {elements : List α}
    (isFirst : IsFirstLeastBy key least (elements.filter (standsForNumber number)))
    (beq_iff_key_eq : ∀ element, (number element).isNaN = false →
      ((number element == number least) = true ↔ key element = key least)) :
    elements.find? (fun element => number element == number least) = some least := by
  rw [← isFirst.first, List.find?_filter]
  congr 1
  funext element
  cases isNaN : (number element).isNaN with
  | true =>
      rw [beq_eq_false_of_isNaN (Or.inl isNaN), standsForNumber, isNaN]
      rfl
  | false =>
      rw [Bool.eq_iff_iff, beq_iff_key_eq element isNaN, standsForNumber, isNaN]
      simp

section Comparison

variable
  [LT α]
  (comparedAs : AreComparedAs number)

include comparedAs

theorem AreComparedAs.isUnordered
    {element : α}
    (noNumber : standsForNumber number element = false) :
    IsUnordered element := by
  rw [standsForNumber, Bool.not_eq_false'] at noNumber
  intro other
  rw [comparedAs element other, comparedAs other element]
  exact ⟨not_lt_of_isNaN (Or.inl noNumber), not_lt_of_isNaN (Or.inr noNumber)⟩

variable [DecidableLT α]

/-- The extremes of numbers are those of their places. -/
theorem AreComparedAs.areFirstExtremes
    {elements : List α}
    {bounds : α × α}
    (found : extremes? (elements.filter (standsForNumber number)) = some bounds) :
    AreFirstExtremes (place ∘ number) bounds (elements.filter (standsForNumber number)) := by
  apply areFirstExtremes_of_extremes? _ found
  intro first firstMember second secondMember
  rw [comparedAs first second, lt_iff_place_lt]
  · rfl
  · exact (standsForNumber_iff _ _).mp (List.mem_filter.mp firstMember).2
  · exact (standsForNumber_iff _ _).mp (List.mem_filter.mp secondMember).2

theorem AreComparedAs.areNumberExtremes
    {elements : List α}
    {bounds : α × α}
    (found : extremes? (elements.filter (standsForNumber number)) = some bounds) :
    AreNumberExtremes number bounds elements := by
  have extremes := comparedAs.areFirstExtremes found
  have ⟨leastMember, leastStands⟩ := List.mem_filter.mp extremes.least.mem
  have ⟨greatestMember, greatestStands⟩ := List.mem_filter.mp extremes.greatest.mem
  rw [standsForNumber_iff] at leastStands greatestStands
  refine ⟨leastMember, greatestMember, ?_, ?_, ?_⟩
  · exact extremes.least.find?_beq fun _ isNumber => beq_iff_place_eq isNumber leastStands
  · exact extremes.greatest.find?_beq fun _ isNumber => beq_iff_place_eq isNumber greatestStands
  · intro element member isNumber
    have stands := (standsForNumber_iff number element).mpr isNumber
    have kept := List.mem_filter.mpr ⟨member, stands⟩
    rw [le_iff_place_le leastStands isNumber, le_iff_place_le isNumber greatestStands]
    exact ⟨extremes.least.le element kept, extremes.greatest.le element kept⟩

end Comparison
end Numbers

/-- One pass finds bounds in every list but the empty one.  Let the elements stand for numbers.  If
the first stands for NaN, it is both bounds.  If not, the bounds are those of the list without its
NaNs: each is the first element that stands for its number, and the other numbers lie between them.
In a linear order, be it of integers or of byte strings, the bounds are the least and the greatest
element. -/
theorem extremes?_passes_over_unordered :
    (∀ (α : Type) [LT α] [DecidableLT α] (elements : List α),
      extremes? elements = none ↔ elements = []) ∧
    (∀ (α : Type) [LT α] [DecidableLT α] (number : α → Float), AreComparedAs number →
      ∀ (first : α) (rest : List α),
        ((number first).isNaN = true → extremes? (first :: rest) = some (first, first)) ∧
        ((number first).isNaN = false → ∃ bounds,
          extremes? (first :: rest) = some bounds ∧
          extremes? ((first :: rest).filter (standsForNumber number)) = some bounds ∧
          AreNumberExtremes number bounds (first :: rest))) ∧
    ∀ (α : Type) [LE α] [LT α] [DecidableLT α] [Std.IsLinearOrder α] [Std.LawfulOrderLT α]
      (first : α) (rest : List α), ∃ bounds,
        extremes? (first :: rest) = some bounds ∧
        IsLeast {element | element ∈ first :: rest} bounds.1 ∧
        IsGreatest {element | element ∈ first :: rest} bounds.2 := by
  refine ⟨fun α _ _ => extremes?_eq_none_iff, ?_, ?_⟩
  · intro α _ _ number comparedAs first rest
    constructor
    · intro isNaN
      have unordered : IsUnordered first :=
        comparedAs.isUnordered (by rw [standsForNumber, isNaN]; rfl)
      rw [extremes?_cons, unordered.foldl_widen_eq]
    · intro isNumber
      have found := extremes?_cons first rest
      have filtered := extremes?_filter (fun _ => comparedAs.isUnordered)
        ((standsForNumber_iff number first).mpr isNumber) rest
      rw [found] at filtered
      exact ⟨_, found, filtered, comparedAs.areNumberExtremes filtered⟩
  · intro α _ _ _ _ _ first rest
    exact ⟨_, extremes?_cons first rest,
      isLeast_isGreatest_of_extremes? (extremes?_cons first rest)⟩

namespace Binary64

/-- The bits of a number.  Many patterns stand for a NaN. -/
structure Pattern where
  bits : UInt64
  deriving DecidableEq

namespace Pattern

/-- The number with the given bits. -/
def number (pattern : Pattern) : Float :=
  Float.ofBits pattern.bits

instance : LT Pattern where
  lt first second := first.number < second.number

instance : DecidableLT Pattern := fun first second =>
  inferInstanceAs (Decidable (first.number < second.number))

theorem areComparedAs_number : AreComparedAs number :=
  fun _ _ => Iff.rfl

end Pattern
end Binary64

/-- A negative zero and the number two, with different NaNs before and behind them. -/
def gappyPatterns : List Binary64.Pattern :=
  [⟨0x7FF8000000000001⟩, ⟨0x8000000000000000⟩, ⟨0x4000000000000000⟩, ⟨0xFFF0000000000002⟩]

/-- The positive zero in front of the numbers stays the least of them before the negative one.  A
NaN in front of patterns stays with its own bits. -/
theorem extremes?_gappyPatterns :
    (extremes? (0.0 :: gappyPatterns.map (·.number)) = some (0.0, 2.0) ∧
      AreNumberExtremes id (0.0, 2.0) (0.0 :: gappyPatterns.map (·.number))) ∧
    extremes? gappyPatterns = some (⟨0x7FF8000000000001⟩, ⟨0x7FF8000000000001⟩) ∧
    ∃ bounds, extremes? [(3 : Int64), -1, 7, 2] = some bounds ∧
      IsLeast {element | element ∈ [(3 : Int64), -1, 7, 2]} bounds.1 ∧
      IsGreatest {element | element ∈ [(3 : Int64), -1, 7, 2]} bounds.2 := by
  have ⟨_, standing, inLinearOrder⟩ := extremes?_passes_over_unordered
  have evaluated : extremes? (0.0 :: gappyPatterns.map (·.number)) = some (0.0, 2.0) := by
    decide +kernel
  obtain ⟨bounds, found, -, extremes⟩ :=
    (standing Float id (fun _ _ => Iff.rfl) 0.0 (gappyPatterns.map (·.number))).2 rfl
  rw [evaluated] at found
  rw [← Option.some.inj found] at extremes
  have ofPatterns := standing _ _ Binary64.Pattern.areComparedAs_number
  exact ⟨⟨evaluated, extremes⟩, (ofPatterns _ _).1 (by decide +kernel), inLinearOrder _ _ _⟩

example : extremes? [[0x62], [0x61, 0x7A], [0x61]] = some (([0x61] : List UInt8), [0x62]) := by
  decide

end LatencyChart
