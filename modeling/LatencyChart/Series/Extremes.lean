/-!
# Extremes of a list

One pass over a list keeps the least and the greatest element seen. Both tests are strict,
so of equal elements the first is kept, and an element that compares with nothing replaces
nothing.
-/

namespace LatencyChart

/-- Widen a pair of bounds so that it takes in one more value. -/
def widen {α : Type} [LT α] [DecidableLT α]
    (bounds : α × α)
    (value : α) : α × α :=
  (if value < bounds.1 then value else bounds.1,
    if bounds.2 < value then value else bounds.2)

/-- The least and the greatest element of a list, or `none` when there is none. -/
def extremes? {α : Type} [LT α] [DecidableLT α] : List α → Option (α × α)
  | [] => none
  | first :: rest => some (rest.foldl widen (first, first))

@[simp] theorem extremes?_nil {α : Type} [LT α] [DecidableLT α] :
    extremes? ([] : List α) = none := rfl

@[simp] theorem extremes?_cons {α : Type} [LT α] [DecidableLT α]
    (first : α)
    (rest : List α) :
    extremes? (first :: rest) = some (rest.foldl widen (first, first)) := rfl

end LatencyChart
