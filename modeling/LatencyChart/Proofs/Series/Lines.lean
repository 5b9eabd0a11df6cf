import LatencyChart.Series.Reader

/-!
# Cutting bytes into lines

A line ends at a newline, and one carriage return directly before the newline belongs to the
line end.  Bytes behind the last newline are a line of their own, which keeps its carriage
return.  The signals of a source give exactly these lines.
-/

namespace LatencyChart
namespace Series

/-- A byte sequence consists of the given lines. -/
inductive CutIntoLines : Bytes → List Bytes → Prop
  | none : CutIntoLines [] []
  | last {line : Bytes}
      (nonempty : line ≠ [])
      (unbroken : newline ∉ line) :
      CutIntoLines line [line]
  | ended {line rest : Bytes} {lines : List Bytes}
      (unbroken : newline ∉ line)
      (noReturn : line.getLast? ≠ some carriageReturn)
      (later : CutIntoLines rest lines) :
      CutIntoLines (line ++ newline :: rest) (line :: lines)
  | endedByPair {line rest : Bytes} {lines : List Bytes}
      (unbroken : newline ∉ line)
      (later : CutIntoLines rest lines) :
      CutIntoLines (line ++ carriageReturn :: newline :: rest) (line :: lines)

/-! ## Signals of a line -/

/-- Bytes without a newline lengthen the current line. -/
theorem foldr_push_bytes
    {line : Bytes}
    (unbroken : newline ∉ line)
    (remainder : Remainder) :
    (line.map Signal.byte).foldr Remainder.push remainder =
      { remainder with bytes := line ++ remainder.bytes } := by
  induction line with
  | nil => rfl
  | cons first line inductionHypothesis =>
      rw [List.mem_cons, not_or] at unbroken
      rw [List.map_cons, List.foldr_cons, inductionHypothesis unbroken.2, Remainder.push,
        if_neg (Ne.symm unbroken.1)]
      rfl

/-- A newline ends the line before it. -/
theorem linesOf_append_newline
    {line : Bytes}
    (unbroken : newline ∉ line)
    (signals : List Signal) :
    linesOf (line.map Signal.byte ++ .byte newline :: signals) =
      .ok (dropReturn line) :: linesOf signals := by
  unfold linesOf
  rw [List.foldr_append, foldr_push_bytes unbroken, List.foldr_cons, Remainder.push, if_pos rfl,
    List.append_nil]
  rfl

/-- Bytes behind the last newline are a line of their own. -/
theorem linesOf_unbroken
    {line : Bytes}
    (unbroken : newline ∉ line) :
    linesOf (line.map Signal.byte) = if line = [] then [] else [.ok line] := by
  unfold linesOf
  rw [foldr_push_bytes unbroken, Remainder.done, List.append_nil]
  rfl

/-! ## Lines of a byte sequence -/

theorem dropReturn_of_noReturn
    {line : Bytes}
    (noReturn : line.getLast? ≠ some carriageReturn) :
    dropReturn line = line :=
  if_neg noReturn

@[simp] theorem dropReturn_append_return (line : Bytes) :
    dropReturn (line ++ [carriageReturn]) = line := by
  unfold dropReturn
  rw [if_pos List.getLast?_concat, List.dropLast_concat]

theorem unbroken_append_return
    {line : Bytes}
    (unbroken : newline ∉ line) :
    newline ∉ line ++ [carriageReturn] := by
  rw [List.mem_append, not_or]
  exact ⟨unbroken, by decide⟩

/-- The lines of a byte sequence are the lines that its bytes give as signals. -/
theorem CutIntoLines.linesOf_eq
    {bytes : Bytes}
    {lines : List Bytes}
    (cut : CutIntoLines bytes lines) :
    linesOf (bytes.map Signal.byte) = lines.map .ok := by
  induction cut with
  | none => rfl
  | last nonempty unbroken => rw [linesOf_unbroken unbroken, if_neg nonempty]; rfl
  | ended unbroken noReturn _ inductionHypothesis =>
      rw [List.map_append, List.map_cons, linesOf_append_newline unbroken,
        dropReturn_of_noReturn noReturn, inductionHypothesis]
      rfl
  | @endedByPair line rest lines unbroken _ inductionHypothesis =>
      rw [List.append_cons, List.map_append, List.map_cons,
        linesOf_append_newline (unbroken_append_return unbroken), dropReturn_append_return,
        inductionHypothesis]
      rfl

/-- A line in front of a newline, with or without a carriage return. -/
theorem exists_cut_append_newline
    {line rest : Bytes}
    {lines : List Bytes}
    (unbroken : newline ∉ line)
    (later : CutIntoLines rest lines) :
    ∃ lines, CutIntoLines (line ++ newline :: rest) lines := by
  by_cases returned : line.getLast? = some carriageReturn
  · obtain ⟨front, rfl⟩ := List.getLast?_eq_some_iff.mp returned
    rw [← List.append_cons]
    refine ⟨front :: lines, .endedByPair ?_ later⟩
    exact fun member => unbroken (List.mem_append_left _ member)
  · exact ⟨line :: lines, .ended unbroken returned later⟩

/-- A byte in front that is no newline lengthens the first line. -/
theorem CutIntoLines.exists_cons
    {bytes : Bytes}
    {lines : List Bytes}
    {first : UInt8}
    (noNewline : newline ≠ first)
    (cut : CutIntoLines bytes lines) :
    ∃ longer, CutIntoLines (first :: bytes) longer := by
  have unbrokenCons {line : Bytes} (unbroken : newline ∉ line) :
      newline ∉ first :: line := by
    rw [List.mem_cons, not_or]
    exact ⟨noNewline, unbroken⟩
  cases cut with
  | none => exact ⟨[[first]], .last (by simp) (unbrokenCons (by simp))⟩
  | last _ unbroken => exact ⟨[first :: bytes], .last (by simp) (unbrokenCons unbroken)⟩
  | ended unbroken _ later =>
      exact exists_cut_append_newline (unbrokenCons unbroken) later
  | @endedByPair line rest lines unbroken later =>
      exact ⟨(first :: line) :: lines, .endedByPair (unbrokenCons unbroken) later⟩

/-- Every byte sequence is cut into lines. -/
theorem exists_cut (bytes : Bytes) :
    ∃ lines, CutIntoLines bytes lines := by
  induction bytes with
  | nil => exact ⟨[], .none⟩
  | cons first bytes inductionHypothesis =>
      obtain ⟨lines, cut⟩ := inductionHypothesis
      by_cases isNewline : newline = first
      · rw [← isNewline]
        have noNewline : newline ∉ ([] : Bytes) := List.not_mem_nil
        exact exists_cut_append_newline noNewline cut
      · exact cut.exists_cons isNewline

/-- No byte sequence is cut into lines in two ways. -/
theorem CutIntoLines.unique
    {bytes : Bytes}
    {lines others : List Bytes}
    (cut : CutIntoLines bytes lines)
    (other : CutIntoLines bytes others) :
    lines = others := by
  have equal := cut.linesOf_eq.symm.trans other.linesOf_eq
  exact (List.map_inj_right fun _ _ same => Except.ok.inj same).mp equal

end Series
end LatencyChart
