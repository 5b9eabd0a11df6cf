import LatencyChart.Proofs.Series.Spacing
import Mathlib.Data.List.Forall2

/-!
# The layout of a text

Blank lines, carriage returns before newlines and a newline at the end make up the layout of a
text.  Another layout changes neither the series nor the kind, the place and the reason of a fault.
-/

namespace LatencyChart

/-! ## Faults of lines with a carriage return -/

/-- Faults that differ at most in the content of the line they quote. -/
inductive LoadFault.SameCause : LoadFault → LoadFault → Prop
  | access (path : PathName) (cause : IoFault) :
      SameCause (.access path cause) (.access path cause)
  | read (line : Nat) (cause : IoFault) :
      SameCause (.read line cause) (.read line cause)
  | parse (line : Nat) (content otherContent : String) (reason : LineFault) :
      SameCause (.parse line content reason) (.parse line otherContent reason)

/-- Outcomes that are equal up to the content of a line that a fault quotes. -/
inductive SameOutcome {α : Type} : Except LoadFault α → Except LoadFault α → Prop
  | ok (value : α) : SameOutcome (.ok value) (.ok value)
  | error {fault otherFault : LoadFault}
      (sameCause : fault.SameCause otherFault) :
      SameOutcome (.error fault) (.error otherFault)

theorem LoadFault.SameCause.refl (fault : LoadFault) : fault.SameCause fault := by
  cases fault with
  | access path cause => exact .access path cause
  | read line cause => exact .read line cause
  | parse line content reason => exact .parse line content content reason

theorem LoadFault.SameCause.symm
    {fault otherFault : LoadFault}
    (sameCause : fault.SameCause otherFault) :
    otherFault.SameCause fault := by
  cases sameCause with
  | access path cause => exact .access path cause
  | read line cause => exact .read line cause
  | parse line content otherContent reason => exact .parse line otherContent content reason

namespace SameOutcome

variable {α : Type} {outcome otherOutcome : Except LoadFault α}

theorem refl (outcome : Except LoadFault α) : SameOutcome outcome outcome := by
  cases outcome with
  | ok value => exact .ok value
  | error fault => exact .error (.refl fault)

theorem symm (same : SameOutcome outcome otherOutcome) : SameOutcome otherOutcome outcome := by
  cases same with
  | ok value => exact .ok value
  | error sameCause => exact .error sameCause.symm

end SameOutcome

namespace Series

/-! ## Lines with a carriage return -/

/-- The second line is the first one, or it has a carriage return more at its end. -/
inductive MayReturn (line : Bytes) : Bytes → Prop
  | same : MayReturn line line
  | returned : MayReturn line (line ++ [carriageReturn])

/-- A carriage return behind a text separates no field from another. -/
theorem readText_append_return (text : List Char) :
    readText (text ++ ['\r']) = readText text := by
  have isSeparator : Text.isBlank '\r' = true := by decide
  unfold readText
  rw [fields_eq_runsOf, fields_eq_runsOf, runsOf_append_separator text [] isSeparator, runsOf_nil,
    List.append_nil]

theorem encodeChars_append_return (text : List Char) :
    Text.Utf8.encodeChars (text ++ ['\r']) = Text.Utf8.encodeChars text ++ [carriageReturn] :=
  Text.Utf8.encodeChars_append text ['\r']

/-- A carriage return behind a line changes at most the content that a fault quotes. -/
theorem MayReturn.readLine
    {line otherLine : Bytes}
    (mayReturn : MayReturn line otherLine)
    (number : Nat) :
    SameOutcome (Series.readLine number (.ok line)) (Series.readLine number (.ok otherLine)) := by
  cases mayReturn with
  | same => exact .refl _
  | returned =>
      by_cases decodable : ∃ text, Text.Utf8.encodeChars text = line
      · obtain ⟨text, rfl⟩ := decodable
        rw [← encodeChars_append_return, readLine_of_text, readLine_of_text,
          readText_append_return]
        cases readText text with
        | error reason => exact .error (.parse number _ _ reason)
        | ok reading => exact .ok reading
      · have undecodable : ¬∃ text, Text.Utf8.encodeChars text = line ++ [carriageReturn] := by
          rintro ⟨text, encoded⟩
          obtain ⟨before, -, encodedBefore⟩ :=
            Text.Utf8.exists_of_encodeChars_eq_append (by decide) encoded
          exact decodable ⟨before, encodedBefore⟩
        rw [readLine_of_faulty (.noText decodable), readLine_of_faulty (.noText undecodable)]
        exact .refl _

namespace Scan

/-- Scans that differ at most in the content of the line that their fault quotes. -/
structure AgreesWith (scan otherScan : Scan) : Prop where
  accepted : otherScan.accepted = scan.accepted
  blanks : otherScan.blanks = scan.blanks
  fault? : Option.Rel LoadFault.SameCause scan.fault? otherScan.fault?

theorem AgreesWith.push
    {scan otherScan : Scan}
    (agrees : scan.AgreesWith otherScan)
    {line otherLine : Bytes}
    (mayReturn : MayReturn line otherLine)
    (number : Nat) :
    (Scan.push (.ok line, number) scan).AgreesWith
      (Scan.push (.ok otherLine, number) otherScan) := by
  have same := mayReturn.readLine number
  simp only [Scan.push]
  generalize Series.readLine number (.ok line) = reading at same ⊢
  generalize Series.readLine number (.ok otherLine) = otherReading at same ⊢
  cases same with
  | error sameCause => exact ⟨rfl, rfl, .some sameCause⟩
  | ok reading =>
      cases reading with
      | blank => exact ⟨agrees.accepted, congrArg (· + 1) agrees.blanks, agrees.fault?⟩
      | sample sample =>
          exact ⟨congrArg ((number, sample) :: ·) agrees.accepted, agrees.blanks, agrees.fault?⟩

theorem agreesWith_ofLines
    {lines otherLines : List Bytes}
    (mayReturn : List.Forall₂ MayReturn lines otherLines)
    (number : Nat) :
    (ofLines (lines.map .ok) number).AgreesWith (ofLines (otherLines.map .ok) number) := by
  induction mayReturn generalizing number with
  | nil => exact ⟨rfl, rfl, .none⟩
  | cons mayReturn _ inductionHypothesis =>
      rw [List.map_cons, List.map_cons, ofLines_cons, ofLines_cons]
      exact (inductionHypothesis (number + 1)).push mayReturn number

theorem AgreesWith.result
    {scan otherScan : Scan}
    (agrees : scan.AgreesWith otherScan) :
    SameOutcome scan.result otherScan.result := by
  have faults := agrees.fault?
  unfold Scan.result Scan.series
  rw [agrees.accepted]
  generalize scan.fault? = fault? at faults ⊢
  generalize otherScan.fault? = otherFault? at faults ⊢
  cases faults with
  | some sameCause => exact .error sameCause
  | none => exact .ok _

theorem AgreesWith.events
    {scan otherScan : Scan}
    (agrees : scan.AgreesWith otherScan) :
    otherScan.events = scan.events := by
  have faults := agrees.fault?
  unfold Scan.events
  rw [agrees.accepted, agrees.blanks]
  generalize scan.fault? = fault? at faults ⊢
  generalize otherScan.fault? = otherFault? at faults ⊢
  cases faults <;> rfl

end Scan

/-- Loadings that differ at most in the content of the line that their fault quotes. -/
structure Loading.AgreesWith (loading otherLoading : Loading) : Prop where
  result : SameOutcome loading.result otherLoading.result
  events : otherLoading.events = loading.events

theorem agreesWith_ofBytes
    {text otherText : Bytes}
    {lines otherLines : List Bytes}
    (cut : CutIntoLines text lines)
    (otherCut : CutIntoLines otherText otherLines)
    (mayReturn : List.Forall₂ MayReturn lines otherLines) :
    (ofBytes text).AgreesWith (ofBytes otherText) := by
  have agrees := Scan.agreesWith_ofLines mayReturn 1
  rw [← cut.linesOf_eq, ← otherCut.linesOf_eq] at agrees
  exact ⟨agrees.result, agrees.events⟩

theorem Loading.AgreesWith.symm
    {loading otherLoading : Loading}
    (agrees : loading.AgreesWith otherLoading) :
    otherLoading.AgreesWith loading :=
  ⟨agrees.result.symm, agrees.events.symm⟩

/-! ## Carriage returns before newlines -/

/-- A text with a carriage return put before each newline. -/
def withReturns (text : Bytes) : Bytes :=
  text.flatMap fun byte => if byte = newline then [carriageReturn, newline] else [byte]

theorem withReturns_of_unbroken
    {line : Bytes}
    (unbroken : newline ∉ line) :
    withReturns line = line := by
  induction line with
  | nil => rfl
  | cons first line inductionHypothesis =>
      rw [List.mem_cons, not_or] at unbroken
      have later := inductionHypothesis unbroken.2
      unfold withReturns at later ⊢
      rw [List.flatMap_cons, later, if_neg (Ne.symm unbroken.1)]
      rfl

theorem withReturns_append_newline
    {line : Bytes}
    (unbroken : newline ∉ line)
    (rest : Bytes) :
    withReturns (line ++ newline :: rest) =
      line ++ carriageReturn :: newline :: withReturns rest := by
  have front := withReturns_of_unbroken unbroken
  unfold withReturns at front ⊢
  rw [List.flatMap_append, front, List.flatMap_cons, if_pos rfl]
  rfl

/-- Carriage returns before newlines belong to the line ends, unless there are some already. -/
theorem CutIntoLines.withReturns
    {text : Bytes}
    {lines : List Bytes}
    (cut : CutIntoLines text lines) :
    ∃ otherLines, CutIntoLines (Series.withReturns text) otherLines ∧
      List.Forall₂ MayReturn lines otherLines ∧
      (carriageReturn ∉ text → otherLines = lines) := by
  induction cut with
  | none => exact ⟨[], .none, .nil, fun _ => rfl⟩
  | @last line nonempty unbroken =>
      rw [withReturns_of_unbroken unbroken]
      exact ⟨[line], .last nonempty unbroken, .cons .same .nil, fun _ => rfl⟩
  | @ended line rest lines unbroken noReturn _ inductionHypothesis =>
      obtain ⟨otherLines, otherCut, mayReturn, same⟩ := inductionHypothesis
      rw [withReturns_append_newline unbroken]
      refine ⟨line :: otherLines, .endedByPair unbroken otherCut, .cons .same mayReturn, ?_⟩
      intro absent
      rw [List.mem_append, List.mem_cons, not_or, not_or] at absent
      rw [same absent.2.2]
  | @endedByPair line rest lines unbroken _ inductionHypothesis =>
      obtain ⟨otherLines, otherCut, mayReturn, -⟩ := inductionHypothesis
      have unbrokenReturn := unbroken_append_return unbroken
      rw [List.append_cons, withReturns_append_newline unbrokenReturn]
      refine ⟨(line ++ [carriageReturn]) :: otherLines, .endedByPair unbrokenReturn otherCut,
        .cons .returned mayReturn, ?_⟩
      intro absent
      exact absurd (by simp) absent

/-! ## A newline at the end -/

theorem not_endsLine_iff (text : Bytes) :
    ¬EndsLine text ↔ text ≠ [] ∧ text.getLast? ≠ some newline :=
  not_or

theorem not_endsLine_of_append_newline
    {line rest : Bytes}
    (unended : ¬EndsLine (line ++ newline :: rest)) :
    ¬EndsLine rest := by
  rw [not_endsLine_iff] at unended ⊢
  cases rest with
  | nil => exact absurd List.getLast?_concat unended.2
  | cons first rest =>
      refine ⟨List.cons_ne_nil first rest, ?_⟩
      simpa using unended.2

/-- A newline behind a line that had none takes at most a carriage return from the line. -/
theorem CutIntoLines.append_newline
    {text : Bytes}
    {lines : List Bytes}
    (cut : CutIntoLines text lines)
    (unended : ¬EndsLine text) :
    ∃ otherLines, CutIntoLines (text ++ [newline]) otherLines ∧
      List.Forall₂ MayReturn otherLines lines := by
  induction cut with
  | none => exact absurd (Or.inl rfl) unended
  | @last line nonempty unbroken =>
      by_cases returned : line.getLast? = some carriageReturn
      · obtain ⟨front, rfl⟩ := List.getLast?_eq_some_iff.mp returned
        rw [List.append_assoc]
        have unbrokenFront : newline ∉ front := fun member =>
          unbroken (List.mem_append_left _ member)
        exact ⟨[front], .endedByPair unbrokenFront .none, .cons .returned .nil⟩
      · exact ⟨[line], .ended unbroken returned .none, .cons .same .nil⟩
  | @ended line rest lines unbroken noReturn _ inductionHypothesis =>
      obtain ⟨otherLines, otherCut, mayReturn⟩ :=
        inductionHypothesis (not_endsLine_of_append_newline unended)
      rw [List.append_assoc, List.cons_append]
      exact ⟨line :: otherLines, .ended unbroken noReturn otherCut, .cons .same mayReturn⟩
  | @endedByPair line rest lines unbroken _ inductionHypothesis =>
      rw [List.append_cons] at unended
      obtain ⟨otherLines, otherCut, mayReturn⟩ :=
        inductionHypothesis (not_endsLine_of_append_newline unended)
      rw [List.append_assoc, List.cons_append, List.cons_append]
      exact ⟨line :: otherLines, .endedByPair unbroken otherCut, .cons .same mayReturn⟩

/-! ## Other layouts -/

/-- The layout of a text does not matter.  Blank lines put between its lines only move the lines
that are told and are counted themselves.  Carriage returns before all newlines, or a newline
behind a last line without one, change at most the content that a fault quotes, and the former not
even that where the text had no carriage return. -/
theorem ofBytes_ignores_layout (text : Bytes) :
    (∀ spaced gaps, Spaced text spaced gaps →
      ofBytes spaced = (ofBytes text).respace (placeBelow gaps) gaps.sum) ∧
    (ofBytes text).AgreesWith (ofBytes (withReturns text)) ∧
    (carriageReturn ∉ text → ofBytes (withReturns text) = ofBytes text) ∧
    (text ≠ [] → text.getLast? ≠ some newline →
      (ofBytes text).AgreesWith (ofBytes (text ++ [newline]))) := by
  obtain ⟨lines, cut⟩ := exists_cut text
  obtain ⟨returnedLines, returnedCut, mayReturn, same⟩ := cut.withReturns
  refine ⟨?_, ?_, ?_, ?_⟩
  · intro spaced gaps isSpaced
    exact isSpaced.ofBytes_eq
  · exact agreesWith_ofBytes cut returnedCut mayReturn
  · intro absent
    unfold ofBytes ofSignals
    rw [returnedCut.linesOf_eq, cut.linesOf_eq, same absent]
  · intro nonempty unended
    obtain ⟨otherLines, otherCut, mayReturn⟩ :=
      cut.append_newline ((not_endsLine_iff text).mpr ⟨nonempty, unended⟩)
    exact (agreesWith_ofBytes otherCut cut mayReturn).symm

/-- Two samples and a faulty line. -/
def crampedText : Bytes := Text.Utf8.encode "2 1\n1 3\n4 x"

/-- The same lines with an empty line in front, and two blank ones behind the first sample. -/
def roomyText : Bytes := Text.Utf8.encode "\n2 1\n \t\n\u3000\n1 3\n4 x"

theorem spaced_crampedText : Spaced crampedText roomyText [1, 2, 0, 0] := by
  have blankLine (text : List Char) (allBlank : text.all Text.isBlank = true) :
      IsBlankLine (Text.Utf8.encodeChars text) := ⟨text, rfl, List.all_eq_true.mp allBlank⟩
  have third : Spaced (Text.Utf8.encode "4 x") (Text.Utf8.encode "4 x") [0, 0] :=
    .last (by decide) (by decide)
  have second := Spaced.kept (by decide : newline ∉ Text.Utf8.encode "1 3") third
  have wide := second.inserted (blankLine ['\u3000'] rfl) (by decide)
  have narrow := wide.inserted (blankLine [' ', '\t'] rfl) (by decide)
  have first := Spaced.kept (by decide : newline ∉ Text.Utf8.encode "2 1") narrow
  have whole := first.inserted (blankLine [] rfl) (by decide)
  exact whole

/-- The texts above: the fault on the third line is found on the sixth, whose content stays also
with carriage returns and a newline at the end. -/
theorem ofBytes_crampedText :
    Spaced crampedText roomyText [1, 2, 0, 0] ∧
    (ofBytes roomyText).result = .error (.parse 6 "4 x" (.invalidNumber "x" .malformed)) ∧
    ofBytes (withReturns crampedText) = ofBytes crampedText ∧
    (ofBytes crampedText).AgreesWith (ofBytes (crampedText ++ [newline])) := by
  have faulty := (result_ofBytes_eq_error_iff_fault? crampedText
    (.parse 3 "4 x" (.invalidNumber "x" .malformed))).mpr (by decide +kernel)
  have ⟨spacedSame, _, returnedSame, endedAgrees⟩ := ofBytes_ignores_layout crampedText
  refine ⟨spaced_crampedText, ?_, returnedSame (by decide +kernel),
    endedAgrees (by decide +kernel) (by decide +kernel)⟩
  rw [spacedSame roomyText [1, 2, 0, 0] spaced_crampedText, Loading.respace, faulty]
  rfl

end Series
end LatencyChart
