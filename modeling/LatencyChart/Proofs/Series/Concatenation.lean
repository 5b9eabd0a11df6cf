import LatencyChart.Proofs.Series.FirstFault

/-!
# Texts one after another

A text that is empty or ends in a newline keeps its lines whatever stands behind it.  The
lines behind it are read as if they stood alone, with larger numbers, and only as long as no
line before them is faulty.
-/

namespace LatencyChart

namespace Series

/-! ## Lines of two texts -/

/-- A text without bytes behind its last newline. -/
def EndsLine (bytes : Bytes) : Prop :=
  bytes = [] ∨ bytes.getLast? = some newline

theorem EndsLine.of_append_newline
    {line rest : Bytes}
    (ended : EndsLine (line ++ newline :: rest)) :
    EndsLine rest := by
  rcases ended with empty | lastIsNewline
  · simp at empty
  · cases rest with
    | nil => exact Or.inl rfl
    | cons first rest => exact Or.inr (by simpa using lastIsNewline)

theorem EndsLine.eq_nil_of_unbroken
    {line : Bytes}
    (ended : EndsLine line)
    (unbroken : newline ∉ line) :
    line = [] := by
  rcases ended with empty | lastIsNewline
  · exact empty
  · exact absurd (List.mem_of_getLast? lastIsNewline) unbroken

/-- The lines of a text stay when signals follow its last newline. -/
theorem CutIntoLines.linesOf_append
    {bytes : Bytes}
    {lines : List Bytes}
    (cut : CutIntoLines bytes lines)
    (ended : EndsLine bytes)
    (signals : List Signal) :
    linesOf (bytes.map Signal.byte ++ signals) = lines.map .ok ++ linesOf signals := by
  induction cut with
  | none => rfl
  | last nonempty unbroken => exact absurd (ended.eq_nil_of_unbroken unbroken) nonempty
  | ended unbroken noReturn _ inductionHypothesis =>
      rw [List.map_append, List.map_cons, List.append_assoc, List.cons_append,
        linesOf_append_newline unbroken, dropReturn_of_noReturn noReturn,
        inductionHypothesis ended.of_append_newline]
      rfl
  | @endedByPair line rest lines unbroken _ inductionHypothesis =>
      rw [List.append_cons] at ended
      rw [List.append_cons, List.map_append, List.map_cons, List.append_assoc, List.cons_append,
        linesOf_append_newline (unbroken_append_return unbroken), dropReturn_append_return,
        inductionHypothesis ended.of_append_newline]
      rfl

/-- Each newline ends one line. -/
theorem CutIntoLines.length_eq_count
    {bytes : Bytes}
    {lines : List Bytes}
    (cut : CutIntoLines bytes lines)
    (ended : EndsLine bytes) :
    lines.length = bytes.count newline := by
  induction cut with
  | none => rfl
  | last nonempty unbroken => exact absurd (ended.eq_nil_of_unbroken unbroken) nonempty
  | ended unbroken _ _ inductionHypothesis =>
      rw [List.length_cons, inductionHypothesis ended.of_append_newline, List.count_append,
        List.count_eq_zero_of_not_mem unbroken, List.count_cons_self, Nat.zero_add]
  | @endedByPair line rest lines unbroken _ inductionHypothesis =>
      rw [List.append_cons] at ended
      rw [List.length_cons, inductionHypothesis ended.of_append_newline, List.count_append,
        List.count_eq_zero_of_not_mem unbroken, List.count_cons_of_ne (by decide),
        List.count_cons_self, Nat.zero_add]

/-! ## Other line numbers -/

end Series

/-- The same fault with its line at another place. -/
def LoadFault.renumber (place : Nat → Nat) : LoadFault → LoadFault
  | .access path cause => .access path cause
  | .read line cause => .read (place line) cause
  | .parse line content reason => .parse (place line) content reason

/-- The same fault with more lines above it. -/
def LoadFault.below (count : Nat) : LoadFault → LoadFault
  | .access path cause => .access path cause
  | .read line cause => .read (count + line) cause
  | .parse line content reason => .parse (count + line) content reason

namespace Series

/-- What a line holds does not depend on its number, and its fault names the number. -/
theorem readLine_place
    (place : Nat → Nat)
    (number : Nat)
    (line : RawLine) :
    readLine (place number) line = (readLine number line).mapError (.renumber place) := by
  cases line with
  | error cause => rfl
  | ok bytes =>
      simp only [readLine]
      cases Text.Utf8.decode? bytes with
      | none => rfl
      | some text =>
          simp only
          cases readText text <;> rfl

theorem readLine_add
    (count number : Nat)
    (line : RawLine) :
    readLine (count + number) line = (readLine number line).mapError (.below count) := by
  have below_eq : LoadFault.renumber (count + ·) = LoadFault.below count := by
    funext fault
    cases fault <;> rfl
  rw [readLine_place (count + ·) number line, below_eq]

namespace Scan

/-- The same scan with more lines above it. -/
def below (count : Nat) (scan : Scan) : Scan where
  accepted := scan.accepted.map fun line => (count + line.1, line.2)
  blanks := scan.blanks
  fault? := scan.fault?.map (.below count)

theorem push_add
    (count number : Nat)
    (line : RawLine)
    (scan : Scan) :
    push (line, count + number) (scan.below count) = (push (line, number) scan).below count := by
  simp only [push, readLine_add]
  cases readLine number line with
  | error fault => rfl
  | ok reading => cases reading <;> rfl

theorem ofLines_add
    (count number : Nat)
    (lines : List RawLine) :
    ofLines lines (count + number) = (ofLines lines number).below count := by
  induction lines generalizing number with
  | nil => rfl
  | cons line lines inductionHypothesis =>
      rw [ofLines_cons, ofLines_cons, Nat.add_assoc, inductionHypothesis, push_add]

/-! ## One scan after another -/

/-- A scan of lines and of the lines behind them.  A fault hides everything behind it. -/
def append (scan later : Scan) : Scan :=
  match scan.fault? with
  | some _ => scan
  | none =>
      ⟨scan.accepted ++ later.accepted, scan.blanks + later.blanks, later.fault?⟩

theorem append_of_fault
    {scan : Scan}
    {fault : LoadFault}
    (faulty : scan.fault? = some fault)
    (later : Scan) :
    scan.append later = scan := by
  unfold append
  rw [faulty]

theorem append_of_noFault
    {scan : Scan}
    (sound : scan.fault? = none)
    (later : Scan) :
    scan.append later =
      ⟨scan.accepted ++ later.accepted, scan.blanks + later.blanks, later.fault?⟩ := by
  unfold append
  rw [sound]

theorem push_append
    (line : RawLine × Nat)
    (scan later : Scan) :
    push line (scan.append later) = (push line scan).append later := by
  unfold push
  cases readLine line.2 line.1 with
  | error fault => rfl
  | ok reading =>
      cases sound : scan.fault? with
      | some fault => cases reading <;> simp [append, sound]
      | none =>
          cases reading with
          | blank => simp [append, sound, Nat.add_right_comm]
          | sample sample => simp [append, sound]

theorem ofLines_append
    (lines later : List RawLine)
    (number : Nat) :
    ofLines (lines ++ later) number =
      (ofLines lines number).append (ofLines later (lines.length + number)) := by
  induction lines generalizing number with
  | nil => simp [append, ofLines, empty]
  | cons line lines inductionHypothesis =>
      rw [List.cons_append, ofLines_cons, ofLines_cons, inductionHypothesis, push_append,
        List.length_cons, Nat.add_right_comm, Nat.add_assoc]

end Scan

/-! ## Reading two texts as one -/

/-- The scan of all lines of a text. -/
def scanOf (bytes : Bytes) : Scan :=
  Scan.ofLines (linesOf (bytes.map .byte)) 1

theorem ofBytes_eq (bytes : Bytes) :
    ofBytes bytes = ⟨(scanOf bytes).result, (scanOf bytes).events⟩ := rfl

theorem scanOf_append
    {first : Bytes}
    (ended : EndsLine first)
    (second : Bytes) :
    scanOf (first ++ second) =
      (scanOf first).append ((scanOf second).below (first.count newline)) := by
  obtain ⟨lines, cut⟩ := exists_cut first
  unfold scanOf
  rw [List.map_append, cut.linesOf_append ended, Scan.ofLines_append, List.length_map,
    cut.length_eq_count ended, Scan.ofLines_add, cut.linesOf_eq]

/-- The details among the events of a loading. -/
def Loading.details (loading : Loading) : List Event :=
  loading.events.filter fun event => event.level == .debug

/-- The warnings among the events of a loading. -/
def Loading.warnings (loading : Loading) : List Event :=
  loading.events.filter fun event => event.level == .warn

/-- A step back in time is a warning. -/
theorem level_of_firstStepBack?
    {accepted : List (Nat × Sample)}
    {event : Event}
    (stepped : firstStepBack? accepted = some event) :
    event.level = .warn := by
  induction accepted with
  | nil => contradiction
  | cons first rest inductionHypothesis =>
      cases rest with
      | nil => contradiction
      | cons second rest =>
          rw [firstStepBack?] at stepped
          split at stepped
          · rw [← Option.some.inj stepped]
            rfl
          · exact inductionHypothesis stepped

theorem filter_debug_firstStepBack? (accepted : List (Nat × Sample)) :
    (firstStepBack? accepted).toList.filter (fun event => event.level == .debug) = [] := by
  rw [List.filter_eq_nil_iff]
  intro event member
  rw [level_of_firstStepBack? (Option.mem_toList.mp member)]
  decide

theorem filter_warn_firstStepBack? (accepted : List (Nat × Sample)) :
    (firstStepBack? accepted).toList.filter (fun event => event.level == .warn) =
      (firstStepBack? accepted).toList := by
  rw [List.filter_eq_self]
  intro event member
  rw [level_of_firstStepBack? (Option.mem_toList.mp member)]
  rfl

/-- The one detail of a loading is the count of a whole input. -/
theorem details_ofBytes (bytes : Bytes) :
    (ofBytes bytes).details =
      if (scanOf bytes).fault?.isNone then
        [.parsed (scanOf bytes).accepted.length (scanOf bytes).blanks]
      else [] := by
  rw [ofBytes_eq, Loading.details, Scan.events, List.filter_append,
    filter_debug_firstStepBack?, List.nil_append]
  split <;> rfl

/-- The one warning of a loading is its first step back in time. -/
theorem warnings_ofBytes (bytes : Bytes) :
    (ofBytes bytes).warnings = (firstStepBack? (scanOf bytes).accepted).toList := by
  rw [ofBytes_eq, Loading.warnings, Scan.events, List.filter_append, filter_warn_firstStepBack?]
  have countIsDetail : (if (scanOf bytes).fault?.isNone then
      [Event.parsed (scanOf bytes).accepted.length (scanOf bytes).blanks] else []).filter
        (fun event => event.level == .warn) = [] := by
    split <;> rfl
  rw [countIsDetail, List.append_nil]

theorem result_ofBytes_eq_error_iff_fault? (bytes : Bytes) (fault : LoadFault) :
    (ofBytes bytes).result = .error fault ↔ (scanOf bytes).fault? = some fault := by
  rw [ofBytes_eq, Scan.result]
  cases (scanOf bytes).fault? <;> simp

theorem result_ofBytes_eq_ok_iff_fault? (bytes : Bytes) (series : Series) :
    (ofBytes bytes).result = .ok series ↔
      (scanOf bytes).fault? = none ∧ (scanOf bytes).series = series := by
  rw [ofBytes_eq, Scan.result]
  cases (scanOf bytes).fault? <;> simp

/-- Reading is a homomorphism.  Behind a text that is empty or ends in a newline, a text is
read as if it stood alone: a fault in the first text stays as it is, a fault in the second has
as many more lines above it as the first has newlines, and without faults the samples stand one
after the other and the counts add up. -/
theorem ofBytes_append_behind_newline
    (first second : Bytes)
    (ended : first = [] ∨ first.getLast? = some newline) :
    (∀ fault, (ofBytes first).result = .error fault →
      (ofBytes (first ++ second)).result = .error fault) ∧
    (∀ earlier fault, (ofBytes first).result = .ok earlier →
      (ofBytes second).result = .error fault →
      (ofBytes (first ++ second)).result = .error (fault.below (first.count newline))) ∧
    ∀ earlier later, (ofBytes first).result = .ok earlier →
      (ofBytes second).result = .ok later →
      (ofBytes (first ++ second)).result = .ok ⟨earlier.samples ++ later.samples⟩ ∧
      ∃ blanks laterBlanks,
        (ofBytes first).details = [.parsed earlier.length blanks] ∧
        (ofBytes second).details = [.parsed later.length laterBlanks] ∧
        (ofBytes (first ++ second)).details =
          [.parsed (earlier.length + later.length) (blanks + laterBlanks)] := by
  have joined := scanOf_append ended second
  refine ⟨?_, ?_, ?_⟩
  · intro fault refused
    rw [result_ofBytes_eq_error_iff_fault?] at refused ⊢
    rw [joined, Scan.append_of_fault refused, refused]
  · intro earlier fault accepted refused
    rw [result_ofBytes_eq_ok_iff_fault?] at accepted
    rw [result_ofBytes_eq_error_iff_fault?] at refused ⊢
    rw [joined, Scan.append_of_noFault accepted.1, Scan.below, refused]
    rfl
  · intro earlier later accepted laterAccepted
    rw [result_ofBytes_eq_ok_iff_fault?] at accepted laterAccepted
    obtain ⟨sound, rfl⟩ := accepted
    obtain ⟨laterSound, rfl⟩ := laterAccepted
    rw [Scan.append_of_noFault sound] at joined
    have joinedSound : (scanOf (first ++ second)).fault? = none := by
      rw [joined, Scan.below, laterSound]
      rfl
    refine ⟨?_, (scanOf first).blanks, (scanOf second).blanks, ?_, ?_, ?_⟩
    · rw [result_ofBytes_eq_ok_iff_fault?]
      refine ⟨joinedSound, ?_⟩
      rw [joined]
      simp [Scan.series, Scan.below, Function.comp_def]
    · rw [details_ofBytes, sound]
      simp [Scan.series, length]
    · rw [details_ofBytes, laterSound]
      simp [Scan.series, length]
    · rw [details_ofBytes, joinedSound, joined]
      simp [Scan.series, Scan.below, length]

/-- A sample and a blank line, both ended by a carriage return and a newline. -/
def upperText : Bytes := Text.Utf8.encode "0 1\r\n \r\n"

/-- A blank line, then a sample without a newline behind it. -/
def lowerText : Bytes := Text.Utf8.encode "\n-2.5e1\t+.5"

/-- A sample, then a line whose second field is no literal. -/
def faultyText : Bytes := Text.Utf8.encode "2 3\n4 x"

/-- The texts above, one behind another: the fault on the second line is found on the
fourth, and the two blank lines are counted together. -/
theorem ofBytes_append_upperText :
    (ofBytes (upperText ++ faultyText)).result =
      .error (.parse 4 "4 x" (.invalidNumber "x" .malformed)) ∧
    (ofBytes (faultyText ++ newline :: lowerText)).result =
      .error (.parse 2 "4 x" (.invalidNumber "x" .malformed)) ∧
    (ofBytes (upperText ++ lowerText)).result = .ok ⟨[⟨0.0, 1.0⟩, ⟨-25.0, 0.5⟩]⟩ ∧
    ∃ blanks laterBlanks,
      (ofBytes upperText).details = [.parsed 1 blanks] ∧
      (ofBytes lowerText).details = [.parsed 1 laterBlanks] ∧
      (ofBytes (upperText ++ lowerText)).details = [.parsed 2 (blanks + laterBlanks)] := by
  have upper := (result_ofBytes_eq_ok_iff_fault? upperText ⟨[⟨0.0, 1.0⟩]⟩).mpr
    (by decide +kernel)
  have lower := (result_ofBytes_eq_ok_iff_fault? lowerText ⟨[⟨-25.0, 0.5⟩]⟩).mpr
    (by decide +kernel)
  have faulty := (result_ofBytes_eq_error_iff_fault? faultyText
    (.parse 2 "4 x" (.invalidNumber "x" .malformed))).mpr (by decide +kernel)
  have faultyEnded := (result_ofBytes_eq_error_iff_fault? (faultyText ++ [newline])
    (.parse 2 "4 x" (.invalidNumber "x" .malformed))).mpr (by decide +kernel)
  have ended : upperText = [] ∨ upperText.getLast? = some newline := by decide
  have ⟨_, shifted, _⟩ := ofBytes_append_behind_newline upperText faultyText ended
  have ⟨kept, _, _⟩ := ofBytes_append_behind_newline (faultyText ++ [newline]) lowerText
    (by decide)
  have ⟨_, _, joined⟩ := ofBytes_append_behind_newline upperText lowerText ended
  rw [List.append_cons]
  exact ⟨shifted _ _ upper faulty, kept _ faultyEnded, joined _ _ upper lower⟩

end Series
end LatencyChart
