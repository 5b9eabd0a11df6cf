import LatencyChart.Proofs.MaximalRuns
import LatencyChart.Proofs.Number.Grammar
import LatencyChart.Proofs.Series.Lines
import LatencyChart.Proofs.Text.Utf8

/-!
# The line grammar and the first fault

A line is blank, or a sample, or faulty, and nothing in between: its characters and its
fields decide which.  The first faulty line decides the outcome of reading a text, and
without one every line that is not blank gives one sample.
-/

namespace LatencyChart
namespace Series

/-! ## The three kinds of lines -/

/-- A line of blank characters only. -/
def IsBlankLine (line : Bytes) : Prop :=
  ∃ text, Text.Utf8.encodeChars text = line ∧
    ∀ character ∈ text, Text.isBlank character = true

/-- A line of two fields that are read as the numbers of a sample. -/
def IsSampleLine (line : Bytes) (sample : Sample) : Prop :=
  ∃ text timeField rttField, Text.Utf8.encodeChars text = line ∧
    MaximalRuns Text.isBlank text [timeField, rttField] ∧
    Number.Literal.read timeField = .ok sample.time ∧
    Number.Literal.read rttField = .ok sample.rtt

/-- A line with a fault: bytes that are no text, or one field or three and more, or two
fields of which the first, or else the second, is no literal. -/
inductive IsFaultyLine (number : Nat) : Bytes → LoadFault → Prop
  | noText {line : Bytes}
      (undecodable : ¬∃ text, Text.Utf8.encodeChars text = line) :
      IsFaultyLine number line (.read number .invalidText)
  | fieldCount {text : List Char} {fields : List (List Char)}
      (cut : MaximalRuns Text.isBlank text fields)
      (wrongCount : fields.length = 1 ∨ 3 ≤ fields.length) :
      IsFaultyLine number (Text.Utf8.encodeChars text)
        (.parse number (String.ofList text) (.fieldCount fields.length))
  | timeField {text timeField rttField : List Char}
      (cut : MaximalRuns Text.isBlank text [timeField, rttField])
      (noLiteral : ¬Number.Literal.IsLiteral timeField) :
      IsFaultyLine number (Text.Utf8.encodeChars text)
        (.parse number (String.ofList text)
          (.invalidNumber (String.ofList timeField) .malformed))
  | rttField {text timeField rttField : List Char}
      (cut : MaximalRuns Text.isBlank text [timeField, rttField])
      (literal : Number.Literal.IsLiteral timeField)
      (noLiteral : ¬Number.Literal.IsLiteral rttField) :
      IsFaultyLine number (Text.Utf8.encodeChars text)
        (.parse number (String.ofList text)
          (.invalidNumber (String.ofList rttField) .malformed))

/-- A line without a fault. -/
def IsSoundLine (line : Bytes) : Prop :=
  IsBlankLine line ∨ ∃ sample, IsSampleLine line sample

theorem maximalRuns_nil_iff (text : List Char) :
    MaximalRuns Text.isBlank text [] ↔ ∀ character ∈ text, Text.isBlank character = true := by
  constructor
  · rintro ⟨gapSeparates⟩
    exact gapSeparates
  · exact MaximalRuns.none

theorem readLine_of_text
    (number : Nat)
    (text : List Char) :
    readLine number (.ok (Text.Utf8.encodeChars text)) =
      (readText text).mapError (.parse number (String.ofList text)) := by
  have decoded := (Text.Utf8.decode?_eq_some_iff _ text).mpr rfl
  simp only [readLine, decoded]

theorem readText_of_fields
    {text timeField rttField : List Char}
    (cut : MaximalRuns Text.isBlank text [timeField, rttField]) :
    readText text = do
      let time ← readNumber timeField
      let rtt ← readNumber rttField
      return .sample ⟨time, rtt⟩ := by
  unfold readText
  rw [fields_eq_runsOf, cut.runsOf_eq]

theorem readNumber_ok
    {field : List Char}
    {number : Float}
    (accepted : Number.Literal.read field = .ok number) :
    readNumber field = .ok number := by
  rw [readNumber, accepted]
  rfl

theorem readNumber_of_literal
    {field : List Char}
    (literal : Number.Literal.IsLiteral field) :
    ∃ number, readNumber field = .ok number := by
  obtain ⟨number, accepted⟩ := (Number.Literal.exists_read_iff field).mpr literal
  exact ⟨number, readNumber_ok accepted⟩

theorem readNumber_of_not_literal
    {field : List Char}
    (nonempty : field ≠ [])
    (noLiteral : ¬Number.Literal.IsLiteral field) :
    readNumber field = .error (.invalidNumber (String.ofList field) .malformed) := by
  rcases Number.Literal.read_cases nonempty with ⟨literal, -⟩ | ⟨-, refused⟩
  · exact absurd literal noLiteral
  · rw [readNumber, refused]
    rfl

theorem readLine_of_blank
    (number : Nat)
    {line : Bytes}
    (blank : IsBlankLine line) :
    readLine number (.ok line) = .ok .blank := by
  obtain ⟨text, rfl, allBlank⟩ := blank
  rw [readLine_of_text, readText, fields_eq_runsOf,
    ((maximalRuns_nil_iff text).mpr allBlank).runsOf_eq]
  rfl

theorem readLine_of_sample
    (number : Nat)
    {line : Bytes}
    {sample : Sample}
    (holds : IsSampleLine line sample) :
    readLine number (.ok line) = .ok (.sample sample) := by
  obtain ⟨text, timeField, rttField, rfl, cut, time, rtt⟩ := holds
  rw [readLine_of_text, readText_of_fields cut, readNumber_ok time, readNumber_ok rtt]
  rfl

theorem readLine_of_faulty
    {number : Nat}
    {line : Bytes}
    {fault : LoadFault}
    (faulty : IsFaultyLine number line fault) :
    readLine number (.ok line) = .error fault := by
  cases faulty with
  | noText undecodable =>
      have refused := (Text.Utf8.decode?_eq_none_iff line).mpr undecodable
      simp only [readLine, refused]
  | @fieldCount text fields cut wrongCount =>
      rw [readLine_of_text]
      unfold readText
      rw [fields_eq_runsOf, cut.runsOf_eq]
      match fields, wrongCount with
      | [_], _ => rfl
      | _ :: _ :: _ :: _, _ => rfl
  | @timeField text timeField rttField cut noLiteral =>
      have nonempty := (cut.mem (by simp : timeField ∈ [timeField, rttField])).1
      rw [readLine_of_text, readText_of_fields cut,
        readNumber_of_not_literal nonempty noLiteral]
      rfl
  | @rttField text timeField rttField cut literal noLiteral =>
      have nonempty := (cut.mem (by simp : rttField ∈ [timeField, rttField])).1
      obtain ⟨time, accepted⟩ := readNumber_of_literal literal
      rw [readLine_of_text, readText_of_fields cut, accepted,
        readNumber_of_not_literal nonempty noLiteral]
      rfl

/-- Every line is sound or faulty. -/
theorem isSoundLine_or_isFaultyLine
    (number : Nat)
    (line : Bytes) :
    IsSoundLine line ∨ ∃ fault, IsFaultyLine number line fault := by
  by_cases decodable : ∃ text, Text.Utf8.encodeChars text = line
  · obtain ⟨text, rfl⟩ := decodable
    obtain ⟨fields, cut⟩ : ∃ fields, MaximalRuns Text.isBlank text fields :=
      exists_maximalRuns text
    match fields, cut with
    | [], cut => exact Or.inl (Or.inl ⟨text, rfl, (maximalRuns_nil_iff text).mp cut⟩)
    | [timeField, rttField], cut =>
        by_cases timeLiteral : Number.Literal.IsLiteral timeField
        · by_cases rttLiteral : Number.Literal.IsLiteral rttField
          · obtain ⟨time, timeRead⟩ := (Number.Literal.exists_read_iff _).mpr timeLiteral
            obtain ⟨rtt, rttRead⟩ := (Number.Literal.exists_read_iff _).mpr rttLiteral
            exact Or.inl (Or.inr ⟨⟨time, rtt⟩, text, timeField, rttField, rfl, cut, timeRead,
              rttRead⟩)
          · exact Or.inr ⟨_, .rttField cut timeLiteral rttLiteral⟩
        · exact Or.inr ⟨_, .timeField cut timeLiteral⟩
    | [_], cut => exact Or.inr ⟨_, .fieldCount cut (Or.inl rfl)⟩
    | _ :: _ :: _ :: _, cut => exact Or.inr ⟨_, .fieldCount cut (Or.inr (by simp))⟩
  · exact Or.inr ⟨_, .noText decodable⟩

/-! ## The first fault of many lines -/

/-- A faulty line stands behind sound lines only.  Lines are numbered from `number` on. -/
def FirstFault (number : Nat) (lines : List Bytes) (fault : LoadFault) : Prop :=
  ∃ before line after, lines = before ++ line :: after ∧
    (∀ earlier ∈ before, IsSoundLine earlier) ∧
    IsFaultyLine (number + before.length) line fault

/-- All lines are sound, and those that are not blank hold the given samples in order. -/
inductive SampleLines : List Bytes → List Sample → Prop
  | none : SampleLines [] []
  | blank {line : Bytes} {lines : List Bytes} {samples : List Sample}
      (blank : IsBlankLine line)
      (later : SampleLines lines samples) :
      SampleLines (line :: lines) samples
  | sample {line : Bytes} {sample : Sample} {lines : List Bytes} {samples : List Sample}
      (holds : IsSampleLine line sample)
      (later : SampleLines lines samples) :
      SampleLines (line :: lines) (sample :: samples)

theorem FirstFault.cons
    {number : Nat}
    {line : Bytes}
    {lines : List Bytes}
    {fault : LoadFault}
    (sound : IsSoundLine line)
    (later : FirstFault (number + 1) lines fault) :
    FirstFault number (line :: lines) fault := by
  obtain ⟨before, faultyLine, after, rfl, soundBefore, faulty⟩ := later
  refine ⟨line :: before, faultyLine, after, rfl,
    List.forall_mem_cons.mpr ⟨sound, soundBefore⟩, ?_⟩
  rwa [List.length_cons, Nat.add_comm before.length, ← Nat.add_assoc]

/-- Lines either have a first fault or are all sound. -/
theorem firstFault_or_sampleLines
    (number : Nat)
    (lines : List Bytes) :
    (∃ fault, FirstFault number lines fault) ∨ ∃ samples, SampleLines lines samples := by
  induction lines generalizing number with
  | nil => exact Or.inr ⟨[], .none⟩
  | cons line lines inductionHypothesis =>
      rcases isSoundLine_or_isFaultyLine number line with sound | ⟨fault, faulty⟩
      · rcases inductionHypothesis (number + 1) with ⟨fault, later⟩ | ⟨samples, later⟩
        · exact Or.inl ⟨fault, later.cons sound⟩
        · rcases sound with blank | ⟨sample, holds⟩
          · exact Or.inr ⟨samples, .blank blank later⟩
          · exact Or.inr ⟨sample :: samples, .sample holds later⟩
      · exact Or.inl ⟨fault, [], line, lines, rfl, by simp, faulty⟩

namespace Scan

theorem ofLines_cons
    (line : RawLine)
    (lines : List RawLine)
    (first : Nat) :
    ofLines (line :: lines) first = push (line, first) (ofLines lines (first + 1)) := by
  unfold ofLines
  rw [List.zipIdx_cons, List.foldr_cons]

/-- A sound line in front keeps the fault. -/
theorem fault?_ofLines_cons_sound
    {line : Bytes}
    (sound : IsSoundLine line)
    (lines : List RawLine)
    (first : Nat) :
    (ofLines (.ok line :: lines) first).fault? = (ofLines lines (first + 1)).fault? := by
  rw [ofLines_cons, push]
  rcases sound with blank | ⟨sample, holds⟩
  · rw [readLine_of_blank first blank]
  · rw [readLine_of_sample first holds]

theorem fault?_of_firstFault
    {number : Nat}
    {lines : List Bytes}
    {fault : LoadFault}
    (firstFault : FirstFault number lines fault) :
    (ofLines (lines.map .ok) number).fault? = some fault := by
  obtain ⟨before, line, after, rfl, soundBefore, faulty⟩ := firstFault
  induction before generalizing number with
  | nil =>
      rw [List.nil_append, List.map_cons, ofLines_cons, push]
      rw [List.length_nil, Nat.add_zero] at faulty
      rw [readLine_of_faulty faulty]
  | cons sound before inductionHypothesis =>
      obtain ⟨isSound, others⟩ := List.forall_mem_cons.mp soundBefore
      rw [List.cons_append, List.map_cons, fault?_ofLines_cons_sound isSound]
      apply inductionHypothesis others
      rwa [Nat.add_assoc, Nat.add_comm 1, ← List.length_cons]

theorem of_sampleLines
    {lines : List Bytes}
    {samples : List Sample}
    (sound : SampleLines lines samples)
    (number : Nat) :
    (ofLines (lines.map .ok) number).fault? = none ∧
      (ofLines (lines.map .ok) number).series = ⟨samples⟩ := by
  induction sound generalizing number with
  | none => exact ⟨rfl, rfl⟩
  | blank blank _ inductionHypothesis =>
      rw [List.map_cons, ofLines_cons, push, readLine_of_blank number blank]
      exact inductionHypothesis (number + 1)
  | @sample line sample lines samples holds _ inductionHypothesis =>
      obtain ⟨noFault, series_eq⟩ := inductionHypothesis (number + 1)
      rw [List.map_cons, ofLines_cons, push, readLine_of_sample number holds]
      refine ⟨noFault, ?_⟩
      have samples_eq := congrArg Series.samples series_eq
      exact congrArg (fun later => Series.mk (sample :: later)) samples_eq

end Scan

/-! ## Reading a text -/

theorem result_ofBytes
    {bytes : Bytes}
    {lines : List Bytes}
    (cut : CutIntoLines bytes lines) :
    (ofBytes bytes).result = (Scan.ofLines (lines.map .ok) 1).result := by
  unfold ofBytes ofSignals
  rw [cut.linesOf_eq]

/-- A text is refused with the fault of its first faulty line. -/
theorem result_ofBytes_eq_error_iff
    {bytes : Bytes}
    {lines : List Bytes}
    (cut : CutIntoLines bytes lines)
    (fault : LoadFault) :
    (ofBytes bytes).result = .error fault ↔ FirstFault 1 lines fault := by
  rw [result_ofBytes cut, Scan.result]
  constructor
  · intro refused
    rcases firstFault_or_sampleLines 1 lines with ⟨found, firstFault⟩ | ⟨samples, sound⟩
    · rw [Scan.fault?_of_firstFault firstFault] at refused
      rwa [← Except.error.inj refused]
    · rw [(Scan.of_sampleLines sound 1).1] at refused
      contradiction
  · intro firstFault
    rw [Scan.fault?_of_firstFault firstFault]

/-- A text is accepted with the samples of its lines when all of them are sound. -/
theorem result_ofBytes_eq_ok_iff
    {bytes : Bytes}
    {lines : List Bytes}
    (cut : CutIntoLines bytes lines)
    (series : Series) :
    (ofBytes bytes).result = .ok series ↔ SampleLines lines series.samples := by
  rw [result_ofBytes cut, Scan.result]
  constructor
  · intro accepted
    rcases firstFault_or_sampleLines 1 lines with ⟨found, firstFault⟩ | ⟨samples, sound⟩
    · rw [Scan.fault?_of_firstFault firstFault] at accepted
      contradiction
    · rw [(Scan.of_sampleLines sound 1).1] at accepted
      rwa [← Except.ok.inj accepted, (Scan.of_sampleLines sound 1).2]
  · intro sound
    rw [(Scan.of_sampleLines sound 1).1]
    exact congrArg Except.ok (Scan.of_sampleLines sound 1).2

/-- A fault is decided by the lines up to the faulty one. -/
theorem FirstFault.append
    {number : Nat}
    {lines : List Bytes}
    {fault : LoadFault}
    (firstFault : FirstFault number lines fault)
    (later : List Bytes) :
    FirstFault number (lines ++ later) fault := by
  obtain ⟨before, line, after, rfl, soundBefore, faulty⟩ := firstFault
  exact ⟨before, line, after ++ later, by simp, soundBefore, faulty⟩

/-- What a parse fault says about its line: its number, its whole text, and either a count of
fields that is neither zero nor two, or a field that is neither empty nor broken by a blank. -/
theorem IsFaultyLine.parse
    {number line : Nat}
    {bytes : Bytes}
    {content : String}
    {reason : LineFault}
    (faulty : IsFaultyLine number bytes (.parse line content reason)) :
    line = number ∧ Text.Utf8.encode content = bytes ∧
      ((∃ count, reason = .fieldCount count ∧ (count = 1 ∨ 3 ≤ count)) ∨
        ∃ field, reason = .invalidNumber (String.ofList field) .malformed ∧ field ≠ [] ∧
          ∀ character ∈ field, Text.isBlank character = false) := by
  have encode_ofList (text : List Char) :
      Text.Utf8.encode (String.ofList text) = Text.Utf8.encodeChars text := by
    rw [Text.Utf8.encode, String.toList_ofList]
  cases faulty with
  | @fieldCount text fields cut wrongCount =>
      exact ⟨rfl, encode_ofList text, Or.inl ⟨_, rfl, wrongCount⟩⟩
  | @timeField text timeField rttField cut noLiteral =>
      exact ⟨rfl, encode_ofList text, Or.inr ⟨timeField, rfl, cut.mem (by simp)⟩⟩
  | @rttField text timeField rttField cut literal noLiteral =>
      exact ⟨rfl, encode_ofList text, Or.inr ⟨rttField, rfl, cut.mem (by simp)⟩⟩

/-- Reading a text cuts it into lines and refuses it with the fault of the first faulty
line, whatever stands behind that line.  A text without a faulty line is accepted with one
sample for each line that is not blank, in order. -/
theorem ofBytes_decided_by_first_faulty_line (bytes : Bytes) :
    ∃ lines, CutIntoLines bytes lines ∧
      (∀ otherLines, CutIntoLines bytes otherLines → otherLines = lines) ∧
      (∀ fault, (ofBytes bytes).result = .error fault ↔ FirstFault 1 lines fault) ∧
      (∀ series, (ofBytes bytes).result = .ok series ↔ SampleLines lines series.samples) ∧
      (∀ series, (ofBytes bytes).result = .ok series →
        series.times.length = series.rtts.length) ∧
      (∀ line content reason, (ofBytes bytes).result = .error (.parse line content reason) →
        lines[line - 1]? = some (Text.Utf8.encode content) ∧
          ((∃ count, reason = .fieldCount count ∧ (count = 1 ∨ 3 ≤ count)) ∨
            ∃ field, reason = .invalidNumber (String.ofList field) .malformed ∧ field ≠ [] ∧
              ∀ character ∈ field, Text.isBlank character = false)) ∧
      ∀ fault, (ofBytes bytes).result = .error fault →
        ∃ before line, before ++ [line] <+: lines ∧ IsFaultyLine (1 + before.length) line fault ∧
          ∀ other otherLines, CutIntoLines other otherLines → before ++ [line] <+: otherLines →
            (ofBytes other).result = .error fault := by
  obtain ⟨lines, cut⟩ := exists_cut bytes
  refine ⟨lines, cut, ?_, result_ofBytes_eq_error_iff cut, result_ofBytes_eq_ok_iff cut,
    ?_, ?_, ?_⟩
  · intro otherLines otherCut
    exact otherCut.unique cut
  · intro series _
    rw [length_times, length_rtts]
  · intro line content reason refused
    obtain ⟨before, bytes, after, rfl, -, faulty⟩ :=
      (result_ofBytes_eq_error_iff cut _).mp refused
    obtain ⟨rfl, encoded, reasons⟩ := faulty.parse
    rw [Nat.add_sub_cancel_left, List.getElem?_append_right (Nat.le_refl _), Nat.sub_self, encoded]
    exact ⟨rfl, reasons⟩
  · intro fault refused
    obtain ⟨before, line, after, rfl, soundBefore, faulty⟩ :=
      (result_ofBytes_eq_error_iff cut fault).mp refused
    refine ⟨before, line, ⟨after, by simp⟩, faulty, ?_⟩
    rintro other otherLines otherCut ⟨later, rfl⟩
    have firstFault : FirstFault 1 (before ++ [line]) fault :=
      ⟨before, line, [], rfl, soundBefore, faulty⟩
    exact (result_ofBytes_eq_error_iff otherCut fault).mpr (firstFault.append later)

end Series
end LatencyChart
