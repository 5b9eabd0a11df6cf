import LatencyChart.Proofs.Number.RoundTrip
import LatencyChart.Proofs.Series.Concatenation

/-!
# Series survive their texts

A series is written as one line per sample, and reading the text gives the series back with
every number as it was.  So the text of a series that was read is the same text when it is
read and written again.
-/

namespace LatencyChart

/-! ## The line of a sample -/

namespace Sample

/-- The text of a sample without the newline behind it. -/
def lineText (sample : Sample) : List Char :=
  Number.shortestText sample.time ++ ' ' :: Number.shortestText sample.rtt

/-- The bytes of a sample without the newline behind them. -/
def line (sample : Sample) : Bytes :=
  Text.Utf8.encodeChars sample.lineText

theorem encodeChars_render (sample : Sample) :
    Text.Utf8.encodeChars sample.render = sample.line ++ [Series.newline] := by
  have newlineBytes : Text.Utf8.encodeChars ['\n'] = [Series.newline] := by decide
  rw [line, ← newlineBytes, ← Text.Utf8.encodeChars_append, render, lineText]
  simp

/-- The only blank in the line of a sample is the space between its numbers. -/
theorem isBlank_eq_false_of_mem_lineText
    {sample : Sample}
    {character : Char}
    (member : character ∈ sample.lineText)
    (noSpace : character ≠ ' ') :
    Text.isBlank character = false := by
  rcases List.mem_append.mp member with time | rest
  · exact Number.isBlank_eq_false_of_mem_shortestText time
  · rcases List.mem_cons.mp rest with space | rtt
    · exact absurd space noSpace
    · exact Number.isBlank_eq_false_of_mem_shortestText rtt

/-- A blank byte other than the space is not in the line of a sample. -/
theorem not_mem_line
    (sample : Sample)
    {byte : UInt8}
    (ascii : byte.toNat < 0x80)
    (blank : Text.isBlank (Char.ofNat byte.toNat) = true)
    (noSpace : Char.ofNat byte.toNat ≠ ' ') :
    byte ∉ sample.line := by
  intro member
  have present := Text.Utf8.ofNat_mem_of_mem_encodeChars ascii member
  rw [isBlank_eq_false_of_mem_lineText present noSpace] at blank
  contradiction

theorem newline_not_mem_line (sample : Sample) :
    Series.newline ∉ sample.line :=
  sample.not_mem_line (by decide) (by decide) (by decide)

theorem carriageReturn_not_mem_line (sample : Sample) :
    Series.carriageReturn ∉ sample.line :=
  sample.not_mem_line (by decide) (by decide) (by decide)

/-- The line of a sample holds the sample. -/
theorem isSampleLine_line (sample : Sample) : Series.IsSampleLine sample.line sample := by
  refine ⟨sample.lineText, Number.shortestText sample.time, Number.shortestText sample.rtt, rfl,
    ?_, Number.Literal.read_shortestText sample.time,
    Number.Literal.read_shortestText sample.rtt⟩
  apply maximalRuns_pair
  · exact Number.shortestText_ne_nil sample.time
  · exact fun _ => Number.isBlank_eq_false_of_mem_shortestText
  · decide
  · exact Number.shortestText_ne_nil sample.rtt
  · exact fun _ => Number.isBlank_eq_false_of_mem_shortestText

end Sample

namespace Series

/-! ## The lines of a series -/

theorem cutIntoLines_render (samples : List Sample) :
    CutIntoLines (Text.Utf8.encodeChars (samples.flatMap Sample.render))
      (samples.map Sample.line) := by
  induction samples with
  | nil => exact .none
  | cons sample samples inductionHypothesis =>
      rw [List.flatMap_cons, Text.Utf8.encodeChars_append, Sample.encodeChars_render,
        List.append_assoc, List.singleton_append]
      have noReturn : sample.line.getLast? ≠ some carriageReturn := fun last =>
        sample.carriageReturn_not_mem_line (List.mem_of_getLast? last)
      exact .ended sample.newline_not_mem_line noReturn inductionHypothesis

theorem Scan.ofLines_of_samples
    (samples : List Sample)
    (number : Nat) :
    ofLines ((samples.map Sample.line).map .ok) number =
      ⟨(samples.zipIdx number).map Prod.swap, 0, none⟩ := by
  induction samples generalizing number with
  | nil => rfl
  | cons sample samples inductionHypothesis =>
      rw [List.map_cons, List.map_cons, ofLines_cons, inductionHypothesis, push,
        readLine_of_sample number sample.isSampleLine_line]
      rfl

/-- Every line of the text of a series holds a sample. -/
theorem scanOf_render (series : Series) :
    scanOf (Text.Utf8.encode series.render) =
      ⟨(series.samples.zipIdx 1).map Prod.swap, 0, none⟩ := by
  rw [scanOf, Text.Utf8.encode, render, String.toList_ofList, renderChars,
    (cutIntoLines_render series.samples).linesOf_eq, Scan.ofLines_of_samples]

/-! ## Reading what was written -/

theorem result_ofBytes_render (series : Series) :
    (ofBytes (Text.Utf8.encode series.render)).result = .ok series := by
  rw [result_ofBytes_eq_ok_iff_fault?, scanOf_render]
  refine ⟨rfl, ?_⟩
  simp [Scan.series, Function.comp_def]

/-- Two series with the same text are the same. -/
theorem render_injective : Function.Injective render := by
  intro left right equal
  have back := result_ofBytes_render left
  rw [equal, result_ofBytes_render right] at back
  exact (Except.ok.inj back).symm

/-- The text of the series that a text is read as. -/
def canonicalText (bytes : Bytes) : Except LoadFault String :=
  (ofBytes bytes).result.map render

/-- Reading the text of a series gives the series back: as many samples in the same order,
each number with the bits that it had or, as before, not a number, and no blank lines.  So the
text of any series that was read is canonical: it is the same when it is read and written
again. -/
theorem ofBytes_inverts_render :
    (∀ series : Series,
      (ofBytes (Text.Utf8.encode series.render)).result = .ok series ∧
      (ofBytes (Text.Utf8.encode series.render)).details = [.parsed series.length 0]) ∧
    ∀ bytes text, canonicalText bytes = .ok text →
      canonicalText (Text.Utf8.encode text) = .ok text := by
  constructor
  · intro series
    refine ⟨result_ofBytes_render series, ?_⟩
    rw [details_ofBytes, scanOf_render]
    simp [length]
  · intro bytes text accepted
    unfold canonicalText at accepted
    cases loaded : (ofBytes bytes).result with
    | error fault =>
        rw [loaded] at accepted
        contradiction
    | ok series =>
        rw [loaded] at accepted
        rw [← Except.ok.inj accepted, canonicalText, result_ofBytes_render]
        rfl

end Series
end LatencyChart
