import LatencyChart.Proofs.Series.RoundTrip
import LatencyChart.Series.Columns

/-!
# Columns that match

All ways of making a series in two columns give columns of one length, whatever was read, and they
are those of the series itself.
-/

namespace LatencyChart

/-! ## Views of columns -/

namespace Series

theorem columns_append (series : Series) (sample : Sample) :
    columns ⟨series.samples ++ [sample]⟩ = series.columns.push sample.time sample.rtt := by
  simp [columns, times, rtts, Columns.push, Columns.pushTime, Columns.pushRtt]

theorem pairs_columns (series : Series) : series.columns.pairs = series.toPairs := by
  simp [columns, Columns.pairs, times, rtts, toPairs, List.zip_map']

theorem length_columns (series : Series) : series.columns.length = series.length :=
  series.length_times

theorem renderChars_columns (series : Series) :
    series.columns.renderChars = series.renderChars := by
  rw [Columns.renderChars, pairs_columns, toPairs, List.flatMap_map]
  rfl

end Series

namespace Columns

/-- Pairs are put into both columns as the samples of a series are. -/
theorem ofPairs_eq (pairs : List (Float × Float)) :
    ofPairs pairs = (Series.ofPairs pairs).columns := by
  induction pairs using List.reverseRecOn with
  | nil => rfl
  | append_singleton pairs pair inductionHypothesis =>
      have longer : Series.ofPairs (pairs ++ [pair]) =
          ⟨(Series.ofPairs pairs).samples ++ [⟨pair.1, pair.2⟩]⟩ := by
        simp [Series.ofPairs]
      rw [longer, Series.columns_append, ← inductionHypothesis, ofPairs, List.foldl_append]
      rfl

theorem pairs_ofPairs (pairs : List (Float × Float)) : (ofPairs pairs).pairs = pairs := by
  rw [ofPairs_eq, Series.pairs_columns, Series.toPairs_ofPairs]

/-- Going through columns loses nothing just when they are of one length. -/
theorem ofPairs_pairs_iff (columns : Columns) :
    ofPairs columns.pairs = columns ↔ columns.times.length = columns.rtts.length := by
  constructor
  · intro collected
    rw [← collected, ofPairs_eq]
    exact (Series.length_times _).trans (Series.length_rtts _).symm
  · intro matched
    rw [ofPairs_eq, Series.columns, Series.times, Series.rtts, Series.ofPairs]
    simp only [List.map_map, Function.comp_def, pairs]
    change Columns.mk (List.map Prod.fst _) (List.map Prod.snd _) = columns
    rw [List.map_fst_zip matched.le, List.map_snd_zip matched.ge]

end Columns

/-! ## Progress and scans -/

namespace Series

/-- One more sample tells a step back unless there was one before. -/
theorem firstStepBack?_concat
    (accepted : List (Nat × Sample))
    (line : Nat)
    (sample : Sample) :
    firstStepBack? (accepted ++ [(line, sample)]) =
      (firstStepBack? accepted).or (accepted.getLast?.bind fun last =>
        if sample.time < last.2.time then
          some (.timeGoesBack last.2.time sample.time line)
        else none) := by
  induction accepted with
  | nil => rfl
  | cons previous rest inductionHypothesis =>
      cases rest with
      | nil => rfl
      | cons next rest =>
          rw [List.getLast?_cons_cons, List.cons_append, List.cons_append, firstStepBack?,
            firstStepBack?]
          split
          · rfl
          · exact inductionHypothesis

end Series

namespace Columns.Progress

open Series

/-- The progress of reading that a scan describes. -/
def ofScan (scan : Scan) : Progress where
  columns := scan.series.columns
  blanks := scan.blanks
  warned := (firstStepBack? scan.accepted).isSome
  events := (firstStepBack? scan.accepted).toList

theorem getLast?_times_ofScan (scan : Scan) :
    (ofScan scan).columns.times.getLast? = scan.accepted.getLast?.map (·.2.time) := by
  simp [ofScan, Series.columns, Scan.series, Series.times, List.getLast?_map, Function.comp_def]

theorem take_blank
    (scan : Scan)
    (line : Nat) :
    (ofScan scan).take line .blank = ofScan { scan with blanks := scan.blanks + 1 } := rfl

/-- A sample in a line makes both columns longer. -/
theorem take_sample
    (scan : Scan)
    (line : Nat)
    (sample : Sample) :
    (ofScan scan).take line (.sample sample) =
      ofScan { scan with accepted := scan.accepted ++ [(line, sample)] } := by
  have last := getLast?_times_ofScan scan
  have told := firstStepBack?_concat scan.accepted line sample
  have longer : Scan.series { scan with accepted := scan.accepted ++ [(line, sample)] } =
      ⟨scan.series.samples ++ [sample]⟩ := by
    simp [Scan.series]
  simp only [take, watch, last]
  rw [ofScan, ofScan, longer, Series.columns_append, told]
  cases scan.accepted.getLast? with
  | none => simp
  | some previous =>
      cases firstStepBack? scan.accepted with
      | some event => simp
      | none =>
          by_cases back : sample.time < previous.2.time
          · simp [back]
          · simp [back]

/-- Reading on behind a scan without a fault gives what the scan and that of the later lines give
together: its series in columns, or its fault, and its events. -/
theorem readLines_ofScan
    (lines : List RawLine)
    (number : Nat)
    {seen : Scan}
    (sound : seen.fault? = none) :
    readLines lines number (ofScan seen) =
      ((seen.append (Scan.ofLines lines number)).result.map Series.columns,
        (seen.append (Scan.ofLines lines number)).events) := by
  -- A line without a fault leads from one scan without a fault to the next.
  induction lines generalizing number seen with
  | nil =>
      rw [Scan.append_of_noFault sound, readLines]
      simp [Scan.ofLines, Scan.empty, Scan.result, Scan.events, Scan.series, ofScan,
        Series.length_columns, Series.length, Except.map]
  | cons line lines inductionHypothesis =>
      rw [Scan.ofLines_cons, readLines, Scan.append_of_noFault sound, Scan.push]
      cases readLine number line with
      | error fault => simp [Scan.result, Scan.events, ofScan, Except.map]
      | ok reading =>
          cases reading with
          | blank =>
              have stillSound : Scan.fault? { seen with blanks := seen.blanks + 1 } = none := sound
              simp only
              rw [take_blank, inductionHypothesis _ stillSound,
                Scan.append_of_noFault stillSound, Nat.add_right_comm, ← Nat.add_assoc]
          | sample sample =>
              have stillSound : Scan.fault? { seen with
                  accepted := seen.accepted ++ [(number, sample)] } = none := sound
              simp only
              rw [take_sample, inductionHypothesis _ stillSound,
                Scan.append_of_noFault stillSound, List.append_assoc, List.singleton_append]

end Columns.Progress

namespace Columns

/-- A source is read into the columns of its series, with the same events. -/
theorem ofEvents_eq (answers : List ReadEvent) :
    ofEvents answers =
      ((Series.ofEvents answers).result.map Series.columns, (Series.ofEvents answers).events) := by
  have nothing_append (scan : Series.Scan) : Series.Scan.empty.append scan = scan := by
    simp [Series.Scan.append, Series.Scan.empty]
  have sound : Series.Scan.empty.fault? = none := rfl
  have run := Progress.readLines_ofScan
    (Series.linesOf (Series.Signal.ofEvents answers)) 1 sound
  rw [nothing_append] at run
  exact run

theorem ofPath_eq (path : PathName) (store : Store) :
    ofPath path store =
      ((Series.ofPath path store).result.map Series.columns,
        (Series.ofPath path store).events) := by
  unfold ofPath Series.ofPath
  cases store.open? path with
  | ok entry => exact ofEvents_eq entry.readEvents
  | error cause => rfl

end Columns

/-! ## The text of columns -/

/-- Some characters, none of which is blank. -/
def IsToken (text : List Char) : Prop :=
  text ≠ [] ∧ ∀ character ∈ text, Text.isBlank character = false

/-- A text of as many lines as there are rows: each holds the two tokens of its row with a space
between them and ends in a newline. -/
inductive IsTable : List Char → List (List Char × List Char) → Prop
  | empty : IsTable [] []
  | line {first second rest : List Char} {rows : List (List Char × List Char)}
      (firstToken : IsToken first)
      (secondToken : IsToken second)
      (later : IsTable rest rows) :
      IsTable (first ++ ' ' :: second ++ '\n' :: rest) ((first, second) :: rows)

theorem isToken_shortestText (number : Float) : IsToken (Number.shortestText number) :=
  ⟨Number.shortestText_ne_nil number, fun _ => Number.isBlank_eq_false_of_mem_shortestText⟩

theorem IsToken.newline_not_mem
    {text : List Char}
    (token : IsToken text) :
    '\n' ∉ text := by
  intro member
  have visible := token.2 _ member
  contradiction

/-- A table has as many newlines as rows. -/
theorem IsTable.count_newline
    {text : List Char}
    {rows : List (List Char × List Char)}
    (table : IsTable text rows) :
    text.count '\n' = rows.length := by
  induction table with
  | empty => rfl
  | line firstToken secondToken _ inductionHypothesis =>
      rw [List.count_append, List.count_append, List.count_cons_of_ne (by decide),
        List.count_eq_zero_of_not_mem firstToken.newline_not_mem,
        List.count_eq_zero_of_not_mem secondToken.newline_not_mem, List.count_cons_self,
        inductionHypothesis, List.length_cons, Nat.zero_add]

namespace Columns

/-- The texts of the numbers in columns, pair by pair. -/
def rows (columns : Columns) : List (List Char × List Char) :=
  columns.pairs.map (Prod.map Number.shortestText Number.shortestText)

theorem isTable_renderChars (columns : Columns) : IsTable columns.renderChars columns.rows := by
  unfold renderChars rows
  induction columns.pairs with
  | nil => exact .empty
  | cons pair pairs inductionHypothesis =>
      have table := IsTable.line (isToken_shortestText pair.1) (isToken_shortestText pair.2)
        inductionHypothesis
      rw [List.flatMap_cons, List.map_cons, Prod.map, Sample.render]
      simpa using table

end Columns

/-! ## Ways of making a series -/

/-- The ways in which a series is made. -/
inductive Making
  /-- No samples, with room for some. -/
  | new (capacity : Nat)
  | default
  | collect (pairs : List (Float × Float))
  | read (answers : List ReadEvent)
  | load (path : PathName) (store : Store)
  | clone (making : Making)

namespace Making

/-- The series that is made, or the fault that leaves none. -/
def series? : Making → Except LoadFault Series
  | new _ | default => .ok .empty
  | collect pairs => .ok (.ofPairs pairs)
  | read answers => (Series.ofEvents answers).result
  | load path store => (Series.ofPath path store).result
  | clone making => making.series?

/-- The columns that are made, or the fault that leaves none. -/
def columns? : Making → Except LoadFault Columns
  | new _ | default => .ok .empty
  | collect pairs => .ok (.ofPairs pairs)
  | read answers => (Columns.ofEvents answers).1
  | load path store => (Columns.ofPath path store).1
  | clone making => making.columns?

/-- However it is made, a series has the columns that are filled one after the other. -/
theorem columns?_eq (making : Making) : making.columns? = making.series?.map Series.columns := by
  induction making with
  | new | default => rfl
  | collect pairs => exact congrArg Except.ok (Columns.ofPairs_eq pairs)
  | read answers => exact congrArg Prod.fst (Columns.ofEvents_eq answers)
  | load path store => exact congrArg Prod.fst (Columns.ofPath_eq path store)
  | clone making inductionHypothesis => exact inductionHypothesis

/-- Columns that are made belong to a series that is made. -/
theorem exists_series
    {making : Making}
    {columns : Columns}
    (made : making.columns? = .ok columns) :
    ∃ series, making.series? = .ok series ∧ series.columns = columns := by
  rw [columns?_eq] at made
  cases outcome : making.series? with
  | error fault =>
      rw [outcome] at made
      contradiction
  | ok series =>
      rw [outcome] at made
      exact ⟨series, rfl, Except.ok.inj made⟩

/-- Columns match in whatever way they are made.  Where a way of making a series fails, it leaves
the same fault and no columns.  Otherwise the columns are those of the series: both are of the same
length, so that going through both at once gives as many pairs as there are samples; collecting
these pairs gives the columns back with all their bits; and the text has one line per sample, which
holds two tokens and ends in a newline.  Going through the columns of any pairs gives these pairs.
What is seen of the columns of a series is what is seen of the series. -/
theorem columns?_match :
    (∀ making : Making, making.columns? = making.series?.map Series.columns ∧
      ∀ columns, making.columns? = .ok columns →
        columns.times.length = columns.rtts.length ∧
        columns.pairs.length = columns.length ∧
        Columns.ofPairs columns.pairs = columns ∧
        IsTable columns.renderChars columns.rows ∧
        columns.rows.length = columns.length ∧
        columns.renderChars.count '\n' = columns.length) ∧
    (∀ pairs, (Columns.ofPairs pairs).pairs = pairs) ∧
    ∀ series : Series,
      series.columns.pairs = series.toPairs ∧
      series.columns.length = series.length ∧
      series.columns.renderChars = series.renderChars := by
  refine ⟨fun making => ⟨making.columns?_eq, ?_⟩, Columns.pairs_ofPairs, ?_⟩
  · intro columns made
    obtain ⟨series, -, rfl⟩ := exists_series made
    have matched : series.columns.times.length = series.columns.rtts.length :=
      series.length_times.trans series.length_rtts.symm
    have pairs_length : series.columns.pairs.length = series.columns.length := by
      rw [Columns.pairs, List.length_zip, ← matched, Nat.min_self, Columns.length]
    have rows_length : series.columns.rows.length = series.columns.length := by
      rw [Columns.rows, List.length_map, pairs_length]
    have table := series.columns.isTable_renderChars
    exact ⟨matched, pairs_length, (Columns.ofPairs_pairs_iff _).mpr matched, table, rows_length,
      table.count_newline.trans rows_length⟩
  · intro series
    exact ⟨series.pairs_columns, series.length_columns, series.renderChars_columns⟩

/-- A copy of what is read from a source that is interrupted in the middle of a number. -/
def interrupted : Making :=
  .clone (.read [.chunk (Text.Utf8.encode "0 1\r\n \r\nna"), .failed (.plain .interrupted),
    .chunk (Text.Utf8.encode "n -2.5e1")])

/-- The columns of a sample and of one without a time. -/
def interruptedColumns : Columns :=
  ⟨[0.0, Binary64.notANumber], [1.0, -25.0]⟩

theorem columns?_interrupted :
    interrupted.columns? = .ok interruptedColumns ∧
    interruptedColumns.times.length = interruptedColumns.rtts.length ∧
    interruptedColumns.pairs.length = 2 ∧
    Columns.ofPairs interruptedColumns.pairs = interruptedColumns ∧
    IsTable interruptedColumns.renderChars interruptedColumns.rows ∧
    interruptedColumns.renderChars.count '\n' = 2 := by
  have made : interrupted.columns? = .ok interruptedColumns := by decide +kernel
  obtain ⟨matched, pairs_length, collected, table, -, lines⟩ :=
    (columns?_match.1 interrupted).2 interruptedColumns made
  exact ⟨made, matched, pairs_length, collected, table, lines⟩

end Making

end LatencyChart
