import LatencyChart.Proofs.Chart.Figures
import LatencyChart.Proofs.Raster.Backend
import LatencyChart.Proofs.Sink.File
import LatencyChart.Run

/-!
# The course of a run

A run that names an output ends by the first cause that applies: the name of the output, the
way to the input, a fault in the input, a fault that lies in the series, the way to the
output, or success.  `Course` lists these ends with all that they leave behind.  Only the
output is ever changed, and only by the last steps of a run.
-/

namespace LatencyChart

/-! ## What was told -/

namespace Series

/-- Where times go back, nothing else is told. -/
theorem firstStepBack?_ne_chartWritten
    (accepted : List (Nat × Sample))
    (path : PathName) :
    firstStepBack? accepted ≠ some (.chartWritten path) := by
  fun_induction firstStepBack? accepted with
  | case1 => simp
  | case2 _ _ _ _ _ _ inductionHypothesis => exact inductionHypothesis
  | case3 => simp

/-- Reading writes no chart. -/
theorem chartWritten_not_mem_ofBytes
    (bytes : Bytes)
    (path : PathName) :
    .chartWritten path ∉ (ofBytes bytes).events := by
  unfold ofBytes ofSignals Scan.events
  intro member
  rcases List.mem_append.mp member with stepBack | counted
  · exact firstStepBack?_ne_chartWritten _ path (Option.mem_toList.mp stepBack)
  · split at counted
    · simp at counted
    · contradiction

/-- The pieces in which a file is read make no difference. -/
theorem ofEvents_chunk (bytes : Bytes) :
    ofEvents [.chunk bytes] = ofBytes bytes := by
  unfold ofEvents ofBytes
  cases bytes with
  | nil => rfl
  | cons first bytes =>
      rw [Signal.ofEvents, List.flatMap_cons, List.flatMap_nil, List.append_nil]
      rfl

end Series

namespace Run

theorem chartWritten_ne_described
    (input path : PathName)
    (series : Series) :
    .chartWritten path ≠ described input series := by
  unfold described
  split <;> simp

/-! ## What a file shows -/

/-- A file shows the whole chart of a series at a size, in the style of every run: a document of its
drawing with a circle per finite sample and a polyline per run of two and more, or the picture that
is painted of it. -/
inductive ShowsChart (series : Series) (size : Size) : Format → Content → Prop
  | document {chart : Chart} {drawing : List Element}
      (drawable : Chart.ofSeries? series = .ok chart)
      (recorded : Canvas.recording.drawSeries series {} size [] = (.ok (), drawing))
      (circles : Svg.tagCount "circle" (Svg.document size drawing) =
        series.finiteSamples.length)
      (polylines : Svg.tagCount "polyline" (Svg.document size drawing) =
        Svg.tagCount "polyline" (Svg.document size (chart.scenery {} size)) +
          (series.finiteRuns.filter fun run => 2 ≤ run.length).length) :
      ShowsChart series size .svg (.bytes (Text.Utf8.encode (Svg.document size drawing)))
  | picture {bitmap : Bitmap}
      (painted : Bitmap.ofSeries? .painter series {} size = some (.ok bitmap)) :
      ShowsChart series size .png (.picture bitmap)

/-- The chart of a series is shown by the content that is saved for its drawing. -/
theorem showsChart_iff
    {series : Series}
    {chart : Chart}
    (drawable : Chart.ofSeries? series = .ok chart)
    {size : Size}
    (hasBuffer : size.HasBuffer)
    (format : Format)
    {content : Content} :
    ShowsChart series size format content ↔
      content = format.content size (chart.elements {} size) := by
  have ownSeries := ((Chart.ofSeries?_eq_ok_iff series chart).mp drawable).2.1
  have recorded := Canvas.recording_drawSeries drawable {} size
  have painted : Bitmap.ofSeries? .painter series {} size = some (.ok _) :=
    Bitmap.ofSeries?_of_chart drawable hasBuffer
  constructor
  · intro shows
    cases shows with
    | document _ otherRecorded =>
        rw [recorded] at otherRecorded
        cases otherRecorded
        rfl
    | picture otherPainted =>
        rw [painted] at otherPainted
        cases otherPainted
        rfl
  · rintro rfl
    cases format with
    | svg =>
        refine .document drawable recorded ?_ ?_
        · rw [chart.tagCount_circle, ownSeries]
        · rw [chart.tagCount_polyline, ownSeries]
    | png => exact .picture painted

theorem ShowsChart.exists_chart
    {series : Series}
    {size : Size}
    {format : Format}
    {shown : Content}
    (shows : ShowsChart series size format shown) :
    ∃ chart, Chart.ofSeries? series = .ok chart := by
  cases shows with
  | document drawable => exact ⟨_, drawable⟩
  | picture painted =>
      cases drawable : Chart.ofSeries? series with
      | ok chart => exact ⟨chart, rfl⟩
      | error fault =>
          rw [Bitmap.ofSeries?_of_noChart drawable (Bitmap.hasBuffer_of_ofSeries? painted)]
            at painted
          nomatch painted

/-! ## The ends of a run -/

/-- An input that holds a series: a file that can be opened, and whose text is sound. -/
structure Holds
    (store : Store)
    (input : PathName)
    (content : Content)
    (series : Series) : Prop where
  opened : store.open? input = .ok (.file content)
  loaded : (Series.ofBytes content.toBytes).result = .ok series

/-- What is told before a loaded series is rendered. -/
def toldBefore
    (input output : PathName)
    (content : Content)
    (series : Series) : List Event :=
  .started input (some output) :: (Series.ofBytes content.toBytes).events ++
    [described input series]

/-- The ways in which a run from an input to an output goes, with what it leaves behind.
Each cause stands only where none of those before it applies. -/
inductive Course (input output : PathName) (store : Store) : Outcome → Prop
  /-- The name of the output has no known extension.  The input is not opened. -/
  | unsupportedFormat
      (unknown : Format.ofPath? output = .error (.unsupportedFormat output.display)) :
      Course input output store
        ⟨.error (.draw (.unsupportedFormat output.display)), store, []⟩
  /-- The input cannot be opened. -/
  | inaccessible {format : Format} {cause : IoFault}
      (known : Format.ofPath? output = .ok format)
      (closed : store.open? input = .error cause) :
      Course input output store
        ⟨.error (.load (.access input cause)), store, [.started input (some output)]⟩
  /-- The input is a directory, whose first line cannot be read. -/
  | directory {format : Format}
      (known : Format.ofPath? output = .ok format)
      (opened : store.open? input = .ok .directory) :
      Course input output store
        ⟨.error (.load (.read 1 (.system .isDirectory))), store,
          [.started input (some output)]⟩
  /-- The bytes of the input are refused. -/
  | refused {format : Format} {content : Content} {fault : LoadFault}
      (known : Format.ofPath? output = .ok format)
      (opened : store.open? input = .ok (.file content))
      (faulty : (Series.ofBytes content.toBytes).result = .error fault) :
      Course input output store
        ⟨.error (.load fault), store,
          .started input (some output) :: (Series.ofBytes content.toBytes).events⟩
  /-- No sample is finite. -/
  | emptySeries {format : Format} {content : Content} {series : Series}
      (known : Format.ofPath? output = .ok format)
      (holds : Holds store input content series)
      (noneFinite : ∀ sample ∈ series.samples, sample.isFinite = false) :
      Course input output store
        ⟨.error (.draw .emptySeries), store, toldBefore input output content series⟩
  /-- The times, or else the round-trip times, fit on no axis.  The output holds no drawing. -/
  | unfit {format : Format} {content : Content} {series : Series} {min max : Float}
      (known : Format.ofPath? output = .ok format)
      (holds : Holds store input content series)
      (noChart : series.HasNoChart (.range min max)) :
      Course input output store
        ⟨.error (.draw (.range min max)),
          (format.save output ({} : Style).exactPixels [] store).2,
          toldBefore input output content series⟩
  /-- The output cannot be created. -/
  | unwritable {format : Format} {content : Content} {series : Series} {chart : Chart}
      {cause : IoFault}
      (known : Format.ofPath? output = .ok format)
      (holds : Holds store input content series)
      (drawable : Chart.ofSeries? series = .ok chart)
      (noPlace : store.locateNew output = .error cause) :
      Course input output store
        ⟨.error (.draw (Canvas.fault (format.createFault cause))), store,
          toldBefore input output content series⟩
  /-- The whole chart is written. -/
  | written {format : Format} {content shown : Content} {series : Series} {left : Store}
      (known : Format.ofPath? output = .ok format)
      (holds : Holds store input content series)
      (shows : ShowsChart series ({} : Style).exactPixels format shown)
      (wrote : store.write output shown = .ok left) :
      Course input output store
        ⟨.ok (), left, toldBefore input output content series ++ [.chartWritten output]⟩

variable {input output : PathName} {verbose : Bool} {store : Store} {format : Format}
  {content : Content} {series : Series}

/-! ## Every run takes its course -/

theorem ofPath?_eq_error
    {path : PathName}
    {fault : DrawFault}
    (unknown : Format.ofPath? path = .error fault) :
    fault = .unsupportedFormat path.display := by
  unfold Format.ofPath? at unknown
  split at unknown
  · contradiction
  · exact (Except.error.inj unknown).symm

/-- The size of the figure of every run is small enough for both formats. -/
theorem size?_default (format : Format) :
    format.size? {} = some ({} : Style).exactPixels := by
  cases format <;> rfl

theorem hasBuffer_default : ({} : Style).exactPixels.HasBuffer := by
  decide

theorem sizeFault?_default (format : Format) :
    format.sizeFault? ({} : Style).exactPixels = none := by
  cases format <;> rfl

variable {display : Display}

theorem ofOptions_of_unknown
    {fault : DrawFault}
    (unknown : Format.ofPath? output = .error fault) :
    ofOptions display ⟨input, some output, verbose⟩ store =
      some ⟨.error (.draw fault), store, []⟩ := by
  unfold ofOptions Sink.ofOutput?
  dsimp only
  rw [unknown]
  rfl

theorem ofOptions_of_known
    (known : Format.ofPath? output = .ok format) :
    ofOptions display ⟨input, some output, verbose⟩ store =
      ofLoading display ⟨input, some output, verbose⟩ (.file output format)
        (Series.ofPath input store) store := by
  unfold ofOptions Sink.ofOutput?
  dsimp only
  rw [known]
  rfl

theorem ofPath_of_file
    (opened : store.open? input = .ok (.file content)) :
    Series.ofPath input store = Series.ofBytes content.toBytes := by
  unfold Series.ofPath Series.ofOpened
  rw [opened]
  exact Series.ofEvents_chunk content.toBytes

/-- Past its input a run ends as rendering does. -/
theorem ofOptions_of_rendered
    (known : Format.ofPath? output = .ok format)
    (holds : Holds store input content series)
    {rendering : Sink.Rendering}
    (rendered : Sink.renderFile output format series {} store = some rendering) :
    ofOptions display ⟨input, some output, verbose⟩ store =
      some ⟨rendering.result.mapError .draw, rendering.store,
        toldBefore input output content series ++ rendering.events⟩ := by
  rw [ofOptions_of_known known, ofPath_of_file holds.opened]
  unfold ofLoading
  rw [holds.loaded]
  simp [render, toldBefore, started, Sink.render, rendered]

/-- Past an input with finite samples a run ends as rendering does at the size of its figure. -/
theorem ofOptions_of_finite
    (known : Format.ofPath? output = .ok format)
    (holds : Holds store input content series)
    (someFinite : series.finiteSamples ≠ []) :
    let rendering := Sink.renderAt output format series {} ({} : Style).exactPixels store
    ofOptions display ⟨input, some output, verbose⟩ store =
      some ⟨rendering.result.mapError .draw, rendering.store,
        toldBefore input output content series ++ rendering.events⟩ :=
  ofOptions_of_rendered known holds (Sink.renderFile_of_size? someFinite (size?_default format))

/-- A run leaves behind what its course says, whatever the display, and whether or not details are
told. -/
theorem Course.ofOptions_eq
    {outcome : Outcome}
    (course : Course input output store outcome)
    (display : Display)
    (verbose : Bool) :
    ofOptions display ⟨input, some output, verbose⟩ store = some outcome := by
  cases course with
  | unsupportedFormat unknown => exact ofOptions_of_unknown unknown
  | inaccessible known closed =>
      rw [ofOptions_of_known known]
      unfold Series.ofPath
      rw [closed]
      rfl
  | directory known opened =>
      rw [ofOptions_of_known known]
      unfold Series.ofPath
      rw [opened]
      rfl
  | refused known opened faulty =>
      rw [ofOptions_of_known known, ofPath_of_file opened]
      unfold ofLoading
      rw [faulty]
      simp [started]
  | @emptySeries format content series known holds noneFinite =>
      have noSamples := (Series.finiteSamples_eq_nil_iff series).mpr noneFinite
      rw [ofOptions_of_rendered known holds (Sink.renderFile_of_empty noSamples), List.append_nil]
      rfl
  | @unfit format content series min max known holds noChart =>
      have refused := (Chart.ofSeries?_eq_error_iff series (.range min max)).mpr noChart
      have someFinite : series.finiteSamples ≠ [] := by
        intro noSamples
        rw [Chart.ofSeries?_of_empty noSamples] at refused
        cases refused
      rw [ofOptions_of_finite known holds someFinite, Sink.renderAt_of_noChart refused,
        List.append_nil]
      rfl
  | @unwritable format content series chart cause known holds drawable noPlace =>
      have someFinite := ((Chart.ofSeries?_eq_ok_iff series chart).mp drawable).1
      rw [ofOptions_of_finite known holds someFinite,
        Sink.renderAt_of_locateNew_error drawable noPlace, List.append_nil]
      rfl
  | @written format content shown series left known holds shows wrote =>
      obtain ⟨chart, drawable⟩ := shows.exists_chart
      have someFinite := ((Chart.ofSeries?_eq_ok_iff series chart).mp drawable).1
      rw [(showsChart_iff drawable hasBuffer_default format).mp shows] at wrote
      have saved := (Format.save_eq_ok_iff ..).mpr ⟨sizeFault?_default format, wrote⟩
      rw [ofOptions_of_finite known holds someFinite, Sink.renderAt_of_saved drawable saved]
      rfl

/-- Past its input a run is decided by the series and by the way to the output. -/
theorem exists_course_of_holds
    (known : Format.ofPath? output = .ok format)
    (holds : Holds store input content series) :
    ∃ outcome, Course input output store outcome := by
  cases drawable : Chart.ofSeries? series with
  | error fault =>
      have noChart := (Chart.ofSeries?_eq_error_iff series fault).mp drawable
      rcases noChart.liesInSeries with rfl | ⟨min, max, rfl⟩
      · have noneFinite := (Series.HasNoChart.emptySeries_iff series).mp noChart
        exact ⟨_, .emptySeries known holds noneFinite⟩
      · exact ⟨_, .unfit known holds noChart⟩
  | ok chart =>
      have shows := (showsChart_iff drawable hasBuffer_default format).mpr rfl
      cases wrote : store.write output (format.content ({} : Style).exactPixels
          (chart.elements {} ({} : Style).exactPixels)) with
      | error cause =>
          have noPlace := (Store.write_eq_error_iff ..).mp wrote
          exact ⟨_, .unwritable known holds drawable noPlace⟩
      | ok left => exact ⟨_, .written known holds shows wrote⟩

/-- Every run has a course. -/
theorem exists_course (input output : PathName) (store : Store) :
    ∃ outcome, Course input output store outcome := by
  cases known : Format.ofPath? output with
  | error fault =>
      rw [ofPath?_eq_error known] at known
      exact ⟨_, .unsupportedFormat known⟩
  | ok format =>
      cases opened : store.open? input with
      | error cause => exact ⟨_, .inaccessible known opened⟩
      | ok entry =>
          cases entry with
          | directory => exact ⟨_, .directory known opened⟩
          | file content =>
              cases loaded : (Series.ofBytes content.toBytes).result with
              | error fault => exact ⟨_, .refused known opened loaded⟩
              | ok series => exact exists_course_of_holds known ⟨opened, loaded⟩

/-- A run takes exactly one course. -/
theorem Course.eq
    {outcome other : Outcome}
    (course : Course input output store outcome)
    (otherCourse : Course input output store other) :
    other = outcome := by
  have ran := course.ofOptions_eq .missing false
  rw [otherCourse.ofOptions_eq .missing false] at ran
  exact Option.some.inj ran

/-! ## What a course leaves behind -/

variable {outcome : Outcome}

/-- Nothing but the output is ever created or changed. -/
theorem Course.changesOnly
    (course : Course input output store outcome) :
    store.ChangesOnly output outcome.store := by
  cases course with
  | unfit => exact Format.changesOnly_save ..
  | written _ _ _ wrote => exact Store.changesOnly_of_write wrote
  | _ => exact Store.ChangesOnly.refl store output

/-- A run that fails leaves the store as it was, unless its samples fit on no axis. -/
theorem Course.keeps_store
    (course : Course input output store outcome)
    {failure : Failure}
    (failed : outcome.result = .error failure)
    (notRange : ∀ min max, failure ≠ .draw (.range min max)) :
    outcome.store = store := by
  cases course with
  | unfit =>
      cases failed
      exact absurd rfl (notRange _ _)
  | written => contradiction
  | _ => rfl

/-- The whole chart of the series that was loaded stands in the output. -/
theorem Course.output_shows_chart
    (course : Course input output store outcome)
    (succeeded : outcome.result = .ok ()) :
    ∃ format content series shown,
      Format.ofPath? output = .ok format ∧ Holds store input content series ∧
        outcome.store.open? output = .ok (.file shown) ∧
          ShowsChart series ({} : Style).exactPixels format shown := by
  cases course with
  | @written format content shown series left known holds shows wrote =>
      exact ⟨format, content, series, shown, known, holds, Store.open?_of_write wrote, shows⟩
  | _ => contradiction

theorem chartWritten_not_mem_toldBefore
    (input output path : PathName)
    (content : Content)
    (series : Series) :
    .chartWritten path ∉ toldBefore input output content series := by
  intro member
  rcases List.mem_append.mp member with early | last
  · rcases List.mem_cons.mp early with isStart | inLoading
    · contradiction
    · exact Series.chartWritten_not_mem_ofBytes _ path inLoading
  · exact chartWritten_ne_described input path series (List.mem_singleton.mp last)

/-- That a chart was written is told of the output, and only when the run succeeds. -/
theorem Course.chartWritten_mem_iff
    (course : Course input output store outcome)
    (path : PathName) :
    .chartWritten path ∈ outcome.allEvents ↔ path = output ∧ outcome.result = .ok () := by
  have notTold := chartWritten_not_mem_toldBefore input output path
  cases course with
  | refused known opened faulty =>
      simp [Outcome.allEvents, Series.chartWritten_not_mem_ofBytes]
  | written => simp [Outcome.allEvents, notTold]
  | _ => simp [Outcome.allEvents, notTold]

/-- The exit code is zero exactly for success. -/
theorem exitCode_eq_zero_iff (outcome : Outcome) :
    outcome.exitCode = 0 ↔ outcome.result = .ok () := by
  unfold Outcome.exitCode
  cases outcome.result with
  | error failure => simp
  | ok _ => simp

/-- What a run from an input to an output leaves behind. -/
structure TakesItsCourse
    (input output : PathName)
    (store : Store)
    (outcome : Outcome) : Prop where
  /-- The run ends by the first cause that applies. -/
  course_iff : ∀ other, Course input output store other ↔ other = outcome
  exitCode_eq_zero_iff : outcome.exitCode = 0 ↔ outcome.result = .ok ()
  /-- Nothing is changed by a run that fails, unless its samples fit on no axis. -/
  kept : ∀ failure, outcome.result = .error failure →
    (∀ min max, failure ≠ .draw (.range min max)) → outcome.store = store
  changesOnly : store.ChangesOnly output outcome.store
  /-- After a success the output shows the whole chart of the series that the input holds. -/
  shown : outcome.result = .ok () →
    ∃ format content series shown,
      Format.ofPath? output = .ok format ∧ Holds store input content series ∧
        outcome.store.open? output = .ok (.file shown) ∧
          ShowsChart series ({} : Style).exactPixels format shown
  /-- That a chart was written is told of the output, and only of a success. -/
  chartWritten_mem_iff : ∀ path, .chartWritten path ∈ outcome.allEvents ↔
    path = output ∧ outcome.result = .ok ()
  chartWritten_told : ∀ (verbose : Bool) (path : PathName),
    (Event.chartWritten path).level = .info ∧ (Event.chartWritten path).isTold verbose = true ∧
      (Event.chartWritten path).message = "chart written to " ++ path.display

theorem Course.takesItsCourse
    (course : Course input output store outcome) :
    TakesItsCourse input output store outcome := by
  constructor
  case course_iff =>
    intro other
    constructor
    · exact course.eq
    · rintro rfl
      exact course
  case exitCode_eq_zero_iff => exact Run.exitCode_eq_zero_iff outcome
  case kept => exact fun _ failed notRange => course.keeps_store failed notRange
  case changesOnly => exact course.changesOnly
  case shown => exact course.output_shows_chart
  case chartWritten_mem_iff => exact course.chartWritten_mem_iff
  case chartWritten_told =>
    intro verbose path
    refine ⟨rfl, ?_, rfl⟩
    cases verbose <;> rfl

/-- A run that names an output ends by the first cause that applies.  It succeeds exactly
when its exit code is zero and it tells that the chart was written, and then the output shows
the whole chart of the series in the input.  Nothing but the output is ever changed, and
nothing at all by a run that fails before its samples are found to fit on no axis.  Neither the
display nor whether details are told makes a difference. -/
theorem ofOptions_takes_its_course
    (input output : PathName)
    (store : Store) :
    ∃ outcome, TakesItsCourse input output store outcome ∧
      ∀ (display : Display) (verbose : Bool),
        ofOptions display ⟨input, some output, verbose⟩ store = some outcome ∧
          (Report.ofOutcome verbose outcome).exitCode = outcome.exitCode ∧
            (Report.ofOutcome verbose outcome).store = outcome.store := by
  obtain ⟨outcome, course⟩ := exists_course input output store
  refine ⟨outcome, course.takesItsCourse, ?_⟩
  intro display verbose
  exact ⟨course.ofOptions_eq display verbose, rfl, rfl⟩

theorem eq_ok_of_toOption {Fault Value : Type}
    {outcome : Except Fault Value}
    {value : Value}
    (told : outcome.toOption = some value) :
    outcome = .ok value := by
  cases outcome with
  | error fault => contradiction
  | ok other => rw [Option.some.inj told]

/-- A store that holds two replies in a file of the working directory. -/
def storeWithReplies : Store :=
  Store.empty.put (Store.empty.working ++ [Text.Utf8.encode "rtt.txt"])
    (.file (.bytes (Text.Utf8.encode "0 10\n1 20\n")))

/-- A run over two replies succeeds, and its output shows their chart. -/
theorem ofOptions_of_storeWithReplies :
    let input := Text.Utf8.encode "rtt.txt"
    let output := Text.Utf8.encode "a.svg"
    ∃ outcome content series shown,
      (∀ (display : Display) (verbose : Bool),
        ofOptions display ⟨input, some output, verbose⟩ storeWithReplies = some outcome) ∧
      outcome.exitCode = 0 ∧ .chartWritten output ∈ outcome.allEvents ∧
      Holds storeWithReplies input content series ∧
      outcome.store.open? output = .ok (.file shown) ∧
      ShowsChart series ({} : Style).exactPixels .svg shown := by
  intro input output
  obtain ⟨outcome, taken, ran⟩ := ofOptions_takes_its_course input output storeWithReplies
  have opened : storeWithReplies.open? input =
      .ok (.file (.bytes (Text.Utf8.encode "0 10\n1 20\n"))) := rfl
  have known : Format.ofPath? output = .ok .svg :=
    eq_ok_of_toOption (by decide +kernel)
  have accepted :
      ((Series.ofBytes (Text.Utf8.encode "0 10\n1 20\n")).result.toOption.map fun series =>
        (Chart.ofSeries? series).toBool) = some true := by
    decide +kernel
  obtain ⟨series, loaded, drawn⟩ := Option.map_eq_some_iff.mp accepted
  obtain ⟨chart, drawable⟩ := Chart.exists_of_toBool drawn
  have holds : Holds storeWithReplies input (.bytes (Text.Utf8.encode "0 10\n1 20\n")) series :=
    ⟨opened, eq_ok_of_toOption loaded⟩
  have shows := (showsChart_iff drawable hasBuffer_default .svg).mpr rfl
  have written := (taken.course_iff _).mp (.written known holds shows rfl)
  have succeeded : outcome.result = .ok () := by rw [← written]
  obtain ⟨format, content, other, shown, otherKnown, otherHolds, output_eq, otherShows⟩ :=
    taken.shown succeeded
  rw [known] at otherKnown
  cases otherKnown
  exact ⟨outcome, content, other, shown, fun display verbose => (ran display verbose).1,
    taken.exitCode_eq_zero_iff.mpr succeeded,
    (taken.chartWritten_mem_iff output).mpr ⟨rfl, succeeded⟩, otherHolds, output_eq, otherShows⟩

end Run
end LatencyChart
