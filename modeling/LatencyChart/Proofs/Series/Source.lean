import LatencyChart.Proofs.Series.Concatenation
import Mathlib.Data.List.DropRight

/-!
# Sources read piece by piece

A source answers with chunks of bytes, with interruptions, which are tried again, and with
faults.  `ReadsLines` says which lines come out of its answers when they are taken one by one
through a buffer.  These are the lines of the flattened signals, so the borders of the chunks
leave no trace, and a fault hides no fault in the whole lines before it.
-/

namespace LatencyChart
namespace Series

/-! ## Lines through a buffer -/

/-- What is left of a chunk stays in the buffer, and a buffer that is used up is dropped. -/
def leftOver (rest : Bytes) (answers : List ReadEvent) : List ReadEvent :=
  if rest = [] then answers else .chunk rest :: answers

/-- The lines that come out of the answers of a source when the given bytes of the current line
were read before. -/
inductive ReadsLines : Bytes → List ReadEvent → List RawLine → Prop
  | ended : ReadsLines [] [] []
  | last {held : Bytes}
      (nonempty : held ≠ []) :
      ReadsLines held [] [.ok held]
  | paused {answers : List ReadEvent} :
      ReadsLines [] (.chunk [] :: answers) []
  | pausedInLine {held : Bytes} {answers : List ReadEvent} {lines : List RawLine}
      (nonempty : held ≠ [])
      (later : ReadsLines [] answers lines) :
      ReadsLines held (.chunk [] :: answers) (.ok held :: lines)
  | interrupted {held : Bytes} {answers : List ReadEvent} {lines : List RawLine}
      (later : ReadsLines held answers lines) :
      ReadsLines held (.failed (.plain .interrupted) :: answers) lines
  | failed {held : Bytes} {cause : IoFault} {answers : List ReadEvent}
      (lasting : cause ≠ .plain .interrupted) :
      ReadsLines held (.failed cause :: answers) [.error cause]
  | unbroken {held bytes : Bytes} {answers : List ReadEvent} {lines : List RawLine}
      (nonempty : bytes ≠ [])
      (unbroken : newline ∉ bytes)
      (later : ReadsLines (held ++ bytes) answers lines) :
      ReadsLines held (.chunk bytes :: answers) lines
  | broken {held front rest : Bytes} {answers : List ReadEvent} {lines : List RawLine}
      (unbroken : newline ∉ front)
      (later : ReadsLines [] (leftOver rest answers) lines) :
      ReadsLines held (.chunk (front ++ newline :: rest) :: answers)
        (.ok (dropReturn (held ++ front)) :: lines)

namespace Signal

@[simp] theorem ofEvents_nil : ofEvents [] = [] := rfl

theorem ofEvents_chunk_cons
    {bytes : Bytes}
    (nonempty : bytes ≠ [])
    (answers : List ReadEvent) :
    ofEvents (.chunk bytes :: answers) = bytes.map .byte ++ ofEvents answers := by
  cases bytes with
  | nil => contradiction
  | cons first bytes => rfl

theorem ofEvents_interrupted_cons (answers : List ReadEvent) :
    ofEvents (.failed (.plain .interrupted) :: answers) = ofEvents answers := rfl

theorem ofEvents_failed_cons
    {cause : IoFault}
    (lasting : cause ≠ .plain .interrupted)
    (answers : List ReadEvent) :
    ofEvents (.failed cause :: answers) = .fault cause :: ofEvents answers := by
  have flattened : ofEvent (.failed cause) = [.fault cause] := by
    unfold ofEvent
    split
    · contradiction
    · contradiction
    · next isInterruption => exact absurd (ReadEvent.failed.inj isInterruption) lasting
    · next other _ same => rw [ReadEvent.failed.inj same]
  rw [ofEvents, List.flatMap_cons, flattened]
  rfl

theorem ofEvents_leftOver
    (rest : Bytes)
    (answers : List ReadEvent) :
    ofEvents (leftOver rest answers) = rest.map .byte ++ ofEvents answers := by
  unfold leftOver
  split
  · next empty => rw [empty]; rfl
  · next nonempty => exact ofEvents_chunk_cons nonempty answers

end Signal

theorem linesOf_append_pause
    {line : Bytes}
    (nonempty : line ≠ [])
    (unbroken : newline ∉ line)
    (signals : List Signal) :
    linesOf (line.map Signal.byte ++ .pause :: signals) = .ok line :: linesOf signals := by
  unfold linesOf
  rw [List.foldr_append, foldr_push_bytes unbroken, List.foldr_cons, Remainder.push,
    List.append_nil]
  exact if_neg nonempty

/-- A fault hides the bytes of its line that were already read. -/
theorem linesOf_append_fault
    {line : Bytes}
    (unbroken : newline ∉ line)
    (cause : IoFault)
    (signals : List Signal) :
    linesOf (line.map Signal.byte ++ .fault cause :: signals) = [.error cause] := by
  unfold linesOf
  rw [List.foldr_append, foldr_push_bytes unbroken]
  rfl

/-- What comes out of a buffer are the lines of the signals. -/
theorem ReadsLines.eq_linesOf
    {held : Bytes}
    {answers : List ReadEvent}
    {lines : List RawLine}
    (reads : ReadsLines held answers lines)
    (heldUnbroken : newline ∉ held) :
    lines = linesOf (held.map Signal.byte ++ Signal.ofEvents answers) := by
  induction reads with
  | ended => rfl
  | last nonempty =>
      rw [Signal.ofEvents_nil, List.append_nil, linesOf_unbroken heldUnbroken, if_neg nonempty]
  | paused => rfl
  | @pausedInLine held answers lines nonempty _ inductionHypothesis =>
      have flattened : Signal.ofEvents (.chunk [] :: answers) =
          .pause :: Signal.ofEvents answers := rfl
      rw [flattened, linesOf_append_pause nonempty heldUnbroken,
        inductionHypothesis List.not_mem_nil]
      rfl
  | interrupted _ inductionHypothesis =>
      rw [Signal.ofEvents_interrupted_cons, inductionHypothesis heldUnbroken]
  | failed lasting =>
      rw [Signal.ofEvents_failed_cons lasting, linesOf_append_fault heldUnbroken]
  | unbroken nonempty unbroken _ inductionHypothesis =>
      have longerUnbroken := fun member =>
        (List.mem_append.mp member).elim heldUnbroken unbroken
      rw [inductionHypothesis longerUnbroken, Signal.ofEvents_chunk_cons nonempty,
        List.map_append, List.append_assoc]
  | @broken held front rest answers lines unbroken _ inductionHypothesis =>
      have lineUnbroken : newline ∉ held ++ front := fun member =>
        (List.mem_append.mp member).elim heldUnbroken unbroken
      have signals_eq : held.map Signal.byte ++
            Signal.ofEvents (.chunk (front ++ newline :: rest) :: answers) =
          (held ++ front).map Signal.byte ++
            .byte newline :: Signal.ofEvents (leftOver rest answers) := by
        rw [Signal.ofEvents_chunk_cons (by simp), Signal.ofEvents_leftOver]
        simp
      rw [signals_eq, linesOf_append_newline lineUnbroken,
        inductionHypothesis List.not_mem_nil]
      rfl

/-- The first newline of a chunk, or the proof that there is none, decides the next rule. -/
theorem exists_readsLines_chunk
    {answers : List ReadEvent}
    (later : ∀ held, ∃ lines, ReadsLines held answers lines)
    (bytes held : Bytes) :
    ∃ lines, ReadsLines held (.chunk bytes :: answers) lines := by
  induction size : bytes.length using Nat.strong_induction_on generalizing bytes held with
  | _ size inductionHypothesis =>
      by_cases empty : bytes = []
      · subst empty
        by_cases heldEmpty : held = []
        · exact ⟨[], heldEmpty ▸ .paused⟩
        · obtain ⟨lines, reads⟩ := later []
          exact ⟨_, .pausedInLine heldEmpty reads⟩
      by_cases hasNewline : newline ∈ bytes
      · obtain ⟨front, rest, rfl, unbroken⟩ := List.eq_append_cons_of_mem hasNewline
        have exists_rest : ∃ lines, ReadsLines [] (leftOver rest answers) lines := by
          unfold leftOver
          split
          · exact later []
          · exact inductionHypothesis rest.length (by simp at size; omega) rest [] rfl
        obtain ⟨lines, reads⟩ := exists_rest
        exact ⟨_, .broken unbroken reads⟩
      · obtain ⟨lines, reads⟩ := later (held ++ bytes)
        exact ⟨lines, .unbroken empty hasNewline reads⟩

theorem exists_readsLines
    (answers : List ReadEvent)
    (held : Bytes) :
    ∃ lines, ReadsLines held answers lines := by
  induction answers generalizing held with
  | nil =>
      by_cases empty : held = []
      · exact ⟨[], empty ▸ .ended⟩
      · exact ⟨_, .last empty⟩
  | cons answer answers inductionHypothesis =>
      cases answer with
      | chunk bytes => exact exists_readsLines_chunk inductionHypothesis bytes held
      | failed cause =>
          by_cases isInterruption : cause = .plain .interrupted
          · obtain ⟨lines, reads⟩ := inductionHypothesis held
            exact ⟨lines, isInterruption ▸ .interrupted reads⟩
          · exact ⟨_, .failed isInterruption⟩

/-- Taking the answers of a source one by one gives the lines of its signals and no others. -/
theorem readsLines_iff
    (answers : List ReadEvent)
    (lines : List RawLine) :
    ReadsLines [] answers lines ↔ lines = linesOf (Signal.ofEvents answers) := by
  constructor
  · intro reads
    exact reads.eq_linesOf List.not_mem_nil
  · rintro rfl
    obtain ⟨lines, reads⟩ := exists_readsLines answers []
    have same := reads.eq_linesOf List.not_mem_nil
    rw [List.map_nil, List.nil_append] at same
    rwa [← same]

/-! ## Faults of a source -/

/-- The bytes that a source gives before its first fault.  An interruption is no fault. -/
def bytesBeforeFault : List ReadEvent → Bytes
  | [] => []
  | .chunk bytes :: later => bytes ++ bytesBeforeFault later
  | .failed (.plain .interrupted) :: later => bytesBeforeFault later
  | .failed _ :: _ => []

/-- The first fault of a source. -/
def sourceFault? : List ReadEvent → Option IoFault
  | [] => none
  | .chunk _ :: later => sourceFault? later
  | .failed (.plain .interrupted) :: later => sourceFault? later
  | .failed cause :: _ => some cause

/-- The bytes up to the last newline, which is among them. -/
def wholeLines (bytes : Bytes) : Bytes :=
  bytes.rdropWhile (· != newline)

theorem endsLine_wholeLines (bytes : Bytes) : EndsLine (wholeLines bytes) := by
  by_cases empty : wholeLines bytes = []
  · exact Or.inl empty
  · have isNewline := List.rdropWhile_last_not (· != newline) bytes empty
    rw [bne_iff_ne, not_not] at isNewline
    exact Or.inr (List.getLast?_eq_some_getLast empty ▸ congrArg some isNewline)

/-- Behind the whole lines of a text stands part of a line. -/
theorem exists_wholeLines_append (bytes : Bytes) :
    ∃ cut, bytes = wholeLines bytes ++ cut ∧ newline ∉ cut := by
  refine ⟨bytes.rtakeWhile (· != newline), ?_, ?_⟩
  · exact List.rdropWhile_append_rtakeWhile.symm
  · intro member
    have other := List.mem_rtakeWhile_imp member
    simp at other

/-- Without a fault the signals of a source are its bytes. -/
theorem ofEvents_of_noFault
    {answers : List ReadEvent}
    (noEmptyChunk : .chunk [] ∉ answers)
    (noFault : sourceFault? answers = none) :
    Signal.ofEvents answers = (bytesBeforeFault answers).map .byte := by
  fun_induction sourceFault? answers with
  | case1 => rfl
  | case2 bytes later inductionHypothesis =>
      rw [List.mem_cons, not_or] at noEmptyChunk
      have nonempty : bytes ≠ [] := fun empty => noEmptyChunk.1 (by rw [empty])
      rw [Signal.ofEvents_chunk_cons nonempty, inductionHypothesis noEmptyChunk.2 noFault,
        bytesBeforeFault, List.map_append]
  | case3 later inductionHypothesis =>
      exact inductionHypothesis (List.not_mem_of_not_mem_cons noEmptyChunk) noFault
  | case4 => contradiction

/-- The first fault of a source stands behind the bytes before it. -/
theorem exists_ofEvents_of_fault
    {answers : List ReadEvent}
    {cause : IoFault}
    (noEmptyChunk : .chunk [] ∉ answers)
    (faulty : sourceFault? answers = some cause) :
    ∃ later, Signal.ofEvents answers =
      (bytesBeforeFault answers).map .byte ++ .fault cause :: later := by
  fun_induction sourceFault? answers with
  | case1 => contradiction
  | case2 bytes rest inductionHypothesis =>
      rw [List.mem_cons, not_or] at noEmptyChunk
      have nonempty : bytes ≠ [] := fun empty => noEmptyChunk.1 (by rw [empty])
      obtain ⟨later, flattened⟩ := inductionHypothesis noEmptyChunk.2 faulty
      refine ⟨later, ?_⟩
      rw [Signal.ofEvents_chunk_cons nonempty, flattened, bytesBeforeFault, List.map_append,
        List.append_assoc]
  | case3 rest inductionHypothesis =>
      exact inductionHypothesis (List.not_mem_of_not_mem_cons noEmptyChunk) faulty
  | case4 found rest lasting =>
      obtain rfl := Option.some.inj faulty
      have noInterruption : found ≠ .plain .interrupted := fun same => lasting (by rw [same])
      refine ⟨Signal.ofEvents rest, ?_⟩
      rw [Signal.ofEvents_failed_cons noInterruption]
      rw [bytesBeforeFault]
      · rfl
      · exact noInterruption

/-- A fault of a source is the fault of the line after the last newline before it. -/
theorem ofLines_linesOf_append_fault
    (bytes : Bytes)
    (cause : IoFault)
    (later : List Signal) :
    Scan.ofLines (linesOf (bytes.map .byte ++ .fault cause :: later)) 1 =
      (scanOf (wholeLines bytes)).append
        ⟨[], 0, some (.read (1 + bytes.count newline) cause)⟩ := by
  obtain ⟨cut, parted, unbroken⟩ := exists_wholeLines_append bytes
  have ended := endsLine_wholeLines bytes
  have count_eq : bytes.count newline = (wholeLines bytes).count newline := by
    conv_lhs => rw [parted]
    rw [List.count_append, List.count_eq_zero_of_not_mem unbroken, Nat.add_zero]
  obtain ⟨lines, lines_cut⟩ := exists_cut (wholeLines bytes)
  have lines_eq : linesOf (bytes.map .byte ++ .fault cause :: later) =
      lines.map .ok ++ [.error cause] := by
    rw [parted, List.map_append, List.append_assoc, lines_cut.linesOf_append ended,
      linesOf_append_fault unbroken]
  rw [lines_eq, Scan.ofLines_append, List.length_map, lines_cut.length_eq_count ended, count_eq,
    scanOf, lines_cut.linesOf_eq, Nat.add_comm 1]
  rfl

/-- Behind a scan, a fault and nothing else adds no event, and no input is counted. -/
theorem Scan.events_append_of_fault
    (scan : Scan)
    {last : Scan}
    {fault : LoadFault}
    (isFault : last = ⟨[], 0, some fault⟩) :
    (scan.append last).events = (firstStepBack? scan.accepted).toList := by
  subst isFault
  cases sound : scan.fault? with
  | some fault =>
      rw [append_of_fault sound, events, sound]
      exact List.append_nil _
  | none =>
      rw [append_of_noFault sound, events, List.append_nil]
      exact List.append_nil _

/-- Reading is blind to the borders of chunks and to interruptions, and a fault of the source
loses no earlier verdict.  Without a fault a source is read as its bytes in one piece.  With one,
a fault in the whole lines before it stays the result; otherwise the result is the fault of the
source, on the line after the last newline.  Then no input was counted, and the warnings are
those of the whole lines. -/
theorem ofEvents_ignores_chunks
    (answers : List ReadEvent)
    (noEmptyChunk : .chunk [] ∉ answers) :
    (∀ lines, ReadsLines [] answers lines ↔ lines = linesOf (Signal.ofEvents answers)) ∧
    (sourceFault? answers = none →
      ofEvents answers = ofBytes (bytesBeforeFault answers)) ∧
    ∀ cause, sourceFault? answers = some cause →
      (∀ fault, (ofBytes (wholeLines (bytesBeforeFault answers))).result = .error fault →
        (ofEvents answers).result = .error fault) ∧
      (∀ series, (ofBytes (wholeLines (bytesBeforeFault answers))).result = .ok series →
        (ofEvents answers).result =
          .error (.read (1 + (bytesBeforeFault answers).count newline) cause)) ∧
      (ofEvents answers).details = [] ∧
      (ofEvents answers).events =
        (ofBytes (wholeLines (bytesBeforeFault answers))).warnings := by
  refine ⟨readsLines_iff answers, ?_, ?_⟩
  · intro noFault
    rw [ofEvents, ofEvents_of_noFault noEmptyChunk noFault, ofBytes]
  · intro cause faulty
    obtain ⟨later, flattened⟩ := exists_ofEvents_of_fault noEmptyChunk faulty
    have scanned := ofLines_linesOf_append_fault (bytesBeforeFault answers) cause later
    rw [← flattened] at scanned
    have events_eq : (ofEvents answers).events =
        (ofBytes (wholeLines (bytesBeforeFault answers))).warnings := by
      rw [warnings_ofBytes, ofEvents, ofSignals, scanned]
      exact Scan.events_append_of_fault _ rfl
    refine ⟨?_, ?_, ?_, events_eq⟩
    · intro fault refused
      rw [result_ofBytes_eq_error_iff_fault?] at refused
      rw [ofEvents, ofSignals, scanned, Scan.append_of_fault refused, Scan.result, refused]
    · intro series accepted
      rw [result_ofBytes_eq_ok_iff_fault?] at accepted
      rw [ofEvents, ofSignals, scanned, Scan.append_of_noFault accepted.1, Scan.result]
    · rw [Loading.details, events_eq, warnings_ofBytes, filter_debug_firstStepBack?]

/-- A source whose chunks end inside a line end, inside a character and inside a line that
cannot be text, with an interruption among them. -/
def patchySource : List ReadEvent :=
  [.chunk (Text.Utf8.encode "5 1\r"), .failed (.plain .interrupted),
    .chunk (Text.Utf8.encode "\n4 2" ++ [0xE2]), .chunk [0x80, 0x83, newline, 0xFF]]

/-- The second line of the source ends in the wide blank U+2003.  Behind a fault of the source
neither the bytes of the third line nor another chunk are looked at, and a whole line that is
faulty hides the fault of the source. -/
theorem ofEvents_patchySource :
    ofEvents patchySource = ofBytes (Text.Utf8.encode "5 1\r\n4 2\u2003\n" ++ [0xFF]) ∧
    (ofEvents (patchySource ++ [.failed (.plain .timedOut), .chunk [0x78]])).result =
      .error (.read 3 (.plain .timedOut)) ∧
    (ofEvents (patchySource ++ [.failed (.plain .timedOut), .chunk [0x78]])).events =
      (ofBytes (Text.Utf8.encode "5 1\r\n4 2\u2003\n")).warnings ∧
    (ofEvents (patchySource ++ [.chunk [newline], .failed (.plain .timedOut)])).result =
      .error (.read 3 .invalidText) := by
  have nonempty : Text.Utf8.encode "5 1\r" ≠ [] := by decide
  have ⟨_, whole, _⟩ := ofEvents_ignores_chunks patchySource (by simp [patchySource, nonempty])
  have ⟨_, _, cutOff⟩ := ofEvents_ignores_chunks
    (patchySource ++ [.failed (.plain .timedOut), .chunk [0x78]])
    (by simp [patchySource, nonempty])
  have ⟨_, _, refused⟩ := ofEvents_ignores_chunks
    (patchySource ++ [.chunk [newline], .failed (.plain .timedOut)])
    (by simp [patchySource, nonempty])
  have ⟨_, atFault, _, told⟩ := cutOff _ rfl
  have ⟨kept, _⟩ := refused _ rfl
  refine ⟨whole rfl, ?_, told, ?_⟩
  · exact atFault _ ((result_ofBytes_eq_ok_iff_fault? _ ⟨[⟨5.0, 1.0⟩, ⟨4.0, 2.0⟩]⟩).mpr
      (by decide +kernel))
  · exact kept _ ((result_ofBytes_eq_error_iff_fault? _ _).mpr (by decide +kernel))

end Series
end LatencyChart
