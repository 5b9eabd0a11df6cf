import LatencyChart.Proofs.Number.RoundTrip
import LatencyChart.Proofs.Series.StepBack
import LatencyChart.Proofs.Sink.Extension
import LatencyChart.Proofs.Text.Quoted

/-!
# Messages stay on one line

What an input or a path holds is repeated in messages only inside quotes.  So no input can break the
line of a message or steer the terminal that shows it, and a message about a line tells that line.
-/

namespace LatencyChart

/-- A text that can neither break its line nor steer a terminal. -/
def IsOneLine (text : String) : Prop :=
  ∀ character ∈ text.toList, ¬Text.IsSteering character

instance (text : String) : Decidable (IsOneLine text) :=
  decidable_of_iff (text.toList.all fun character => ¬Text.IsSteering character)
    (by simp only [List.all_eq_true, decide_eq_true_eq, IsOneLine])

/-! ## Parts of messages -/

@[simp] theorem isOneLine_append (first second : String) :
    IsOneLine (first ++ second) ↔ IsOneLine first ∧ IsOneLine second := by
  unfold IsOneLine
  rw [String.toList_append, List.forall_mem_append]

@[simp] theorem isOneLine_quoted (text : String) : IsOneLine (Text.quoted text) :=
  fun _ member => Text.not_isSteering_of_mem_quoted member

theorem Number.IsNumeral.not_isSteering
    {character : Char}
    (numeral : IsNumeral character) :
    ¬Text.IsSteering character := by
  rcases numeral with digit | mark
  · obtain ⟨low, high⟩ : 48 ≤ character.toNat ∧ character.toNat ≤ 57 :=
      Char.isDigit_iff_toNat.mp digit
    unfold Text.IsSteering
    omega
  · have harmless : marks.all fun character => ¬Text.IsSteering character := by decide
    exact of_decide_eq_true (List.all_eq_true.mp harmless character mark)

@[simp] theorem isOneLine_numberText (number : Float) : IsOneLine (Number.text number) := by
  unfold IsOneLine Number.text
  rw [String.toList_ofList]
  exact fun _ member => (Number.isNumeral_of_mem_shortestText member).not_isSteering

@[simp] theorem isOneLine_repr_nat (value : Nat) : IsOneLine value.repr := by
  unfold IsOneLine
  rw [Nat.toList_repr]
  intro character member
  have digit := Nat.isDigit_of_mem_toDigits (by decide) (by decide) member
  exact Number.IsNumeral.not_isSteering (Or.inl digit)

/-! ## Messages of faults and events -/

theorem LineFault.isOneLine_message (reason : LineFault) : IsOneLine reason.message := by
  cases reason with
  | fieldCount count =>
      exact (isOneLine_append ..).mpr ⟨by decide, isOneLine_repr_nat count⟩
  | invalidNumber field cause =>
      have told : IsOneLine cause.message := by
        cases cause <;> decide
      unfold message
      simp only [isOneLine_append, isOneLine_quoted, told, and_true]
      decide

theorem LoadFault.isOneLine_message_parse
    (line : Nat)
    (content : String)
    (reason : LineFault) :
    IsOneLine (LoadFault.parse line content reason).message := by
  unfold message
  simp only [isOneLine_append, isOneLine_quoted, Nat.toString_eq_repr, isOneLine_repr_nat,
    reason.isOneLine_message, and_true]
  decide

theorem LoadFault.isOneLine_message_read
    (line : Nat)
    {cause : IoFault}
    (told : IsOneLine cause.message) :
    IsOneLine (LoadFault.read line cause).message := by
  unfold message
  simp only [isOneLine_append, Nat.toString_eq_repr, isOneLine_repr_nat, told, and_true]
  decide

theorem DrawFault.isOneLine_message_unsupportedFormat (path : String) :
    IsOneLine (DrawFault.unsupportedFormat path).message := by
  unfold message
  simp only [isOneLine_append, isOneLine_quoted, and_true]
  decide

/-- The fault of a line has a message on one line, whatever the line holds. -/
theorem Series.IsFaultyLine.isOneLine_message
    {number : Nat}
    {line : Bytes}
    {fault : LoadFault}
    (faulty : IsFaultyLine number line fault) :
    IsOneLine fault.message := by
  cases faulty with
  | noText => exact LoadFault.isOneLine_message_read number (by decide)
  | fieldCount => exact LoadFault.isOneLine_message_parse _ _ _
  | timeField => exact LoadFault.isOneLine_message_parse _ _ _
  | rttField => exact LoadFault.isOneLine_message_parse _ _ _

theorem Series.StepsBackAt.isOneLine_message
    {accepted : List (Nat × Sample)}
    {index : Nat}
    {event : Event}
    (steps : StepsBackAt accepted index event) :
    IsOneLine event.message := by
  obtain ⟨-, -, -⟩ := steps
  unfold Event.message
  simp only [isOneLine_append, isOneLine_numberText, Nat.toString_eq_repr, isOneLine_repr_nat,
    and_true]
  decide

theorem Event.isOneLine_message_parsed (samples blanks : Nat) :
    IsOneLine (Event.parsed samples blanks).message := by
  unfold message
  simp only [isOneLine_append, Nat.toString_eq_repr, isOneLine_repr_nat, and_true]
  decide

/-- What is told while a text is loaded is told on one line. -/
theorem Series.isOneLine_message_of_mem_events
    {text : Bytes}
    {event : Event}
    (told : event ∈ (ofBytes text).events) :
    IsOneLine event.message := by
  rw [ofBytes_eq, Scan.events, List.mem_append] at told
  rcases told with warned | counted
  · rw [Option.mem_toList, firstStepBack?_eq_some_iff] at warned
    obtain ⟨index, steps, -⟩ := warned
    exact steps.isOneLine_message
  · split at counted
    · rw [List.mem_singleton.mp counted]
      exact Event.isOneLine_message_parsed _ _
    · contradiction

/-- The message about a line that is no sample tells the line. -/
theorem LoadFault.eq_of_message_parse_eq
    {line : Nat}
    {content other : String}
    {reason : LineFault}
    (sameMessage : (LoadFault.parse line content reason).message =
      (LoadFault.parse line other reason).message) :
    content = other := by
  unfold message at sameMessage
  exact Text.quoted_injective ((String.append_right_inj _).mp sameMessage)

/-! ## No input forges a line -/

/-- Whatever bytes an input or an output path holds, the faults and the events that they lead to
have messages without control characters and breaks of lines.  Messages about different lines differ
when the numbers and the reasons are the same. -/
theorem messages_stay_on_one_line :
    (∀ text fault, (Series.ofBytes text).result = .error fault → IsOneLine fault.message) ∧
    (∀ text, ∀ event ∈ (Series.ofBytes text).events, IsOneLine event.message) ∧
    (∀ path fault, Sink.ofOutput? (some path) = .error fault → IsOneLine fault.message) ∧
    (∀ line reason content other, content ≠ other →
      (LoadFault.parse line content reason).message ≠
        (LoadFault.parse line other reason).message) := by
  refine ⟨?_, ?_, ?_, ?_⟩
  · intro text fault refused
    obtain ⟨lines, cut⟩ := Series.exists_cut text
    obtain ⟨_, _, _, -, -, faulty⟩ := (Series.result_ofBytes_eq_error_iff cut fault).mp refused
    exact faulty.isOneLine_message
  · intro text event told
    exact Series.isOneLine_message_of_mem_events told
  · intro path fault refused
    rw [Sink.ofOutput?_eq_error_iff, Format.ofPath?_eq_error_iff] at refused
    rw [refused.2]
    exact DrawFault.isOneLine_message_unsupportedFormat path.display
  · intro line reason content other different sameMessage
    exact different (LoadFault.eq_of_message_parse_eq sameMessage)

end LatencyChart
