import LatencyChart.CommandLine.Use
import LatencyChart.Proofs.CommandLine.Word
import LatencyChart.Proofs.Text.Utf8
import Mathlib.Data.List.Induction

/-!
# The uses that words hold

Which uses a row of letters, a word and a whole command line hold is said without the order in
which they are read.  Reading finds exactly these uses, and where it ends before the words do, the
word at which it ends tells why.
-/

namespace LatencyChart
namespace CommandLine

open Text.Utf8 (encode IsText isSome_decode?_iff)
open Word (IsPlain IsName)

namespace Use

/-! ## The uses of one word -/

/-- The uses in a row of letters.  What follows the letter of a switch that takes a value is the
value, behind any equals signs. -/
inductive IsRow : Bytes → List Use → Prop
  | nothing : IsRow [] []
  | flag {rest : Bytes} {uses : List Use}
      (isRow : IsRow rest uses) :
      IsRow (Switch.verbose.letter.toUInt8 :: rest) (⟨.verbose, none⟩ :: uses)
  | awaiting {switch : Switch}
      (takesValue : switch.takesValue = true) :
      IsRow [switch.letter.toUInt8] [⟨switch, none⟩]
  | attached {switch : Switch} {value : Bytes}
      (signs : Nat)
      (takesValue : switch.takesValue = true)
      (noSign : value.head? ≠ some equals)
      (nonempty : List.replicate signs equals ++ value ≠ []) :
      IsRow (switch.letter.toUInt8 :: (List.replicate signs equals ++ value))
        [⟨switch, some value⟩]

/-- The uses in a word. -/
inductive Holds : Bytes → List Use → Prop
  | row {first : UInt8} {rest : Bytes} {uses : List Use}
      (noDash : first ≠ dash)
      (isRow : IsRow (first :: rest) uses) :
      Holds (dash :: first :: rest) uses
  | flag {word : Bytes} {ignored? : Option Bytes}
      (isName : IsName word (encode Switch.verbose.longName) ignored?) :
      Holds word [⟨.verbose, none⟩]
  | awaiting {word : Bytes} {switch : Switch}
      (takesValue : switch.takesValue = true)
      (isName : IsName word (encode switch.longName) none) :
      Holds word [⟨switch, none⟩]
  | attached {word : Bytes} {switch : Switch} {value : Bytes}
      (signs : Nat)
      (takesValue : switch.takesValue = true)
      (isName :
        IsName word (encode switch.longName) (some (List.replicate signs equals ++ value)))
      (noSign : value.head? ≠ some equals) :
      Holds word [⟨switch, some value⟩]

theorem add_of_takesValue
    {switch : Switch}
    (takesValue : switch.takesValue = true)
    (value? : Option Bytes)
    (earlier : List Use) :
    add switch value? earlier =
      .ok (⟨switch, value?.map fun value => value.dropWhile (· == equals)⟩ :: earlier) := by
  cases switch with
  | input => rfl
  | output => rfl
  | verbose => contradiction
  | help => contradiction
  | version => contradiction

theorem add_attached
    {switch : Switch}
    {value : Bytes}
    (signs : Nat)
    (takesValue : switch.takesValue = true)
    (noSign : value.head? ≠ some equals)
    (earlier : List Use) :
    add switch (some (List.replicate signs equals ++ value)) earlier =
      .ok (⟨switch, some value⟩ :: earlier) := by
  rw [add_of_takesValue takesValue, Option.map_some, dropWhile_replicate_append signs noSign]

theorem flag_or_takesValue_or_wish (switch : Switch) :
    switch = .verbose ∨ switch.takesValue = true ∨ switch ∉ Switch.options := by
  cases switch <;> decide

/-- A wish for help or for the version ends reading. -/
theorem exists_stop_of_wish
    {switch : Switch}
    (isWish : switch ∉ Switch.options) :
    ∃ stop, stop ≠ .unreadable ∧ ∀ value? earlier, add switch value? earlier = .error stop := by
  cases switch with
  | help => exact ⟨.help, nofun, fun _ _ => rfl⟩
  | version => exact ⟨.version, nofun, fun _ _ => rfl⟩
  | input => exact absurd (by decide) isWish
  | output => exact absurd (by decide) isWish
  | verbose => exact absurd (by decide) isWish

theorem mem_options_of_takesValue
    {switch : Switch}
    (takesValue : switch.takesValue = true) :
    switch ∈ Switch.options := by
  cases switch with
  | input => decide
  | output => decide
  | verbose => contradiction
  | help => contradiction
  | version => contradiction

theorem addLetters_cons
    (switch : Switch)
    (rest : Bytes)
    (earlier : List Use) :
    addLetters (switch.letter.toUInt8 :: rest) earlier =
      if switch.takesValue then add switch (if rest = [] then none else some rest) earlier
      else (add switch none earlier).bind (addLetters rest) := by
  rw [addLetters, (Switch.ofLetter?_eq_some_iff _ switch).mpr rfl]

theorem IsRow.addLetters_eq
    {letters : Bytes}
    {uses : List Use}
    (isRow : IsRow letters uses)
    (earlier : List Use) :
    addLetters letters earlier = .ok (uses.reverse ++ earlier) := by
  induction isRow generalizing earlier with
  | nothing => rfl
  | flag isRow inductionHypothesis =>
      rw [addLetters_cons, if_neg (by decide)]
      change addLetters _ (⟨.verbose, none⟩ :: earlier) = _
      rw [inductionHypothesis, List.reverse_cons, List.append_assoc, List.singleton_append]
  | awaiting takesValue =>
      rw [addLetters_cons, if_pos takesValue, if_pos rfl, add_of_takesValue takesValue]
      rfl
  | attached signs takesValue noSign nonempty =>
      rw [addLetters_cons, if_pos takesValue, if_neg nonempty,
        add_attached signs takesValue noSign]
      rfl

/-- Letters that are no row end reading with a fault or a wish. -/
theorem exists_isRow_or_stop
    (letters : Bytes)
    (earlier : List Use) :
    (∃ uses, IsRow letters uses) ∨
      ∃ stop, stop ≠ .unreadable ∧ addLetters letters earlier = .error stop := by
  induction letters generalizing earlier with
  | nil => exact Or.inl ⟨[], .nothing⟩
  | cons letter rest inductionHypothesis =>
      cases found : Switch.ofLetter? letter with
      | none =>
          let shown := (Text.Utf8.decodeLenient (letter :: rest)).take 1
          refine Or.inr ⟨.unknown (String.ofList ('-' :: shown)) none (met earlier), nofun, ?_⟩
          rw [addLetters, found]
      | some switch =>
          obtain rfl := (Switch.ofLetter?_eq_some_iff letter switch).mp found
          rcases flag_or_takesValue_or_wish switch with rfl | takesValue | isWish
          · rcases inductionHypothesis (⟨.verbose, none⟩ :: earlier) with
              ⟨uses, isRow⟩ | ⟨stop, readable, stopped⟩
            · exact Or.inl ⟨_, .flag isRow⟩
            · exact Or.inr ⟨stop, readable, stopped⟩
          · rcases Decidable.em (rest = []) with rfl | nonempty
            · exact Or.inl ⟨_, .awaiting takesValue⟩
            · obtain ⟨signs, value, rfl, noSign⟩ := exists_replicate_append equals rest
              exact Or.inl ⟨_, .attached signs takesValue noSign nonempty⟩
          · obtain ⟨stop, readable, wished⟩ := exists_stop_of_wish isWish
            refine Or.inr ⟨stop, readable, ?_⟩
            rw [addLetters_cons, if_neg (mt mem_options_of_takesValue isWish), wished]
            rfl

/-! ## Reading one word -/

theorem Holds.scan_cons
    {word : Bytes}
    {uses : List Use}
    (holds : Holds word uses)
    (later : List Bytes)
    (earlier : List Use) :
    scan (word :: later) earlier = scan later (uses.reverse ++ earlier) := by
  cases holds with
  | row noDash isRow =>
      simp only [scan, Word.ofBytes_letters noDash, isRow.addLetters_eq]
      rfl
  | flag isName =>
      simp only [scan, isName.ofBytes_eq, (Switch.ofLongName?_eq_some_iff _ .verbose).mpr rfl]
      rfl
  | @awaiting _ switch takesValue isName =>
      simp only [scan, isName.ofBytes_eq, (Switch.ofLongName?_eq_some_iff _ switch).mpr rfl,
        add_of_takesValue takesValue]
      rfl
  | @attached _ switch _ signs takesValue isName noSign =>
      simp only [scan, isName.ofBytes_eq, (Switch.ofLongName?_eq_some_iff _ switch).mpr rfl,
        add_attached signs takesValue noSign]
      rfl

theorem scan_plain
    {value : Bytes}
    {switch : Switch}
    (isPlain : IsPlain value)
    (takesValue : switch.takesValue = true)
    (later : List Bytes)
    (earlier : List Use) :
    scan (value :: later) (⟨switch, none⟩ :: earlier) =
      scan later (⟨switch, some value⟩ :: earlier) := by
  simp only [scan, Word.ofBytes_plain isPlain, addPlain, takesValue, if_true]
  rfl

/-! ## The uses of a command line -/

/-- The uses in the words of a command line.  A plain word is the value of the use in front of it,
if that still waits for one. -/
inductive Reads : List Bytes → List Use → Prop
  | nothing : Reads [] []
  | word {words : List Bytes} {uses more : List Use} {word : Bytes}
      (reads : Reads words uses)
      (holds : Holds word more) :
      Reads (words ++ [word]) (uses ++ more)
  | value {words : List Bytes} {uses : List Use} {switch : Switch} {value : Bytes}
      (reads : Reads words (uses ++ [⟨switch, none⟩]))
      (takesValue : switch.takesValue = true)
      (isPlain : IsPlain value) :
      Reads (words ++ [value]) (uses ++ [⟨switch, some value⟩])

/-- The uses in a whole command line, behind which two dashes may stand. -/
def ReadsAll (words : List Bytes) (uses : List Use) : Prop :=
  Reads words uses ∨ ∃ front, words = front ++ [[dash, dash]] ∧ Reads front uses

theorem IsRow.mem_options
    {letters : Bytes}
    {uses : List Use}
    (isRow : IsRow letters uses) :
    ∀ use ∈ uses, use.switch ∈ Switch.options := by
  induction isRow with
  | nothing => exact nofun
  | flag isRow inductionHypothesis =>
      exact List.forall_mem_cons.mpr ⟨by decide, inductionHypothesis⟩
  | awaiting takesValue =>
      exact List.forall_mem_singleton.mpr (mem_options_of_takesValue takesValue)
  | attached signs takesValue =>
      exact List.forall_mem_singleton.mpr (mem_options_of_takesValue takesValue)

theorem Holds.mem_options
    {word : Bytes}
    {uses : List Use}
    (holds : Holds word uses) :
    ∀ use ∈ uses, use.switch ∈ Switch.options := by
  cases holds with
  | row noDash isRow => exact isRow.mem_options
  | flag => exact List.forall_mem_singleton.mpr (by decide)
  | awaiting takesValue =>
      exact List.forall_mem_singleton.mpr (mem_options_of_takesValue takesValue)
  | attached signs takesValue =>
      exact List.forall_mem_singleton.mpr (mem_options_of_takesValue takesValue)

theorem Reads.mem_options
    {words : List Bytes}
    {uses : List Use}
    (reads : Reads words uses) :
    ∀ use ∈ uses, use.switch ∈ Switch.options := by
  induction reads with
  | nothing => exact nofun
  | word reads holds inductionHypothesis =>
      exact List.forall_mem_append.mpr ⟨inductionHypothesis, holds.mem_options⟩
  | value reads takesValue isPlain inductionHypothesis =>
      refine List.forall_mem_append.mpr ⟨(List.forall_mem_append.mp inductionHypothesis).1, ?_⟩
      exact List.forall_mem_singleton.mpr (mem_options_of_takesValue takesValue)

theorem ReadsAll.mem_options
    {words : List Bytes}
    {uses : List Use}
    (reads : ReadsAll words uses) :
    ∀ use ∈ uses, use.switch ∈ Switch.options := by
  rcases reads with reads | ⟨front, -, reads⟩
  · exact reads.mem_options
  · exact reads.mem_options

theorem Reads.scan_append
    {words : List Bytes}
    {uses : List Use}
    (reads : Reads words uses)
    (later : List Bytes) :
    scan (words ++ later) [] = scan later uses.reverse := by
  induction reads generalizing later with
  | nothing => rfl
  | word reads holds inductionHypothesis =>
      rw [List.append_assoc, List.singleton_append, inductionHypothesis, holds.scan_cons,
        List.reverse_append]
  | value reads takesValue isPlain inductionHypothesis =>
      rw [List.append_assoc, List.singleton_append, inductionHypothesis, List.reverse_append,
        List.reverse_singleton, List.singleton_append, scan_plain isPlain takesValue,
        List.reverse_append, List.reverse_singleton, List.singleton_append]

theorem ReadsAll.scan_eq
    {words : List Bytes}
    {uses : List Use}
    (reads : ReadsAll words uses) :
    scan words [] = .ok uses.reverse := by
  rcases reads with reads | ⟨front, rfl, reads⟩
  · have whole := reads.scan_append []
    rwa [List.append_nil] at whole
  · exact reads.scan_append [[dash, dash]]

/-! ## The word at which reading ends -/

/-- A word that cannot be read after some uses. -/
inductive Stops (uses : List Use) : Bytes → Prop
  | separator : Stops uses [dash, dash]
  | plain {word : Bytes}
      (isPlain : IsPlain word)
      (noneWaits : ∀ front switch, switch.takesValue = true → uses ≠ front ++ [⟨switch, none⟩]) :
      Stops uses word
  | letters {first : UInt8} {rest : Bytes}
      (noDash : first ≠ dash)
      (noRow : ∀ more, ¬IsRow (first :: rest) more) :
      Stops uses (dash :: first :: rest)
  | wish {word : Bytes} {switch : Switch} {ignored? : Option Bytes}
      (isName : IsName word (encode switch.longName) ignored?)
      (isWish : switch ∉ Switch.options) :
      Stops uses word
  | unknown {word name : Bytes} {ignored? : Option Bytes}
      (isName : IsName word name ignored?)
      (noSwitch : ∀ switch : Switch, encode switch.longName ≠ name) :
      Stops uses word

/-- After words that have been read, the next word is read or stops reading. -/
theorem Reads.append_or_stops
    {words : List Bytes}
    {uses : List Use}
    (reads : Reads words uses)
    (word : Bytes) :
    (∃ all, Reads (words ++ [word]) all) ∨ Stops uses word := by
  cases Word.hasForm word with
  | separator => exact Or.inr .separator
  | plain isPlain =>
      by_cases waits :
          ∃ front switch, switch.takesValue = true ∧ uses = front ++ [⟨switch, none⟩]
      · obtain ⟨front, switch, takesValue, rfl⟩ := waits
        exact Or.inl ⟨_, .value reads takesValue isPlain⟩
      · exact Or.inr (.plain isPlain fun front switch takesValue same =>
          waits ⟨front, switch, takesValue, same⟩)
  | @letters first rest noDash =>
      by_cases isRow : ∃ more, IsRow (first :: rest) more
      · obtain ⟨more, isRow⟩ := isRow
        exact Or.inl ⟨_, .word reads (.row noDash isRow)⟩
      · exact Or.inr (.letters noDash fun more row => isRow ⟨more, row⟩)
  | @name _ name value? isName =>
      by_cases known : ∃ switch : Switch, encode switch.longName = name
      · obtain ⟨switch, rfl⟩ := known
        rcases flag_or_takesValue_or_wish switch with rfl | takesValue | isWish
        · exact Or.inl ⟨_, .word reads (.flag isName)⟩
        · cases value? with
          | none => exact Or.inl ⟨_, .word reads (.awaiting takesValue isName)⟩
          | some given =>
              obtain ⟨signs, value, rfl, noSign⟩ := exists_replicate_append equals given
              exact Or.inl ⟨_, .word reads (.attached signs takesValue isName noSign)⟩
        · exact Or.inr (.wish isName isWish)
      · exact Or.inr (.unknown isName fun switch same => known ⟨switch, same⟩)

/-- Either all words are read, or there is a first one that stops reading. -/
theorem reads_or_stops (words : List Bytes) :
    (∃ uses, Reads words uses) ∨
      ∃ front word later uses,
        words = front ++ word :: later ∧ Reads front uses ∧ Stops uses word := by
  induction words using List.reverseRecOn with
  | nil => exact Or.inl ⟨[], .nothing⟩
  | append_singleton words word inductionHypothesis =>
      rcases inductionHypothesis with ⟨uses, reads⟩ | ⟨front, other, later, uses, rfl, reads, stops⟩
      · rcases reads.append_or_stops word with more | stops
        · exact Or.inl more
        · exact Or.inr ⟨words, word, [], uses, rfl, reads, stops⟩
      · exact Or.inr ⟨front, other, later ++ [word], uses, by simp, reads, stops⟩

theorem addPlain_of_none_waits
    {uses : List Use}
    (noneWaits : ∀ front switch, switch.takesValue = true → uses ≠ front ++ [⟨switch, none⟩])
    (word : Bytes) :
    addPlain word uses.reverse = .error (unknownPlain word uses.reverse) := by
  cases latest : uses.reverse with
  | nil => rfl
  | cons use earlier =>
      obtain ⟨switch, value?⟩ := use
      cases value? with
      | some value => rfl
      | none =>
          refine if_neg fun takesValue => noneWaits earlier.reverse switch takesValue ?_
          rw [← List.reverse_cons, ← latest, List.reverse_reverse]

theorem scan_unknown
    {word name : Bytes}
    {ignored? : Option Bytes}
    (isName : IsName word name ignored?)
    (noSwitch : ∀ switch : Switch, encode switch.longName ≠ name)
    (later : List Bytes)
    (earlier : List Use) :
    scan (word :: later) earlier = .error (unknownName name later earlier) := by
  have notFound : Switch.ofLongName? name = none :=
    Option.eq_none_iff_forall_ne_some.mpr fun switch found =>
      noSwitch switch ((Switch.ofLongName?_eq_some_iff name switch).mp found)
  simp only [scan, isName.ofBytes_eq, notFound]

/-- Two dashes at the very end are no fault.  Every other word that stops reading is one, or a
wish, and only an unknown name asks whether the words from it on are text. -/
theorem Stops.scan_cons
    {uses : List Use}
    {word : Bytes}
    (stops : Stops uses word)
    (later : List Bytes) :
    word = [dash, dash] ∧ later = [] ∨
      (∃ stop, stop ≠ .unreadable ∧ scan (word :: later) uses.reverse = .error stop) ∨
      ∃ name ignored?, IsName word name ignored? ∧
        ∀ switch : Switch, encode switch.longName ≠ name := by
  cases stops with
  | separator =>
      cases later with
      | nil => exact Or.inl ⟨rfl, rfl⟩
      | cons extra later => exact Or.inr (Or.inl ⟨unknownPlain extra uses.reverse, nofun, rfl⟩)
  | plain isPlain noneWaits =>
      refine Or.inr (Or.inl ⟨unknownPlain word uses.reverse, nofun, ?_⟩)
      simp only [scan, Word.ofBytes_plain isPlain, addPlain_of_none_waits noneWaits]
      rfl
  | @letters first rest noDash noRow =>
      rcases exists_isRow_or_stop (first :: rest) uses.reverse with
        ⟨more, isRow⟩ | ⟨stop, readable, stopped⟩
      · exact absurd isRow (noRow more)
      · refine Or.inr (Or.inl ⟨stop, readable, ?_⟩)
        simp only [scan, Word.ofBytes_letters noDash, stopped]
        rfl
  | @wish _ switch ignored? isName isWish =>
      obtain ⟨stop, readable, wished⟩ := exists_stop_of_wish isWish
      refine Or.inr (Or.inl ⟨stop, readable, ?_⟩)
      simp only [scan, isName.ofBytes_eq, (Switch.ofLongName?_eq_some_iff _ switch).mpr rfl,
        wished]
      rfl
  | @unknown _ name ignored? isName noSwitch =>
      exact Or.inr (Or.inr ⟨name, ignored?, isName, noSwitch⟩)

theorem unknownName_eq_unreadable_iff
    (name : Bytes)
    (later : List Bytes)
    (earlier : List Use) :
    unknownName name later earlier = .unreadable ↔
      ¬(IsText name ∧ ∀ word ∈ later, IsText word) := by
  have allText :
      (later.all fun word => (Text.Utf8.decode? word).isSome) = true ↔
        ∀ word ∈ later, IsText word := by
    simp only [List.all_eq_true, isSome_decode?_iff]
  rw [← isSome_decode?_iff name, ← allText]
  unfold unknownName
  cases Text.Utf8.decode? name with
  | none => simp
  | some text =>
      split
      · rename_i isText
        simp [isText]
      · rename_i notText
        simp [notText]

/-- A command line with an unknown name from which on not all is text. -/
inductive HasUnreadableName : List Bytes → Prop
  | intro {front later : List Bytes} {uses : List Use} {word name : Bytes}
      {ignored? : Option Bytes}
      (reads : Reads front uses)
      (isName : IsName word name ignored?)
      (noSwitch : ∀ switch : Switch, encode switch.longName ≠ name)
      (notText : ¬(IsText name ∧ ∀ word ∈ later, IsText word)) :
      HasUnreadableName (front ++ word :: later)

theorem HasUnreadableName.scan_eq
    {words : List Bytes}
    (unreadable : HasUnreadableName words) :
    scan words [] = .error .unreadable := by
  cases unreadable with
  | @intro front later uses word name ignored? reads isName noSwitch notText =>
      rw [reads.scan_append, scan_unknown isName noSwitch,
        (unknownName_eq_unreadable_iff name later _).mpr notText]

/-- What reading the words of a command line comes to. -/
theorem readsAll_or_stop (words : List Bytes) :
    (∃ uses, ReadsAll words uses) ∨ HasUnreadableName words ∨
      ∃ stop, stop ≠ .unreadable ∧ scan words [] = .error stop := by
  rcases reads_or_stops words with
    ⟨uses, reads⟩ | ⟨front, word, later, uses, rfl, reads, stops⟩
  · exact Or.inl ⟨uses, Or.inl reads⟩
  · rcases stops.scan_cons later with
      ⟨rfl, rfl⟩ | ⟨stop, readable, stopped⟩ | ⟨name, ignored?, isName, noSwitch⟩
    · exact Or.inl ⟨uses, Or.inr ⟨front, rfl, reads⟩⟩
    · exact Or.inr (Or.inr ⟨stop, readable, by rw [reads.scan_append, stopped]⟩)
    · by_cases isText : IsText name ∧ ∀ word ∈ later, IsText word
      · refine Or.inr (Or.inr ⟨unknownName name later uses.reverse, ?_, ?_⟩)
        · exact fun same => (unknownName_eq_unreadable_iff name later _).mp same isText
        · rw [reads.scan_append, scan_unknown isName noSwitch]
      · exact Or.inr (Or.inl (.intro reads isName noSwitch isText))

theorem scan_eq_ok_iff
    (words : List Bytes)
    (uses : List Use) :
    scan words [] = .ok uses.reverse ↔ ReadsAll words uses := by
  constructor
  · intro scanned
    rcases readsAll_or_stop words with ⟨others, reads⟩ | unreadable | ⟨stop, -, stopped⟩
    · rw [reads.scan_eq] at scanned
      rwa [← List.reverse_inj.mp (Except.ok.inj scanned)]
    · rw [unreadable.scan_eq] at scanned
      exact nomatch scanned
    · rw [stopped] at scanned
      exact nomatch scanned
  · exact ReadsAll.scan_eq

end Use
end CommandLine
end LatencyChart
