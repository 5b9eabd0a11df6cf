import LatencyChart.Proofs.CommandLine.Options

/-!
# Settings in any order and spelling

A setting can be spelled in several ways.  However the settings of a run are spelled and arranged,
they are read back.  A switch that stands twice on a command line is refused, wherever it stands
and whatever stands around it.
-/

namespace LatencyChart
namespace CommandLine

open Text.Utf8 (encode IsText isText_encode)
open Word (IsPlain IsName)

/-- A switch to be used, with the name that is given to it. -/
structure Setting where
  switch : Switch
  name? : Option String
  deriving DecidableEq, Repr

namespace Setting

/-- A name that starts neither like a switch nor like an attached value. -/
def IsOrdinary (name : String) : Prop :=
  name.toList.head? ≠ some '-' ∧ name.toList.head? ≠ some '='

/-- The ways to spell a setting. -/
inductive Spells : Setting → List String → Prop
  | flagLetter : Spells ⟨.verbose, none⟩ ["-v"]
  | flagName : Spells ⟨.verbose, none⟩ ["--verbose"]
  | behindLetter {switch : Switch} {name : String}
      (takesValue : switch.takesValue = true) :
      Spells ⟨switch, some name⟩ ["-" ++ switch.letter.toString, name]
  | behindName {switch : Switch} {name : String}
      (takesValue : switch.takesValue = true) :
      Spells ⟨switch, some name⟩ ["--" ++ switch.longName, name]
  | attached {switch : Switch} {name : String}
      (takesValue : switch.takesValue = true) :
      Spells ⟨switch, some name⟩ ["--" ++ switch.longName ++ "=" ++ name]

/-- A setting as it is spelled. -/
structure Spelled where
  setting : Setting
  words : List String
  spells : Spells setting words

/-- The words with which the program is called to make settings. -/
def commandLine (program : Bytes) (written : List Spelled) : List Bytes :=
  program :: (written.flatMap Spelled.words).map encode

/-- The use of a switch that a setting asks for. -/
def use (setting : Setting) : Use :=
  ⟨setting.switch, setting.name?.map encode⟩

/-- The settings of a run. -/
def chosen (input? output? : Option String) (verbose : Bool) : List Setting :=
  (input?.map fun name => ⟨.input, some name⟩).toList ++
    (output?.map fun name => ⟨.output, some name⟩).toList ++
    if verbose then [⟨.verbose, none⟩] else []

/-! ## Reading a spelling -/

theorem head?_encode_ne
    {name : String}
    {byte : UInt8}
    (ascii : byte.toNat < 0x80)
    (different : name.toList.head? ≠ some (Char.ofNat byte.toNat)) :
    (encode name).head? ≠ some byte := by
  intro first
  obtain ⟨rest, encoded⟩ := List.head?_eq_some_iff.mp first
  rw [← List.nil_append (byte :: rest)] at encoded
  obtain ⟨before, after, split, nothing, -⟩ :=
    Text.Utf8.exists_of_encodeChars_eq_append_cons ascii encoded
  obtain rfl : before = [] := (Text.Utf8.encodeChars_inj before []).mp nothing
  exact different (by rw [split]; rfl)

theorem IsOrdinary.isPlain
    {name : String}
    (ordinary : IsOrdinary name) :
    IsPlain (encode name) :=
  Or.inr (head?_encode_ne (by decide) ordinary.1)

theorem encode_append (front rest : String) :
    encode (front ++ rest) = encode front ++ encode rest := by
  unfold encode
  rw [String.toList_append, Text.Utf8.encodeChars_append]

theorem isName_longName (switch : Switch) :
    IsName (encode ("--" ++ switch.longName)) (encode switch.longName) none := by
  have written : encode ("--" ++ switch.longName) = Word.withDashes 0 (encode switch.longName) :=
    encode_append "--" switch.longName
  rw [written]
  cases switch <;> exact .bare (by decide) (by decide) (by decide)

theorem isName_longName_equals
    (switch : Switch)
    (name : String) :
    IsName (encode ("--" ++ switch.longName ++ "=" ++ name)) (encode switch.longName)
      (some (encode name)) := by
  have written :
      encode ("--" ++ switch.longName ++ "=" ++ name) =
        Word.withDashes 0 (encode switch.longName ++ equals :: encode name) := by
    rw [encode_append, encode_append, encode_append, List.append_assoc, List.append_assoc]
    rfl
  rw [written]
  cases switch <;> exact .valued (by decide) (by decide)

theorem holds_letter
    {switch : Switch}
    (takesValue : switch.takesValue = true) :
    Use.Holds (encode ("-" ++ switch.letter.toString)) [⟨switch, none⟩] := by
  have written :
      encode ("-" ++ switch.letter.toString) = [dash, switch.letter.toUInt8] := by
    cases switch <;> rfl
  rw [written]
  exact .row (by cases switch <;> decide) (.awaiting takesValue)

theorem Spells.reads
    {setting : Setting}
    {group : List String}
    (spells : Spells setting group)
    (ordinary : ∀ name ∈ setting.name?, IsOrdinary name)
    {words : List Bytes}
    {uses : List Use}
    (reads : Use.Reads words uses) :
    Use.Reads (words ++ group.map encode) (uses ++ [setting.use]) := by
  cases spells with
  | flagLetter => exact .word reads (.row (by decide) (.flag .nothing))
  | flagName => exact .word reads (.flag (isName_longName .verbose))
  | @behindLetter switch name takesValue =>
      have switched := reads.word (holds_letter takesValue)
      have named := switched.value takesValue (ordinary name rfl).isPlain
      rwa [List.append_assoc] at named
  | @behindName switch name takesValue =>
      have switched := reads.word (.awaiting takesValue (isName_longName switch))
      have named := switched.value takesValue (ordinary name rfl).isPlain
      rwa [List.append_assoc] at named
  | @attached switch name takesValue =>
      exact .word reads (.attached 0 takesValue (isName_longName_equals switch name)
        (head?_encode_ne (by decide) (ordinary name rfl).2))

theorem reads_of_spelled
    (written : List Spelled)
    (ordinary : ∀ spelled ∈ written, ∀ name ∈ spelled.setting.name?, IsOrdinary name)
    {words : List Bytes}
    {uses : List Use}
    (reads : Use.Reads words uses) :
    Use.Reads (words ++ (written.flatMap Spelled.words).map encode)
      (uses ++ (written.map Spelled.setting).map use) := by
  induction written generalizing words uses with
  | nil => simpa using reads
  | cons spelled written inductionHypothesis =>
      obtain ⟨first, others⟩ := List.forall_mem_cons.mp ordinary
      have onward := inductionHypothesis others (spelled.spells.reads first reads)
      rwa [List.append_assoc, List.append_assoc, ← List.map_append] at onward

theorem Spells.use_ne
    {setting : Setting}
    {group : List String}
    (spells : Spells setting group) :
    setting.use ≠ ⟨.output, none⟩ := by
  cases spells with
  | flagLetter => exact nofun
  | flagName => exact nofun
  | behindLetter => exact nofun
  | behindName => exact nofun
  | attached => exact nofun

/-! ## The settings of a run -/

theorem value?_use_eq_some_iff
    (setting : Setting)
    (value : Bytes) :
    setting.use.value? = some value ↔ ∃ name ∈ setting.name?, encode name = value :=
  Option.map_eq_some_iff

theorem hasTextValues (settings : List Setting) :
    Options.HasTextValues (settings.map use) := by
  refine List.forall_mem_map.mpr fun setting _ value given => ?_
  obtain ⟨name, -, rfl⟩ := (value?_use_eq_some_iff setting value).mp given
  exact isText_encode name

section Chosen

variable (input? output? : Option String) (verbose : Bool)

theorem switches_chosen_sublist :
    ((chosen input? output? verbose).map switch).Sublist Switch.options := by
  cases input? <;> cases output? <;> cases verbose <;> simp [chosen, Switch.options]

theorem mem_chosen_iff (setting : Setting) :
    setting ∈ chosen input? output? verbose ↔
      (∃ name ∈ input?, setting = ⟨.input, some name⟩) ∨
        (∃ name ∈ output?, setting = ⟨.output, some name⟩) ∨
          verbose = true ∧ setting = ⟨.verbose, none⟩ := by
  rw [chosen, List.mem_append, List.mem_append, or_assoc]
  refine or_congr ?_ (or_congr ?_ ?_)
  · cases input? <;> simp
  · cases output? <;> simp
  · cases verbose <;> simp

theorem mem_uses_chosen_iff (asked : Use) :
    asked ∈ (chosen input? output? verbose).map use ↔
      (∃ name ∈ input?, asked = ⟨.input, some (encode name)⟩) ∨
        (∃ name ∈ output?, asked = ⟨.output, some (encode name)⟩) ∨
          verbose = true ∧ asked = ⟨.verbose, none⟩ := by
  rw [List.mem_map]
  constructor
  · rintro ⟨setting, member, rfl⟩
    obtain ⟨name, given, rfl⟩ | ⟨name, given, rfl⟩ | ⟨wanted, rfl⟩ :=
      (mem_chosen_iff input? output? verbose setting).mp member
    · exact Or.inl ⟨name, given, rfl⟩
    · exact Or.inr (Or.inl ⟨name, given, rfl⟩)
    · exact Or.inr (Or.inr ⟨wanted, rfl⟩)
  · rintro (⟨name, given, rfl⟩ | ⟨name, given, rfl⟩ | ⟨wanted, rfl⟩)
    · exact ⟨_, (mem_chosen_iff ..).mpr (Or.inl ⟨name, given, rfl⟩), rfl⟩
    · exact ⟨_, (mem_chosen_iff ..).mpr (Or.inr (Or.inl ⟨name, given, rfl⟩)), rfl⟩
    · exact ⟨_, (mem_chosen_iff ..).mpr (Or.inr (Or.inr ⟨wanted, rfl⟩)), rfl⟩

variable {input? output? verbose} in
theorem isOrdinary_of_mem_chosen
    (inputOrdinary : ∀ name ∈ input?, IsOrdinary name)
    (outputOrdinary : ∀ name ∈ output?, IsOrdinary name)
    {setting : Setting}
    (isChosen : setting ∈ chosen input? output? verbose) :
    ∀ name ∈ setting.name?, IsOrdinary name := by
  obtain ⟨given, isGiven, rfl⟩ | ⟨given, isGiven, rfl⟩ | ⟨-, rfl⟩ :=
    (mem_chosen_iff input? output? verbose setting).mp isChosen
  · rintro name ⟨⟩
    exact inputOrdinary _ isGiven
  · rintro name ⟨⟩
    exact outputOrdinary _ isGiven
  · exact nofun

theorem isAdmissible_chosen :
    Options.IsAdmissible ((chosen input? output? verbose).map use) := by
  constructor
  · have once : Switch.options.Nodup := by decide
    rw [List.map_map]
    exact (switches_chosen_sublist input? output? verbose).nodup once
  · rw [mem_uses_chosen_iff]
    simp

theorem follows_chosen :
    Options.Follows ((chosen input? output? verbose).map use)
      { input := encode (input?.getD Options.defaultInput)
        output? := output?.map encode
        verbose := verbose } := by
  constructor
  · intro value asked
    obtain ⟨name, rfl, same⟩ | ⟨name, -, other⟩ | ⟨-, other⟩ :=
      (mem_uses_chosen_iff input? output? verbose _).mp asked
    · exact (Option.some.inj (congrArg Use.value? same)).symm
    · exact nomatch congrArg Use.switch other
    · exact nomatch congrArg Use.switch other
  · intro absent
    cases input? with
    | none => rfl
    | some name =>
        exact absurd ((mem_uses_chosen_iff _ output? verbose _).mpr (Or.inl ⟨name, rfl, rfl⟩))
          (absent (encode name))
  · intro value
    rw [mem_uses_chosen_iff]
    simp [eq_comm]
  · constructor
    · intro wanted
      exact ⟨⟨.verbose, none⟩, (mem_uses_chosen_iff ..).mpr (Or.inr (Or.inr ⟨wanted, rfl⟩)), rfl⟩
    · rintro ⟨asked, member, isVerbose⟩
      obtain ⟨name, -, rfl⟩ | ⟨name, -, rfl⟩ | ⟨wanted, -⟩ :=
        (mem_uses_chosen_iff input? output? verbose asked).mp member
      · exact nomatch isVerbose
      · exact nomatch isVerbose
      · exact wanted

end Chosen

end Setting

/-! ## Switches used twice -/

namespace Use

theorem Holds.unique
    {word : Bytes}
    {uses others : List Use}
    (holds : Holds word uses)
    (again : Holds word others) :
    uses = others := by
  have scanned := holds.scan_cons [] []
  rw [again.scan_cons] at scanned
  simpa [scan] using scanned.symm

theorem Holds.not_isPlain
    {word : Bytes}
    {uses : List Use}
    (holds : Holds word uses) :
    ¬IsPlain word := by
  intro isPlain
  have scanned := holds.scan_cons [] []
  simp only [scan, Word.ofBytes_plain isPlain, addPlain] at scanned
  contradiction

theorem not_holds_separator (uses : List Use) :
    ¬Holds [dash, dash] uses := by
  intro holds
  have scanned := holds.scan_cons [[dash, dash]] []
  exact nomatch scanned

/-- A word on its own, with the uses in it. -/
structure Held where
  word : Bytes
  uses : List Use
  holds : Holds word uses

theorem sublist_of_not_holds
    {words : List Bytes}
    {word : Bytes}
    {held : List Held}
    (among : (held.map Held.word).Sublist (words ++ [word]))
    (holdsNone : ∀ uses, ¬Holds word uses) :
    (held.map Held.word).Sublist words := by
  obtain ⟨before, last, split, within, atEnd⟩ := List.sublist_append_iff.mp among
  rcases List.sublist_singleton.mp atEnd with rfl | rfl
  · rwa [split, List.append_nil]
  · obtain ⟨early, late, rfl, -, single⟩ := List.map_eq_append_iff.mp split
    obtain ⟨⟨_, uses, holds⟩, rfl, rfl⟩ := List.map_eq_singleton_iff.mp single
    exact absurd holds (holdsNone uses)

/-- The words read account for all uses of switches, and any choice of them for some. -/
theorem Reads.sublist
    {words : List Bytes}
    {uses : List Use}
    (reads : Reads words uses)
    {held : List Held}
    (among : (held.map Held.word).Sublist words) :
    ((held.flatMap Held.uses).map Use.switch).Sublist (uses.map Use.switch) := by
  -- Reading goes on at the end, so the last chosen word is compared with the last word read.
  induction reads generalizing held with
  | nothing =>
      obtain rfl : held = [] := List.map_eq_nil_iff.mp (List.sublist_nil.mp among)
      exact List.nil_sublist _
  | @word words uses more word reads wordHolds inductionHypothesis =>
      obtain ⟨before, last, split, within, atEnd⟩ := List.sublist_append_iff.mp among
      obtain ⟨early, late, rfl, rfl, rfl⟩ := List.map_eq_append_iff.mp split
      rw [List.flatMap_append, List.map_append, List.map_append]
      refine (inductionHypothesis within).append ?_
      rcases List.sublist_singleton.mp atEnd with nothing | single
      · obtain rfl := List.map_eq_nil_iff.mp nothing
        exact List.nil_sublist _
      · obtain ⟨⟨_, group, holds⟩, rfl, rfl⟩ := List.map_eq_singleton_iff.mp single
        obtain rfl : group = more := holds.unique wordHolds
        rw [List.flatMap_singleton]
  | value reads takesValue isPlain inductionHypothesis =>
      have others := inductionHypothesis
        (sublist_of_not_holds among fun uses holds => holds.not_isPlain isPlain)
      rwa [List.map_append] at others ⊢

theorem ReadsAll.sublist
    {words : List Bytes}
    {uses : List Use}
    (reads : ReadsAll words uses)
    {held : List Held}
    (among : (held.map Held.word).Sublist words) :
    ((held.flatMap Held.uses).map Use.switch).Sublist (uses.map Use.switch) := by
  rcases reads with reads | ⟨front, rfl, reads⟩
  · exact reads.sublist among
  · exact reads.sublist (sublist_of_not_holds among not_holds_separator)

end Use

namespace Options

open Setting (IsOrdinary Spelled chosen commandLine)
open Use (Held)

/-- A command line on which words hold a switch twice is refused. -/
theorem exists_stop_of_held_twice
    {words : List Bytes}
    {held : List Held}
    (among : (held.map Held.word).Sublist words.tail)
    (twice : ¬((held.flatMap Held.uses).map Use.switch).Nodup) :
    ∃ stop, ofWords? words = .error stop := by
  cases outcome : ofWords? words with
  | error stop => exact ⟨stop, rfl⟩
  | ok options =>
      obtain ⟨uses, reads, admissible, -⟩ := (ofWords?_eq_ok_iff words options).mp outcome
      exact absurd ((reads.sublist among).nodup admissible.nodup) twice

section Spelled

variable {written : List Spelled}

theorem readsAll_commandLine
    (program : Bytes)
    (ordinary : ∀ spelled ∈ written, ∀ name ∈ spelled.setting.name?, IsOrdinary name) :
    Use.ReadsAll (commandLine program written).tail
      ((written.map Spelled.setting).map Setting.use) :=
  Or.inl (Setting.reads_of_spelled written ordinary .nothing)

/-- Settings that set a switch twice are told apart from other faults. -/
theorem ofWords?_eq_repeated
    (program : Bytes)
    (ordinary : ∀ spelled ∈ written, ∀ name ∈ spelled.setting.name?, IsOrdinary name)
    (twice : ¬((written.map Spelled.setting).map Setting.switch).Nodup) :
    ∃ switch met,
      1 < ((written.map Spelled.setting).map Setting.switch).count switch ∧
        ofWords? (commandLine program written) = .error (.repeated switch met) := by
  have reads := readsAll_commandLine program ordinary
  have perm := List.reverse_perm ((written.map Spelled.setting).map Setting.use)
  have switches :
      ((written.map Spelled.setting).map Setting.use).map Use.switch =
        (written.map Spelled.setting).map Setting.switch :=
    List.map_map
  have notAdmissible : ¬IsAdmissible ((written.map Spelled.setting).map Setting.use).reverse := by
    rw [isAdmissible_iff_of_perm perm]
    exact fun admissible => twice (switches ▸ admissible.nodup)
  have inOptions := fun use member => reads.mem_options use (perm.mem_iff.mp member)
  rcases fault?_of_not_isAdmissible inOptions notAdmissible with
    ⟨lacking, -⟩ | ⟨switch, more, fault⟩
  · have nameless := perm.mem_iff.mp ((lacksOutputName_iff _).mp lacking).1
    rw [List.map_map] at nameless
    obtain ⟨spelled, -, same⟩ := List.mem_map.mp nameless
    exact absurd same spelled.spells.use_ne
  · rw [count_eq, (perm.map Use.switch).count_eq, switches] at more
    rw [ofWords?_eq_of_readsAll reads, ofUses?, fault]
    exact ⟨switch, _, more, rfl⟩

theorem ofWords?_eq_chosen
    (program : Bytes)
    {input? output? : Option String}
    {verbose : Bool}
    (inputOrdinary : ∀ name ∈ input?, IsOrdinary name)
    (outputOrdinary : ∀ name ∈ output?, IsOrdinary name)
    (arranged : (written.map Spelled.setting).Perm (chosen input? output? verbose)) :
    ofWords? (commandLine program written) =
      .ok
        { input := encode (input?.getD defaultInput)
          output? := output?.map encode
          verbose := verbose } := by
  have reads := readsAll_commandLine program fun spelled member =>
    Setting.isOrdinary_of_mem_chosen inputOrdinary outputOrdinary
      (arranged.mem_iff.mp (List.mem_map_of_mem member))
  have perm := arranged.map Setting.use
  refine (ofWords?_eq_ok_iff_of_readsAll reads _).mpr ⟨?_, Setting.hasTextValues _, ?_⟩
  · exact (isAdmissible_iff_of_perm perm).mpr (Setting.isAdmissible_chosen input? output? verbose)
  · exact (follows_iff_of_perm perm _).mpr (Setting.follows_chosen input? output? verbose)

end Spelled

/-- However the settings of a run are spelled and arranged, they are read back.  A switch that is
set twice is told as such, and a command line on which some words hold a switch twice is refused,
whatever else stands on it. -/
theorem ofWords?_reads_back_arrangements :
    (∀ program input? output? verbose (written : List Spelled),
      (∀ name ∈ input?, IsOrdinary name) → (∀ name ∈ output?, IsOrdinary name) →
      (written.map Spelled.setting).Perm (chosen input? output? verbose) →
      ofWords? (commandLine program written) =
        .ok
          { input := encode (input?.getD defaultInput)
            output? := output?.map encode
            verbose := verbose }) ∧
    (∀ program (written : List Spelled),
      (∀ spelled ∈ written, ∀ name ∈ spelled.setting.name?, IsOrdinary name) →
      ¬((written.map Spelled.setting).map Setting.switch).Nodup →
      ∃ switch met,
        1 < ((written.map Spelled.setting).map Setting.switch).count switch ∧
          ofWords? (commandLine program written) = .error (.repeated switch met)) ∧
    (∀ words (held : List Held),
      (held.map Held.word).Sublist words.tail →
      ¬((held.flatMap Held.uses).map Use.switch).Nodup →
      ∃ stop, ofWords? words = .error stop ∧
        ((∀ word ∈ words.tail, IsText word) → stop ≠ .unreadable)) := by
  refine ⟨fun program _ _ _ _ => ofWords?_eq_chosen program,
    fun program _ => ofWords?_eq_repeated program, fun words held among twice => ?_⟩
  obtain ⟨stop, refused⟩ := exists_stop_of_held_twice among twice
  exact ⟨stop, refused, fun allText same => ofWords?_ne_unreadable allText (same ▸ refused)⟩

/-- All settings of a run with the flag in front and the input last. -/
def turnedSettings : List Spelled :=
  [⟨⟨.verbose, none⟩, _, .flagLetter⟩,
    ⟨⟨.output, some "a=b.svg"⟩, _, .attached rfl⟩,
    ⟨⟨.input, some "my, v.txt"⟩, _, .behindLetter rfl⟩]

/-- A word that holds the flag twice. -/
def doubledFlag : Held :=
  ⟨encode "-vv", [⟨.verbose, none⟩, ⟨.verbose, none⟩], .row (by decide) (.flag (.flag .nothing))⟩

theorem ofWords?_turnedSettings :
    ofWords? (commandLine (encode "rtt_plot") turnedSettings) =
        .ok ⟨encode "my, v.txt", some (encode "a=b.svg"), true⟩ ∧
      (∃ switch met,
        1 < (((turnedSettings ++ turnedSettings).map Spelled.setting).map
          Setting.switch).count switch ∧
          ofWords? (commandLine (encode "rtt_plot") (turnedSettings ++ turnedSettings)) =
            .error (.repeated switch met)) ∧
      ∃ stop, ofWords? [encode "rtt_plot", encode "-vv"] = .error stop ∧
        ((∀ word ∈ [encode "-vv"], IsText word) → stop ≠ .unreadable) := by
  have inputOrdinary : IsOrdinary "my, v.txt" := ⟨by decide, by decide⟩
  have outputOrdinary : IsOrdinary "a=b.svg" := ⟨by decide, by decide⟩
  refine ⟨?_, ?_, ?_⟩
  · refine ofWords?_reads_back_arrangements.1 _ (some "my, v.txt") (some "a=b.svg") true _
      ?_ ?_ ?_
    · rintro name ⟨⟩
      exact inputOrdinary
    · rintro name ⟨⟩
      exact outputOrdinary
    · exact List.reverse_perm (chosen (some "my, v.txt") (some "a=b.svg") true)
  · refine ofWords?_reads_back_arrangements.2.1 _ _ ?_ (by decide)
    simp [turnedSettings, inputOrdinary, outputOrdinary]
  · exact ofWords?_reads_back_arrangements.2.2 [encode "rtt_plot", encode "-vv"] [doubledFlag]
      (List.Sublist.refl _) (by decide)

end Options
end CommandLine
end LatencyChart
