import LatencyChart.CommandLine.Options
import LatencyChart.Proofs.CommandLine.Reading
import Mathlib.Data.List.Nodup

/-!
# The options that words make up

A command line is accepted exactly if its uses of switches can stand together and the names in
them are text.  The options then hold these names byte for byte.  A name that is not text is found
only after all other faults.
-/

namespace LatencyChart
namespace CommandLine

open Text.Utf8 (encode IsText isSome_decode?_iff)
open Word (IsName)

namespace Options

/-- Uses that can stand together: no switch is used twice, and an output has a name. -/
structure IsAdmissible (uses : List Use) : Prop where
  nodup : (uses.map Use.switch).Nodup
  named : ⟨.output, none⟩ ∉ uses

/-- All values are text. -/
def HasTextValues (uses : List Use) : Prop :=
  ∀ use ∈ uses, ∀ value, use.value? = some value → IsText value

/-- The options say what the uses say, and the input is the default one where no use names it. -/
structure Follows (uses : List Use) (options : Options) : Prop where
  input : ∀ name, ⟨.input, some name⟩ ∈ uses → options.input = name
  default : (∀ name, ⟨.input, some name⟩ ∉ uses) → options.input = encode defaultInput
  output : ∀ name, options.output? = some name ↔ ⟨.output, some name⟩ ∈ uses
  verbose : options.verbose = true ↔ ∃ use ∈ uses, use.switch = .verbose

/-! ## Numbers and values of uses -/

section Uses

variable {uses : List Use}

theorem count_eq (switch : Switch) (uses : List Use) :
    count switch uses = (uses.map Use.switch).count switch := by
  rw [List.count, List.countP_map]
  rfl

theorem count_ne_zero_iff (switch : Switch) (uses : List Use) :
    count switch uses ≠ 0 ↔ ∃ use ∈ uses, use.switch = switch := by
  rw [count_eq, ← Nat.pos_iff_ne_zero, List.count_pos_iff, List.mem_map]

theorem nodup_iff
    (inOptions : ∀ use ∈ uses, use.switch ∈ Switch.options) :
    (uses.map Use.switch).Nodup ↔
      count .input uses ≤ 1 ∧ count .output uses ≤ 1 ∧ count .verbose uses ≤ 1 := by
  rw [List.nodup_iff_count_le_one]
  constructor
  · intro once
    exact ⟨count_eq _ uses ▸ once .input, count_eq _ uses ▸ once .output,
      count_eq _ uses ▸ once .verbose⟩
  · rintro ⟨inputOnce, outputOnce, verboseOnce⟩ switch
    rw [← count_eq]
    rcases Decidable.em (count switch uses = 0) with unused | used
    · exact unused ▸ Nat.zero_le 1
    · obtain ⟨use, member, rfl⟩ := (count_ne_zero_iff switch uses).mp used
      have listed := inOptions use member
      simp only [Switch.options, List.mem_cons, List.not_mem_nil, or_false] at listed
      rcases listed with isInput | isOutput | isVerbose
      · rwa [isInput]
      · rwa [isOutput]
      · rwa [isVerbose]

theorem value?_eq_none_iff (switch : Switch) (uses : List Use) :
    value? switch uses = none ↔ ∀ value, ⟨switch, some value⟩ ∉ uses := by
  unfold value?
  rw [List.findSome?_eq_none_iff]
  constructor
  · intro nothing value member
    have answer := nothing _ member
    rw [if_pos rfl] at answer
    exact nomatch answer
  · rintro absent ⟨other, value?⟩ member
    split
    · rename_i same
      cases value? with
      | none => rfl
      | some value => exact absurd (same ▸ member) (absent value)
    · rfl

theorem mem_of_value?_eq_some
    {switch : Switch}
    {value : Bytes}
    (given : value? switch uses = some value) :
    ⟨switch, some value⟩ ∈ uses := by
  obtain ⟨use, member, answer⟩ := List.exists_of_findSome?_eq_some given
  split at answer
  · rename_i same
    rwa [← same, ← answer]
  · exact nomatch answer

theorem value?_eq_some_iff
    (nodup : (uses.map Use.switch).Nodup)
    (switch : Switch)
    (value : Bytes) :
    value? switch uses = some value ↔ ⟨switch, some value⟩ ∈ uses := by
  refine ⟨mem_of_value?_eq_some, fun member => ?_⟩
  cases given : value? switch uses with
  | none => exact absurd member ((value?_eq_none_iff switch uses).mp given value)
  | some other =>
      have same := List.inj_on_of_nodup_map nodup (mem_of_value?_eq_some given) member rfl
      exact congrArg Use.value? same

theorem follows_iff
    (nodup : (uses.map Use.switch).Nodup)
    (options : Options) :
    Follows uses options ↔
      { input := (value? .input uses).getD (encode defaultInput)
        output? := value? .output uses
        verbose := count .verbose uses != 0 } = options := by
  have verbose_iff :
      (count .verbose uses != 0) = true ↔ ∃ use ∈ uses, use.switch = .verbose := by
    rw [bne_iff_ne, count_ne_zero_iff]
  constructor
  · intro follows
    obtain ⟨input, output?, verbose⟩ := options
    congr 1
    · cases given : value? .input uses with
      | none => exact (follows.default ((value?_eq_none_iff .input uses).mp given)).symm
      | some name => exact (follows.input name (mem_of_value?_eq_some given)).symm
    · refine Option.ext fun name => ?_
      rw [value?_eq_some_iff nodup]
      exact (follows.output name).symm
    · rw [Bool.eq_iff_iff, verbose_iff]
      exact follows.verbose.symm
  · rintro rfl
    refine ⟨fun name member => ?_, fun absent => ?_, fun name => ?_, verbose_iff⟩
    · rw [(value?_eq_some_iff nodup .input name).mpr member]
      rfl
    · rw [(value?_eq_none_iff .input uses).mpr absent]
      rfl
    · exact value?_eq_some_iff nodup .output name

/-! ## The faults of uses -/

theorem lacksOutputName_iff (uses : List Use) :
    lacksOutputName uses = true ↔
      ⟨.output, none⟩ ∈ uses ∧ ∀ value, ⟨.output, some value⟩ ∉ uses := by
  unfold lacksOutputName
  rw [Bool.and_eq_true, bne_iff_ne, beq_iff_eq, count_ne_zero_iff, value?_eq_none_iff]
  constructor
  · rintro ⟨⟨⟨switch, value?⟩, member, rfl⟩, absent⟩
    cases value? with
    | none => exact ⟨member, absent⟩
    | some value => exact absurd member (absent value)
  · rintro ⟨member, absent⟩
    exact ⟨⟨_, member, rfl⟩, absent⟩

theorem isAdmissible_iff
    (inOptions : ∀ use ∈ uses, use.switch ∈ Switch.options) :
    IsAdmissible uses ↔
      ¬lacksOutputName uses = true ∧
        count .input uses ≤ 1 ∧ count .output uses ≤ 1 ∧ count .verbose uses ≤ 1 := by
  rw [lacksOutputName_iff]
  constructor
  · rintro ⟨nodup, named⟩
    exact ⟨fun lacking => named lacking.1, (nodup_iff inOptions).mp nodup⟩
  · rintro ⟨notLacking, once⟩
    have nodup := (nodup_iff inOptions).mpr once
    refine ⟨nodup, fun nameless => notLacking ⟨nameless, fun name named => ?_⟩⟩
    have same := List.inj_on_of_nodup_map nodup nameless named rfl
    exact nomatch same

theorem any_not_text_iff (uses : List Use) :
    (uses.any fun use => use.value?.any fun value => Text.Utf8.decode? value == none) = true ↔
      ¬HasTextValues uses := by
  have noText (value : Bytes) : Text.Utf8.decode? value = none ↔ ¬IsText value := by
    rw [← isSome_decode?_iff, Option.not_isSome_iff_eq_none]
  simp only [HasTextValues, List.any_eq_true, Option.any_eq_true, beq_iff_eq, noText, not_forall,
    exists_prop]

/-- Uses that can stand together are at fault only for a value that is not text. -/
theorem IsAdmissible.fault?_eq
    (admissible : IsAdmissible uses)
    (inOptions : ∀ use ∈ uses, use.switch ∈ Switch.options) :
    HasTextValues uses ∧ fault? uses = none ∨
      ¬HasTextValues uses ∧ fault? uses = some .unreadable := by
  obtain ⟨named, inputOnce, outputOnce, verboseOnce⟩ := (isAdmissible_iff inOptions).mp admissible
  have notAwaiting : ¬awaitsOutputName uses = true := fun awaiting =>
    named ((Bool.and_eq_true_iff.mp awaiting).2)
  unfold fault?
  rw [if_neg notAwaiting, if_neg (Nat.not_lt.mpr inputOnce), if_neg named,
    if_neg (Nat.not_lt.mpr outputOnce), if_neg (Nat.not_lt.mpr verboseOnce)]
  split
  · rename_i notText
    exact Or.inr ⟨(any_not_text_iff uses).mp notText, rfl⟩
  · rename_i allText
    exact Or.inl ⟨not_not.mp ((any_not_text_iff uses).not.mp allText), rfl⟩

/-- Uses that cannot stand together lack the name of an output or repeat a switch. -/
theorem fault?_of_not_isAdmissible
    (inOptions : ∀ use ∈ uses, use.switch ∈ Switch.options)
    (notAdmissible : ¬IsAdmissible uses) :
    lacksOutputName uses = true ∧ fault? uses = some (.missingValue .output (met uses)) ∨
      ∃ switch, 1 < count switch uses ∧ fault? uses = some (.repeated switch (met uses)) := by
  unfold fault?
  -- The switches are checked one after the other, so the fault names the first one used twice.
  split_ifs with awaiting inputTwice lacking outputTwice verboseTwice notText
  · exact Or.inl ⟨(Bool.and_eq_true_iff.mp awaiting).2, rfl⟩
  · exact Or.inr ⟨.input, inputTwice, rfl⟩
  · exact Or.inl ⟨lacking, rfl⟩
  · exact Or.inr ⟨.output, outputTwice, rfl⟩
  · exact Or.inr ⟨.verbose, verboseTwice, rfl⟩
  all_goals
    exact absurd ((isAdmissible_iff inOptions).mpr ⟨lacking, by omega, by omega, by omega⟩)
      notAdmissible

/-- Whether uses are at fault, and for what, is decided by whether they can stand together and
have values that are text. -/
theorem fault?_cases (inOptions : ∀ use ∈ uses, use.switch ∈ Switch.options) :
    (IsAdmissible uses ∧ HasTextValues uses ∧ fault? uses = none) ∨
      (IsAdmissible uses ∧ ¬HasTextValues uses ∧ fault? uses = some .unreadable) ∨
        ¬IsAdmissible uses ∧ ∃ stop, stop ≠ .unreadable ∧ fault? uses = some stop := by
  by_cases admissible : IsAdmissible uses
  · rcases admissible.fault?_eq inOptions with allText | notText
    · exact Or.inl ⟨admissible, allText⟩
    · exact Or.inr (Or.inl ⟨admissible, notText⟩)
  · refine Or.inr (Or.inr ⟨admissible, ?_⟩)
    rcases fault?_of_not_isAdmissible inOptions admissible with
      ⟨-, missing⟩ | ⟨switch, -, repeated⟩
    · exact ⟨.missingValue .output (met uses), nofun, missing⟩
    · exact ⟨.repeated switch (met uses), nofun, repeated⟩

theorem ofUses?_eq_ok_iff
    (inOptions : ∀ use ∈ uses, use.switch ∈ Switch.options)
    (options : Options) :
    ofUses? uses = .ok options ↔
      IsAdmissible uses ∧ HasTextValues uses ∧ Follows uses options := by
  unfold ofUses?
  rcases fault?_cases inOptions with
    ⟨admissible, allText, fault⟩ | ⟨-, notText, fault⟩ | ⟨notAdmissible, stop, -, fault⟩
  · rw [fault, Except.ok.injEq, ← follows_iff admissible.nodup]
    exact ⟨fun follows => ⟨admissible, allText, follows⟩, fun all => all.2.2⟩
  · rw [fault]
    exact ⟨nofun, fun all => absurd all.2.1 notText⟩
  · rw [fault]
    exact ⟨nofun, fun all => absurd all.1 notAdmissible⟩

theorem ofUses?_eq_unreadable_iff (inOptions : ∀ use ∈ uses, use.switch ∈ Switch.options) :
    ofUses? uses = .error .unreadable ↔ IsAdmissible uses ∧ ¬HasTextValues uses := by
  unfold ofUses?
  rcases fault?_cases inOptions with
    ⟨-, allText, fault⟩ | ⟨admissible, notText, fault⟩ | ⟨notAdmissible, stop, readable, fault⟩
  · rw [fault]
    exact ⟨nofun, fun all => absurd allText all.2⟩
  · rw [fault]
    exact ⟨fun _ => ⟨admissible, notText⟩, fun _ => rfl⟩
  · rw [fault]
    exact ⟨fun same => absurd (Except.error.inj same) readable,
      fun all => absurd all.1 notAdmissible⟩

/-! ## Uses in another order -/

variable {others : List Use}

theorem isAdmissible_iff_of_perm (perm : uses.Perm others) :
    IsAdmissible uses ↔ IsAdmissible others := by
  constructor
  · rintro ⟨nodup, named⟩
    exact ⟨(perm.map Use.switch).nodup_iff.mp nodup, mt perm.mem_iff.mpr named⟩
  · rintro ⟨nodup, named⟩
    exact ⟨(perm.map Use.switch).nodup_iff.mpr nodup, mt perm.mem_iff.mp named⟩

theorem hasTextValues_iff_of_perm (perm : uses.Perm others) :
    HasTextValues uses ↔ HasTextValues others :=
  forall_congr' fun _ => imp_congr_left perm.mem_iff

theorem follows_iff_of_perm
    (perm : uses.Perm others)
    (options : Options) :
    Follows uses options ↔ Follows others options := by
  constructor
  · rintro ⟨input, default, output, verbose⟩
    simp only [perm.mem_iff] at input default output verbose
    exact ⟨input, default, output, verbose⟩
  · rintro ⟨input, default, output, verbose⟩
    simp only [← perm.mem_iff] at input default output verbose
    exact ⟨input, default, output, verbose⟩

/-! ## Text -/

theorem letter_lt (switch : Switch) :
    switch.letter.toUInt8.toNat < 0x80 := by
  cases switch <;> decide

theorem isText_of_isName
    {word name : Bytes}
    {value? : Option Bytes}
    (isName : IsName word name value?)
    (isText : IsText word) :
    IsText name ∧ ∀ value, value? = some value → IsText value := by
  cases isName with
  | bare => exact ⟨isText.of_replicate_append (by decide), nofun⟩
  | valued =>
      obtain ⟨atFront, behind⟩ := (isText.of_replicate_append (by decide)).cut (by decide)
      refine ⟨atFront, ?_⟩
      rintro value ⟨⟩
      exact behind

theorem hasTextValues_of_isRow
    {letters : Bytes}
    (isRow : Use.IsRow letters uses)
    (isText : IsText letters) :
    HasTextValues uses := by
  induction isRow with
  | nothing => exact nofun
  | flag isRow inductionHypothesis =>
      exact List.forall_mem_cons.mpr
        ⟨nofun, inductionHypothesis (isText.tail (letter_lt .verbose))⟩
  | awaiting => exact List.forall_mem_singleton.mpr nofun
  | @attached switch value signs =>
      refine List.forall_mem_singleton.mpr ?_
      rintro value ⟨⟩
      exact (isText.tail (letter_lt switch)).of_replicate_append (by decide) signs

theorem hasTextValues_of_holds
    {word : Bytes}
    (holds : Use.Holds word uses)
    (isText : IsText word) :
    HasTextValues uses := by
  cases holds with
  | row noDash isRow =>
      exact hasTextValues_of_isRow isRow (isText.tail (by decide))
  | flag => exact List.forall_mem_singleton.mpr nofun
  | awaiting => exact List.forall_mem_singleton.mpr nofun
  | attached signs takesValue isName =>
      refine List.forall_mem_singleton.mpr ?_
      rintro value ⟨⟩
      exact ((isText_of_isName isName isText).2 _ rfl).of_replicate_append (by decide) signs

theorem hasTextValues_of_reads
    {words : List Bytes}
    (reads : Use.Reads words uses)
    (allText : ∀ word ∈ words, IsText word) :
    HasTextValues uses := by
  induction reads with
  | nothing => exact nofun
  | word reads holds inductionHypothesis =>
      obtain ⟨before, last⟩ := List.forall_mem_append.mp allText
      exact List.forall_mem_append.mpr ⟨inductionHypothesis before,
        hasTextValues_of_holds holds (List.forall_mem_singleton.mp last)⟩
  | value reads takesValue isPlain inductionHypothesis =>
      obtain ⟨before, last⟩ := List.forall_mem_append.mp allText
      refine List.forall_mem_append.mpr
        ⟨(List.forall_mem_append.mp (inductionHypothesis before)).1, ?_⟩
      refine List.forall_mem_singleton.mpr ?_
      rintro value ⟨⟩
      exact List.forall_mem_singleton.mp last

theorem hasTextValues_of_readsAll
    {words : List Bytes}
    (reads : Use.ReadsAll words uses)
    (allText : ∀ word ∈ words, IsText word) :
    HasTextValues uses := by
  rcases reads with reads | ⟨front, rfl, reads⟩
  · exact hasTextValues_of_reads reads allText
  · exact hasTextValues_of_reads reads (List.forall_mem_append.mp allText).1

theorem exists_not_text_of_hasUnreadableName
    {words : List Bytes}
    (unreadable : Use.HasUnreadableName words) :
    ∃ word ∈ words, ¬IsText word := by
  by_contra allText
  push Not at allText
  cases unreadable with
  | intro reads isName noSwitch notText =>
      obtain ⟨-, onward⟩ := List.forall_mem_append.mp allText
      obtain ⟨isText, later⟩ := List.forall_mem_cons.mp onward
      exact notText ⟨(isText_of_isName isName isText).1, later⟩

/-! ## The words of a command line -/

theorem ofWords?_eq_of_readsAll
    {words : List Bytes}
    (reads : Use.ReadsAll words.tail uses) :
    ofWords? words = ofUses? uses.reverse := by
  unfold ofWords?
  rw [reads.scan_eq]
  rfl

theorem ofWords?_eq_ok_iff_of_readsAll
    {words : List Bytes}
    (reads : Use.ReadsAll words.tail uses)
    (options : Options) :
    ofWords? words = .ok options ↔
      IsAdmissible uses ∧ HasTextValues uses ∧ Follows uses options := by
  have perm := List.reverse_perm uses
  rw [ofWords?_eq_of_readsAll reads,
    ofUses?_eq_ok_iff fun use member => reads.mem_options use (perm.mem_iff.mp member),
    isAdmissible_iff_of_perm perm, hasTextValues_iff_of_perm perm, follows_iff_of_perm perm]

theorem ofWords?_eq_unreadable_iff_of_readsAll
    {words : List Bytes}
    (reads : Use.ReadsAll words.tail uses) :
    ofWords? words = .error .unreadable ↔ IsAdmissible uses ∧ ¬HasTextValues uses := by
  have perm := List.reverse_perm uses
  rw [ofWords?_eq_of_readsAll reads,
    ofUses?_eq_unreadable_iff fun use member => reads.mem_options use (perm.mem_iff.mp member),
    isAdmissible_iff_of_perm perm, hasTextValues_iff_of_perm perm]

end Uses

/-- A command line is accepted exactly if its uses can stand together and their values are text,
and the options follow these uses. -/
theorem ofWords?_eq_ok_iff
    (words : List Bytes)
    (options : Options) :
    ofWords? words = .ok options ↔
      ∃ uses, Use.ReadsAll words.tail uses ∧
        IsAdmissible uses ∧ HasTextValues uses ∧ Follows uses options := by
  constructor
  · intro accepted
    obtain ⟨uses, reads⟩ : ∃ uses, Use.ReadsAll words.tail uses := by
      unfold ofWords? at accepted
      cases scanned : Use.scan words.tail [] with
      | error stop =>
          rw [scanned] at accepted
          exact nomatch accepted
      | ok all =>
          rw [← List.reverse_reverse all] at scanned
          exact ⟨all.reverse, (Use.scan_eq_ok_iff _ _).mp scanned⟩
    exact ⟨uses, reads, (ofWords?_eq_ok_iff_of_readsAll reads options).mp accepted⟩
  · rintro ⟨uses, reads, accepted⟩
    exact (ofWords?_eq_ok_iff_of_readsAll reads options).mpr accepted

theorem ofWords?_eq_unreadable_iff (words : List Bytes) :
    ofWords? words = .error .unreadable ↔
      (∃ uses, Use.ReadsAll words.tail uses ∧ IsAdmissible uses ∧ ¬HasTextValues uses) ∨
        Use.HasUnreadableName words.tail := by
  constructor
  · intro refused
    rcases Use.readsAll_or_stop words.tail with
      ⟨uses, reads⟩ | unreadable | ⟨stop, readable, stopped⟩
    · exact Or.inl ⟨uses, reads, (ofWords?_eq_unreadable_iff_of_readsAll reads).mp refused⟩
    · exact Or.inr unreadable
    · unfold ofWords? at refused
      rw [stopped] at refused
      exact absurd (Except.error.inj refused) readable
  · rintro (⟨uses, reads, refused⟩ | unreadable)
    · exact (ofWords?_eq_unreadable_iff_of_readsAll reads).mpr refused
    · unfold ofWords?
      rw [unreadable.scan_eq]
      rfl

/-- Where all words are text, none is found not to be. -/
theorem ofWords?_ne_unreadable
    {words : List Bytes}
    (allText : ∀ word ∈ words.tail, IsText word) :
    ofWords? words ≠ .error .unreadable := by
  rw [Ne, ofWords?_eq_unreadable_iff]
  rintro (⟨uses, reads, -, notText⟩ | unreadable)
  · exact notText (hasTextValues_of_readsAll reads allText)
  · obtain ⟨word, member, notText⟩ := exists_not_text_of_hasUnreadableName unreadable
    exact notText (allText word member)

/-- What comes of a command line.  It is accepted exactly if its uses can stand together and all
values are text, and the options then hold each value byte for byte.  It is broken off exactly if
nothing but a value that is not text stands against its uses, or if reading comes to an unknown
name from which on not all is text.  Neither happens where all words are text. -/
theorem ofWords?_decided_by_uses (words : List Bytes) :
    (∀ options, ofWords? words = .ok options ↔
      ∃ uses, Use.ReadsAll words.tail uses ∧
        IsAdmissible uses ∧ HasTextValues uses ∧ Follows uses options) ∧
    (ofWords? words = .error .unreadable ↔
      (∃ uses, Use.ReadsAll words.tail uses ∧ IsAdmissible uses ∧ ¬HasTextValues uses) ∨
        Use.HasUnreadableName words.tail) ∧
    ((∀ word ∈ words.tail, IsText word) → ofWords? words ≠ .error .unreadable) :=
  ⟨ofWords?_eq_ok_iff words, ofWords?_eq_unreadable_iff words, ofWords?_ne_unreadable⟩

/-- The name of an input that is a single byte and not text. -/
theorem ofWords?_strangeInput :
    ofWords? [encode "rtt_plot", encode "-f", [0xFF]] = .error .unreadable := by
  refine (ofWords?_eq_unreadable_iff _).mpr (Or.inl ⟨[⟨.input, some [0xFF]⟩], Or.inl ?_, ?_, ?_⟩)
  · have switched :
        Use.Reads ([] ++ [[dash, Switch.input.letter.toUInt8]]) ([] ++ [⟨.input, none⟩]) :=
      .word .nothing (.row (by decide) (.awaiting rfl))
    exact switched.value rfl (Or.inr (by decide))
  · exact ⟨List.nodup_singleton _, by decide⟩
  · intro allText
    have isText := allText _ (List.mem_singleton_self _) [0xFF] rfl
    rw [← isSome_decode?_iff] at isText
    simp [Text.Utf8.decode?, Text.Utf8.pieces, Text.Utf8.Lead.ofByte?] at isText

end Options
end CommandLine
end LatencyChart
