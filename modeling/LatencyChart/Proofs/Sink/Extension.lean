import LatencyChart.Proofs.Storage.PathName
import LatencyChart.Proofs.Text.Lenient
import LatencyChart.Sink.Basic

/-!
# Which output paths are accepted

The bytes behind the last dot of the last component decide alone: with capital letters made small
they are the name of a format, or the path is refused.  Nothing else of the path has to be text.
-/

namespace LatencyChart

/-! ## Small letters -/

namespace Text
namespace Utf8

/-- A byte with a small letter in place of a capital one. -/
def smallLetter (byte : UInt8) : UInt8 :=
  if 0x41 ≤ byte ∧ byte ≤ 0x5A then byte + 0x20 else byte

theorem smallLetter_of_large
    {byte : UInt8}
    (large : 0x80 ≤ byte.toNat) :
    smallLetter byte = byte := by
  refine if_neg fun capital => ?_
  have small : byte.toNat ≤ 0x5A := UInt8.le_iff_toNat_le.mp capital.2
  omega

/-- The letters of an ASCII character, as a character and as a byte. -/
theorem utf8EncodeChar_toLower_of_small :
    ∀ code < 0x80, String.utf8EncodeChar (Char.ofNat code).toLower =
      [smallLetter (UInt8.ofNat code)] := by
  decide +kernel

theorem toLower_of_large
    {character : Char}
    (large : 0x80 ≤ character.toNat) :
    character.toLower = character := by
  unfold Char.toLower
  refine dif_neg fun capital => ?_
  have small : character.toNat ≤ 0x5A := capital.2
  omega

/-- No byte of a character from 0x80 on is below 0x80. -/
theorem le_toNat_of_mem_utf8EncodeChar
    {character : Char}
    (large : 0x80 ≤ character.toNat)
    {byte : UInt8}
    (present : byte ∈ String.utf8EncodeChar character) :
    0x80 ≤ byte.toNat := by
  by_contra small
  have ascii : byte.toNat < 0x80 := Nat.lt_of_not_le small
  have isByte := ((spelling_iff _ character).mpr rfl).eq_of_mem ascii present
  have sameCode : character.toNat = byte.toNat := by
    rw [isByte]
    exact toNat_ofNat_char (Or.inl (by omega))
  omega

/-- Letters can be made small before or after they are encoded. -/
theorem encodeChars_map_toLower (text : List Char) :
    encodeChars (text.map Char.toLower) = (encodeChars text).map smallLetter := by
  induction text with
  | nil => rfl
  | cons character text inductionHypothesis =>
      rw [List.map_cons, encodeChars_cons, encodeChars_cons, List.map_append, inductionHypothesis]
      congr 1
      rcases Nat.lt_or_ge character.toNat 0x80 with small | large
      · have lowered := utf8EncodeChar_toLower_of_small character.toNat small
        have spelled := Spelling.encode_eq (.one small)
        rw [Char.ofNat_toNat] at lowered spelled
        rw [lowered, spelled]
        rfl
      · have kept : ∀ byte ∈ String.utf8EncodeChar character, smallLetter byte = byte := by
          intro byte present
          exact smallLetter_of_large (le_toNat_of_mem_utf8EncodeChar large present)
        rw [toLower_of_large large, List.map_congr_left kept, List.map_id']

/-- Bytes below 0x80 encode the characters with their codes. -/
theorem encodeChars_of_small
    {bytes : Bytes}
    (small : ∀ byte ∈ bytes, byte.toNat < 0x80) :
    encodeChars (bytes.map fun byte => Char.ofNat byte.toNat) = bytes := by
  induction bytes with
  | nil => rfl
  | cons byte bytes inductionHypothesis =>
      rw [List.forall_mem_cons] at small
      rw [List.map_cons, encodeChars_cons, Spelling.encode_eq (.one small.1), UInt8.ofNat_toNat,
        inductionHypothesis small.2]
      rfl

end Utf8
end Text

/-! ## Formats -/

namespace Format

/-- The extension that stands for a format, in small letters. -/
def extensionName : Format → String
  | .svg => "svg"
  | .png => "png"

/-- A path has the extension of a format, in letters of any case. -/
def IsNamedBy (path : PathName) (format : Format) : Prop :=
  ∃ extension, PathName.HasExtension path extension ∧
    extension.map Text.Utf8.smallLetter = Text.Utf8.encode format.extensionName

theorem ofExtension?_eq_some_iff
    (extension : List Char)
    (format : Format) :
    ofExtension? extension = some format ↔
      extension.map Char.toLower = format.extensionName.toList := by
  unfold ofExtension?
  split
  · next isSvg =>
    rw [isSvg]
    cases format <;> decide
  · next isPng =>
    rw [isPng]
    cases format <;> decide
  · next notSvg notPng =>
    refine iff_of_false (Option.some_ne_none format).symm ?_
    cases format with
    | svg => exact notSvg
    | png => exact notPng

/-- Bytes are read as a format exactly when they spell its extension in letters of any case. -/
theorem ofExtension?_decode_eq_some_iff
    (extension : Bytes)
    (format : Format) :
    (Text.Utf8.decode? extension).bind ofExtension? = some format ↔
      extension.map Text.Utf8.smallLetter = Text.Utf8.encode format.extensionName := by
  have nameSmall : (Text.Utf8.encode format.extensionName).all (·.toNat < 0x80) := by
    cases format <;> decide
  rw [Option.bind_eq_some_iff]
  constructor
  · rintro ⟨text, decoded, named⟩
    obtain rfl := (Text.Utf8.decode?_eq_some_iff extension text).mp decoded
    rw [← Text.Utf8.encodeChars_map_toLower, (ofExtension?_eq_some_iff text format).mp named]
    rfl
  · intro named
    have small : ∀ byte ∈ extension, byte.toNat < 0x80 := by
      intro byte present
      by_contra large
      have inName := List.mem_map_of_mem (f := Text.Utf8.smallLetter) present
      rw [named, Text.Utf8.smallLetter_of_large (Nat.le_of_not_lt large)] at inName
      exact large (of_decide_eq_true (List.all_eq_true.mp nameSmall byte inName))
    have encoded := Text.Utf8.encodeChars_of_small small
    refine ⟨_, (Text.Utf8.decode?_eq_some_iff extension _).mpr encoded, ?_⟩
    rw [ofExtension?_eq_some_iff, ← Text.Utf8.encodeChars_inj, Text.Utf8.encodeChars_map_toLower,
      encoded, named]
    rfl

theorem ofPath?_eq_ok_iff
    (path : PathName)
    (format : Format) :
    ofPath? path = .ok format ↔ IsNamedBy path format := by
  have found_iff :
      ((PathName.extension? path).bind Text.Utf8.decode?).bind ofExtension? = some format ↔
        IsNamedBy path format := by
    rw [Option.bind_assoc, Option.bind_eq_some_iff]
    simp only [PathName.extension?_eq_some_iff, ofExtension?_decode_eq_some_iff, IsNamedBy]
  rw [← found_iff]
  unfold ofPath?
  split
  · next found => rw [found, Except.ok.injEq, Option.some.injEq]
  · next refused => simp [refused]

theorem ofPath?_eq_error_iff
    (path : PathName)
    (fault : DrawFault) :
    ofPath? path = .error fault ↔
      (¬∃ format, IsNamedBy path format) ∧ fault = .unsupportedFormat path.display := by
  simp only [← ofPath?_eq_ok_iff]
  unfold ofPath?
  split
  · next format found =>
    refine iff_of_false (fun impossible => nomatch impossible) ?_
    rintro ⟨unnamed, -⟩
    exact unnamed ⟨format, rfl⟩
  · next refused =>
    rw [Except.error.injEq, eq_comm]
    exact (and_iff_right fun ⟨format, impossible⟩ => nomatch impossible).symm

end Format

/-! ## Sinks -/

namespace Sink

theorem ofOutput?_eq_ok_iff
    (path : PathName)
    (sink : Sink) :
    ofOutput? (some path) = .ok sink ↔
      ∃ format, Format.ofPath? path = .ok format ∧ sink = .file path format := by
  change (Format.ofPath? path).map (.file path) = .ok sink ↔ _
  cases Format.ofPath? path with
  | ok format => simp [Except.map, eq_comm]
  | error fault => simp [Except.map]

theorem ofOutput?_eq_error_iff
    (path : PathName)
    (fault : DrawFault) :
    ofOutput? (some path) = .error fault ↔ Format.ofPath? path = .error fault := by
  change (Format.ofPath? path).map (Sink.file path) = .error fault ↔ _
  cases Format.ofPath? path with
  | ok format => simp [Except.map]
  | error fault => simp [Except.map]

/-- An output path is accepted exactly when its last component is a name with the extension of a
format, in letters of any case, whatever bytes stand in front of that extension.  The sink keeps the
path as it is.  Every other path is refused, also for an extension that is not text, and the fault
shows the path with one replacement character for each of its broken runs. -/
theorem ofOutput?_decided_by_extension (path : PathName) :
    (∀ format, Format.ofPath? path = .ok format ↔ Format.IsNamedBy path format) ∧
    (∀ sink, ofOutput? (some path) = .ok sink ↔
      ∃ format, Format.IsNamedBy path format ∧ sink = .file path format) ∧
    (∀ fault, ofOutput? (some path) = .error fault ↔
      (¬∃ format, Format.IsNamedBy path format) ∧ fault = .unsupportedFormat path.display) ∧
    (∀ extension, PathName.HasExtension path extension →
      Text.Utf8.decode? extension = none →
      ofOutput? (some path) = .error (.unsupportedFormat path.display)) ∧
    Text.Utf8.Shows path path.display.toList := by
  have refused (fault : DrawFault) :
      ofOutput? (some path) = .error fault ↔
        (¬∃ format, Format.IsNamedBy path format) ∧ fault = .unsupportedFormat path.display := by
    rw [ofOutput?_eq_error_iff, Format.ofPath?_eq_error_iff]
  refine ⟨Format.ofPath?_eq_ok_iff path, ?_, refused, ?_, ?_⟩
  · intro sink
    simp only [ofOutput?_eq_ok_iff, Format.ofPath?_eq_ok_iff]
  · intro extension hasExtension notText
    refine (refused _).mpr ⟨?_, rfl⟩
    rintro ⟨format, other, hasOther, spelled⟩
    rw [← PathName.extension?_eq_some_iff] at hasExtension hasOther
    obtain rfl := Option.some.inj (hasExtension.symm.trans hasOther)
    have decoded := (Format.ofExtension?_decode_eq_some_iff extension format).mpr spelled
    rw [notText] at decoded
    contradiction
  · have shown := Text.Utf8.shows_decodeLenient path
    rwa [PathName.display, String.toList_ofList]

end Sink
end LatencyChart
