import LatencyChart.CommandLine.Switch
import LatencyChart.CommandLine.Word
import Mathlib.Data.List.TakeWhile

/-!
# The forms of a word

The dashes at the front of a word tell its form, and the first equals sign behind a long name ends
that name.  Every word has exactly one form.
-/

namespace LatencyChart
namespace CommandLine

/-! ## Runs of one byte -/

theorem exists_replicate_append
    (byte : UInt8)
    (bytes : Bytes) :
    ∃ count rest, bytes = List.replicate count byte ++ rest ∧ rest.head? ≠ some byte := by
  induction bytes with
  | nil => exact ⟨0, [], rfl, (Option.some_ne_none byte).symm⟩
  | cons first bytes inductionHypothesis =>
      rcases Decidable.em (first = byte) with rfl | different
      · obtain ⟨count, rest, rfl, stops⟩ := inductionHypothesis
        exact ⟨count + 1, rest, rfl, stops⟩
      · exact ⟨0, first :: bytes, rfl, fun same => different (Option.some.inj same)⟩

theorem dropWhile_replicate_append
    {byte : UInt8}
    (count : Nat)
    {rest : Bytes}
    (stops : rest.head? ≠ some byte) :
    (List.replicate count byte ++ rest).dropWhile (· == byte) = rest := by
  rw [List.dropWhile_append_of_pos fun other member => by
    rw [List.eq_of_mem_replicate member, beq_self_eq_true]]
  cases rest with
  | nil => rfl
  | cons first rest =>
      refine List.dropWhile_cons_of_neg fun same => stops ?_
      rw [List.head?_cons, eq_of_beq same]

/-- Bytes up to the first one of a kind, and what stands behind it. -/
theorem not_mem_or_exists_first
    (byte : UInt8)
    (bytes : Bytes) :
    byte ∉ bytes ∨ ∃ front rest, bytes = front ++ byte :: rest ∧ byte ∉ front := by
  rcases Decidable.em (byte ∈ bytes) with present | absent
  · exact Or.inr (List.eq_append_cons_of_mem present)
  · exact Or.inl absent

namespace Word

/-- A word that names no switch: a single dash, or one that does not start with a dash. -/
def IsPlain (word : Bytes) : Prop :=
  word = [dash] ∨ word.head? ≠ some dash

/-- A word of two or more dashes in front of a text. -/
def withDashes (more : Nat) (text : Bytes) : Bytes :=
  List.replicate (more + 2) dash ++ text

theorem withDashes_eq (more : Nat) (text : Bytes) :
    withDashes more text = dash :: dash :: (List.replicate more dash ++ text) := rfl

/-- A word that consists of a long name behind dashes, with a value behind an equals sign or
without one. -/
inductive IsName : Bytes → Bytes → Option Bytes → Prop
  | bare {more : Nat} {name : Bytes}
      (noDash : name.head? ≠ some dash)
      (noSign : equals ∉ name)
      (longer : withDashes more name ≠ [dash, dash]) :
      IsName (withDashes more name) name none
  | valued {more : Nat} {name value : Bytes}
      (noDash : name.head? ≠ some dash)
      (noSign : equals ∉ name) :
      IsName (withDashes more (name ++ equals :: value)) name (some value)

/-- The four forms of a word. -/
inductive HasForm : Bytes → Prop
  | separator : HasForm [dash, dash]
  | plain {word : Bytes} (isPlain : IsPlain word) : HasForm word
  | letters {first : UInt8} {rest : Bytes}
      (noDash : first ≠ dash) :
      HasForm (dash :: first :: rest)
  | name {word name : Bytes} {value? : Option Bytes}
      (isName : IsName word name value?) :
      HasForm word

theorem hasForm (word : Bytes) : HasForm word := by
  rcases word with _ | ⟨first, rest⟩
  · exact .plain (Or.inr (Option.some_ne_none dash).symm)
  rcases Decidable.em (first = dash) with rfl | noDash
  · rcases rest with _ | ⟨second, rest⟩
    · exact .plain (Or.inl rfl)
    rcases Decidable.em (second = dash) with rfl | noDash
    · obtain ⟨more, text, rfl, stops⟩ := exists_replicate_append dash rest
      rw [← withDashes_eq]
      rcases not_mem_or_exists_first equals text with noSign | ⟨name, value, rfl, noSign⟩
      · rcases Decidable.em (withDashes more text = [dash, dash]) with isSeparator | longer
        · rw [isSeparator]
          exact .separator
        · exact .name (.bare stops noSign longer)
      · refine .name (.valued ?_ noSign)
        cases name with
        | nil => exact (Option.some_ne_none dash).symm
        | cons first name => exact stops
    · exact .letters noDash
  · exact .plain (Or.inr fun same => noDash (Option.some.inj same))

/-! ## Reading the forms -/

theorem ofBytes_plain
    {word : Bytes}
    (isPlain : IsPlain word) :
    ofBytes word = .plain word := by
  rcases isPlain with rfl | noDash
  · rfl
  · cases word with
    | nil => rfl
    | cons first rest =>
        have different : first ≠ dash := fun same => noDash (congrArg some same)
        unfold ofBytes
        simp [different, Ne.symm different]

theorem ofBytes_letters
    {first : UInt8}
    {rest : Bytes}
    (noDash : first ≠ dash) :
    ofBytes (dash :: first :: rest) = .letters (first :: rest) := by
  unfold ofBytes
  simp [noDash, Ne.symm noDash]

theorem ofBytes_withDashes
    {more : Nat}
    {text : Bytes}
    (noDash : text.head? ≠ some dash)
    (longer : withDashes more text ≠ [dash, dash]) :
    ofBytes (withDashes more text) = ofName text := by
  have starts : [dash, dash].isPrefixOf (withDashes more text) = true := by
    rw [withDashes_eq]
    rfl
  unfold ofBytes
  rw [if_neg longer, if_pos starts, withDashes, dropWhile_replicate_append _ noDash]

theorem bne_equals_of_not_mem
    {name : Bytes}
    (noSign : equals ∉ name) :
    ∀ byte ∈ name, (byte != equals) = true :=
  fun _ member => bne_iff_ne.mpr fun same => noSign (same ▸ member)

theorem ofName_of_not_mem
    {name : Bytes}
    (noSign : equals ∉ name) :
    ofName name = .name name none := by
  unfold ofName
  rw [List.dropWhile_eq_nil_iff.mpr (bne_equals_of_not_mem noSign)]

theorem ofName_append
    {name : Bytes}
    (noSign : equals ∉ name)
    (value : Bytes) :
    ofName (name ++ equals :: value) = .name name (some value) := by
  have others := bne_equals_of_not_mem noSign
  unfold ofName
  rw [List.dropWhile_append_of_pos others, List.dropWhile_cons_of_neg (by simp),
    List.takeWhile_append_of_pos others, List.takeWhile_cons_of_neg (by simp), List.append_nil]

theorem IsName.ofBytes_eq
    {word name : Bytes}
    {value? : Option Bytes}
    (isName : IsName word name value?) :
    ofBytes word = .name name value? := by
  cases isName with
  | bare noDash noSign longer => rw [ofBytes_withDashes noDash longer, ofName_of_not_mem noSign]
  | @valued more name value noDash noSign =>
      rw [ofBytes_withDashes, ofName_append noSign]
      · cases name with
        | nil => exact fun same => absurd (Option.some.inj same) (by decide)
        | cons first name => exact noDash
      · intro isSeparator
        have lengths := congrArg List.length isSeparator
        simp only [withDashes, List.length_append, List.length_replicate, List.length_cons,
          List.length_nil] at lengths
        omega

end Word

/-! ## Looking up switches -/

namespace Switch

theorem ofLongName?_eq_some_iff
    (name : Bytes)
    (switch : Switch) :
    ofLongName? name = some switch ↔ Text.Utf8.encode switch.longName = name := by
  constructor
  · intro found
    unfold ofLongName? at found
    have matching := List.find?_some found
    exact eq_of_beq matching
  · rintro rfl
    cases switch <;> rfl

theorem ofLetter?_eq_some_iff
    (letter : UInt8)
    (switch : Switch) :
    ofLetter? letter = some switch ↔ switch.letter.toUInt8 = letter := by
  constructor
  · intro found
    unfold ofLetter? at found
    have matching := List.find?_some found
    exact eq_of_beq matching
  · rintro rfl
    cases switch <;> rfl

end Switch
end CommandLine
end LatencyChart
