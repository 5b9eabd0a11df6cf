import LatencyChart.Text.Quoted
import Mathlib.Data.Nat.Basic

/-!
# Quoted text stays on its line and can be told apart

A quoted text holds no character that steers a terminal or breaks a line, whatever the text holds.
The written forms of characters can be read one after the other in only one way, so that texts are
quoted alike only when they are the same.
-/

namespace LatencyChart
namespace Text

/-- A control character or a break of a line. -/
def IsSteering (character : Char) : Prop :=
  character.toNat < 0x20 ∨ (0x7F ≤ character.toNat ∧ character.toNat ≤ 0x9F) ∨
    character.toNat = 0x2028 ∨ character.toNat = 0x2029

instance (character : Char) : Decidable (IsSteering character) :=
  inferInstanceAs (Decidable (_ ∨ _))

theorem isHidden_of_mem_hiddenRanges
    {character : Char}
    (low high : Nat)
    (listed : (low, high) ∈ hiddenRanges)
    (atLeast : low ≤ character.toNat)
    (atMost : character.toNat ≤ high) :
    isHidden character = true := by
  unfold isHidden inRanges
  rw [List.any_eq_true]
  exact ⟨(low, high), listed, by simp [atLeast, atMost]⟩

theorem IsSteering.isHidden
    {character : Char}
    (steering : IsSteering character) :
    Text.isHidden character = true := by
  rcases steering with control | ⟨atLeast, atMost⟩ | lineBreak
  · exact isHidden_of_mem_hiddenRanges 0 0x1F (by decide +kernel)
      (Nat.zero_le _) (by omega)
  · exact isHidden_of_mem_hiddenRanges 0x7F 0xA0 (by decide +kernel)
      atLeast (by omega)
  · exact isHidden_of_mem_hiddenRanges 0x2028 0x202F (by decide +kernel)
      (by omega) (by omega)

/-! ## Hexadecimal digits -/

theorem exists_digit_of_mem_toDigits
    {value : Nat}
    {character : Char}
    (member : character ∈ Nat.toDigits 16 value) :
    ∃ digit < 16, Nat.digitChar digit = character := by
  induction value using Nat.strongRecOn with
  | _ value inductionHypothesis =>
      rw [Nat.toDigits_eq_if (by decide)] at member
      split at member
      · next small => exact ⟨value, small, (List.mem_singleton.mp member).symm⟩
      · next large =>
        rcases List.mem_append.mp member with leading | last
        · exact inductionHypothesis (value / 16) (by omega) leading
        · exact ⟨value % 16, Nat.mod_lt value (by decide), (List.mem_singleton.mp last).symm⟩

theorem digitChar_injective :
    ∀ digit < 16, ∀ other < 16, Nat.digitChar digit = Nat.digitChar other → digit = other := by
  decide

theorem toDigits_injective
    {value other : Nat}
    (sameDigits : Nat.toDigits 16 value = Nat.toDigits 16 other) :
    value = other := by
  induction value using Nat.strongRecOn generalizing other with
  | _ value inductionHypothesis =>
      -- One digit is never written like two, since no number is written without digits.
      have single {digit last : Char} {quotient : Nat} :
          [digit] ≠ Nat.toDigits 16 quotient ++ [last] := by
        intro equal
        rw [← List.nil_append [digit]] at equal
        exact Nat.toDigits_ne_nil (List.append_inj' equal rfl).1.symm
      rw [Nat.toDigits_eq_if (by decide), Nat.toDigits_eq_if (n := other) (by decide)] at sameDigits
      split at sameDigits <;> split at sameDigits
      · next small otherSmall =>
        exact digitChar_injective value small other otherSmall (List.singleton_inj.mp sameDigits)
      · exact absurd sameDigits single
      · exact absurd sameDigits.symm single
      · obtain ⟨leading, last⟩ := List.append_inj' sameDigits rfl
        have sameQuotient := inductionHypothesis (value / 16) (by omega) leading
        have sameRemainder := digitChar_injective _ (Nat.mod_lt value (by decide)) _
          (Nat.mod_lt other (by decide)) (List.singleton_inj.mp last)
        omega

namespace Quoted

/-! ## Written forms -/

/-- The characters that are written by a backslash and a mark, with their marks. -/
def shortForms : List (Char × Char) :=
  [('\x00', '0'), ('\t', 't'), ('\n', 'n'), ('\r', 'r'), ('"', '"'), ('\\', '\\')]

/-- The written form of a code point. -/
def codeForm (code : Nat) : List Char :=
  ['\\', 'u', '\x7b'] ++ Nat.toDigits 16 code ++ ['\x7d']

/-- The forms in which a character is written inside quotes. -/
inductive Writes : Char → List Char → Prop
  | short {character mark : Char}
      (listed : (character, mark) ∈ shortForms) :
      Writes character ['\\', mark]
  | code (character : Char) : Writes character (codeForm character.toNat)
  | plain {character : Char}
      (notBackslash : character ≠ '\\')
      (visible : isHidden character = false) :
      Writes character [character]

theorem writes_encodeChar (character : Char) : Writes character (encodeChar character) := by
  unfold encodeChar
  split
  · exact .short (by decide)
  · exact .short (by decide)
  · exact .short (by decide)
  · exact .short (by decide)
  · exact .short (by decide)
  · exact .short (by decide)
  · next notBackslash =>
    split
    · exact .code character
    · next shown =>
      rw [Bool.or_eq_true, not_or, Bool.not_eq_true, Bool.not_eq_true] at shown
      exact .plain notBackslash shown.2

theorem Writes.nonempty
    {character : Char}
    {form : List Char}
    (writes : Writes character form) :
    form ≠ [] := by
  cases writes with
  | short => exact List.cons_ne_nil _ _
  | code => exact List.cons_ne_nil _ _
  | plain => exact List.cons_ne_nil _ _

/-- No written form holds a character that steers a terminal or breaks a line. -/
theorem Writes.not_isSteering
    {character : Char}
    {form : List Char}
    (writes : Writes character form)
    {written : Char}
    (member : written ∈ form) :
    ¬IsSteering written := by
  cases writes with
  | short listed =>
      have marks : shortForms.all fun pair => ¬IsSteering pair.2 := by decide
      rcases List.mem_cons.mp member with rfl | isMark
      · decide
      · rw [List.mem_singleton.mp isMark]
        exact of_decide_eq_true (List.all_eq_true.mp marks _ listed)
  | code =>
      have digits : ∀ digit < 16, ¬IsSteering (Nat.digitChar digit) := by decide
      simp only [codeForm, List.mem_append, List.mem_cons, List.not_mem_nil, or_false] at member
      rcases member with ((rfl | rfl | rfl) | isDigit) | rfl
      · decide
      · decide
      · decide
      · obtain ⟨digit, small, rfl⟩ := exists_digit_of_mem_toDigits isDigit
        exact digits digit small
      · decide
  | plain _ visible =>
      rw [List.mem_singleton.mp member]
      intro steering
      rw [steering.isHidden] at visible
      contradiction

/-- Behind equal code points stand equal texts. -/
theorem codeForm_append_inj
    {code other : Nat}
    {rest later : List Char}
    (equal : codeForm code ++ rest = codeForm other ++ later) :
    code = other ∧ rest = later := by
  -- The digits end at the first closing brace.
  have digits_eq (code : Nat) (rest : List Char) :
      (Nat.toDigits 16 code ++ '\x7d' :: rest).takeWhile (· != '\x7d') = Nat.toDigits 16 code := by
    rw [List.takeWhile_append_of_pos, List.takeWhile_cons_of_neg (by simp), List.append_nil]
    intro character member
    have noBrace : ∀ digit < 16, (Nat.digitChar digit != '\x7d') = true := by decide
    obtain ⟨digit, small, rfl⟩ := exists_digit_of_mem_toDigits member
    exact noBrace digit small
  simp only [codeForm, List.append_assoc, List.append_cancel_left_eq, List.singleton_append]
    at equal
  have sameDigits := congrArg (List.takeWhile (· != '\x7d')) equal
  rw [digits_eq, digits_eq] at sameDigits
  obtain rfl := toDigits_injective sameDigits
  exact ⟨rfl, (List.cons.inj (List.append_cancel_left equal)).2⟩

/-- A backslash is followed by the letter u or by another mark, which tells the character. -/
theorem Writes.append_inj
    {character other : Char}
    {form otherForm rest later : List Char}
    (writes : Writes character form)
    (otherWrites : Writes other otherForm)
    (equal : form ++ rest = otherForm ++ later) :
    character = other ∧ rest = later := by
  have notCode {character mark : Char} (listed : (character, mark) ∈ shortForms) : mark ≠ 'u' := by
    have noCodeMark : shortForms.all fun pair => pair.2 ≠ 'u' := by decide
    exact of_decide_eq_true (List.all_eq_true.mp noCodeMark _ listed)
  cases writes with
  | @short mark listed =>
      cases otherWrites with
      | @short otherMark otherListed =>
          have oneCharacter : shortForms.all fun pair => shortForms.all fun other =>
              pair.2 = other.2 → pair.1 = other.1 := by decide
          have marked :=
            List.all_eq_true.mp (List.all_eq_true.mp oneCharacter _ listed) _ otherListed
          obtain ⟨sameMark, sameRest⟩ := List.cons.inj (List.cons.inj equal).2
          exact ⟨of_decide_eq_true marked sameMark, sameRest⟩
      | code =>
          obtain ⟨isCode, -⟩ := List.cons.inj (List.cons.inj equal).2
          exact absurd isCode (notCode listed)
      | plain notBackslash =>
          exact absurd (List.cons.inj equal).1.symm notBackslash
  | code =>
      cases otherWrites with
      | short otherListed =>
          obtain ⟨isCode, -⟩ := List.cons.inj (List.cons.inj equal).2
          exact absurd isCode.symm (notCode otherListed)
      | code =>
          obtain ⟨sameCode, sameRest⟩ := codeForm_append_inj equal
          exact ⟨Char.toNat_inj.mp sameCode, sameRest⟩
      | plain notBackslash =>
          exact absurd (List.cons.inj equal).1.symm notBackslash
  | plain notBackslash =>
      cases otherWrites with
      | short => exact absurd (List.cons.inj equal).1 notBackslash
      | code => exact absurd (List.cons.inj equal).1 notBackslash
      | plain => exact List.cons.inj equal

/-! ## Whole texts -/

/-- Written forms in a row are those of one text only. -/
theorem flatMap_encodeChar_injective
    {text other : List Char}
    (equal : text.flatMap encodeChar = other.flatMap encodeChar) :
    text = other := by
  have nonempty (character : Char) : encodeChar character ≠ [] :=
    (writes_encodeChar character).nonempty
  induction text generalizing other with
  | nil =>
      cases other with
      | nil => rfl
      | cons first other => simp [nonempty] at equal
  | cons character text inductionHypothesis =>
      cases other with
      | nil => simp [nonempty] at equal
      | cons first other =>
          rw [List.flatMap_cons, List.flatMap_cons] at equal
          obtain ⟨rfl, sameRest⟩ :=
            (writes_encodeChar character).append_inj (writes_encodeChar first) equal
          rw [inductionHypothesis sameRest]

end Quoted

theorem not_isSteering_of_mem_quoted
    {text : String}
    {character : Char}
    (member : character ∈ (quoted text).toList) :
    ¬IsSteering character := by
  simp only [quoted, Quoted.encode, String.toList_ofList, List.mem_append, List.mem_singleton,
    List.mem_flatMap] at member
  rcases member with (rfl | ⟨shown, -, written⟩) | rfl
  · decide
  · exact (Quoted.writes_encodeChar shown).not_isSteering written
  · decide

/-- Texts are quoted alike only when they are the same. -/
theorem quoted_injective : Function.Injective quoted := by
  intro text other equal
  have sameForms := congrArg String.toList equal
  simp only [quoted, Quoted.encode, String.toList_ofList, List.append_assoc,
    List.append_cancel_left_eq, List.append_cancel_right_eq] at sameForms
  exact String.toList_inj.mp (Quoted.flatMap_encodeChar_injective sameForms)

end Text
end LatencyChart
