import LatencyChart.Proofs.Number.Positional
import LatencyChart.Proofs.Number.Shortest
import LatencyChart.Text.Blank

/-!
# Numbers survive their texts

The shortest text of a number is one literal without blanks, and reading it gives the number
back, bit by bit.
-/

namespace LatencyChart
namespace Number

/-! ## The characters of a text -/

/-- The point, the minus and the letters of the names. -/
def marks : List Char := ['.', '-', 'N', 'a', 'i', 'n', 'f']

/-- The characters in texts of numbers. -/
def IsNumeral (character : Char) : Prop :=
  character.isDigit = true ∨ character ∈ marks

theorem isNumeral_of_mem_positional
    {value places : Nat}
    {character : Char}
    (member : character ∈ positional value places) :
    IsNumeral character := by
  unfold positional at member
  split at member
  · exact Or.inl (allDigits_digitsText value character member)
  · simp only [List.mem_append, List.mem_singleton] at member
    rcases member with (whole | rfl) | fraction
    · exact Or.inl (allDigits_digitsText _ character whole)
    · exact Or.inr (by decide)
    · exact Or.inl (allDigits_paddedDigits _ _ character fraction)

theorem isNumeral_of_mem_signed
    {number : Float}
    {magnitude : List Char}
    (numerals : ∀ character ∈ magnitude, IsNumeral character)
    {character : Char}
    (member : character ∈ signed number magnitude) :
    IsNumeral character := by
  unfold signed at member
  split at member
  · rcases List.mem_cons.mp member with rfl | member
    · exact Or.inr (by decide)
    · exact numerals character member
  · exact numerals character member

theorem isNumeral_of_mem_withNames
    {number : Float}
    {magnitude : List Char}
    (numerals : ∀ character ∈ magnitude, IsNumeral character)
    {character : Char}
    (member : character ∈ withNames number magnitude) :
    IsNumeral character := by
  have nanMarks : ['N', 'a', 'N'] ⊆ marks := by simp [marks]
  have infMarks : ['i', 'n', 'f'] ⊆ marks := by simp [marks]
  unfold withNames at member
  split at member
  · exact Or.inr (nanMarks member)
  · split at member
    · exact isNumeral_of_mem_signed (fun _ member => Or.inr (infMarks member)) member
    · exact isNumeral_of_mem_signed numerals member

theorem isNumeral_of_mem_shortestText
    {number : Float}
    {character : Char}
    (member : character ∈ shortestText number) :
    IsNumeral character := by
  refine isNumeral_of_mem_withNames ?_ member
  intro character member
  split at member
  · rw [List.mem_singleton.mp member]
    exact Or.inl rfl
  · exact isNumeral_of_mem_positional member

theorem IsNumeral.isBlank_eq_false
    {character : Char}
    (numeral : IsNumeral character) :
    Text.isBlank character = false := by
  rcases numeral with digit | mark
  · obtain ⟨low, high⟩ : 48 ≤ character.toNat ∧ character.toNat ≤ 57 :=
      Char.isDigit_iff_toNat.mp digit
    unfold Text.isBlank
    simp only [Bool.or_eq_false_iff, Bool.and_eq_false_iff, decide_eq_false_iff_not,
      beq_eq_false_iff_ne]
    omega
  · have noBlank : marks.all (fun mark => !Text.isBlank mark) = true := by decide
    simpa using List.all_eq_true.mp noBlank character mark

/-- A positional text starts with a digit. -/
theorem exists_positional_eq (value places : Nat) :
    ∃ whole rest, positional value places = digitsText whole ++ rest := by
  unfold positional
  split
  · exact ⟨value, [], (List.append_nil _).symm⟩
  · exact ⟨_, _, List.append_assoc _ _ _⟩

theorem positional_ne_nil (value places : Nat) :
    positional value places ≠ [] := by
  obtain ⟨whole, rest, split⟩ := exists_positional_eq value places
  rw [split]
  exact List.append_ne_nil_of_left_ne_nil (digitsText_ne_nil whole) rest

/-! ## Reading the text -/

/-- The shortest text of a finite magnitude writes a decimal that is rounded to it. -/
theorem exists_positional_shortest
    {number : Float}
    (finite : Binary64.exponentField number < 2047) :
    ∃ value places,
      (if Binary64.significand number = 0 then ['0']
        else decimalText (Decimal.shortest number)) = positional value places ∧
      Binary64.decimalBits value (-(places : Int)) =
        Binary64.exponentField number * 2 ^ 52 + Binary64.fractionField number := by
  split
  · next zero =>
    refine ⟨0, 0, rfl, ?_⟩
    rw [← Binary64.magnitudeBits_of_finite finite, zero, Binary64.decimalBits, if_pos rfl,
      Binary64.magnitudeBits, if_pos (by decide)]
  · next nonzero => exact ⟨_, _, rfl, Decimal.decimalBits_shortest finite nonzero⟩

namespace Literal

theorem unsigned_positional (value places : Nat) :
    Unsigned (positional value places) := by
  obtain ⟨whole, rest, split⟩ := exists_positional_eq value places
  rw [split]
  exact unsigned_of_head_isDigit (digitsText_ne_nil whole) (allDigits_digitsText whole) rest

theorem toLower_of_isDigit
    {character : Char}
    (digit : character.isDigit = true) :
    character.toLower = character := by
  obtain ⟨low, high⟩ : 48 ≤ character.toNat ∧ character.toNat ≤ 57 :=
    Char.isDigit_iff_toNat.mp digit
  have noUpper : ¬(character.val ≥ 'A'.val ∧ character.val ≤ 'Z'.val) := by
    rintro ⟨upper, -⟩
    have upperCode : 65 ≤ character.toNat := UInt32.le_iff_toNat_le.mp upper
    omega
  exact dif_neg noUpper

theorem word?_positional
    (negative : Bool)
    (value places : Nat) :
    word? negative (positional value places) = none := by
  obtain ⟨whole, rest, split⟩ := exists_positional_eq value places
  have digits := allDigits_digitsText whole
  rw [split]
  cases text : digitsText whole with
  | nil => exact absurd text (digitsText_ne_nil whole)
  | cons first more =>
      have digit : first.isDigit = true := digits first (by simp [text])
      have noLetter : first ≠ 'n' ∧ first ≠ 'i' := by
        constructor
        all_goals
          rintro rfl
          contradiction
      simp [word?, toLower_of_isDigit digit, noLetter]

theorem splitSign_signed
    (number : Float)
    {magnitude : List Char}
    (unsigned : Unsigned magnitude) :
    splitSign (signed number magnitude) = (Binary64.isNegative number, magnitude) := by
  unfold signed
  split
  · next negative => rw [negative, splitSign]
  · next positive =>
    rw [splitSign_of_unsigned unsigned, Bool.eq_false_of_not_eq_true positive]

theorem read_signed
    (number : Float)
    {magnitude : List Char}
    (nonempty : magnitude ≠ [])
    (unsigned : Unsigned magnitude)
    {value : Float}
    (counted : (word? (Binary64.isNegative number) magnitude).or
      (decimal? (Binary64.isNegative number) magnitude) = some value) :
    read (signed number magnitude) = .ok value := by
  have present : signed number magnitude ≠ [] := by
    unfold signed
    split
    · exact List.cons_ne_nil _ _
    · exact nonempty
  simp only [read, splitSign_signed number unsigned, counted]
  rw [if_neg present]

/-- Reading the shortest text of a number gives the number back. -/
theorem read_shortestText (number : Float) :
    read (shortestText number) = .ok number := by
  unfold shortestText withNames
  split
  · next isNaN =>
    rw [Binary64.eq_notANumber_of_isNaN isNaN]
    rfl
  · next noNaN =>
    split
    · next isInf =>
      apply read_signed number (by decide) (by simp [Unsigned])
      conv_rhs => rw [Binary64.eq_infinity_of_isInf isInf]
      rfl
    · next noInf =>
      obtain ⟨value, places, text, bits⟩ :=
        exists_positional_shortest (Binary64.exponentField_lt_of_finite noNaN noInf)
      rw [text]
      apply read_signed number (positional_ne_nil value places) (unsigned_positional value places)
      rw [word?_positional, Option.none_or, decimal?_positional, Binary64.ofDecimal, bits,
        Binary64.ofBits_signed]

end Literal

theorem shortestText_ne_nil (number : Float) :
    shortestText number ≠ [] := by
  intro empty
  have accepted := Literal.read_shortestText number
  rw [empty] at accepted
  contradiction

theorem isBlank_eq_false_of_mem_shortestText
    {number : Float}
    {character : Char}
    (member : character ∈ shortestText number) :
    Text.isBlank character = false :=
  (isNumeral_of_mem_shortestText member).isBlank_eq_false

end Number
end LatencyChart
