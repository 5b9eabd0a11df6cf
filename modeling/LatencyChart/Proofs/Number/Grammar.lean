import LatencyChart.Number.Literal

/-!
# The grammar of number literals

A literal is an optional sign and a magnitude.  A magnitude is one of the words for numbers
that are not finite, or digits with at most one point among them and an optional exponent.
Reading succeeds on exactly these texts.
-/

namespace LatencyChart
namespace Number
namespace Literal

/-- A text of decimal digits only, possibly empty. -/
def AllDigits (text : List Char) : Prop :=
  ∀ character ∈ text, character.isDigit = true

/-- An optional sign. -/
inductive IsSign : List Char → Prop
  | none : IsSign []
  | plus : IsSign ['+']
  | minus : IsSign ['-']

/-- An optional exponent: the letter e, an optional sign and at least one digit. -/
inductive IsExponent : List Char → Prop
  | none : IsExponent []
  | marked {mark : Char} {sign digits : List Char}
      (letter : mark = 'e' ∨ mark = 'E')
      (signed : IsSign sign)
      (nonempty : digits ≠ [])
      (allDigits : AllDigits digits) :
      IsExponent (mark :: (sign ++ digits))

/-- Digits with at most one point, of which at least one is a digit, and an exponent. -/
inductive IsDecimal : List Char → Prop
  | whole {whole exponent : List Char}
      (nonempty : whole ≠ [])
      (wholeDigits : AllDigits whole)
      (scaled : IsExponent exponent) :
      IsDecimal (whole ++ exponent)
  | point {whole fraction exponent : List Char}
      (nonempty : whole ≠ [] ∨ fraction ≠ [])
      (wholeDigits : AllDigits whole)
      (fractionDigits : AllDigits fraction)
      (scaled : IsExponent exponent) :
      IsDecimal (whole ++ '.' :: (fraction ++ exponent))

/-- One of the words for numbers that are not finite, in any mixture of ASCII cases. -/
def IsWord (text : List Char) : Prop :=
  text.map Char.toLower ∈ ["nan".toList, "inf".toList, "infinity".toList]

/-- The texts that stand for numbers. -/
inductive IsLiteral : List Char → Prop
  | signed {sign magnitude : List Char}
      (signed : IsSign sign)
      (counted : IsWord magnitude ∨ IsDecimal magnitude) :
      IsLiteral (sign ++ magnitude)

/-! ## Signs -/

theorem exists_sign_splitSign (text : List Char) :
    ∃ sign, IsSign sign ∧ sign ++ (splitSign text).2 = text := by
  unfold splitSign
  split
  · exact ⟨['+'], .plus, rfl⟩
  · exact ⟨['-'], .minus, rfl⟩
  · exact ⟨[], .none, rfl⟩

/-- A text starts with no sign. -/
def Unsigned (text : List Char) : Prop :=
  ∀ character ∈ text.head?, character ≠ '+' ∧ character ≠ '-'

theorem splitSign_of_unsigned
    {text : List Char}
    (unsigned : Unsigned text) :
    splitSign text = (false, text) := by
  unfold splitSign
  split
  · exact absurd rfl (unsigned '+' rfl).1
  · exact absurd rfl (unsigned '-' rfl).2
  · rfl

theorem splitSign_append
    {sign text : List Char}
    (signed : IsSign sign)
    (unsigned : Unsigned text) :
    (splitSign (sign ++ text)).2 = text := by
  cases signed with
  | none => rw [List.nil_append, splitSign_of_unsigned unsigned]
  | plus => rfl
  | minus => rfl

theorem unsigned_of_head_isDigit
    {text : List Char}
    (nonempty : text ≠ [])
    (allDigits : AllDigits text)
    (rest : List Char) :
    Unsigned (text ++ rest) := by
  cases text with
  | nil => contradiction
  | cons first text =>
      intro character member
      cases member
      have isDigit := allDigits first (by simp)
      constructor
      all_goals
        rintro rfl
        revert isDigit
        decide

/-! ## Digits, fractions and exponents -/

/-- A text starts with no digit. -/
def NoDigitFirst (text : List Char) : Prop :=
  ∀ character ∈ text.head?, character.isDigit = false

theorem splitDigits_append
    {digits rest : List Char}
    (allDigits : AllDigits digits)
    (stops : NoDigitFirst rest) :
    splitDigits (digits ++ rest) = (digits, rest) := by
  unfold splitDigits
  rw [List.takeWhile_append_of_pos allDigits, List.dropWhile_append_of_pos allDigits]
  cases rest with
  | nil => simp
  | cons first rest =>
      have isOther : first.isDigit = false := stops first rfl
      simp [isOther]

theorem splitDigits_spec (text : List Char) :
    (splitDigits text).1 ++ (splitDigits text).2 = text ∧ AllDigits (splitDigits text).1 :=
  ⟨List.takeWhile_append_dropWhile,
    fun character member => List.all_eq_true.mp List.all_takeWhile character member⟩

theorem IsExponent.noDigitFirst
    {text : List Char}
    (exponent : IsExponent text) :
    NoDigitFirst text := by
  intro character member
  cases exponent with
  | none => contradiction
  | marked letter =>
      cases member
      rcases letter with rfl | rfl <;> rfl

theorem IsExponent.splitFraction_eq
    {text : List Char}
    (exponent : IsExponent text) :
    splitFraction text = ([], text) := by
  unfold splitFraction
  split
  · cases exponent with
    | marked letter => rcases letter with letter | letter <;> contradiction
  · rfl

/-- An exponent is read from exactly the texts that are one. -/
theorem exponent?_isSome_iff (text : List Char) :
    (exponent? text).isSome = true ↔ IsExponent text := by
  cases text with
  | nil => simp [exponent?, IsExponent.none]
  | cons mark rest =>
      simp only [exponent?]
      constructor
      · intro isSome
        split at isSome
        · next accepted =>
          obtain ⟨letter, nonempty, allDigits⟩ := accepted
          obtain ⟨sign, signed, parted⟩ := exists_sign_splitSign rest
          rw [← parted]
          exact .marked letter signed nonempty (List.all_eq_true.mp allDigits)
        · contradiction
      · rintro (_ | ⟨letter, signed, nonempty, allDigits⟩)
        have unsigned := unsigned_of_head_isDigit nonempty allDigits []
        rw [List.append_nil] at unsigned
        rw [splitSign_append signed unsigned]
        rw [if_pos ⟨letter, nonempty, List.all_eq_true.mpr allDigits⟩]
        rfl

/-! ## Magnitudes and literals -/

/-- A decimal is read from exactly the texts that are one. -/
theorem decimal?_isSome_iff
    (negative : Bool)
    (text : List Char) :
    (decimal? negative text).isSome = true ↔ IsDecimal text := by
  constructor
  · intro isSome
    obtain ⟨parted, wholeDigits⟩ := splitDigits_spec text
    simp only [decimal?] at isSome
    split at isSome
    · contradiction
    · next nonempty =>
      rw [Option.isSome_map, exponent?_isSome_iff] at isSome
      rw [← parted]
      generalize splitDigits text = pieces at parted wholeDigits nonempty isSome
      obtain ⟨whole, afterWhole⟩ := pieces
      simp only [splitFraction] at nonempty isSome ⊢
      split at isSome
      · next rest =>
        obtain ⟨fractionParted, fractionDigits⟩ := splitDigits_spec rest
        rw [← fractionParted]
        simp only at nonempty
        exact .point (Decidable.not_and_iff_not_or_not.mp nonempty) wholeDigits fractionDigits
          isSome
      · next noPoint =>
        simp only [and_true] at nonempty
        exact .whole nonempty wholeDigits isSome
  · intro decimal
    cases decimal with
    | whole nonempty wholeDigits scaled =>
        simp only [decimal?, splitDigits_append wholeDigits scaled.noDigitFirst,
          scaled.splitFraction_eq]
        rw [if_neg (fun empty => nonempty empty.1), Option.isSome_map, exponent?_isSome_iff]
        exact scaled
    | @point whole fraction exponent nonempty wholeDigits fractionDigits scaled =>
        have pointStops : NoDigitFirst ('.' :: (fraction ++ exponent)) := by
          intro character member
          cases member
          rfl
        simp only [decimal?, splitDigits_append wholeDigits pointStops, splitFraction,
          splitDigits_append fractionDigits scaled.noDigitFirst]
        rw [if_neg (Decidable.not_and_iff_not_or_not.mpr nonempty), Option.isSome_map,
          exponent?_isSome_iff]
        exact scaled

theorem word?_isSome_iff
    (negative : Bool)
    (text : List Char) :
    (word? negative text).isSome = true ↔ IsWord text := by
  have spelled : "nan".toList = ['n', 'a', 'n'] ∧ "inf".toList = ['i', 'n', 'f'] ∧
      "infinity".toList = ['i', 'n', 'f', 'i', 'n', 'i', 't', 'y'] := by decide
  unfold word? IsWord
  rw [spelled.1, spelled.2.1, spelled.2.2]
  simp only [List.mem_cons, List.not_mem_nil, or_false]
  split
  · next isNan => simp [isNan]
  · next isNoNan =>
    split
    · next isInfinity => simp [isInfinity]
    · next isOther => simp [isNoNan, isOther]

theorem IsDecimal.unsigned
    {text : List Char}
    (decimal : IsDecimal text) :
    Unsigned text := by
  cases decimal with
  | whole nonempty wholeDigits => exact unsigned_of_head_isDigit nonempty wholeDigits _
  | @point whole fraction exponent nonempty wholeDigits =>
      cases whole with
      | nil =>
          intro character member
          cases member
          decide
      | cons first whole => exact unsigned_of_head_isDigit (by simp) wholeDigits _

theorem IsWord.unsigned
    {text : List Char}
    (word : IsWord text) :
    Unsigned text := by
  intro character member
  cases text with
  | nil => contradiction
  | cons first text =>
      cases member
      constructor
      all_goals
        rintro rfl
        revert word
        simp [IsWord]

/-- The sign of a text is split off in only one way. -/
theorem isLiteral_iff (text : List Char) :
    IsLiteral text ↔ IsWord (splitSign text).2 ∨ IsDecimal (splitSign text).2 := by
  constructor
  · rintro ⟨signed, counted⟩
    have unsigned := counted.elim IsWord.unsigned IsDecimal.unsigned
    rwa [splitSign_append signed unsigned]
  · intro counted
    obtain ⟨sign, signed, parted⟩ := exists_sign_splitSign text
    rw [← parted]
    exact .signed signed counted

/-- Reading a text that is not empty gives a number exactly when the text is a literal, and
otherwise the fault of a malformed one. -/
theorem read_cases
    {text : List Char}
    (nonempty : text ≠ []) :
    (IsLiteral text ∧ ∃ number, read text = .ok number) ∨
      (¬IsLiteral text ∧ read text = .error .malformed) := by
  have counted := isLiteral_iff text
  have wordIff := word?_isSome_iff (splitSign text).1 (splitSign text).2
  have decimalIff := decimal?_isSome_iff (splitSign text).1 (splitSign text).2
  rw [counted, ← wordIff, ← decimalIff]
  simp only [read]
  rw [if_neg nonempty]
  cases word? (splitSign text).1 (splitSign text).2 with
  | some number => exact Or.inl ⟨Or.inl rfl, number, rfl⟩
  | none =>
      cases decimal? (splitSign text).1 (splitSign text).2 with
      | some number => exact Or.inl ⟨Or.inr rfl, number, rfl⟩
      | none => exact Or.inr ⟨by simp, rfl⟩

/-- A text is read as a number exactly when it is a literal. -/
theorem exists_read_iff (text : List Char) :
    (∃ number, read text = .ok number) ↔ IsLiteral text := by
  by_cases nonempty : text = []
  · subst nonempty
    rw [isLiteral_iff, ← word?_isSome_iff false, ← decimal?_isSome_iff false]
    constructor
    · rintro ⟨number, accepted⟩
      contradiction
    · intro counted
      exact absurd counted (by decide)
  · rcases read_cases nonempty with ⟨literal, number, accepted⟩ | ⟨noLiteral, refused⟩
    · exact ⟨fun _ => literal, fun _ => ⟨number, accepted⟩⟩
    · constructor
      · rintro ⟨number, accepted⟩
        rw [refused] at accepted
        contradiction
      · intro literal
        exact absurd literal noLiteral

end Literal
end Number
end LatencyChart
