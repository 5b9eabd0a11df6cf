import LatencyChart.Number.Text
import LatencyChart.Proofs.Number.Grammar

/-!
# Positional texts

A number that is written positionally is read as its digits behind the point tell: the value
of all its digits, scaled down by one power of ten for each place.
-/

namespace LatencyChart
namespace Number

theorem digitsText_ne_nil (value : Nat) : digitsText value ≠ [] :=
  Nat.toDigits_ne_nil

theorem allDigits_digitsText (value : Nat) : Literal.AllDigits (digitsText value) :=
  fun _ member => Nat.isDigit_of_mem_toDigits (by decide) (by decide) member

theorem allDigits_paddedDigits (width value : Nat) :
    Literal.AllDigits (paddedDigits width value) := by
  intro character member
  rcases List.mem_append.mp member with zero | digit
  · rw [List.eq_of_mem_replicate zero]
    rfl
  · exact allDigits_digitsText value character digit

theorem length_paddedDigits
    {width value : Nat}
    (nonzero : 0 < width)
    (fits : value < Nat.pow 10 width) :
    (paddedDigits width value).length = width := by
  have short : (digitsText value).length ≤ width :=
    (Nat.length_toDigits_le_iff (by decide) nonzero).mpr fits
  rw [paddedDigits, List.length_append, List.length_replicate]
  omega

namespace Literal

theorem digitsValue_eq (digits : List Char) :
    digitsValue digits = Nat.ofDigitChars 10 digits 0 := rfl

theorem digitsValue_append (digits more : List Char) :
    digitsValue (digits ++ more) =
      Nat.pow 10 more.length * digitsValue digits + digitsValue more := by
  rw [digitsValue_eq, Nat.ofDigitChars_append, Nat.ofDigitChars_eq_ofDigitChars_zero]
  rfl

@[simp] theorem digitsValue_digitsText (value : Nat) : digitsValue (digitsText value) = value :=
  Nat.ofDigitChars_ten_toDigits

@[simp] theorem digitsValue_paddedDigits (width value : Nat) :
    digitsValue (paddedDigits width value) = value := by
  rw [paddedDigits, digitsValue_append, digitsValue_digitsText, digitsValue_eq,
    Nat.ofDigitChars_replicate_zero, Nat.mul_zero, Nat.mul_zero, Nat.zero_add]

theorem splitDigits_of_allDigits
    {digits : List Char}
    (allDigits : AllDigits digits) :
    splitDigits digits = (digits, []) := by
  have stops : NoDigitFirst [] := by simp [NoDigitFirst]
  have parted := splitDigits_append allDigits stops
  rwa [List.append_nil] at parted

theorem decimal?_whole
    (negative : Bool)
    {whole : List Char}
    (nonempty : whole ≠ [])
    (wholeDigits : AllDigits whole) :
    decimal? negative whole = some (Binary64.ofDecimal negative (digitsValue whole) 0) := by
  simp only [decimal?, splitDigits_of_allDigits wholeDigits, splitFraction]
  rw [if_neg fun empty => nonempty empty.1, exponent?, List.append_nil]
  rfl

theorem decimal?_point
    (negative : Bool)
    {whole fraction : List Char}
    (nonempty : whole ≠ [])
    (wholeDigits : AllDigits whole)
    (fractionDigits : AllDigits fraction) :
    decimal? negative (whole ++ '.' :: fraction) =
      some (Binary64.ofDecimal negative (digitsValue (whole ++ fraction)) (-fraction.length)) := by
  have pointStops : NoDigitFirst ('.' :: fraction) := by
    intro character member
    cases member
    rfl
  simp only [decimal?, splitDigits_append wholeDigits pointStops, splitFraction,
    splitDigits_of_allDigits fractionDigits]
  rw [if_neg fun empty => nonempty empty.1, exponent?, Option.map_some, Int.zero_sub]

/-- A positional text is read as the decimal that it writes. -/
theorem decimal?_positional
    (negative : Bool)
    (value places : Nat) :
    decimal? negative (positional value places) =
      some (Binary64.ofDecimal negative value (-places)) := by
  unfold positional
  split
  · next whole =>
    rw [decimal?_whole negative (digitsText_ne_nil value) (allDigits_digitsText value),
      digitsValue_digitsText, whole]
    rfl
  · next scaled =>
    have fits : value % Nat.pow 10 places < Nat.pow 10 places :=
      Nat.mod_lt _ (Nat.pow_pos (by decide))
    have length := length_paddedDigits (Nat.pos_of_ne_zero scaled) fits
    rw [List.append_assoc, List.singleton_append,
      decimal?_point negative (digitsText_ne_nil _) (allDigits_digitsText _)
        (allDigits_paddedDigits _ _),
      digitsValue_append, length, digitsValue_digitsText, digitsValue_paddedDigits,
      Nat.div_add_mod]

end Literal
end Number
end LatencyChart
