import LatencyChart.Proofs.Text.Utf8

/-!
# Lenient decoding shows what is broken

Bytes that spell characters are shown as these.  Where no character is spelled, the longest run
that begins a character is shown as one replacement character, and a byte that begins none is such
a run alone.
-/

namespace LatencyChart
namespace Text
namespace Utf8

/-- Bytes with which the spelling of a character begins. -/
def BeginsCharacter (bytes : Bytes) : Prop :=
  ∃ more character, Spelling (bytes ++ more) character

/-- A run of bytes that is shown as one replacement character in front of the bytes that follow. -/
structure IsBroken (run rest : Bytes) : Prop where
  nonempty : run ≠ []
  unspelled : ∀ spelled later character,
    run ++ rest = spelled ++ later → ¬Spelling spelled character
  begins : BeginsCharacter run ∨ run.length = 1
  longest : ∀ next later, rest = next :: later → ¬BeginsCharacter (run ++ [next])

/-- What a byte sequence is shown as. -/
inductive Shows : Bytes → List Char → Prop
  | nothing : Shows [] []
  | character {spelled rest : Bytes} {character : Char} {text : List Char}
      (spelling : Spelling spelled character)
      (later : Shows rest text) :
      Shows (spelled ++ rest) (character :: text)
  | broken {run rest : Bytes} {text : List Char}
      (isBroken : IsBroken run rest)
      (later : Shows rest text) :
      Shows (run ++ rest) ('\uFFFD' :: text)

/-! ## Characters that are broken off -/

/-- Least admissible bytes complete a character, whatever bits were read. -/
theorem exists_follow_eq
    (following : Nat)
    {low high : UInt8}
    (ordered : low ≤ high)
    (value : Nat) :
    ∃ more character, follow following low high value more = (some character, []) := by
  induction following generalizing low high value with
  | zero => exact ⟨[], _, rfl⟩
  | succ following inductionHypothesis =>
      have tailOrdered : (0x80 : UInt8) ≤ 0xBF := by decide
      obtain ⟨more, character, complete⟩ :=
        inductionHypothesis tailOrdered (value * 64 + (low.toNat - 0x80))
      refine ⟨low :: more, character, ?_⟩
      rw [follow, if_pos ⟨UInt8.le_refl low, ordered⟩, complete]

/-- The bytes that were read before a character broke off can be continued to a character, but
not by the byte at which it broke off. -/
theorem exists_trailers_of_follow
    {following : Nat}
    {low high : UInt8}
    {value : Nat}
    {bytes rest : Bytes}
    (ordered : low ≤ high)
    (brokenOff : follow following low high value bytes = (none, rest)) :
    ∃ trailers, bytes = trailers ++ rest ∧
      (∃ more character,
        follow following low high value (trailers ++ more) = (some character, [])) ∧
      ∀ next later, rest = next :: later →
        ∀ more, (follow following low high value (trailers ++ next :: more)).1 = none := by
  induction following generalizing low high value bytes with
  | zero => simp [follow] at brokenOff
  | succ following inductionHypothesis =>
      cases bytes with
      | nil =>
          simp only [follow, Prod.mk.injEq, true_and] at brokenOff
          subst brokenOff
          refine ⟨[], rfl, exists_follow_eq _ ordered _, ?_⟩
          intro next later impossible
          contradiction
      | cons byte bytes =>
          rw [follow] at brokenOff
          split at brokenOff
          · next fits =>
            obtain ⟨trailers, rfl, ⟨more, character, complete⟩, longest⟩ :=
              inductionHypothesis (by decide) brokenOff
            refine ⟨byte :: trailers, rfl, ⟨more, character, ?_⟩, ?_⟩
            · rw [List.cons_append, follow, if_pos fits, complete]
            · intro next later parted more
              rw [List.cons_append, follow, if_pos fits, longest next later parted]
          · next misfits =>
            obtain rfl := (Prod.mk.inj brokenOff).2
            refine ⟨[], rfl, exists_follow_eq _ ordered _, ?_⟩
            rintro next later parted more
            obtain ⟨rfl, rfl⟩ := List.cons.inj parted
            rw [List.nil_append, follow, if_neg misfits]

/-- Bytes whose first piece is no character spell none. -/
theorem not_spelling_of_pieces
    {bytes spelled later : Bytes}
    {character : Char}
    (parts : List (Option Char))
    (decoded : pieces bytes = none :: parts)
    (parted : bytes = spelled ++ later) :
    ¬Spelling spelled character := by
  intro spelling
  rw [parted, spelling.pieces_append] at decoded
  cases decoded

/-- The bounds on a second byte leave room for one. -/
theorem Lead.low_le_high
    {first : UInt8}
    {lead : Lead}
    (leads : Lead.ofByte? first = some lead) :
    lead.low ≤ lead.high := by
  rw [ofByte?_eq] at leads
  split at leads
  · obtain rfl := Option.some.inj leads
    simp [Lead.ofTwo]
  split at leads
  · obtain rfl := Option.some.inj leads
    rcases Nat.eq_zero_or_pos (first.toNat - 0xE0) with isZero | positive
    · simp [Lead.ofThree, isZero]
    · simp only [Lead.ofThree, if_neg (Nat.ne_of_gt positive)]
      split <;> decide
  split at leads
  · obtain rfl := Option.some.inj leads
    rcases Nat.eq_zero_or_pos (first.toNat - 0xF0) with isZero | positive
    · simp [Lead.ofFour, isZero]
    · simp only [Lead.ofFour, if_neg (Nat.ne_of_gt positive)]
      split <;> decide
  · contradiction

/-- The first piece of a byte sequence that is no character is a broken run. -/
theorem exists_isBroken_of_pieces
    {bytes : Bytes}
    {parts : List (Option Char)}
    (decoded : pieces bytes = none :: parts) :
    ∃ run rest, bytes = run ++ rest ∧ IsBroken run rest ∧ pieces rest = parts := by
  cases bytes with
  | nil => simp [pieces] at decoded
  | cons first bytes =>
      have unspelled (run rest : Bytes) (parted : first :: bytes = run ++ rest) :
          ∀ spelled later character, run ++ rest = spelled ++ later → ¬Spelling spelled character :=
        fun _ _ _ equal => not_spelling_of_pieces parts decoded (parted.trans equal)
      have stepped := decoded
      rw [pieces] at stepped
      split at stepped
      · cases stepped
      next large =>
      split at stepped
      · next noLead =>
        obtain ⟨-, tail⟩ := List.cons.inj stepped
        refine ⟨[first], bytes, rfl,
          ⟨List.cons_ne_nil _ _, unspelled _ _ rfl, Or.inr rfl, ?_⟩, tail⟩
        rintro next later - ⟨more, character, spelling⟩
        refine not_spelling_of_pieces (pieces (next :: more)) ?_ (List.append_nil _).symm
          spelling
        rw [List.append_assoc, List.singleton_append, pieces, if_neg large]
        simp only [noLead, List.singleton_append]
      · next lead leads =>
        obtain ⟨head, tail⟩ := List.cons.inj stepped
        obtain ⟨trailers, parted, ⟨more, character, complete⟩, longest⟩ :=
          exists_trailers_of_follow (lead.low_le_high leads) (Prod.ext head rfl)
        have split_eq :
            first :: bytes = (first :: trailers) ++
              (follow lead.following lead.low lead.high lead.value bytes).2 := by
          rw [List.cons_append, ← parted]
        refine ⟨first :: trailers, _, split_eq,
          ⟨List.cons_ne_nil _ _, unspelled _ _ split_eq, Or.inl ⟨more, character, ?_⟩, ?_⟩, tail⟩
        · obtain ⟨spelled, whole, spelling⟩ := exists_spelling_of_lead leads complete
          rw [List.append_nil] at whole
          rwa [List.cons_append, whole]
        · rintro next later follows ⟨more, character, spelling⟩
          have cut := longest next later follows more
          refine not_spelling_of_pieces
            (pieces (follow lead.following lead.low lead.high lead.value
              (trailers ++ next :: more)).2) ?_ (List.append_nil _).symm spelling
          rw [List.append_assoc, List.cons_append, List.singleton_append, pieces, if_neg large]
          simp only [leads, cut]

/-! ## Whole byte sequences -/

theorem shows_of_pieces
    {bytes : Bytes}
    {parts : List (Option Char)}
    (decoded : pieces bytes = parts) :
    Shows bytes (parts.map (·.getD '\uFFFD')) := by
  induction parts generalizing bytes with
  | nil =>
      have nothing : pieces bytes = ([] : List Char).map some := decoded
      obtain rfl := eq_encodeChars_of_pieces nothing
      exact .nothing
  | cons part parts inductionHypothesis =>
      cases part with
      | some character =>
          obtain ⟨spelled, rest, rfl, spelling, later⟩ := exists_spelling_of_pieces decoded
          exact .character spelling (inductionHypothesis later)
      | none =>
          obtain ⟨run, rest, rfl, isBroken, later⟩ := exists_isBroken_of_pieces decoded
          exact .broken isBroken (inductionHypothesis later)

/-- Lenient decoding shows characters as they are, and each broken run as one replacement
character. -/
theorem shows_decodeLenient (bytes : Bytes) :
    Shows bytes (decodeLenient bytes) :=
  shows_of_pieces rfl

end Utf8
end Text
end LatencyChart
