/-!
# UTF-8 text

A byte sequence is cut into pieces: each piece is one encoded character, or a maximal run
of bytes that starts a character without completing it. Strict decoding refuses every
incomplete run, and lenient decoding shows each of them as one replacement character.
-/

namespace LatencyChart

/-- The content of a file, the name of a file, or an argument, before it is known to be
text. -/
abbrev Bytes := List UInt8

namespace Text
namespace Utf8

/-- How a character of several bytes goes on after its first byte. -/
structure Lead where
  /-- The bits that the first byte contributes. -/
  value : Nat
  /-- The number of bytes that must follow. -/
  following : Nat
  /-- The least admissible second byte. -/
  low : UInt8
  /-- The greatest admissible second byte. -/
  high : UInt8

/-- The first bytes of characters of two, three and four bytes. The bounds on the second
byte exclude overlong forms, surrogates and values past U+10FFFF. -/
def Lead.ofByte? (first : UInt8) : Option Lead :=
  if 0xC2 ≤ first ∧ first ≤ 0xDF then some ⟨first.toNat - 0xC0, 1, 0x80, 0xBF⟩
  else if first = 0xE0 then some ⟨0, 2, 0xA0, 0xBF⟩
  else if first = 0xED then some ⟨0xD, 2, 0x80, 0x9F⟩
  else if 0xE1 ≤ first ∧ first ≤ 0xEF then some ⟨first.toNat - 0xE0, 2, 0x80, 0xBF⟩
  else if first = 0xF0 then some ⟨0, 3, 0x90, 0xBF⟩
  else if 0xF1 ≤ first ∧ first ≤ 0xF3 then some ⟨first.toNat - 0xF0, 3, 0x80, 0xBF⟩
  else if first = 0xF4 then some ⟨4, 3, 0x80, 0x8F⟩
  else none

/-- Read the bytes that a lead announces. The answer is the character, or `none` at the
first byte that does not fit, and the bytes that remain. -/
def follow : Nat → UInt8 → UInt8 → Nat → Bytes → Option Char × Bytes
  | 0, _, _, value, rest => (some (Char.ofNat value), rest)
  | _ + 1, _, _, _, [] => (none, [])
  | following + 1, low, high, value, byte :: rest =>
      if low ≤ byte ∧ byte ≤ high then
        follow following 0x80 0xBF (value * 64 + (byte.toNat - 0x80)) rest
      else
        (none, byte :: rest)

/-- Reading the rest of a character never gives bytes back. -/
theorem length_follow_le
    (following : Nat)
    (low high : UInt8)
    (value : Nat)
    (bytes : Bytes) :
    (follow following low high value bytes).2.length ≤ bytes.length := by
  induction following generalizing low high value bytes with
  | zero => simp [follow]
  | succ following inductionHypothesis =>
      cases bytes with
      | nil => simp [follow]
      | cons byte rest =>
          rw [follow]
          split
          · exact Nat.le_succ_of_le (inductionHypothesis _ _ _ rest)
          · exact Nat.le_refl _

/-- The characters of a byte sequence in order, with `none` for each incomplete run. -/
def pieces : Bytes → List (Option Char)
  | [] => []
  | first :: rest =>
      if first < 0x80 then
        some (Char.ofNat first.toNat) :: pieces rest
      else
        match Lead.ofByte? first with
        | none => none :: pieces rest
        | some lead =>
            let followed := follow lead.following lead.low lead.high lead.value rest
            followed.1 :: pieces followed.2
  termination_by bytes => bytes.length
  decreasing_by
    · exact Nat.lt_succ_self rest.length
    · exact Nat.lt_succ_self rest.length
    · exact Nat.lt_succ_of_le (length_follow_le ..)

/-- The text of a byte sequence, or `none` when some byte is not part of a character. -/
def decode? (bytes : Bytes) : Option (List Char) :=
  (pieces bytes).mapM id

/-- The text of a byte sequence with U+FFFD in place of each incomplete run. -/
def decodeLenient (bytes : Bytes) : List Char :=
  (pieces bytes).map (·.getD '\uFFFD')

/-- The bytes of a list of characters. -/
def encodeChars (text : List Char) : Bytes :=
  text.flatMap String.utf8EncodeChar

/-- The bytes of a text. -/
def encode (text : String) : Bytes :=
  encodeChars text.toList

@[simp] theorem encodeChars_nil : encodeChars [] = [] := rfl

@[simp] theorem encodeChars_cons (character : Char) (rest : List Char) :
    encodeChars (character :: rest) = String.utf8EncodeChar character ++ encodeChars rest := rfl

end Utf8
end Text
end LatencyChart
