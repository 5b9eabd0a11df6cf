import LatencyChart.Text.Utf8

/-!
# Strict decoding inverts encoding

A byte sequence decodes to a text exactly when it is the encoding of that text.  The
spellings of a character are listed by the number of their bytes, with the digits that each
byte contributes; encoding writes a spelling, and one step of decoding reads one.
-/

namespace LatencyChart
namespace Text
namespace Utf8

/-- A byte that continues a character, with its six bits. -/
def trailer (bits : Nat) : UInt8 := UInt8.ofNat (bits + 0x80)

/-- The spellings of characters by one to four bytes. -/
inductive Spelling : Bytes → Char → Prop
  | one {code : Nat}
      (small : code < 0x80) :
      Spelling [UInt8.ofNat code] (Char.ofNat code)
  | two {lead second : Nat}
      (shortest : 2 ≤ lead)
      (leadBits : lead < 32)
      (secondBits : second < 64) :
      Spelling [UInt8.ofNat (lead + 0xC0), trailer second] (Char.ofNat (lead * 64 + second))
  | three {lead second third : Nat}
      (leadBits : lead < 16)
      (secondBits : second < 64)
      (thirdBits : third < 64)
      (shortest : lead = 0 → 32 ≤ second)
      (noSurrogate : lead = 13 → second < 32) :
      Spelling [UInt8.ofNat (lead + 0xE0), trailer second, trailer third]
        (Char.ofNat ((lead * 64 + second) * 64 + third))
  | four {lead second third fourth : Nat}
      (leadBits : lead < 5)
      (secondBits : second < 64)
      (thirdBits : third < 64)
      (fourthBits : fourth < 64)
      (shortest : lead = 0 → 16 ≤ second)
      (inRange : lead = 4 → second < 16) :
      Spelling [UInt8.ofNat (lead + 0xF0), trailer second, trailer third, trailer fourth]
        (Char.ofNat (((lead * 64 + second) * 64 + third) * 64 + fourth))

theorem toNat_ofNat_char {code : Nat} (valid : code.isValidChar) :
    (Char.ofNat code).val.toNat = code := by
  rw [Char.ofNat, dif_pos valid]
  rfl

/-- Encoding writes the spelling of a character. -/
theorem Spelling.encode_eq
    {bytes : Bytes}
    {character : Char}
    (spelling : Spelling bytes character) :
    String.utf8EncodeChar character = bytes := by
  unfold String.utf8EncodeChar
  cases spelling with
  | @one code small =>
      rw [toNat_ofNat_char (Or.inl (by omega))]
      simp only
      rw [if_pos (by omega)]
  | @two lead second shortest leadBits secondBits =>
      rw [toNat_ofNat_char (Or.inl (by omega))]
      simp only
      rw [if_neg (by omega), if_pos (by omega),
        show (lead * 64 + second) / 64 % 0x20 = lead by omega,
        show (lead * 64 + second) % 0x40 = second by omega]
      rfl
  | @three lead second third leadBits secondBits thirdBits shortest noSurrogate =>
      rw [toNat_ofNat_char (by unfold Nat.isValidChar; omega)]
      simp only
      rw [if_neg (by omega), if_neg (by omega), if_pos (by omega),
        show ((lead * 64 + second) * 64 + third) / 4096 % 0x10 = lead by omega,
        show ((lead * 64 + second) * 64 + third) / 64 % 0x40 = second by omega,
        show ((lead * 64 + second) * 64 + third) % 0x40 = third by omega]
      rfl
  | @four lead second third fourth leadBits secondBits thirdBits fourthBits shortest inRange =>
      rw [toNat_ofNat_char (by unfold Nat.isValidChar; omega)]
      simp only
      rw [if_neg (by omega), if_neg (by omega), if_neg (by omega),
        show (((lead * 64 + second) * 64 + third) * 64 + fourth) / 262144 % 0x08 = lead by omega,
        show (((lead * 64 + second) * 64 + third) * 64 + fourth) / 4096 % 0x40 = second by omega,
        show (((lead * 64 + second) * 64 + third) * 64 + fourth) / 64 % 0x40 = third by omega,
        show (((lead * 64 + second) * 64 + third) * 64 + fourth) % 0x40 = fourth by omega]
      rfl

/-- Every character has a spelling. -/
theorem exists_spelling (character : Char) :
    ∃ bytes, Spelling bytes character := by
  obtain ⟨code, valid, rfl⟩ : ∃ code : Nat, code.isValidChar ∧ Char.ofNat code = character :=
    ⟨character.toNat, character.valid, Char.ofNat_toNat character⟩
  unfold Nat.isValidChar at valid
  by_cases single : code < 0x80
  · exact ⟨_, .one single⟩
  by_cases double : code < 0x800
  · have digits : code = code / 64 * 64 + code % 64 := by omega
    rw [digits]
    exact ⟨_, .two (by omega) (by omega) (by omega)⟩
  by_cases triple : code < 0x10000
  · have digits : code = (code / 4096 * 64 + code / 64 % 64) * 64 + code % 64 := by omega
    rw [digits]
    exact ⟨_, .three (by omega) (by omega) (by omega) (by omega) (by omega)⟩
  · have digits : code = ((code / 262144 * 64 + code / 4096 % 64) * 64 + code / 64 % 64) * 64 +
        code % 64 := by omega
    rw [digits]
    exact ⟨_, .four (by omega) (by omega) (by omega) (by omega) (by omega) (by omega)⟩

/-- Encoding is the one way to spell a character. -/
theorem spelling_iff
    (bytes : Bytes)
    (character : Char) :
    Spelling bytes character ↔ String.utf8EncodeChar character = bytes := by
  constructor
  · exact Spelling.encode_eq
  · rintro rfl
    obtain ⟨bytes, spelling⟩ := exists_spelling character
    rwa [spelling.encode_eq]

/-! ## One step of decoding -/

theorem toNat_trailer {bits : Nat} (sixBits : bits < 64) :
    (trailer bits).toNat = bits + 0x80 :=
  Nat.mod_eq_of_lt (by omega)

/-- A fitting trailer contributes its six bits. -/
theorem follow_trailer
    (following : Nat)
    (low high : UInt8)
    (value : Nat)
    (rest : Bytes)
    {bits : Nat}
    (sixBits : bits < 64)
    (atLeast : low.toNat ≤ bits + 0x80)
    (atMost : bits + 0x80 ≤ high.toNat) :
    follow (following + 1) low high value (trailer bits :: rest) =
      follow following 0x80 0xBF (value * 64 + bits) rest := by
  have fits : low ≤ trailer bits ∧ trailer bits ≤ high := by
    rw [UInt8.le_iff_toNat_le, UInt8.le_iff_toNat_le, toNat_trailer sixBits]
    exact ⟨atLeast, atMost⟩
  rw [follow, if_pos fits, toNat_trailer sixBits, Nat.add_sub_cancel]

/-- A character that is read to its end was continued by a fitting trailer. -/
theorem exists_trailer_of_follow
    {following : Nat}
    {low high : UInt8}
    {value : Nat}
    {bytes rest : Bytes}
    {character : Char}
    (lowest : 0x80 ≤ low.toNat)
    (highest : high.toNat ≤ 0xBF)
    (followed : follow (following + 1) low high value bytes = (some character, rest)) :
    ∃ bits later, bytes = trailer bits :: later ∧ bits < 64 ∧ low.toNat ≤ bits + 0x80 ∧
      bits + 0x80 ≤ high.toNat ∧
      follow following 0x80 0xBF (value * 64 + bits) later = (some character, rest) := by
  cases bytes with
  | nil => simp [follow] at followed
  | cons byte later =>
      rw [follow] at followed
      split at followed
      · next fits =>
        rw [UInt8.le_iff_toNat_le, UInt8.le_iff_toNat_le] at fits
        have spelled : trailer (byte.toNat - 0x80) = byte := by
          unfold trailer
          rw [Nat.sub_add_cancel (by omega)]
          exact UInt8.ofNat_toNat
        exact ⟨byte.toNat - 0x80, later, by rw [spelled], by omega, by omega, by omega, followed⟩
      · simp at followed

/-- The lead of a character of two bytes. -/
def Lead.ofTwo (bits : Nat) : Lead := ⟨bits, 1, 0x80, 0xBF⟩

/-- The lead of a character of three bytes. -/
def Lead.ofThree (bits : Nat) : Lead :=
  ⟨bits, 2, if bits = 0 then 0xA0 else 0x80, if bits = 13 then 0x9F else 0xBF⟩

/-- The lead of a character of four bytes. -/
def Lead.ofFour (bits : Nat) : Lead :=
  ⟨bits, 3, if bits = 0 then 0x90 else 0x80, if bits = 4 then 0x8F else 0xBF⟩

/-- The tests on a first byte, in numbers. -/
theorem ofByte?_eq (first : UInt8) :
    Lead.ofByte? first =
      if 0xC2 ≤ first.toNat ∧ first.toNat ≤ 0xDF then some (Lead.ofTwo (first.toNat - 0xC0))
      else if 0xE0 ≤ first.toNat ∧ first.toNat ≤ 0xEF then
        some (Lead.ofThree (first.toNat - 0xE0))
      else if 0xF0 ≤ first.toNat ∧ first.toNat ≤ 0xF4 then
        some (Lead.ofFour (first.toNat - 0xF0))
      else none := by
  have isE0 : first = 0xE0 ↔ first.toNat = 0xE0 := UInt8.toNat_inj.symm
  have isED : first = 0xED ↔ first.toNat = 0xED := UInt8.toNat_inj.symm
  have isF0 : first = 0xF0 ↔ first.toNat = 0xF0 := UInt8.toNat_inj.symm
  have isF4 : first = 0xF4 ↔ first.toNat = 0xF4 := UInt8.toNat_inj.symm
  unfold Lead.ofByte? Lead.ofTwo Lead.ofThree Lead.ofFour
  simp only [UInt8.le_iff_toNat_le, isE0, isED, isF0, isF4, UInt8.reduceToNat]
  generalize first.toNat = code
  grind

/-- Decoding reads the spelling of a character in one step. -/
theorem Spelling.pieces_append
    {bytes : Bytes}
    {character : Char}
    (spelling : Spelling bytes character)
    (rest : Bytes) :
    pieces (bytes ++ rest) = some character :: pieces rest := by
  cases spelling with
  | @one code small =>
      have first : (UInt8.ofNat code).toNat = code := Nat.mod_eq_of_lt (by omega)
      rw [List.singleton_append, pieces, if_pos (by rw [UInt8.lt_iff_toNat_lt, first]; exact small),
        first]
  | @two lead second shortest leadBits secondBits =>
      have first : (UInt8.ofNat (lead + 0xC0)).toNat = lead + 0xC0 := Nat.mod_eq_of_lt (by omega)
      rw [List.cons_append, pieces, if_neg (by rw [UInt8.lt_iff_toNat_lt, first]; simp),
        ofByte?_eq, first, if_pos (by omega), Nat.add_sub_cancel]
      simp only [Lead.ofTwo]
      rw [List.cons_append, follow_trailer _ _ _ _ _ secondBits (by simp) (by simp; omega)]
      rfl
  | @three lead second third leadBits secondBits thirdBits shortest noSurrogate =>
      have first : (UInt8.ofNat (lead + 0xE0)).toNat = lead + 0xE0 := Nat.mod_eq_of_lt (by omega)
      rw [List.cons_append, pieces, if_neg (by rw [UInt8.lt_iff_toNat_lt, first]; simp),
        ofByte?_eq, first, if_neg (by omega), if_pos (by omega), Nat.add_sub_cancel]
      simp only [Lead.ofThree]
      rw [List.cons_append,
        follow_trailer _ _ _ _ _ secondBits (by split <;> simp; omega)
          (by split <;> simp <;> omega),
        List.cons_append, follow_trailer _ _ _ _ _ thirdBits (by simp) (by simp; omega)]
      rfl
  | @four lead second third fourth leadBits secondBits thirdBits fourthBits shortest inRange =>
      have first : (UInt8.ofNat (lead + 0xF0)).toNat = lead + 0xF0 := Nat.mod_eq_of_lt (by omega)
      rw [List.cons_append, pieces, if_neg (by rw [UInt8.lt_iff_toNat_lt, first]; simp),
        ofByte?_eq, first, if_neg (by omega), if_neg (by omega), if_pos (by omega),
        Nat.add_sub_cancel]
      simp only [Lead.ofFour]
      rw [List.cons_append,
        follow_trailer _ _ _ _ _ secondBits (by split <;> simp; omega)
          (by split <;> simp <;> omega),
        List.cons_append, follow_trailer _ _ _ _ _ thirdBits (by simp) (by simp; omega),
        List.cons_append, follow_trailer _ _ _ _ _ fourthBits (by simp) (by simp; omega)]
      rfl

/-- The byte that adds a mark to its bits. -/
theorem ofNat_sub_add
    {first : UInt8}
    {mark : Nat}
    (marked : mark ≤ first.toNat) :
    UInt8.ofNat (first.toNat - mark + mark) = first := by
  rw [Nat.sub_add_cancel marked]
  exact UInt8.ofNat_toNat

/-- What follows a lead until its character is complete makes a spelling with it. -/
theorem exists_spelling_of_lead
    {first : UInt8}
    {lead : Lead}
    {bytes rest : Bytes}
    {character : Char}
    (leads : Lead.ofByte? first = some lead)
    (followed : follow lead.following lead.low lead.high lead.value bytes =
      (some character, rest)) :
    ∃ trailers, bytes = trailers ++ rest ∧ Spelling (first :: trailers) character := by
  rw [ofByte?_eq] at leads
  split at leads
  · next range =>
    obtain rfl := Option.some.inj leads
    obtain ⟨second, later, rfl, secondBits, -, -, done⟩ :=
      exists_trailer_of_follow (by simp [Lead.ofTwo]) (by simp [Lead.ofTwo]) followed
    cases done
    refine ⟨[trailer second], rfl, ?_⟩
    have spelling := @Spelling.two (first.toNat - 0xC0) _ (by omega) (by omega) secondBits
    rwa [ofNat_sub_add (by omega)] at spelling
  split at leads
  · next range =>
    obtain rfl := Option.some.inj leads
    simp only [Lead.ofThree] at followed
    obtain ⟨second, later, rfl, secondBits, atLeast, atMost, followed⟩ :=
      exists_trailer_of_follow (by split <;> simp) (by split <;> simp) followed
    obtain ⟨third, later, rfl, thirdBits, -, -, done⟩ :=
      exists_trailer_of_follow (by simp) (by simp) followed
    cases done
    refine ⟨[trailer second, trailer third], rfl, ?_⟩
    have spelling := @Spelling.three (first.toNat - 0xE0) _ _ (by omega) secondBits thirdBits
      (fun isZero => by rw [if_pos isZero] at atLeast; simp at atLeast; omega)
      (fun isThirteen => by rw [if_pos isThirteen] at atMost; simp at atMost; omega)
    rwa [ofNat_sub_add (by omega)] at spelling
  split at leads
  · next range =>
    obtain rfl := Option.some.inj leads
    simp only [Lead.ofFour] at followed
    obtain ⟨second, later, rfl, secondBits, atLeast, atMost, followed⟩ :=
      exists_trailer_of_follow (by split <;> simp) (by split <;> simp) followed
    obtain ⟨third, later, rfl, thirdBits, -, -, followed⟩ :=
      exists_trailer_of_follow (by simp) (by simp) followed
    obtain ⟨fourth, later, rfl, fourthBits, -, -, done⟩ :=
      exists_trailer_of_follow (by simp) (by simp) followed
    cases done
    refine ⟨[trailer second, trailer third, trailer fourth], rfl, ?_⟩
    have spelling := @Spelling.four (first.toNat - 0xF0) _ _ _ (by omega) secondBits thirdBits
      fourthBits
      (fun isZero => by rw [if_pos isZero] at atLeast; simp at atLeast; omega)
      (fun isFour => by rw [if_pos isFour] at atMost; simp at atMost; omega)
    rwa [ofNat_sub_add (by omega)] at spelling
  · contradiction

/-- A character that decoding reads in one step was spelled. -/
theorem exists_spelling_of_pieces
    {bytes : Bytes}
    {character : Char}
    {later : List (Option Char)}
    (decoded : pieces bytes = some character :: later) :
    ∃ spelled rest, bytes = spelled ++ rest ∧ Spelling spelled character ∧
      pieces rest = later := by
  cases bytes with
  | nil => simp [pieces] at decoded
  | cons first bytes =>
      rw [pieces] at decoded
      split at decoded
      · next small =>
        rw [UInt8.lt_iff_toNat_lt] at small
        obtain ⟨head, tail⟩ := List.cons.inj decoded
        refine ⟨[first], bytes, rfl, ?_, tail⟩
        have spelling := Spelling.one small
        rwa [UInt8.ofNat_toNat, Option.some.inj head] at spelling
      · split at decoded
        · simp at decoded
        · next lead leads =>
          obtain ⟨head, tail⟩ := List.cons.inj decoded
          obtain ⟨trailers, parted, spelling⟩ :=
            exists_spelling_of_lead leads (Prod.ext head rfl)
          exact ⟨first :: trailers, _, by rw [List.cons_append, ← parted], spelling, tail⟩

/-! ## Whole texts -/

theorem pieces_encodeChars_append
    (text : List Char)
    (rest : Bytes) :
    pieces (encodeChars text ++ rest) = text.map some ++ pieces rest := by
  induction text with
  | nil => rfl
  | cons character text inductionHypothesis =>
      have spelling := (spelling_iff _ character).mpr rfl
      rw [encodeChars_cons, List.append_assoc, spelling.pieces_append, inductionHypothesis]
      rfl

theorem eq_encodeChars_of_pieces
    {bytes : Bytes}
    {text : List Char}
    (decoded : pieces bytes = text.map some) :
    encodeChars text = bytes := by
  induction text generalizing bytes with
  | nil =>
      cases bytes with
      | nil => rfl
      | cons first bytes =>
          rw [pieces] at decoded
          split at decoded
          · simp at decoded
          · split at decoded <;> simp at decoded
  | cons character text inductionHypothesis =>
      obtain ⟨spelled, rest, rfl, spelling, later⟩ := exists_spelling_of_pieces decoded
      rw [encodeChars_cons, spelling.encode_eq, inductionHypothesis later]

theorem decode?_eq_some_iff_pieces
    (bytes : Bytes)
    (text : List Char) :
    decode? bytes = some text ↔ pieces bytes = text.map some := by
  unfold decode?
  generalize pieces bytes = parts
  induction parts generalizing text with
  | nil => cases text <;> simp
  | cons part parts inductionHypothesis =>
      cases part with
      | none => cases text <;> simp
      | some character =>
          have stepped : (some character :: parts).mapM id =
              (parts.mapM id).map (character :: ·) := by
            cases decoded : parts.mapM id <;> simp [decoded]
          rw [stepped, Option.map_eq_some_iff]
          constructor
          · rintro ⟨rest, decoded, rfl⟩
            rw [List.map_cons, (inductionHypothesis rest).mp decoded]
          · intro equal
            cases text with
            | nil => simp at equal
            | cons first text =>
                obtain ⟨head, tail⟩ := List.cons.inj equal
                exact ⟨text, (inductionHypothesis text).mpr tail, by rw [Option.some.inj head]⟩

/-- The bytes that decode to a text are its encoding and no others. -/
theorem decode?_eq_some_iff
    (bytes : Bytes)
    (text : List Char) :
    decode? bytes = some text ↔ encodeChars text = bytes := by
  rw [decode?_eq_some_iff_pieces]
  constructor
  · exact eq_encodeChars_of_pieces
  · rintro rfl
    have decoded := pieces_encodeChars_append text []
    rwa [List.append_nil, pieces, List.append_nil] at decoded

/-- Decoding refuses exactly the bytes that encode no text. -/
theorem decode?_eq_none_iff (bytes : Bytes) :
    decode? bytes = none ↔ ¬∃ text, encodeChars text = bytes := by
  constructor
  · rintro refused ⟨text, encoded⟩
    rw [← decode?_eq_some_iff, refused] at encoded
    contradiction
  · intro noText
    cases decoded : decode? bytes with
    | none => rfl
    | some text => exact absurd ⟨text, (decode?_eq_some_iff bytes text).mp decoded⟩ noText

theorem encodeChars_inj (text other : List Char) :
    encodeChars text = encodeChars other ↔ text = other := by
  constructor
  · intro sameBytes
    have decoded := (decode?_eq_some_iff _ text).mpr rfl
    rw [sameBytes, (decode?_eq_some_iff _ other).mpr rfl] at decoded
    exact (Option.some.inj decoded).symm
  · exact congrArg encodeChars

/-! ## The bytes of a text -/

theorem encodeChars_append (text more : List Char) :
    encodeChars (text ++ more) = encodeChars text ++ encodeChars more :=
  List.flatMap_append

/-- A byte below 0x80 is the whole spelling of a character. -/
theorem Spelling.eq_of_mem
    {bytes : Bytes}
    {character : Char}
    {byte : UInt8}
    (spelling : Spelling bytes character)
    (ascii : byte.toNat < 0x80)
    (member : byte ∈ bytes) :
    character = Char.ofNat byte.toNat := by
  have notLarge {code : Nat} (byteSized : code < 256) (large : 0x80 ≤ code) :
      byte ≠ UInt8.ofNat code := by
    rintro rfl
    rw [UInt8.toNat_ofNat', Nat.mod_eq_of_lt byteSized] at ascii
    omega
  cases spelling with
  | @one code small =>
      rw [List.mem_singleton.mp member, UInt8.toNat_ofNat', Nat.mod_eq_of_lt (by omega)]
  | two =>
      simp only [List.mem_cons, List.not_mem_nil, or_false] at member
      rcases member with equal | equal
      all_goals exact absurd equal (notLarge (by omega) (by omega))
  | three =>
      simp only [List.mem_cons, List.not_mem_nil, or_false] at member
      rcases member with equal | equal | equal
      all_goals exact absurd equal (notLarge (by omega) (by omega))
  | four =>
      simp only [List.mem_cons, List.not_mem_nil, or_false] at member
      rcases member with equal | equal | equal | equal
      all_goals exact absurd equal (notLarge (by omega) (by omega))

/-- A byte below 0x80 in the encoding of a text stands for its own character. -/
theorem ofNat_mem_of_mem_encodeChars
    {text : List Char}
    {byte : UInt8}
    (ascii : byte.toNat < 0x80)
    (member : byte ∈ encodeChars text) :
    Char.ofNat byte.toNat ∈ text := by
  obtain ⟨character, present, spelled⟩ := List.mem_flatMap.mp member
  have spelling := (spelling_iff _ character).mpr rfl
  rwa [← spelling.eq_of_mem ascii spelled]

/-- A byte below 0x80 in the bytes of a character is all of them. -/
theorem eq_singleton_of_mem
    {character : Char}
    {byte : UInt8}
    (ascii : byte.toNat < 0x80)
    (member : byte ∈ String.utf8EncodeChar character) :
    character = Char.ofNat byte.toNat ∧ String.utf8EncodeChar character = [byte] := by
  have spelling := (spelling_iff _ character).mpr rfl
  have isByte := spelling.eq_of_mem ascii member
  have spelled := Spelling.encode_eq (.one ascii)
  rw [UInt8.ofNat_toNat, ← isByte] at spelled
  exact ⟨isByte, spelled⟩

/-- The encoding of a text can be cut at a byte below 0x80. -/
theorem exists_of_encodeChars_eq_append_cons
    {text : List Char}
    {front rest : Bytes}
    {byte : UInt8}
    (ascii : byte.toNat < 0x80)
    (encoded : encodeChars text = front ++ byte :: rest) :
    ∃ before after, text = before ++ Char.ofNat byte.toNat :: after ∧
      encodeChars before = front ∧ encodeChars after = rest := by
  induction text generalizing front with
  | nil => simp at encoded
  | cons character text inductionHypothesis =>
      rw [encodeChars_cons] at encoded
      rcases List.append_eq_append_iff.mp encoded with
        ⟨later, rfl, following⟩ | ⟨inside, within, behind⟩
      · obtain ⟨before, after, rfl, rfl, rfl⟩ := inductionHypothesis following
        exact ⟨character :: before, after, rfl, rfl, rfl⟩
      · cases inside with
        | nil =>
            have onward : encodeChars text = [] ++ byte :: rest := behind.symm
            obtain ⟨before, after, rfl, atFront, rfl⟩ := inductionHypothesis onward
            refine ⟨character :: before, after, rfl, ?_, rfl⟩
            rw [encodeChars_cons, atFront, within, List.append_nil, List.append_nil]
        | cons first inside =>
            obtain ⟨rfl, rest_eq⟩ := List.cons.inj behind
            have member : byte ∈ String.utf8EncodeChar character := by
              rw [within]
              exact List.mem_append_right front (List.mem_cons_self ..)
            obtain ⟨isByte, single⟩ := eq_singleton_of_mem ascii member
            rw [single] at within
            obtain ⟨rfl, rfl⟩ : front = [] ∧ inside = [] := by
              cases front with
              | nil => exact ⟨rfl, ((List.cons.inj within).2).symm⟩
              | cons _ front => simp at within
            exact ⟨[], text, by rw [isByte, List.nil_append], rfl, rest_eq.symm⟩

/-- A byte below 0x80 at the end of the encoding of a text stands for its last character. -/
theorem exists_of_encodeChars_eq_append
    {text : List Char}
    {front : Bytes}
    {byte : UInt8}
    (ascii : byte.toNat < 0x80)
    (encoded : encodeChars text = front ++ [byte]) :
    ∃ before, text = before ++ [Char.ofNat byte.toNat] ∧ encodeChars before = front := by
  obtain ⟨before, after, rfl, atFront, nothing⟩ :=
    exists_of_encodeChars_eq_append_cons ascii encoded
  obtain rfl : after = [] := (encodeChars_inj after []).mp nothing
  exact ⟨before, rfl, atFront⟩

/-! ## Bytes that are text -/

/-- Bytes that are the encoding of some text. -/
def IsText (bytes : Bytes) : Prop :=
  ∃ text, encodeChars text = bytes

theorem isText_encode (text : String) :
    IsText (encode text) :=
  ⟨text.toList, rfl⟩

theorem isSome_decode?_iff (bytes : Bytes) :
    (decode? bytes).isSome = true ↔ IsText bytes := by
  rw [Option.isSome_iff_exists]
  exact exists_congr fun text => decode?_eq_some_iff bytes text

theorem IsText.cut
    {front rest : Bytes}
    {byte : UInt8}
    (ascii : byte.toNat < 0x80)
    (isText : IsText (front ++ byte :: rest)) :
    IsText front ∧ IsText rest := by
  obtain ⟨text, encoded⟩ := isText
  obtain ⟨before, after, -, atFront, behind⟩ :=
    exists_of_encodeChars_eq_append_cons ascii encoded
  exact ⟨⟨before, atFront⟩, ⟨after, behind⟩⟩

theorem IsText.tail
    {rest : Bytes}
    {byte : UInt8}
    (ascii : byte.toNat < 0x80)
    (isText : IsText (byte :: rest)) :
    IsText rest := by
  have afterNothing : IsText ([] ++ byte :: rest) := isText
  exact (afterNothing.cut ascii).2

theorem IsText.of_replicate_append
    {rest : Bytes}
    {byte : UInt8}
    (ascii : byte.toNat < 0x80)
    (count : Nat)
    (isText : IsText (List.replicate count byte ++ rest)) :
    IsText rest := by
  induction count with
  | zero => exact isText
  | succ count inductionHypothesis =>
      exact inductionHypothesis (isText.tail ascii)

end Utf8
end Text
end LatencyChart
