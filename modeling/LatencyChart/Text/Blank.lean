/-!
# Blank characters and fields

A field is a maximal run of characters that are not blank. Blank characters are those with
the Unicode property White_Space.
-/

namespace LatencyChart
namespace Text

/-- The characters with the Unicode property White_Space. -/
def isBlank (character : Char) : Bool :=
  let code := character.toNat
  (0x09 ≤ code && code ≤ 0x0D) || code == 0x20 || code == 0x85 || code == 0xA0 ||
    code == 0x1680 || (0x2000 ≤ code && code ≤ 0x200A) || code == 0x2028 || code == 0x2029 ||
    code == 0x202F || code == 0x205F || code == 0x3000

/-- The maximal runs of characters that are not blank, in order. -/
def fields (text : List Char) : List (List Char) :=
  (text.splitOnP isBlank).filter fun field => !field.isEmpty

@[simp] theorem fields_nil : fields [] = [] := rfl

end Text
end LatencyChart
