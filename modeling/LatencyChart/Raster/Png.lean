import LatencyChart.Raster.Bitmap
import LatencyChart.Text.Utf8

/-!
# PNG files

A picture is written as a PNG file with eight bits per channel and no filter. The image
data are stored without compression, in blocks of at most 65535 bytes.
-/

namespace LatencyChart
namespace Png

/-- A number as four bytes, most significant first. -/
def word (value : UInt32) : Bytes :=
  [(value >>> 24).toUInt8, (value >>> 16).toUInt8, (value >>> 8).toUInt8, value.toUInt8]

/-- A number as two bytes, least significant first. -/
def halfWord (value : Nat) : Bytes :=
  [UInt8.ofNat value, UInt8.ofNat (value / 256)]

/-- Move a checksum by a number of bits. -/
def shiftBits : Nat → UInt32 → UInt32
  | 0, register => register
  | count + 1, register =>
      shiftBits count
        (if register &&& 1 = 1 then (register >>> 1) ^^^ 0xEDB88320 else register >>> 1)

/-- The cyclic redundancy check of a byte sequence. -/
def checksum (bytes : Bytes) : UInt32 :=
  let register :=
    bytes.foldl (fun register byte => shiftBits 8 (register ^^^ byte.toUInt32)) 0xFFFFFFFF
  register ^^^ 0xFFFFFFFF

/-- The pair of sums modulo 65521 that ends a stream. -/
def streamSum (bytes : Bytes) : UInt32 :=
  let sums := bytes.foldl
    (fun (sums : UInt32 × UInt32) byte =>
      let first := (sums.1 + byte.toUInt32) % 65521
      (first, (sums.2 + first) % 65521))
    (1, 0)
  (sums.2 <<< 16) ||| sums.1

/-- A named part of a file: length, name, content and checksum. -/
def chunk (name : String) (content : Bytes) : Bytes :=
  let named := Text.Utf8.encode name ++ content
  word content.length.toUInt32 ++ named ++ word (checksum named)

/-- The greatest length of a stored block. -/
def blockLength : Nat := 65535

/-- The blocks of a stream, at most `count` of them, the last of which is marked. -/
def blocks : Nat → Bytes → List Bytes
  | 0, _ => []
  | count + 1, bytes =>
      let content := bytes.take blockLength
      let rest := bytes.drop blockLength
      let mark : UInt8 := if rest.isEmpty then 1 else 0
      let header := mark :: halfWord content.length ++ halfWord (65535 - content.length)
      (header ++ content) :: if rest.isEmpty then [] else blocks count rest

/-- A stream that stores its bytes as they are. -/
def storedStream (bytes : Bytes) : Bytes :=
  [0x78, 0x01] ++ (blocks (bytes.length / blockLength + 1) bytes).flatten ++ word (streamSum bytes)

/-- The rows of a picture, each after the byte that says it is not filtered. -/
def rows (bitmap : Bitmap) : Bytes :=
  let length := 3 * bitmap.width
  (List.range bitmap.height).flatMap fun y =>
    0 :: (bitmap.data.extract (y * length) ((y + 1) * length)).toList

/-- The file of a picture. -/
def encode (bitmap : Bitmap) : Bytes :=
  [0x89, 0x50, 0x4E, 0x47, 0x0D, 0x0A, 0x1A, 0x0A] ++
    chunk "IHDR" (word bitmap.width.toUInt32 ++ word bitmap.height.toUInt32 ++ [8, 2, 0, 0, 0]) ++
    chunk "IDAT" (storedStream (rows bitmap)) ++
    chunk "IEND" []

end Png
end LatencyChart
