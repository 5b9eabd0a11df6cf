import LatencyChart.Raster.Backend
import LatencyChart.Storage.Store
import LatencyChart.Svg.Document

/-!
# Output formats

The extension of an output path, in any mixture of ASCII cases, decides whether a chart is
written as an SVG document or as a PNG picture.
-/

namespace LatencyChart

/-- How a chart is written to a file. -/
inductive Format
  | svg
  | png
  deriving DecidableEq, Repr

namespace Format

/-- The format that an extension stands for. -/
def ofExtension? (extension : List Char) : Option Format :=
  match extension.map Char.toLower with
  | ['s', 'v', 'g'] => some .svg
  | ['p', 'n', 'g'] => some .png
  | _ => none

/-- The format of an output path. -/
def ofPath? (path : PathName) : Except DrawFault Format :=
  match ((PathName.extension? path).bind Text.Utf8.decode?).bind ofExtension? with
  | some format => .ok format
  | none => .error (.unsupportedFormat path.display)

/-- What a file of a format holds for a drawing. -/
def content
    (format : Format)
    (size : Size)
    (drawing : List Element) : Content :=
  match format with
  | .svg => .bytes (Text.Utf8.encode (Svg.document size drawing))
  | .png => .picture (Bitmap.ofDrawing size drawing)

/-- A file of a format can be begun at a size: a picture needs a buffer. -/
def HasRoom (format : Format) (size : Size) : Prop :=
  format = .png → size.HasBuffer

instance (format : Format) (size : Size) : Decidable (format.HasRoom size) :=
  inferInstanceAs (Decidable (_ → _))

/-- The size at which charts of a style are written. There is none when it is too large. -/
def size? (format : Format) (style : Style) : Option Size :=
  style.pixels?.filter fun size => format.HasRoom size

/-- Why a drawing of a given size cannot be encoded: a picture needs pixels in both
directions. -/
def sizeFault? (format : Format) (size : Size) : Option String :=
  match format with
  | .svg => none
  | .png =>
      if size.width = 0 then some "Zero width not allowed"
      else if size.height = 0 then some "Zero height not allowed"
      else none

/-- The text of the failure to create a file. -/
def createFault (format : Format) (cause : IoFault) : String :=
  match format with
  | .svg => cause.message
  | .png => "ImageError(IoError(" ++ cause.debugText ++ "))"

/-- The text of the failure to encode a drawing. -/
def encodeFault (text : String) : String :=
  "ImageError(IoError(Custom \x7b kind: Other, error: " ++ Text.quoted text ++ " \x7d))"

/-- Write a drawing to a file. A drawing that cannot be encoded leaves an empty file. -/
def save
    (format : Format)
    (path : PathName)
    (size : Size)
    (drawing : List Element)
    (store : Store) : Except String Unit × Store :=
  match format.sizeFault? size with
  | none =>
      match store.write path (format.content size drawing) with
      | .ok written => (.ok (), written)
      | .error cause => (.error (format.createFault cause), store)
  | some text =>
      match store.write path (.bytes []) with
      | .ok written => (.error (encodeFault text), written)
      | .error cause => (.error (format.createFault cause), store)

end Format
end LatencyChart
