import LatencyChart.Chart.Element
import LatencyChart.Number.Text

/-!
# SVG documents

A drawing is written as an SVG document with one tag per line. A text stands on a line of
its own between its tags.
-/

namespace LatencyChart
namespace Svg

/-- The written form of a character in a document. -/
def escapeChar : Char → List Char
  | '<' => "&lt;".toList
  | '>' => "&gt;".toList
  | '&' => "&amp;".toList
  | '"' => "&quot;".toList
  | '\'' => "&apos;".toList
  | character => [character]

/-- The written form of a text in a document. -/
def escape (text : String) : String :=
  String.ofList (text.toList.flatMap escapeChar)

/-- The two digits of a colour channel. -/
def channel (value : UInt8) : List Char :=
  let digit (code : Nat) : Char := (Nat.digitChar code).toUpper
  [digit (value.toNat / 16), digit (value.toNat % 16)]

/-- The written form of a colour. -/
def color (color : Color) : String :=
  String.ofList ('#' :: channel color.red ++ channel color.green ++ channel color.blue)

/-- One attribute of a tag, with a space in front. -/
def attributeText (name value : String) : String :=
  " " ++ name ++ "=\"" ++ value ++ "\""

/-- The attributes of a tag in order. -/
def attributes (pairs : List (String × String)) : String :=
  String.join (pairs.map fun pair => attributeText pair.1 pair.2)

/-- A tag without content. -/
def emptyTag (name : String) (pairs : List (String × String)) : String :=
  "<" ++ name ++ attributes pairs ++ "/>"

/-- The attributes that say how a line is drawn. -/
def strokePairs (stroke : Stroke) : List (String × String) :=
  [("opacity", Number.text stroke.opacity), ("stroke", color stroke.color),
    ("stroke-width", toString stroke.width)]

/-- The vertical shift that brings a part of a text to its anchor. -/
def verticalShift : VerticalAlign → String
  | .top => "0.76em"
  | .center => "0.5ex"
  | .bottom => "-0.5ex"

/-- The name of a horizontal alignment. -/
def anchorName : HorizontalAlign → String
  | .start => "start"
  | .middle => "middle"
  | .finish => "end"

/-- The angle of a turn in degrees. -/
def degrees? : Turn → Option Nat
  | .none => none
  | .quarter => some 90
  | .threeQuarters => some 270

/-- The attribute that turns a text about its anchor. -/
def turnPairs (caption : Caption) : List (String × String) :=
  match degrees? caption.turn with
  | none => []
  | some degrees =>
      [("transform", "rotate(" ++ toString degrees ++ ", " ++ toString caption.anchor.x ++ ", " ++
        toString caption.anchor.y ++ ")")]

/-- The lines of a text. -/
def captionLines (caption : Caption) : List String :=
  ["<text" ++ attributes
      ([("x", toString caption.anchor.x), ("y", toString caption.anchor.y),
        ("dy", verticalShift caption.vertical), ("text-anchor", anchorName caption.horizontal),
        ("font-family", "sans-serif"), ("font-size", Number.text caption.fontSize),
        ("opacity", "1"), ("fill", color Color.black)] ++ turnPairs caption) ++ ">",
    escape caption.text,
    "</text>"]

/-- The lines of an element in a document of a given size. -/
def elementLines (size : Size) : Element → List String
  | .background fill =>
      [emptyTag "rect"
        [("x", "0"), ("y", "0"), ("width", toString size.width), ("height", toString size.height),
          ("opacity", "1"), ("fill", color fill), ("stroke", "none")]]
  | .segment first last stroke =>
      [emptyTag "line"
        (strokePairs stroke ++
          [("x1", toString first.x), ("y1", toString first.y), ("x2", toString last.x),
            ("y2", toString last.y)])]
  | .path points stroke =>
      [emptyTag "polyline"
        (("fill", "none") :: strokePairs stroke ++
          [("points", String.join (points.map fun point =>
            toString point.x ++ "," ++ toString point.y ++ " "))])]
  | .disc center radius fill =>
      [emptyTag "circle"
        [("cx", toString center.x), ("cy", toString center.y), ("r", toString radius),
          ("opacity", "1"), ("fill", color fill), ("stroke", "none"), ("stroke-width", "1")]]
  | .caption caption => captionLines caption

/-- The first line of a document of a given size. -/
def head (size : Size) : String :=
  let width := toString size.width
  let height := toString size.height
  "<svg" ++ attributes
    [("width", width), ("height", height), ("viewBox", "0 0 " ++ width ++ " " ++ height),
      ("xmlns", "http://www.w3.org/2000/svg")] ++ ">"

/-- The lines of the document of a drawing. -/
def documentLines (size : Size) (drawing : List Element) : List String :=
  head size :: drawing.flatMap (elementLines size) ++ ["</svg>"]

/-- The document of a drawing. -/
def document (size : Size) (drawing : List Element) : String :=
  String.join ((documentLines size drawing).map (· ++ "\n"))

end Svg
end LatencyChart
