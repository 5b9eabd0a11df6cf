import LatencyChart.Svg.Document

/-!
# Tags of a document

The sign that opens a tag stands in a document only where a tag starts: texts are escaped,
and neither numbers nor colours nor names hold that sign.  So the tags of a kind can be
counted in the text of a document, and there is one for each element of that kind.
-/

namespace LatencyChart

/-- The number of positions in a text at which a pattern starts. -/
def Text.occurrences (pattern : List Char) : List Char → Nat
  | [] => 0
  | first :: rest =>
      (if pattern.isPrefixOf (first :: rest) then 1 else 0) + occurrences pattern rest

/-- The name of the tag that stands for an element. -/
def Element.tagName : Element → String
  | .background _ => "rect"
  | .segment .. => "line"
  | .path .. => "polyline"
  | .disc .. => "circle"
  | .caption _ => "text"

namespace Svg

/-- The number of tags with a name in the text of a document. -/
def tagCount (name document : String) : Nat :=
  Text.occurrences ('<' :: name.toList) document.toList

/-- A text in which no tag opens. -/
def IsPlain (text : String) : Prop :=
  '<' ∉ text.toList

instance (text : String) : Decidable (IsPlain text) :=
  inferInstanceAs (Decidable ('<' ∉ text.toList))

/-! ## Texts in which no tag opens -/

@[simp] theorem isPlain_append (first second : String) :
    IsPlain (first ++ second) ↔ IsPlain first ∧ IsPlain second := by
  unfold IsPlain
  rw [String.toList_append, List.mem_append, not_or]

@[simp] theorem isPlain_join (texts : List String) :
    IsPlain (String.join texts) ↔ ∀ text ∈ texts, IsPlain text := by
  unfold IsPlain
  rw [String.toList_join, List.mem_flatMap]
  constructor
  · intro absent text member opened
    exact absent ⟨text, member, opened⟩
  · rintro plain ⟨text, member, opened⟩
    exact plain text member opened

theorem not_mem_toDigits (value : Nat) : '<' ∉ Nat.toDigits 10 value := by
  intro member
  have isDigit := Nat.isDigit_of_mem_toDigits (by decide) (by decide) member
  contradiction

@[simp] theorem isPlain_repr_nat (value : Nat) : IsPlain value.repr := by
  unfold IsPlain
  rw [Nat.toList_repr]
  exact not_mem_toDigits value

@[simp] theorem isPlain_repr_int (value : Int) : IsPlain value.repr := by
  cases value with
  | ofNat value => exact isPlain_repr_nat value
  | negSucc value => exact (isPlain_append "-" _).mpr ⟨by decide, isPlain_repr_nat (value + 1)⟩

theorem not_mem_positional (value places : Nat) : '<' ∉ Number.positional value places := by
  have digits := not_mem_toDigits
  unfold Number.positional Number.paddedDigits Number.digitsText
  split
  · exact digits value
  · simp [digits]

theorem not_mem_withNames
    (number : Float)
    {magnitude : List Char}
    (plain : '<' ∉ magnitude) :
    '<' ∉ Number.withNames number magnitude := by
  have signed {text : List Char} (free : '<' ∉ text) : '<' ∉ Number.signed number text := by
    unfold Number.signed
    split
    · exact List.not_mem_cons_of_ne_of_not_mem (by decide) free
    · exact free
  unfold Number.withNames
  split
  · decide
  · split
    · exact signed (by decide)
    · exact signed plain

@[simp] theorem isPlain_numberText (number : Float) : IsPlain (Number.text number) := by
  unfold IsPlain Number.text
  rw [String.toList_ofList, Number.shortestText]
  apply not_mem_withNames
  split
  · decide
  · exact not_mem_positional _ _

theorem not_mem_channel (value : UInt8) : '<' ∉ channel value := by
  have digits : ∀ code < 16, '<' ≠ (Nat.digitChar code).toUpper := by decide
  have small : value.toNat < 256 := value.toNat_lt
  intro member
  simp only [channel, List.mem_cons, List.not_mem_nil, or_false] at member
  rcases member with isUpper | isLower
  · exact digits (value.toNat / 16) (by omega) isUpper
  · exact digits (value.toNat % 16) (by omega) isLower

@[simp] theorem isPlain_color (value : Color) : IsPlain (color value) := by
  unfold IsPlain color
  rw [String.toList_ofList]
  simp [not_mem_channel]

@[simp] theorem isPlain_escape (text : String) : IsPlain (escape text) := by
  have absent (character : Char) : '<' ∉ escapeChar character := by
    unfold escapeChar
    split
    case h_6 notSign _ _ _ _ =>
      rw [List.mem_singleton]
      intro equal
      exact notSign equal.symm
    all_goals decide
  unfold IsPlain escape
  rw [String.toList_ofList, List.mem_flatMap]
  rintro ⟨character, -, opened⟩
  exact absent character opened

theorem isPlain_attributes
    {pairs : List (String × String)}
    (plain : ∀ pair ∈ pairs, IsPlain pair.1 ∧ IsPlain pair.2) :
    IsPlain (attributes pairs) := by
  unfold attributes attributeText
  rw [isPlain_join]
  intro text member
  obtain ⟨pair, found, rfl⟩ := List.mem_map.mp member
  obtain ⟨namePlain, valuePlain⟩ := plain pair found
  simp only [isPlain_append, namePlain, valuePlain, and_true]
  decide

/-! ## Counting tags -/

/-- Where no tag opens, none is counted. -/
theorem occurrences_append_of_plain
    (name : List Char)
    {text : List Char}
    (plain : '<' ∉ text)
    (rest : List Char) :
    Text.occurrences ('<' :: name) (text ++ rest) = Text.occurrences ('<' :: name) rest := by
  induction text with
  | nil => rfl
  | cons first text inductionHypothesis =>
      obtain ⟨notOpening, others⟩ := List.ne_and_not_mem_of_not_mem_cons plain
      rw [List.cons_append, Text.occurrences, inductionHypothesis others]
      simp [notOpening]

/-- A name that goes on until a character stands in front of that character when the
character is none of its own. -/
theorem isPrefixOf_append_cons
    {name : List Char}
    {stop : Char}
    (unbroken : stop ∉ name)
    (own rest : List Char) :
    name.isPrefixOf (own ++ stop :: rest) = name.isPrefixOf own := by
  induction name generalizing own with
  | nil => simp
  | cons first name inductionHypothesis =>
      obtain ⟨different, others⟩ := List.ne_and_not_mem_of_not_mem_cons unbroken
      cases own with
      | nil =>
          have mismatch : (first == stop) = false := beq_false_of_ne (Ne.symm different)
          rw [List.nil_append, List.isPrefixOf_cons_cons, mismatch, Bool.false_and]
          rfl
      | cons second own =>
          rw [List.cons_append, List.isPrefixOf_cons_cons, List.isPrefixOf_cons_cons,
            inductionHypothesis others own]

/-- A tag is counted once, under the names that its own name starts with. -/
theorem occurrences_tag_append
    {name own body : List Char}
    {stop : Char}
    (unbroken : stop ∉ name)
    (plain : '<' ∉ own ++ stop :: body)
    (rest : List Char) :
    Text.occurrences ('<' :: name) ('<' :: (own ++ stop :: body) ++ rest) =
      (if name.isPrefixOf own then 1 else 0) + Text.occurrences ('<' :: name) rest := by
  rw [List.cons_append, Text.occurrences, occurrences_append_of_plain name plain,
    List.isPrefixOf_cons_cons, beq_self_eq_true, Bool.true_and, List.append_assoc, List.cons_append,
    isPrefixOf_append_cons unbroken]

/-- An opening tag with attributes is counted once, under the names that its own name starts
with. -/
theorem occurrences_openingTag_append
    {name : List Char}
    {own finish : String}
    {pairs : List (String × String)}
    (unbroken : ' ' ∉ name)
    (ownPlain : IsPlain own)
    (finishPlain : IsPlain finish)
    (pairsNonempty : pairs ≠ [])
    (pairsPlain : ∀ pair ∈ pairs, IsPlain pair.1 ∧ IsPlain pair.2)
    (rest : List Char) :
    Text.occurrences ('<' :: name)
        (("<" ++ own ++ attributes pairs ++ finish).toList ++ rest) =
      (if name.isPrefixOf own.toList then 1 else 0) + Text.occurrences ('<' :: name) rest := by
  obtain ⟨body, spaced⟩ : ∃ body, (attributes pairs).toList = ' ' :: body := by
    cases pairs with
    | nil => contradiction
    | cons pair pairs => exact ⟨_, by simp [attributes, attributeText]; rfl⟩
  have attributesPlain : '<' ∉ (attributes pairs).toList := isPlain_attributes pairsPlain
  have plain : '<' ∉ own.toList ++ ' ' :: (body ++ finish.toList) := by
    rw [← List.cons_append, ← spaced, List.mem_append, List.mem_append]
    rintro (inName | inAttributes | inFinish)
    · exact ownPlain inName
    · exact attributesPlain inAttributes
    · exact finishPlain inFinish
  have text_eq : ("<" ++ own ++ attributes pairs ++ finish).toList =
      '<' :: (own.toList ++ ' ' :: (body ++ finish.toList)) := by
    simp [spaced]
  rw [text_eq, occurrences_tag_append unbroken plain]

/-- The names of the tags that stand for elements. -/
def tagNames : List String := ["rect", "line", "polyline", "circle", "text"]

theorem tagName_mem (element : Element) : element.tagName ∈ tagNames := by
  cases element <;> simp [Element.tagName, tagNames]

/-- No name of a tag starts another one. -/
theorem isPrefixOf_tagName
    {name : String}
    (isName : name ∈ tagNames)
    (element : Element) :
    name.toList.isPrefixOf element.tagName.toList = decide (element.tagName = name) := by
  have apart : ∀ first ∈ tagNames, ∀ second ∈ tagNames,
      first.toList.isPrefixOf second.toList = decide (second = first) := by decide
  exact apart name isName element.tagName (tagName_mem element)

/-- The characters of lines, with a newline behind each. -/
def linesText (lines : List String) : List Char :=
  lines.flatMap fun line => line.toList ++ ['\n']

theorem toList_document (size : Size) (drawing : List Element) :
    (document size drawing).toList = linesText (documentLines size drawing) := by
  unfold document linesText
  rw [String.toList_join, List.flatMap_map]
  congr 1
  funext line
  rw [String.toList_append]
  rfl

@[simp] theorem linesText_nil : linesText [] = [] := rfl

@[simp] theorem linesText_cons (line : String) (lines : List String) :
    linesText (line :: lines) = line.toList ++ '\n' :: linesText lines := by
  simp [linesText]

@[simp] theorem linesText_append (first second : List String) :
    linesText (first ++ second) = linesText first ++ linesText second :=
  List.flatMap_append

/-- The end of a line opens no tag. -/
theorem occurrences_newline_cons (name rest : List Char) :
    Text.occurrences ('<' :: name) ('\n' :: rest) = Text.occurrences ('<' :: name) rest := by
  have plain : '<' ∉ ['\n'] := by decide
  exact occurrences_append_of_plain name plain rest

/-- Attributes of which there is at least one, and in which no tag opens. -/
structure ArePlain (pairs : List (String × String)) : Prop where
  nonempty : pairs ≠ []
  plain : ∀ pair ∈ pairs, IsPlain pair.1 ∧ IsPlain pair.2

theorem strokePairs_plain (stroke : Stroke) :
    ∀ pair ∈ strokePairs stroke, IsPlain pair.1 ∧ IsPlain pair.2 := by
  simp [strokePairs]
  decide

theorem turnPairs_plain (caption : Caption) :
    ∀ pair ∈ turnPairs caption, IsPlain pair.1 ∧ IsPlain pair.2 := by
  unfold turnPairs
  split
  · simp
  · simp
    decide

/-- An element is written as one tag without content, or as a text between two tags. -/
theorem elementLines_cases (size : Size) (element : Element) :
    ∃ pairs, ArePlain pairs ∧
      (elementLines size element = [emptyTag element.tagName pairs] ∨
        ∃ text, IsPlain text ∧
          elementLines size element =
            ["<" ++ element.tagName ++ attributes pairs ++ ">", text, "</text>"]) := by
  cases element with
  | background fill =>
      refine ⟨_, ⟨by simp, ?_⟩, Or.inl rfl⟩
      simp
      decide
  | segment first last stroke =>
      refine ⟨_, ⟨by simp, ?_⟩, Or.inl rfl⟩
      refine List.forall_mem_append.mpr ⟨strokePairs_plain stroke, ?_⟩
      simp
      decide
  | path points stroke =>
      refine ⟨_, ⟨by simp, ?_⟩, Or.inl rfl⟩
      refine List.forall_mem_append.mpr
        ⟨List.forall_mem_cons.mpr ⟨by decide, strokePairs_plain stroke⟩, ?_⟩
      simp
      exact ⟨by decide, fun _ _ => by decide⟩
  | disc center radius fill =>
      refine ⟨_, ⟨by simp, ?_⟩, Or.inl rfl⟩
      simp
      decide
  | caption caption =>
      refine ⟨_, ⟨by simp, ?_⟩, Or.inr ⟨_, isPlain_escape caption.text, rfl⟩⟩
      refine List.forall_mem_append.mpr ⟨?_, turnPairs_plain caption⟩
      have shiftPlain : ∀ align, IsPlain (verticalShift align) := by
        intro align
        cases align <;> decide
      have anchorPlain : ∀ align, IsPlain (anchorName align) := by
        intro align
        cases align <;> decide
      simp [shiftPlain, anchorPlain]
      decide

/-- The lines of an element hold one tag under the name of the element. -/
theorem occurrences_elementLines_append
    {name : String}
    (isName : name ∈ tagNames)
    (size : Size)
    (element : Element)
    (rest : List Char) :
    Text.occurrences ('<' :: name.toList) (linesText (elementLines size element) ++ rest) =
      (if element.tagName = name then 1 else 0) +
        Text.occurrences ('<' :: name.toList) rest := by
  have unbroken : ∀ name ∈ tagNames, ' ' ∉ name.toList ∧ '>' ∉ name.toList := by decide
  have ownPlain : ∀ own ∈ tagNames, IsPlain own := by decide
  have closing : ∀ name ∈ tagNames, name.toList.isPrefixOf "/text".toList = false := by decide
  obtain ⟨noSpace, noEnd⟩ := unbroken name isName
  obtain ⟨pairs, arePlain, written | ⟨text, textPlain, written⟩⟩ := elementLines_cases size element
  · rw [written, linesText_cons, linesText_nil, List.append_assoc, emptyTag,
      occurrences_openingTag_append noSpace (ownPlain _ (tagName_mem element)) (by decide)
        arePlain.nonempty arePlain.plain,
      isPrefixOf_tagName isName element]
    simp [occurrences_newline_cons]
  · have closingTag : "</text>".toList = '<' :: ("/text".toList ++ '>' :: []) := by decide
    rw [written, linesText_cons, linesText_cons, linesText_cons, linesText_nil, List.append_assoc,
      occurrences_openingTag_append noSpace (ownPlain _ (tagName_mem element)) (by decide)
        arePlain.nonempty arePlain.plain,
      isPrefixOf_tagName isName element, List.cons_append, occurrences_newline_cons,
      List.append_assoc, occurrences_append_of_plain _ textPlain, List.cons_append,
      occurrences_newline_cons, List.append_assoc, closingTag,
      occurrences_tag_append noEnd (by decide), closing name isName, List.cons_append,
      occurrences_newline_cons]
    simp

/-- The lines of a drawing hold one tag for each element under that name. -/
theorem occurrences_drawing_append
    {name : String}
    (isName : name ∈ tagNames)
    (size : Size)
    (drawing : List Element)
    (rest : List Char) :
    Text.occurrences ('<' :: name.toList)
        (linesText (drawing.flatMap (elementLines size)) ++ rest) =
      (drawing.countP fun element => element.tagName = name) +
        Text.occurrences ('<' :: name.toList) rest := by
  induction drawing with
  | nil => simp
  | cons element drawing inductionHypothesis =>
      rw [List.flatMap_cons, linesText_append, List.append_assoc,
        occurrences_elementLines_append isName, inductionHypothesis, List.countP_cons]
      simp only [decide_eq_true_eq]
      omega

theorem headPairs_plain (size : Size) :
    ∀ pair ∈ [("width", toString size.width), ("height", toString size.height),
        ("viewBox", "0 0 " ++ toString size.width ++ " " ++ toString size.height),
        ("xmlns", "http://www.w3.org/2000/svg")],
      IsPlain pair.1 ∧ IsPlain pair.2 := by
  simp
  decide

/-- The tags under a name in the document of a drawing stand for the elements of that name. -/
theorem tagCount_document
    {name : String}
    (isName : name ∈ tagNames)
    (size : Size)
    (drawing : List Element) :
    tagCount name (document size drawing) =
      drawing.countP fun element => element.tagName = name := by
  have frame : ∀ name ∈ tagNames, ' ' ∉ name.toList ∧ '>' ∉ name.toList ∧
      name.toList.isPrefixOf "svg".toList = false ∧
      name.toList.isPrefixOf "/svg".toList = false := by decide
  obtain ⟨noSpace, noEnd, notHead, notFoot⟩ := frame name isName
  have headTag : head size = "<" ++ "svg" ++ attributes _ ++ ">" := rfl
  have footTag : "</svg>".toList = '<' :: ("/svg".toList ++ '>' :: []) := by decide
  rw [tagCount, toList_document, documentLines, List.cons_append, linesText_cons, headTag,
    occurrences_openingTag_append noSpace (by decide) (by decide) (List.cons_ne_nil _ _)
      (headPairs_plain size),
    notHead, occurrences_newline_cons, linesText_append, occurrences_drawing_append isName,
    linesText_cons, linesText_nil, footTag, occurrences_tag_append noEnd (by decide), notFoot,
    occurrences_newline_cons]
  simp [Text.occurrences]

end Svg
end LatencyChart
