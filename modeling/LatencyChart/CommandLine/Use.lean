import LatencyChart.CommandLine.Resemblance
import LatencyChart.CommandLine.Word

/-!
# Uses of switches

A command line is read word by word into the uses of switches that it holds. A switch that
takes a value takes it from its own word, and otherwise from the next word if that is
plain. Reading stops at the first word that is no use of a switch, and at a wish for help
or for the version.
-/

namespace LatencyChart
namespace CommandLine

/-- One use of a switch, with the value given to it. -/
structure Use where
  switch : Switch
  value? : Option Bytes
  deriving DecidableEq, Repr

/-- Why no run follows from a command line. -/
inductive Stop
  | help
  | version
  /-- A word is not the use of a switch. The switches in use before it are kept. -/
  | unknown (word : String) (suggestion? : Option Switch) (met : List Switch)
  | repeated (switch : Switch) (met : List Switch)
  | missingValue (switch : Switch) (met : List Switch)
  /-- A value or an unknown name is not text. -/
  | unreadable
  deriving DecidableEq, Repr

namespace Use

/-- The options in use, in the order in which they are listed. -/
def met (uses : List Use) : List Switch :=
  Switch.options.filter fun switch => uses.any fun use => use.switch == switch

/-- Add the use of a switch in front of earlier ones. Equals signs in front of a value are
not part of it, and a value given to a switch that takes none is ignored. -/
def add
    (switch : Switch)
    (value? : Option Bytes)
    (uses : List Use) : Except Stop (List Use) :=
  match switch with
  | .help => .error .help
  | .version => .error .version
  | .verbose => .ok (⟨.verbose, none⟩ :: uses)
  | switch => .ok (⟨switch, value?.map fun value => value.dropWhile (· == equals)⟩ :: uses)

/-- Add the uses in a row of letters. The bytes after a letter that takes a value are that
value. -/
def addLetters : Bytes → List Use → Except Stop (List Use)
  | [], uses => .ok uses
  | letter :: rest, uses =>
      match Switch.ofLetter? letter with
      | some switch =>
          if switch.takesValue then
            add switch (if rest = [] then none else some rest) uses
          else
            (add switch none uses).bind (addLetters rest)
      | none =>
          let shown := (Text.Utf8.decodeLenient (letter :: rest)).take 1
          .error (.unknown (String.ofList ('-' :: shown)) none (met uses))

/-- The fault of a long name that no switch has. It can only be compared with other names
if all words from it on are text. -/
def unknownName
    (name : Bytes)
    (rest : List Bytes)
    (uses : List Use) : Stop :=
  match Text.Utf8.decode? name with
  | some text =>
      if rest.all fun word => (Text.Utf8.decode? word).isSome then
        .unknown (String.ofList ('-' :: '-' :: text)) (Resemblance.suggestion? text) (met uses)
      else
        .unreadable
  | none => .unreadable

/-- The fault of a plain word that no switch takes as its value. -/
def unknownPlain (word : Bytes) (uses : List Use) : Stop :=
  .unknown (String.ofList (Text.Utf8.decodeLenient word)) none (met uses)

/-- Give a plain word to the latest use if that waits for a value. -/
def addPlain (word : Bytes) : List Use → Except Stop (List Use)
  | ⟨switch, none⟩ :: earlier =>
      if switch.takesValue then .ok (⟨switch, some word⟩ :: earlier)
      else .error (unknownPlain word (⟨switch, none⟩ :: earlier))
  | uses => .error (unknownPlain word uses)

/-- Read words in order and add their uses in front of earlier ones. -/
def scan : List Bytes → List Use → Except Stop (List Use)
  | [], uses => .ok uses
  | word :: rest, uses =>
      match Word.ofBytes word with
      | .separator =>
          match rest with
          | [] => .ok uses
          | extra :: _ => .error (unknownPlain extra uses)
      | .name name value? =>
          match Switch.ofLongName? name with
          | some switch => (add switch value? uses).bind (scan rest)
          | none => .error (unknownName name rest uses)
      | .letters letters => (addLetters letters uses).bind (scan rest)
      | .plain text => (addPlain text uses).bind (scan rest)

end Use
end CommandLine
end LatencyChart
