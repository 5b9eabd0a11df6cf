import LatencyChart.Proofs.Series.Concatenation
import Mathlib.Algebra.Ring.Nat

/-!
# Blank lines between the lines of a text

Blank lines that are put into a text at boundaries of its lines leave what the other lines hold.
A fault and a warning name larger line numbers then, by as many as blank lines stand above, and the
blank lines are counted.
-/

namespace LatencyChart

/-! ## The same lines at other places -/

/-- The same event of a loading with its line at another place, and with more blank lines. -/
def Event.respace (place : Nat → Nat) (added : Nat) : Event → Event
  | .timeGoesBack previous time line => .timeGoesBack previous time (place line)
  | .parsed samples blanks => .parsed samples (blanks + added)
  | event => event

namespace Series

/-- The same loading with its lines at other places, and with more blank lines. -/
def Loading.respace (place : Nat → Nat) (added : Nat) (loading : Loading) : Loading where
  result := loading.result.mapError (.renumber place)
  events := loading.events.map (.respace place added)

/-- Steps back are found between the same samples. -/
theorem firstStepBack?_map
    (place : Nat → Nat)
    (added : Nat)
    (accepted : List (Nat × Sample)) :
    firstStepBack? (accepted.map fun line => (place line.1, line.2)) =
      (firstStepBack? accepted).map (.respace place added) := by
  induction accepted with
  | nil => rfl
  | cons first rest inductionHypothesis =>
      cases rest with
      | nil => rfl
      | cons second rest =>
          rw [List.map_cons, List.map_cons, firstStepBack?, firstStepBack?]
          split
          · rfl
          · exact inductionHypothesis

namespace Scan

/-- A scan of the same lines at other places, between which there are more blank lines.  Behind a
fault they are not counted. -/
structure IsRespaced (place : Nat → Nat) (added : Nat) (scan spaced : Scan) : Prop where
  accepted : spaced.accepted = scan.accepted.map fun line => (place line.1, line.2)
  fault? : spaced.fault? = scan.fault?.map (.renumber place)
  blanks : scan.fault? = none → spaced.blanks = scan.blanks + added

namespace IsRespaced

variable
  {place : Nat → Nat}
  {added : Nat}
  {scan spaced : Scan}

/-- A line in front of both scans. -/
theorem push
    (respaced : IsRespaced place added scan spaced)
    (line : RawLine)
    (number : Nat) :
    IsRespaced place added (Scan.push (line, number) scan)
      (Scan.push (line, place number) spaced) := by
  simp only [Scan.push, readLine_place place number line]
  cases readLine number line with
  | error fault =>
      refine ⟨rfl, rfl, ?_⟩
      intro sound
      contradiction
  | ok reading =>
      cases reading with
      | blank =>
          refine ⟨respaced.accepted, respaced.fault?, ?_⟩
          intro sound
          have blanks_eq := respaced.blanks sound
          change spaced.blanks + 1 = scan.blanks + 1 + added
          omega
      | sample sample =>
          refine ⟨?_, respaced.fault?, respaced.blanks⟩
          exact congrArg ((place number, sample) :: ·) respaced.accepted

/-- One more blank line in front of the spaced scan. -/
theorem push_blank
    (respaced : IsRespaced place added scan spaced)
    {line : Bytes}
    (blank : IsBlankLine line)
    (number : Nat) :
    IsRespaced place (added + 1) scan (Scan.push (.ok line, number) spaced) := by
  simp only [Scan.push, readLine_of_blank number blank]
  refine ⟨respaced.accepted, respaced.fault?, ?_⟩
  intro sound
  rw [respaced.blanks sound, Nat.add_assoc]

theorem result_eq (respaced : IsRespaced place added scan spaced) :
    spaced.result = scan.result.mapError (.renumber place) := by
  unfold Scan.result
  rw [respaced.fault?]
  cases scan.fault? with
  | some fault => rfl
  | none =>
      change Except.ok spaced.series = Except.ok scan.series
      unfold Scan.series
      rw [respaced.accepted, List.map_map]
      rfl

theorem events_eq (respaced : IsRespaced place added scan spaced) :
    spaced.events = scan.events.map (.respace place added) := by
  unfold Scan.events
  rw [respaced.accepted, firstStepBack?_map place added, respaced.fault?, List.map_append,
    Option.toList_map, Option.isNone_map, List.length_map]
  cases sound : scan.fault? with
  | some fault => rfl
  | none =>
      rw [respaced.blanks sound]
      rfl

end IsRespaced

theorem IsRespaced.empty (place : Nat → Nat) : IsRespaced place 0 Scan.empty Scan.empty :=
  ⟨rfl, rfl, fun _ => rfl⟩

end Scan

/-! ## Texts with more blank lines -/

/-- The second text is the first one with blank lines at boundaries of its lines.  The gaps count
them, one gap before each line and one behind all of them.  A text may get a newline at its end
before blank lines, if no carriage return would become part of the line end. -/
inductive Spaced : Bytes → Bytes → List Nat → Prop
  | none : Spaced [] [] [0]
  | last {line : Bytes}
      (nonempty : line ≠ [])
      (unbroken : newline ∉ line) :
      Spaced line line [0, 0]
  | kept {line text spaced : Bytes} {gaps : List Nat}
      (unbroken : newline ∉ line)
      (later : Spaced text spaced gaps) :
      Spaced (line ++ newline :: text) (line ++ newline :: spaced) (0 :: gaps)
  | ended {line spaced : Bytes} {gaps : List Nat}
      (nonempty : line ≠ [])
      (unbroken : newline ∉ line)
      (noReturn : line.getLast? ≠ some carriageReturn)
      (later : Spaced [] spaced gaps) :
      Spaced line (line ++ newline :: spaced) (0 :: gaps)
  | inserted {blank text spaced : Bytes} {gap : Nat} {gaps : List Nat}
      (isBlank : IsBlankLine blank)
      (unbroken : newline ∉ blank)
      (later : Spaced text spaced (gap :: gaps)) :
      Spaced text (blank ++ newline :: spaced) ((gap + 1) :: gaps)
  | insertedLast {blank : Bytes}
      (isBlank : IsBlankLine blank)
      (nonempty : blank ≠ [])
      (unbroken : newline ∉ blank) :
      Spaced [] blank [1]

/-- The place of a line below the gaps above it. -/
def placeBelow (gaps : List Nat) (number : Nat) : Nat :=
  number + (gaps.take number).sum

theorem IsBlankLine.dropReturn
    {line : Bytes}
    (blank : IsBlankLine line) :
    IsBlankLine (Series.dropReturn line) := by
  by_cases returned : line.getLast? = some carriageReturn
  · obtain ⟨front, rfl⟩ := List.getLast?_eq_some_iff.mp returned
    obtain ⟨text, encoded, allBlank⟩ := blank
    obtain ⟨before, rfl, encodedBefore⟩ :=
      Text.Utf8.exists_of_encodeChars_eq_append (by decide) encoded
    rw [dropReturn_append_return]
    exact ⟨before, encodedBefore, fun character member =>
      allBlank character (List.mem_append_left _ member)⟩
  · rwa [dropReturn_of_noReturn returned]

/-- Lines that are numbered from one number on have the places below the gaps, which are numbered
from another one. -/
def PlacesFrom (place : Nat → Nat) (gaps : List Nat) (number spacedNumber : Nat) : Prop :=
  ∀ index, place (number + index) = spacedNumber + index + (gaps.take (index + 1)).sum

namespace PlacesFrom

variable
  {place : Nat → Nat}
  {gap : Nat}
  {gaps : List Nat}
  {number spacedNumber : Nat}

theorem here (places : PlacesFrom place (0 :: gaps) number spacedNumber) :
    place number = spacedNumber :=
  places 0

theorem later (places : PlacesFrom place (0 :: gaps) number spacedNumber) :
    PlacesFrom place gaps (number + 1) (spacedNumber + 1) := by
  intro index
  have placed := places (index + 1)
  rw [List.take_succ_cons, List.sum_cons, Nat.zero_add] at placed
  rw [Nat.add_assoc, Nat.add_comm 1, placed, Nat.add_assoc spacedNumber 1, Nat.add_comm 1]

theorem behindBlank (places : PlacesFrom place ((gap + 1) :: gaps) number spacedNumber) :
    PlacesFrom place (gap :: gaps) number (spacedNumber + 1) := by
  intro index
  have placed := places index
  rw [List.take_succ_cons, List.sum_cons] at placed ⊢
  omega

end PlacesFrom

theorem placesFrom_placeBelow (gaps : List Nat) :
    PlacesFrom (placeBelow gaps) gaps 1 1 := by
  intro index
  rw [placeBelow, Nat.add_comm index]

/-- The lines of a spaced text are scanned as the lines of the text, at other places. -/
theorem Spaced.isRespaced
    {text spaced : Bytes}
    {gaps : List Nat}
    (isSpaced : Spaced text spaced gaps)
    {place : Nat → Nat}
    {number spacedNumber : Nat}
    (places : PlacesFrom place gaps number spacedNumber) :
    Scan.IsRespaced place gaps.sum (Scan.ofLines (linesOf (text.map .byte)) number)
      (Scan.ofLines (linesOf (spaced.map .byte)) spacedNumber) := by
  induction isSpaced generalizing number spacedNumber with
  | none => exact .empty place
  | @last line nonempty unbroken =>
      rw [linesOf_unbroken unbroken, if_neg nonempty, Scan.ofLines_cons, Scan.ofLines_cons,
        ← places.here]
      exact (Scan.IsRespaced.empty place).push (.ok line) number
  | @kept line text spaced gaps unbroken _ inductionHypothesis =>
      have later := (inductionHypothesis places.later).push (.ok (dropReturn line)) number
      rw [places.here] at later
      rwa [List.map_append, List.map_cons, linesOf_append_newline unbroken, List.map_append,
        List.map_cons, linesOf_append_newline unbroken, Scan.ofLines_cons, Scan.ofLines_cons,
        List.sum_cons, Nat.zero_add]
  | @ended line spaced gaps nonempty unbroken noReturn _ inductionHypothesis =>
      have later := (inductionHypothesis places.later).push (.ok line) number
      rw [places.here] at later
      rwa [linesOf_unbroken unbroken, if_neg nonempty, List.map_append, List.map_cons,
        linesOf_append_newline unbroken, dropReturn_of_noReturn noReturn, Scan.ofLines_cons,
        Scan.ofLines_cons, List.sum_cons, Nat.zero_add]
  | @inserted blank text spaced gap gaps isBlank unbroken _ inductionHypothesis =>
      -- The blank line counts for the gap before the next line of the text.
      have later := (inductionHypothesis places.behindBlank).push_blank isBlank.dropReturn
        spacedNumber
      rwa [List.map_append, List.map_cons, linesOf_append_newline unbroken, Scan.ofLines_cons,
        List.sum_cons, Nat.add_right_comm]
  | @insertedLast blank isBlank nonempty unbroken =>
      rw [linesOf_unbroken unbroken, if_neg nonempty, Scan.ofLines_cons]
      exact (Scan.IsRespaced.empty place).push_blank isBlank spacedNumber

/-- A spaced text is loaded as the text itself.  The lines are told at their places below the gaps,
and the blank lines are counted. -/
theorem Spaced.ofBytes_eq
    {text spaced : Bytes}
    {gaps : List Nat}
    (isSpaced : Spaced text spaced gaps) :
    ofBytes spaced = (ofBytes text).respace (placeBelow gaps) gaps.sum := by
  have respaced := isSpaced.isRespaced (placesFrom_placeBelow gaps)
  rw [Series.ofBytes_eq, Series.ofBytes_eq, scanOf, scanOf, respaced.result_eq,
    respaced.events_eq]
  rfl

end Series
end LatencyChart
