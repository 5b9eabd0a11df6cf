import LatencyChart.Storage.PathName
import Mathlib.Data.List.Basic

/-!
# The last name of a path

What stands behind the last name of a path are slashes, and single dots behind slashes.  The
extension of a name is what stands behind its last dot, when something stands in front of it.
-/

namespace LatencyChart
namespace PathName

/-- What may stand behind the last component of a path. -/
inductive IsTrailer : Bytes → Prop
  | nothing : IsTrailer []
  | slash {rest : Bytes} (later : IsTrailer rest) : IsTrailer (slash :: rest)
  | slashDot {rest : Bytes} (later : IsTrailer rest) : IsTrailer (slash :: dot :: rest)

/-- A component of a path behind which only a trailer stands. -/
structure IsLastComponent (path : PathName) (component : Bytes) : Prop where
  place : ∃ front trailer, path = front ++ component ++ trailer ∧
    (front = [] ∨ front.getLast? = some slash) ∧ IsTrailer trailer
  noSlash : slash ∉ component
  nonempty : component ≠ []
  notDot : component ≠ [dot]

/-- A path has an extension when its last component does not lead upwards and has a dot behind
its first byte. -/
def HasExtension (path : PathName) (extension : Bytes) : Prop :=
  ∃ stem, IsLastComponent path (stem ++ dot :: extension) ∧
    stem ++ dot :: extension ≠ [dot, dot] ∧ stem ≠ [] ∧ dot ∉ extension

/-! ## Cuts at a byte -/

/-- A byte sequence without a byte is one piece, and any other has a last cut at it. -/
theorem not_mem_or_exists_last
    (byte : UInt8)
    (bytes : Bytes) :
    byte ∉ bytes ∨ ∃ front last, bytes = front ++ byte :: last ∧ byte ∉ last := by
  induction bytes with
  | nil => exact Or.inl List.not_mem_nil
  | cons first bytes inductionHypothesis =>
      rcases inductionHypothesis with absent | ⟨front, last, rfl, absent⟩
      · rcases Decidable.em (first = byte) with rfl | different
        · exact Or.inr ⟨[], bytes, rfl, absent⟩
        · exact Or.inl (List.not_mem_cons_of_ne_of_not_mem (Ne.symm different) absent)
      · exact Or.inr ⟨first :: front, last, rfl, absent⟩

theorem splitOn_of_not_mem
    {byte : UInt8}
    {bytes : Bytes}
    (absent : byte ∉ bytes) :
    bytes.splitOn byte = [bytes] := by
  apply List.splitOnP_eq_singleton
  intro other present
  exact beq_false_of_ne fun same => absent (same ▸ present)

theorem splitOn_append_cons
    (front : Bytes)
    (byte : UInt8)
    (last : Bytes) :
    (front ++ byte :: last).splitOn byte = front.splitOn byte ++ last.splitOn byte :=
  List.splitOnP_append_cons front last (beq_self_eq_true byte)

/-! ## The last component -/

theorem components_append_slash (front rest : Bytes) :
    components (front ++ slash :: rest) = components front ++ components rest := by
  unfold components
  rw [splitOn_append_cons, List.filter_append]

theorem components_of_noSlash
    {piece : Bytes}
    (noSlash : slash ∉ piece) :
    components piece = if piece = [] ∨ piece = [dot] then [] else [piece] := by
  unfold components
  rw [splitOn_of_not_mem noSlash]
  split
  · next skipped => rcases skipped with rfl | rfl <;> rfl
  · next named => exact List.filter_cons_of_pos (by simpa using named)

theorem components_append_trailer
    {trailer : Bytes}
    (isTrailer : IsTrailer trailer)
    (front : Bytes) :
    components (front ++ trailer) = components front := by
  induction isTrailer generalizing front with
  | nothing => rw [List.append_nil]
  | slash later inductionHypothesis =>
      have restEmpty := inductionHypothesis []
      rw [List.nil_append] at restEmpty
      rw [components_append_slash, restEmpty]
      exact List.append_nil _
  | slashDot later inductionHypothesis =>
      rw [components_append_slash, ← List.singleton_append, inductionHypothesis]
      exact List.append_nil _

theorem IsTrailer.append_slash
    {trailer : Bytes}
    (isTrailer : IsTrailer trailer) :
    IsTrailer (trailer ++ [PathName.slash]) := by
  induction isTrailer with
  | nothing => exact .slash .nothing
  | slash _ inductionHypothesis => exact .slash inductionHypothesis
  | slashDot _ inductionHypothesis => exact .slashDot inductionHypothesis

theorem IsTrailer.append_slashDot
    {trailer : Bytes}
    (isTrailer : IsTrailer trailer) :
    IsTrailer (trailer ++ [PathName.slash, dot]) := by
  induction isTrailer with
  | nothing => exact .slashDot .nothing
  | slash _ inductionHypothesis => exact .slash inductionHypothesis
  | slashDot _ inductionHypothesis => exact .slashDot inductionHypothesis

/-- A slash with nothing or a single dot behind it does not matter to the last component. -/
theorem IsLastComponent.append
    {path component last : Bytes}
    (isLast : IsLastComponent path component)
    (skipped : last = [] ∨ last = [dot]) :
    IsLastComponent (path ++ slash :: last) component := by
  obtain ⟨⟨front, trailer, rfl, starts, isTrailer⟩, noSlash, nonempty, notDot⟩ := isLast
  refine ⟨⟨front, trailer ++ slash :: last, by simp only [List.append_assoc], starts, ?_⟩, noSlash,
    nonempty, notDot⟩
  rcases skipped with rfl | rfl
  · exact isTrailer.append_slash
  · exact isTrailer.append_slashDot

theorem IsLastComponent.getLast?_components
    {path component : Bytes}
    (isLast : IsLastComponent path component) :
    (components path).getLast? = some component := by
  obtain ⟨⟨front, trailer, rfl, starts, isTrailer⟩, noSlash, nonempty, notDot⟩ := isLast
  rw [components_append_trailer isTrailer]
  have single : components component = [component] := by
    rw [components_of_noSlash noSlash, if_neg (not_or.mpr ⟨nonempty, notDot⟩)]
  rcases starts with rfl | endsWithSlash
  · rw [List.nil_append, single]
    rfl
  · obtain ⟨front, rfl⟩ := List.getLast?_eq_some_iff.mp endsWithSlash
    rw [List.append_assoc, List.singleton_append, components_append_slash, single,
      List.getLast?_concat]

theorem isLastComponent_of_getLast?
    {path component : Bytes}
    (isLast : (components path).getLast? = some component) :
    IsLastComponent path component := by
  induction length_eq : path.length using Nat.strongRecOn generalizing path with
  | _ length inductionHypothesis =>
      rcases not_mem_or_exists_last slash path with noSlash | ⟨front, last, rfl, noSlash⟩
      · rw [components_of_noSlash noSlash] at isLast
        split at isLast
        · contradiction
        next named =>
        obtain ⟨nonempty, notDot⟩ := not_or.mp named
        obtain rfl := Option.some.inj isLast
        exact ⟨⟨[], [], (List.append_nil _).symm, Or.inl rfl, .nothing⟩, noSlash, nonempty, notDot⟩
      · rw [components_append_slash, components_of_noSlash noSlash] at isLast
        split at isLast
        · next skipped =>
          rw [List.append_nil] at isLast
          refine IsLastComponent.append (inductionHypothesis front.length ?_ isLast rfl) skipped
          rw [← length_eq, List.length_append, List.length_cons]
          omega
        · next named =>
          obtain ⟨nonempty, notDot⟩ := not_or.mp named
          rw [List.getLast?_concat] at isLast
          obtain rfl := Option.some.inj isLast
          refine ⟨⟨front ++ [slash], [], ?_, Or.inr List.getLast?_concat, .nothing⟩, noSlash,
            nonempty, notDot⟩
          rw [List.append_nil, List.append_assoc, List.singleton_append]

theorem fileName?_eq_some_iff (path name : Bytes) :
    fileName? path = some name ↔ IsLastComponent path name ∧ name ≠ [dot, dot] := by
  unfold fileName?
  rw [Option.filter_eq_some_iff, bne_iff_ne]
  refine and_congr_left fun _ => ?_
  exact ⟨isLastComponent_of_getLast?, IsLastComponent.getLast?_components⟩

/-! ## The extension -/

theorem nameExtension?_of_not_mem
    {name : Bytes}
    (noDot : dot ∉ name) :
    nameExtension? name = none := by
  unfold nameExtension?
  rw [splitOn_of_not_mem noDot]
  rfl

theorem nameExtension?_append
    (stem : Bytes)
    {extension : Bytes}
    (noDot : dot ∉ extension) :
    nameExtension? (stem ++ dot :: extension) = if stem = [] then none else some extension := by
  have onePiece : stem.splitOn dot = [[]] ↔ stem = [] := by
    constructor
    · intro split_eq
      have joined : [dot].intercalate (stem.splitOn dot) = stem := List.intercalate_splitOn dot
      rw [split_eq] at joined
      exact joined.symm
    · rintro rfl
      rfl
  have twoPieces : ¬(stem.splitOn dot).length + 1 < 2 := by
    have somePiece : 0 < (stem.splitOn dot).length :=
      List.length_pos_of_ne_nil (List.splitOnP_ne_nil _ _)
    omega
  unfold nameExtension?
  rw [splitOn_append_cons, splitOn_of_not_mem noDot]
  simp only [List.length_append, List.length_singleton, twoPieces, List.dropLast_concat, onePiece,
    List.getLast?_concat, false_or]

theorem nameExtension?_eq_some_iff (name extension : Bytes) :
    nameExtension? name = some extension ↔
      ∃ stem, name = stem ++ dot :: extension ∧ stem ≠ [] ∧ dot ∉ extension := by
  constructor
  · intro found
    rcases not_mem_or_exists_last dot name with noDot | ⟨stem, last, rfl, noDot⟩
    · rw [nameExtension?_of_not_mem noDot] at found
      contradiction
    · rw [nameExtension?_append stem noDot] at found
      split at found
      · contradiction
      next nonempty =>
      obtain rfl := Option.some.inj found
      exact ⟨stem, rfl, nonempty, noDot⟩
  · rintro ⟨stem, rfl, nonempty, noDot⟩
    rw [nameExtension?_append stem noDot, if_neg nonempty]

/-- The extension of a path is that of its last component. -/
theorem extension?_eq_some_iff (path extension : Bytes) :
    extension? path = some extension ↔ HasExtension path extension := by
  unfold extension? HasExtension
  rw [Option.bind_eq_some_iff]
  constructor
  · rintro ⟨name, named, found⟩
    obtain ⟨stem, rfl, nonempty, noDot⟩ := (nameExtension?_eq_some_iff name extension).mp found
    obtain ⟨isLast, notUpwards⟩ := (fileName?_eq_some_iff path _).mp named
    exact ⟨stem, isLast, notUpwards, nonempty, noDot⟩
  · rintro ⟨stem, isLast, notUpwards, nonempty, noDot⟩
    exact ⟨_, (fileName?_eq_some_iff path _).mpr ⟨isLast, notUpwards⟩,
      (nameExtension?_eq_some_iff _ extension).mpr ⟨stem, rfl, nonempty, noDot⟩⟩

example :
    extension? (Text.Utf8.encode "charts/a.b.SVG/.") = some (Text.Utf8.encode "SVG") := by
  decide

end PathName
end LatencyChart
