/-!
# The look of a chart

A style fixes the size of the figure, its texts, the colour and width of the line, and the
room kept for margins and labels. Lengths are in pixels unless they say otherwise.
-/

namespace LatencyChart

/-- A colour of three channels. -/
structure Color where
  red : UInt8
  green : UInt8
  blue : UInt8
  deriving DecidableEq, Repr

/-- The colour of the background. -/
def Color.white : Color := ⟨255, 255, 255⟩

/-- The colour of texts, axes and mesh lines. -/
def Color.black : Color := ⟨0, 0, 0⟩

/-- A width and a height in pixels. -/
structure Size where
  width : Nat
  height : Nat
  deriving DecidableEq, Repr

/-- The look of a chart. The defaults are the look of every chart drawn from the command
line. -/
structure Style where
  /-- The size of the figure in units. -/
  figure : Size := ⟨10, 5⟩
  pixelsPerUnit : Nat := 100
  title : String := "RTT vs Time"
  timeDescription : String := "Time (s)"
  rttDescription : String := "RTT (ms)"
  lineColor : Color := ⟨31, 119, 180⟩
  lineWidth : Nat := 1
  markerRadius : Nat := 2
  margin : Nat := 15
  /-- The height kept for the labels of the time axis. -/
  timeLabelRoom : Nat := 45
  /-- The width kept for the labels of the round-trip time axis. -/
  rttLabelRoom : Nat := 70
  titleFont : Nat := 22
  labelFont : Nat := 15

/-- The number of pixels of a length in units. There is none when it has more than 32 bits. -/
def Style.length? (style : Style) (units : Nat) : Option Nat :=
  if units * style.pixelsPerUnit < Nat.pow 2 32 then some (units * style.pixelsPerUnit) else none

/-- The size of the whole figure in pixels. There is none when a length has more than 32 bits. -/
def Style.pixels? (style : Style) : Option Size := do
  return ⟨← style.length? style.figure.width, ← style.length? style.figure.height⟩

/-- The lengths of a size have at most 32 bits. -/
def Size.IsShort (size : Size) : Prop :=
  size.width < Nat.pow 2 32 ∧ size.height < Nat.pow 2 32

instance (size : Size) : Decidable size.IsShort :=
  inferInstanceAs (Decidable (_ ∧ _))

namespace Style

/-- The size of the whole figure in pixels, however large it is. -/
def exactPixels (style : Style) : Size :=
  ⟨style.figure.width * style.pixelsPerUnit, style.figure.height * style.pixelsPerUnit⟩

theorem pixels?_eq_some_iff {style : Style} {size : Size} :
    style.pixels? = some size ↔ style.exactPixels.IsShort ∧ size = style.exactPixels := by
  unfold pixels? length?
  rcases Decidable.em (style.figure.width * style.pixelsPerUnit < Nat.pow 2 32) with
    shortWidth | longWidth
  · rcases Decidable.em (style.figure.height * style.pixelsPerUnit < Nat.pow 2 32) with
      shortHeight | longHeight
    · rw [if_pos shortWidth, if_pos shortHeight]
      constructor
      · intro sized
        exact ⟨⟨shortWidth, shortHeight⟩, (Option.some.inj sized).symm⟩
      · rintro ⟨-, rfl⟩
        rfl
    · rw [if_pos shortWidth, if_neg longHeight]
      exact ⟨nofun, fun fits => absurd fits.1.2 longHeight⟩
  · rw [if_neg longWidth]
    exact ⟨nofun, fun fits => absurd fits.1.1 longWidth⟩

/-- A figure is too large when one of its lengths is. -/
theorem pixels?_eq_none_iff {style : Style} :
    style.pixels? = none ↔ ¬style.exactPixels.IsShort := by
  rw [Option.eq_none_iff_forall_ne_some]
  constructor
  · intro noSize short
    exact noSize style.exactPixels (pixels?_eq_some_iff.mpr ⟨short, rfl⟩)
  · intro tooLong size sized
    exact tooLong (pixels?_eq_some_iff.mp sized).1

end Style
end LatencyChart
