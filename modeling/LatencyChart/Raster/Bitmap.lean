import LatencyChart.Chart.Geometry
import LatencyChart.Number.Binary64

/-!
# Bitmaps

A bitmap holds three bytes per pixel, row by row. Every change of a pixel keeps the number
of bytes, and points outside the image are ignored.
-/

namespace LatencyChart

/-- Replacing a byte keeps the number of bytes. -/
theorem size_byteArray_set
    (data : ByteArray)
    (index : Nat)
    (value : UInt8)
    (inBounds : index < data.size) :
    (data.set index value inBounds).size = data.size := by
  cases data with
  | mk bytes => exact Array.size_set inBounds

/-- A picture of `width` columns and `height` rows. -/
structure Bitmap where
  width : Nat
  height : Nat
  /-- The red, green and blue channels of each pixel, row by row. -/
  data : ByteArray
  size_eq : data.size = 3 * (width * height)

namespace Bitmap

/-- Append a number of pixels of one colour. -/
def pushPixels (color : Color) : Nat → ByteArray → ByteArray
  | 0, data => data
  | count + 1, data =>
      pushPixels color count (((data.push color.red).push color.green).push color.blue)

theorem size_pushPixels
    (color : Color)
    (count : Nat)
    (data : ByteArray) :
    (pushPixels color count data).size = data.size + 3 * count := by
  induction count generalizing data with
  | zero => rfl
  | succ count inductionHypothesis =>
      rw [pushPixels, inductionHypothesis]
      simp only [ByteArray.size_push]
      omega

/-- The picture of one colour. -/
def filled (size : Size) (color : Color) : Bitmap where
  width := size.width
  height := size.height
  data := pushPixels color (size.width * size.height)
    (ByteArray.emptyWithCapacity (3 * (size.width * size.height)))
  size_eq := by
    rw [size_pushPixels]
    exact Nat.zero_add _

/-- The black picture. -/
def blank (size : Size) : Bitmap := filled size Color.black

/-- The size of a picture. -/
def size (bitmap : Bitmap) : Size := ⟨bitmap.width, bitmap.height⟩

/-- Every pixel inside the image has all its three bytes. -/
theorem offset_lt
    {x y width height : Nat}
    (xInside : x < width)
    (yInside : y < height) :
    3 * (y * width + x) + 2 < 3 * (width * height) := by
  have row : y * width + x < (y + 1) * width := by
    rw [Nat.succ_mul]
    omega
  have rows : (y + 1) * width ≤ height * width := Nat.mul_le_mul_right width yInside
  rw [Nat.mul_comm width height]
  omega

/-- Change the pixel at a point; a point outside the image changes nothing. -/
@[inline] def modify
    (bitmap : Bitmap)
    (x y : Int)
    (red green blue : UInt8 → UInt8) : Bitmap :=
  if inside : (0 ≤ x ∧ x.toNat < bitmap.width) ∧ 0 ≤ y ∧ y.toNat < bitmap.height then
    match bitmap, inside with
    | ⟨width, height, data, size_eq⟩, inside =>
        let offset := 3 * (y.toNat * width + x.toNat)
        have bound : offset + 2 < data.size := size_eq ▸ offset_lt inside.1.2 inside.2.2
        have firstBound : offset < data.size := by omega
        let first := data.set offset (red (data.get offset firstBound)) firstBound
        have secondBound : offset + 1 < first.size := by
          rw [size_byteArray_set]
          omega
        let second := first.set (offset + 1) (green (first.get (offset + 1) secondBound)) secondBound
        have thirdBound : offset + 2 < second.size := by
          rw [size_byteArray_set, size_byteArray_set]
          exact bound
        { width := width
          height := height
          data := second.set (offset + 2) (blue (second.get (offset + 2) thirdBound)) thirdBound
          size_eq := by
            rw [size_byteArray_set, size_byteArray_set, size_byteArray_set]
            exact size_eq }
  else
    bitmap

/-- Give the pixel at a point a colour. -/
def set
    (bitmap : Bitmap)
    (color : Color)
    (x y : Int) : Bitmap :=
  bitmap.modify x y (fun _ => color.red) (fun _ => color.green) (fun _ => color.blue)

/-- Move a channel toward a new value by `weight / 256` of their distance, rounded toward
the old value. -/
def mixChannel (weight : Nat) (new old : UInt8) : UInt8 :=
  let distance (larger smaller : UInt8) : UInt8 :=
    (((larger.toNat - smaller.toNat) * weight) / 256).toUInt8
  if old < new then old + distance new old else old - distance old new

/-- The weighted mean of a new and an old value of a channel, rounded down. -/
def averageChannel (weight : Nat) (new old : UInt8) : UInt8 :=
  ((old.toNat * (256 - weight) + new.toNat * weight) / 256).toUInt8

/-- The part of 256 that stands for an opacity. -/
def weightOf (opacity : Float) : Nat :=
  Binary64.toCount (256.0 * opacity)

/-- Cover the pixel at a point with a colour. An opacity within `1 / 256` of one covers it
wholly, and one that is not positive leaves it as it is. -/
def cover
    (bitmap : Bitmap)
    (color : Color)
    (opacity : Float)
    (x y : Int) : Bitmap :=
  if opacity ≥ 0.99609375 then bitmap.set color x y
  else if opacity ≤ 0.0 then bitmap
  else
    let weight := weightOf opacity
    bitmap.modify x y (mixChannel weight color.red) (mixChannel weight color.green)
      (mixChannel weight color.blue)

/-- Apply a step for `count` consecutive integers from `first` on, in order. -/
@[specialize] def overRange {State : Type}
    (step : Int → State → State) : Nat → Int → State → State
  | 0, _, state => state
  | count + 1, first, state => overRange step count (first + 1) (step first state)

/-- The part of a box that lies inside the image, with its corners in order. -/
def clip
    (bitmap : Bitmap)
    (first last : Point) : Box :=
  { left := max 0 (min first.x last.x)
    top := max 0 (min first.y last.y)
    right := min bitmap.width (max first.x last.x)
    bottom := min bitmap.height (max first.y last.y) }

/-- Give a colour to all pixels between two corners, the right and bottom edges excluded. -/
def fillBox
    (bitmap : Bitmap)
    (color : Color)
    (first last : Point) : Bitmap :=
  let box := bitmap.clip first last
  overRange
    (fun y picture =>
      overRange (fun x picture => picture.set color x y) box.width.toNat box.left picture)
    box.height.toNat box.top bitmap

/-- Cover all pixels between two corners, the right and bottom edges excluded. In each row
all pixels up to the last full group of eight before the end are averaged, and the others
are mixed. -/
def coverBox
    (bitmap : Bitmap)
    (color : Color)
    (opacity : Float)
    (first last : Point) : Bitmap :=
  let box := bitmap.clip first last
  let weight := weightOf opacity
  let columns := box.width.toNat
  let averaged := 8 * ((columns - 1) / 8)
  overRange
    (fun y picture =>
      overRange (fun x picture => picture.cover color opacity x y) (columns - averaged)
        (box.left + averaged)
        (overRange
          (fun x picture =>
            picture.modify x y (averageChannel weight color.red)
              (averageChannel weight color.green) (averageChannel weight color.blue))
          averaged box.left picture))
    box.height.toNat box.top bitmap

end Bitmap
end LatencyChart
