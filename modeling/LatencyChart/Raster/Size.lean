import LatencyChart.Raster.Paint

/-!
# Painting keeps the size of a picture

Everything that is painted changes pixels one by one, and changing a pixel keeps the numbers of
columns and rows.  So a drawing has the size of the picture that it was started on.
-/

namespace LatencyChart
namespace Bitmap

/-- What each step over a range of integers keeps holds after all of them. -/
theorem overRange_induction {State : Type}
    {holds : State → Prop}
    {step : Int → State → State}
    (kept : ∀ position state, holds state → holds (step position state))
    (count : Nat)
    (first : Int)
    {state : State}
    (initially : holds state) :
    holds (overRange step count first state) := by
  induction count generalizing first state with
  | zero => exact initially
  | succ count inductionHypothesis => exact inductionHypothesis _ (kept first state initially)

theorem size_overRange
    {step : Int → Bitmap → Bitmap}
    (kept : ∀ position bitmap, (step position bitmap).size = bitmap.size)
    (count : Nat)
    (first : Int)
    (bitmap : Bitmap) :
    (overRange step count first bitmap).size = bitmap.size := by
  have keptFrom : ∀ position current, current.size = bitmap.size →
      (step position current).size = bitmap.size := by
    intro position current same
    rw [kept, same]
  exact overRange_induction keptFrom count first rfl

theorem size_foldl {Item : Type}
    {step : Bitmap → Item → Bitmap}
    (kept : ∀ bitmap item, (step bitmap item).size = bitmap.size)
    (items : List Item)
    (bitmap : Bitmap) :
    (items.foldl step bitmap).size = bitmap.size := by
  induction items generalizing bitmap with
  | nil => rfl
  | cons item items inductionHypothesis =>
      rw [List.foldl_cons, inductionHypothesis, kept]

/-! ## Pixels and boxes -/

@[simp] theorem size_modify
    (bitmap : Bitmap)
    (x y : Int)
    (red green blue : UInt8 → UInt8) :
    (bitmap.modify x y red green blue).size = bitmap.size := by
  unfold modify
  split <;> rfl

@[simp] theorem size_set
    (bitmap : Bitmap)
    (color : Color)
    (x y : Int) :
    (bitmap.set color x y).size = bitmap.size :=
  size_modify ..

@[simp] theorem size_cover
    (bitmap : Bitmap)
    (color : Color)
    (opacity : Float)
    (x y : Int) :
    (bitmap.cover color opacity x y).size = bitmap.size := by
  unfold cover
  split
  · exact size_set ..
  · split
    · rfl
    · exact size_modify ..

@[simp] theorem size_filled
    (size : Size)
    (color : Color) :
    (filled size color).size = size := rfl

@[simp] theorem size_fillBox
    (bitmap : Bitmap)
    (color : Color)
    (first last : Point) :
    (bitmap.fillBox color first last).size = bitmap.size := by
  apply size_overRange
  intro y row
  exact size_overRange (fun _ _ => size_set ..) _ _ row

@[simp] theorem size_coverBox
    (bitmap : Bitmap)
    (color : Color)
    (opacity : Float)
    (first last : Point) :
    (bitmap.coverBox color opacity first last).size = bitmap.size := by
  apply size_overRange
  intro y row
  rw [size_overRange (fun _ _ => size_cover ..), size_overRange (fun _ _ => size_modify ..)]

/-! ## Lines -/

@[simp] theorem size_course_cover
    (course : Course)
    (color : Color)
    (x y : Int)
    (opacity : Float)
    (bitmap : Bitmap) :
    (course.cover color x y opacity bitmap).size = bitmap.size := by
  unfold Course.cover
  split <;> exact size_cover ..

theorem size_coverSteps
    (course : Course)
    (color : Color)
    (gradient : Float)
    (count : Nat)
    (x : Int)
    (y : Float)
    (bitmap : Bitmap) :
    (course.coverSteps color gradient count x y bitmap).1.size = bitmap.size := by
  induction count generalizing x y bitmap with
  | zero => rfl
  | succ count inductionHypothesis =>
      rw [Course.coverSteps, inductionHypothesis, size_course_cover, size_course_cover]

theorem size_coverLast
    (course : Course)
    (color : Color)
    (stop : Int)
    (y : Float)
    (bitmap : Bitmap) :
    (course.coverLast color stop y bitmap).size = bitmap.size := by
  simp only [Course.coverLast, apply_ite Bitmap.size, size_course_cover, ite_self]

@[simp] theorem size_course_draw
    (course : Course)
    (color : Color)
    (bitmap : Bitmap) :
    (course.draw color bitmap).size = bitmap.size := by
  unfold Course.draw
  rw [size_coverLast, size_coverSteps]

@[simp] theorem size_line
    (bitmap : Bitmap)
    (color : Color)
    (first last : Point) :
    (bitmap.line color first last).size = bitmap.size := by
  unfold line
  split
  · exact size_fillBox ..
  · split
    · exact size_overRange (fun _ _ => size_set ..) _ _ bitmap
    · exact size_course_draw ..

/-! ## Discs, paths and polygons -/

@[simp] theorem size_disc
    (bitmap : Bitmap)
    (color : Color)
    (center : Point)
    (radius : Nat) :
    (bitmap.disc color center radius).size = bitmap.size := by
  apply size_overRange
  intro step picture
  simp only [discStep, size_cover, size_line]

@[simp] theorem size_thinPath
    (bitmap : Bitmap)
    (color : Color)
    (points : List Point) :
    (bitmap.thinPath color points).size = bitmap.size :=
  size_foldl (fun _ _ => size_line ..) _ bitmap

theorem size_sweepLine
    (color : Color)
    (alongX : Bool)
    (position : Int)
    (sweep : Polygon.Sweep) :
    (Polygon.sweepLine color alongX position sweep).bitmap.size = sweep.bitmap.size := by
  apply size_foldl
  intro picture ends
  simp only [Polygon.fillBetween, size_cover, size_line]

@[simp] theorem size_polygon
    (bitmap : Bitmap)
    (color : Color)
    (corners : List Point) :
    (bitmap.polygon color corners).size = bitmap.size := by
  unfold polygon
  split
  · rfl
  · split
    · exact size_line ..
    · have kept (alongX : Bool) : ∀ position (sweep : Polygon.Sweep),
          sweep.bitmap.size = bitmap.size →
            (Polygon.sweepLine color alongX position sweep).bitmap.size = bitmap.size := by
        intro position sweep same
        rw [size_sweepLine, same]
      exact overRange_induction (kept _) _ _ rfl

/-! ## Drawings -/

/-- A background covers the whole picture, and any other element changes some of its pixels. -/
@[simp] theorem size_paint
    (bitmap : Bitmap)
    (element : Element) :
    (bitmap.paint element).size = bitmap.size := by
  cases element with
  | background color => exact size_filled ..
  | segment first last stroke => exact size_coverBox ..
  | path points stroke =>
      rw [paint]
      split
      · exact size_thinPath ..
      · exact size_polygon ..
  | disc center radius color => exact size_disc ..
  | caption _ => rfl

@[simp] theorem size_ofDrawing
    (size : Size)
    (drawing : List Element) :
    (ofDrawing size drawing).size = size :=
  size_foldl size_paint drawing (blank size)

end Bitmap
end LatencyChart
