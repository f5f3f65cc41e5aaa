import RasterText.Binary64.Arithmetic
import RasterText.Image

/-!
# Horizontal sampling

A line has one output position for every whole unit of `width * scale`, and output
position `x` shows the source column at `x / scale`.  Both are computed in double
precision, and every result is clamped into the range of image extents.
-/

namespace RasterText

def columnCount (width : Nat) (scale : Binary64) : Nat :=
  (Binary64.ofNat width * scale).floorClamped extentLimit

/-- The source column shown at output position `x`, never past the last one. -/
def sampledColumn (x width : Nat) (scale : Binary64) : Nat :=
  min ((Binary64.ofNat x / scale).floorClamped extentLimit) (width - 1)

def sampledColumns (width : Nat) (scale : Binary64) : List Nat :=
  (List.range (columnCount width scale)).map fun x => sampledColumn x width scale

theorem columnCount_le (width : Nat) (scale : Binary64) :
    columnCount width scale ≤ extentLimit :=
  Binary64.floorClamped_le ..

@[simp] theorem columnCount_zero (scale : Binary64) : columnCount 0 scale = 0 := by
  rw [columnCount, Binary64.ofNat, Binary64.ofRatio_zero_left, Binary64.floorClamped_zero_mul]

@[simp] theorem length_sampledColumns (width : Nat) (scale : Binary64) :
    (sampledColumns width scale).length = columnCount width scale := by
  simp [sampledColumns]

theorem sampledColumn_lt (x : Nat) {width : Nat} (scale : Binary64) (pos : 0 < width) :
    sampledColumn x width scale < width := by
  unfold sampledColumn
  omega

namespace Image

/-- The pixels a line shows of row `y`, one for each output position. -/
def samples (image : Image) (scale : Binary64) (y : Nat) (filled : 0 < image.width)
    (inside : y < image.height) : List Pixel :=
  (List.range (columnCount image.width scale)).map fun x =>
    image.pixel (sampledColumn x image.width scale) y (sampledColumn_lt x scale filled) inside

@[simp] theorem length_samples (image : Image) (scale : Binary64) (y : Nat)
    (filled : 0 < image.width) (inside : y < image.height) :
    (image.samples scale y filled inside).length = columnCount image.width scale := by
  simp [samples]

end Image

end RasterText
