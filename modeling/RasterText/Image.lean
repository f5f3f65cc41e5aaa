import RasterText.Pixel

/-!
# Images

An image is a rectangle of pixels, stored row by row from the top.  Either extent
may be zero.  Pixels are read at positions inside the rectangle only, so reading
needs no default value.
-/

namespace RasterText

/-- The greatest width or height of an image, and the greatest number of columns of
a line. -/
def extentLimit : Nat := 4294967295

structure Image where
  width : Nat
  height : Nat
  pixels : Array Pixel
  size_eq : pixels.size = width * height
  width_le : width ≤ extentLimit
  height_le : height ≤ extentLimit

namespace Image

/-- The image with the given row-major pixels, if they fill the rectangle. -/
def ofPixels? (width height : Nat) (pixels : Array Pixel) : Option Image :=
  if fits : pixels.size = width * height ∧ width ≤ extentLimit ∧ height ≤ extentLimit then
    some ⟨width, height, pixels, fits.1, fits.2.1, fits.2.2⟩
  else none

/-- A position inside the rectangle lies inside the stored pixels. -/
theorem index_lt (image : Image) {x y : Nat} (hx : x < image.width) (hy : y < image.height) :
    y * image.width + x < image.pixels.size := by
  rw [image.size_eq, Nat.mul_comm image.width image.height]
  have step : y * image.width + image.width ≤ image.height * image.width := by
    rw [← Nat.succ_mul]
    exact Nat.mul_le_mul_right _ hy
  omega

theorem index_div {width x : Nat} (hx : x < width) (y : Nat) : (y * width + x) / width = y := by
  rw [Nat.mul_comm, Nat.mul_add_div (by omega), Nat.div_eq_of_lt hx, Nat.add_zero]

theorem index_mod {width x : Nat} (hx : x < width) (y : Nat) : (y * width + x) % width = x := by
  rw [Nat.mul_comm, Nat.mul_add_mod, Nat.mod_eq_of_lt hx]

def pixel (image : Image) (x y : Nat) (hx : x < image.width) (hy : y < image.height) : Pixel :=
  have := image.index_lt hx hy
  image.pixels[y * image.width + x]

/-- The image with one pixel replaced; a position outside changes nothing. -/
def set (image : Image) (x y : Nat) (color : Pixel) : Image :=
  if x < image.width ∧ y < image.height then
    { image with
      pixels := image.pixels.setIfInBounds (y * image.width + x) color
      size_eq := by simp [image.size_eq] }
  else image

def row (image : Image) (y : Nat) : List Pixel :=
  (image.pixels.extract (y * image.width) ((y + 1) * image.width)).toList

def IsFilled (image : Image) : Prop :=
  0 < image.width ∧ 0 < image.height

instance (image : Image) : Decidable image.IsFilled := by
  unfold IsFilled
  infer_instance

end Image

end RasterText
