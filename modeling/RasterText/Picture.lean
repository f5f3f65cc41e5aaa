import RasterText.Image

/-!
# Pictures

A picture is what an image file holds: gray or coloured samples of eight or sixteen
bits, with or without alpha.  Conversion to an image spreads gray over the three
colours, fills in full alpha, and brings wide samples down to the nearest eight-bit
value.
-/

namespace RasterText

inductive Depth where
  | eight
  | sixteen
deriving DecidableEq

def Depth.narrow : Depth → Nat → UInt8
  | .eight, value => UInt8.ofNat value
  | .sixteen, value => UInt8.ofNat ((value + 128) / 257)

inductive Sample where
  | gray (value : Nat)
  | grayAlpha (value alpha : Nat)
  | rgb (red green blue : Nat)
  | rgba (red green blue alpha : Nat)
deriving DecidableEq

def Sample.toPixel (depth : Depth) : Sample → Pixel
  | .gray value => ⟨depth.narrow value, depth.narrow value, depth.narrow value, 255⟩
  | .grayAlpha value alpha =>
    ⟨depth.narrow value, depth.narrow value, depth.narrow value, depth.narrow alpha⟩
  | .rgb red green blue => ⟨depth.narrow red, depth.narrow green, depth.narrow blue, 255⟩
  | .rgba red green blue alpha =>
    ⟨depth.narrow red, depth.narrow green, depth.narrow blue, depth.narrow alpha⟩

/-- The samples of pixels with the given number of channels, from their values in
order. -/
def Sample.group (channels : Nat) (values : List Nat) : List Sample :=
  match channels, values with
  | 1, v :: rest => .gray v :: group 1 rest
  | 2, v :: a :: rest => .grayAlpha v a :: group 2 rest
  | 3, r :: g :: b :: rest => .rgb r g b :: group 3 rest
  | 4, r :: g :: b :: a :: rest => .rgba r g b a :: group 4 rest
  | _, _ => []

structure Picture where
  depth : Depth
  width : Nat
  height : Nat
  samples : Array Sample
  size_eq : samples.size = width * height
  width_le : width ≤ extentLimit
  height_le : height ≤ extentLimit

namespace Picture

/-- The picture with the given row-major samples, if they fill the rectangle. -/
def ofSamples? (depth : Depth) (width height : Nat) (samples : Array Sample) : Option Picture :=
  if fits : samples.size = width * height ∧ width ≤ extentLimit ∧ height ≤ extentLimit then
    some ⟨depth, width, height, samples, fits.1, fits.2.1, fits.2.2⟩
  else none

def toImage (picture : Picture) : Image where
  width := picture.width
  height := picture.height
  pixels := picture.samples.map (Sample.toPixel picture.depth)
  size_eq := by simp [picture.size_eq]
  width_le := picture.width_le
  height_le := picture.height_le

end Picture

end RasterText
