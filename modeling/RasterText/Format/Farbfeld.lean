import RasterText.Reading

/-!
# Farbfeld files

The name of the format, the extent, and four samples of sixteen bits for every pixel, all
numbers with the high byte first.
-/

namespace RasterText.Farbfeld

/-- The extent of a picture.  A heading that is cut off is taken for a wrong one. -/
def extent : Reading (Nat × Nat) :=
  Reading.masked do
    Reading.mark "farbfeld"
    let width ← Reading.big 4
    let height ← Reading.big 4
    pure (width, height)

def picture : Reading Picture := do
  let (width, height) ← extent
  Reading.check (width * height * 8 ≤ 0xffffffffffffffff) .unsupported
  Reading.reserve width height 8
  let raster ← Reading.take (width * height * 8)
  Reading.picture .sixteen width height (Sample.group 4 (bigPairs raster))

end RasterText.Farbfeld
