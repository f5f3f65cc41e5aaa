import RasterText.Binary64.Rounding
import RasterText.Portable.Header

/-!
# Samples of portable maps

The samples of a map follow its header, row by row.  They are written as words between
blanks or as bytes, two to a wide sample, the high byte first; bits are digits or are
packed eight to a byte, and a set bit is black.  Samples are brought from the range of
the map to the full range of their width, by a factor of single precision.
-/

namespace RasterText.Portable

def wordsOf (bytes : List UInt8) : List (List Char) :=
  ((bytes.splitOnP isBlank).filter (!·.isEmpty)).map fun word => word.map charOf

def plainValues? (limit count : Nat) (bytes : List UInt8) : Option (List Nat) :=
  let words := (wordsOf bytes).take count
  if words.length < count then none else words.mapM (number? limit)

def lightOf (set : Bool) : Nat :=
  if set then 0 else 1

/-- The values of the first digits of a plain bit map; blanks may stand between them. -/
def plainBits? (count : Nat) (bytes : List UInt8) : Option (List Nat) :=
  let digits := (bytes.filter (!isBlank ·)).take count
  if digits.length < count ∨ !digits.all (fun digit => digit == 48 || digit == 49) then none
  else some (digits.map fun digit => lightOf (digit == 49))

def bitsOf (byte : UInt8) : List Nat :=
  (List.range 8).map fun place => lightOf (byte.toNat.testBit (7 - place))

/-- The values of a packed bit map, in which every row starts a new byte. -/
def packedBits (width height : Nat) (bytes : List UInt8) : List Nat :=
  (groupsOf ((width + 7) / 8) height bytes).flatMap fun row => (row.flatMap bitsOf).take width

/-- The ratio of single precision that is nearest to a ratio: 24 binary places are kept,
and ties go to even. -/
def nearestSingle (num den : Nat) : Nat × Nat :=
  let exp := log2Ratio num den - 23
  let mant := roundDiv (num <<< (-exp).toNat) (den <<< exp.toNat)
  (mant <<< exp.toNat, 1 <<< (-exp).toNat)

/-- The greatest value that a sample of the width of the map's samples can have. -/
def Header.full (header : Header) : Nat :=
  if header.wide then 0xffff else 0xff

/-- A value in the full range: the product with the quotient of the two greatest values,
both of single precision, rounded to nearest with a half going up, and never above the
range. -/
def Header.stretch (header : Header) (value : Nat) : Nat :=
  if header.greatest = header.full then value
  else
    let greatest := nearestSingle header.greatest 1
    let factor := nearestSingle (header.full * greatest.2) greatest.1
    let product := nearestSingle (value * factor.1) factor.2
    min header.full ((2 * product.1 + product.2) / (2 * product.2))

def Header.values (header : Header) : Reading (List Nat) := do
  let count := header.width * header.height * header.channels
  let plain (values? : Option (List Nat)) : Reading (List Nat) :=
    match values? with
    | some values => pure values
    | none => Reading.fail .undecodable
  match header.raster with
  | .plainBits => plain (plainBits? count (← get))
  | .plain => plain (plainValues? header.full count (← get))
  | .packedBits =>
    if count = 0 then pure []
    else
      let bytes ← Reading.take ((header.width + 7) / 8 * header.height)
      pure (packedBits header.width header.height bytes)
  | .binary =>
    if header.wide then bigPairs <$> Reading.take (2 * count)
    else
      let values := (← Reading.take count).map UInt8.toNat
      Reading.check (!header.bits || values.all (· ≤ 1)) .undecodable
      pure values

def Header.pixelSize (header : Header) : Nat :=
  if header.wide then 2 * header.channels else header.channels

def picture : Reading Picture := do
  let header ← header
  Reading.check (header.width * header.height * header.pixelSize ≤ 0xffffffffffffffff)
    .unsupported
  Reading.reserve header.width header.height header.pixelSize
  let values := (← header.values).map header.stretch
  Reading.picture (if header.wide then .sixteen else .eight) header.width header.height
    (Sample.group header.channels values)

end RasterText.Portable
