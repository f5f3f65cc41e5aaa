import RasterText.Reading

/-!
# Bitmap files

A file header, a second header of one of several sizes that tells the extent and the
coding of the pixels, a palette or the masks of the channels, and the rows, from the
bottom up unless the height is negative.  The second header with what follows it also
stands in the entries of icon files, where the rows of a mask count as rows.
-/

namespace RasterText.Bitmap

inductive Coding where
  | palette
  | masks
  | rgb
  | rgba
  | runs
deriving DecidableEq

structure Mask where
  shift : Nat
  length : Nat
deriving DecidableEq

structure Masks where
  red : Mask
  green : Mask
  blue : Mask
  alpha : Mask
deriving DecidableEq

structure Layout where
  width : Nat
  height : Nat
  topDown : Bool
  bits : Nat
  coding : Coding
  masks : Masks
  alpha : Bool
  palette : List (List UInt8)
  start : Nat

def setBits (value places : Nat) : Nat :=
  (List.range places).countP value.testBit

def lowestBit (value : Nat) : Nat :=
  ((List.range 32).find? value.testBit).getD 0

/-- The mask in a number of 32 bits.  Its bits must be adjacent and lie in a pixel; of
more than eight the upper ones count. -/
def Mask.of (value pixelBits : Nat) : Except LoadFailure Mask :=
  let shift := lowestBit value
  let length := setBits value 32
  if value = 0 then .ok ⟨0, 0⟩
  else if value >>> shift + 1 ≠ 1 <<< length ∨ pixelBits < length + shift then
    .error .undecodable
  else if 8 < length then .ok ⟨shift + (length - 8), 8⟩
  else .ok ⟨shift, length⟩

def Mask.channel (mask : Mask) (pixel : Nat) : Nat :=
  let full := 1 <<< mask.length - 1
  let value := (pixel >>> mask.shift) % (full + 1)
  if full = 0 then 0 else (2 * 255 * value + full) / (2 * full)

def fiveBits : Masks :=
  ⟨⟨10, 5⟩, ⟨5, 5⟩, ⟨0, 5⟩, ⟨0, 0⟩⟩

def signed (value : Nat) : Int :=
  if value < 0x80000000 then value else (value : Int) - 0x100000000

def headerSizes : List Nat :=
  [40, 52, 56, 108, 124]

/-- The coding that the headers announce, by the method and the bits of a pixel. -/
def codingOf (method bits : Nat) (inIcon : Bool) : Except LoadFailure Coding :=
  match method with
  | 0 =>
    if bits ∈ [1, 2, 4, 8] then .ok .palette
    else if bits = 16 then .ok .masks
    else if bits = 24 then .ok .rgb
    else if bits = 32 then .ok (if inIcon then .rgba else .rgb)
    else .error .undecodable
  | 1 => if bits = 8 then .ok .runs else .error .undecodable
  | 2 => if bits = 4 then .ok .runs else .error .undecodable
  | 3 => if bits = 16 ∨ bits = 32 then .ok .masks else .error .undecodable
  | _ => .error .undecodable

structure Heading where
  width : Nat
  height : Nat
  topDown : Bool
  bits : Nat
  method : Nat
  coding : Coding
  coloursUsed : Nat

def shortHeading : Reading Heading := do
  let width ← Reading.little 2
  let height ← Reading.little 2
  Reading.check (0 < width && 0 < height) .unsupported
  Reading.check ((← Reading.little 2) == 1) .undecodable
  let bits ← Reading.little 2
  Reading.check ([1, 4, 8, 24].contains bits) .undecodable
  pure ⟨width, height, false, bits, 0, if bits = 24 then .rgb else .palette, 0⟩

def longHeading (inIcon : Bool) : Reading Heading := do
  let width := signed (← Reading.little 4)
  let height := signed (← Reading.little 4)
  Reading.check (0 ≤ width && width ≤ 0xffff && height ≤ 0xffff && height ≠ -0x80000000)
    .undecodable
  Reading.check (width ≠ 0 && height ≠ 0) .unsupported
  Reading.check ((← Reading.little 2) == 1) .undecodable
  let bits ← Reading.little 2
  let method ← Reading.little 4
  Reading.check (0 ≤ height || method == 0 || method == 3) .undecodable
  let coding ← Reading.settle (codingOf method bits inIcon)
  Reading.skip 12
  let coloursUsed ← Reading.little 4
  Reading.skip 4
  pure ⟨width.toNat, height.natAbs, height < 0, bits, method, coding, coloursUsed⟩

/-- Reads the masks of the channels, which must be there for the colours.  Only the
longer headers have one for alpha. -/
def readMasks (headerSize bits : Nat) : Reading Masks := do
  let red ← Reading.little 4
  let green ← Reading.little 4
  let blue ← Reading.little 4
  let alpha ← if 56 ≤ headerSize then Reading.little 4 else pure 0
  let masks : Masks := {
    red := ← Reading.settle (Mask.of red bits)
    green := ← Reading.settle (Mask.of green bits)
    blue := ← Reading.settle (Mask.of blue bits)
    alpha := ← Reading.settle (Mask.of alpha bits) }
  Reading.check (masks.red.length ≠ 0 && masks.green.length ≠ 0 && masks.blue.length ≠ 0)
    .undecodable
  pure masks

/-- Reads the palette: as many colours as the header says, or else as many as a pixel can
tell apart. -/
def readPalette (entrySize bits coloursUsed : Nat) : Reading (List (List UInt8)) := do
  Reading.check (coloursUsed ≤ 1 <<< bits) .undecodable
  let count := if coloursUsed = 0 then 1 <<< bits else coloursUsed
  groupsOf entrySize count <$> Reading.take (entrySize * count)

def readLayout (content : List UInt8) (place : Nat) (start? : Option Nat) (inIcon : Bool) :
    Reading Layout := do
  Reading.goTo content place
  let size ← Reading.little 4
  Reading.check (12 ≤ size) .undecodable
  Reading.check (size == 12 || headerSizes.contains size) .unsupported
  let heading ← if size = 12 then shortHeading else longHeading inIcon
  let masks ← if heading.method = 3 then readMasks size heading.bits else pure fiveBits
  let maskSpace := if heading.method = 3 ∧ size ≤ 56 then 12 else 0
  Reading.goTo content (place + size + maskSpace)
  let entrySize := if size = 12 then 3 else 4
  let listed := heading.coding = .palette ∨ heading.coding = .runs
  let palette ←
    if listed then readPalette entrySize heading.bits heading.coloursUsed else pure []
  let rest := (← get).length
  pure {
    width := heading.width
    height := heading.height
    topDown := heading.topDown
    bits := heading.bits
    coding := heading.coding
    masks := masks
    alpha := inIcon || masks.alpha.length ≠ 0
    palette := palette
    start := start?.getD (content.length - rest) }

namespace Layout

def rowSize (layout : Layout) : Nat :=
  (layout.bits * layout.width + 31) / 32 * 4

def sample (layout : Layout) (red green blue alpha : Nat) : Sample :=
  if layout.alpha then .rgba red green blue alpha else .rgb red green blue

/-- The colour of the palette at a place; places beyond it are black. -/
def listed (layout : Layout) (place : Nat) : Sample :=
  match layout.palette.getD place [] with
  | blue :: green :: red :: _ => layout.sample red.toNat green.toNat blue.toNat 255
  | _ => layout.sample 0 0 0 255

/-- The places in the palette that a byte holds, the high bits first. -/
def places (layout : Layout) (byte : UInt8) : List Nat :=
  (List.range (8 / layout.bits)).map fun index =>
    (byte.toNat >>> (8 - layout.bits * (index + 1))) % (1 <<< layout.bits)

def plainSample (layout : Layout) (bytes : List UInt8) : Sample :=
  let part (place : Nat) : Nat := (bytes.getD place 0).toNat
  match layout.coding with
  | .masks =>
    let pixel := littleNumber bytes
    let alpha := if layout.masks.alpha.length = 0 then 255 else layout.masks.alpha.channel pixel
    layout.sample (layout.masks.red.channel pixel) (layout.masks.green.channel pixel)
      (layout.masks.blue.channel pixel) alpha
  | .rgba => layout.sample (part 2) (part 1) (part 0) (part 3)
  | _ => layout.sample (part 2) (part 1) (part 0) 255

def rowSamples (layout : Layout) (row : List UInt8) : List Sample :=
  if layout.coding = .palette then
    ((row.flatMap layout.places).take layout.width).map layout.listed
  else (groupsOf (layout.bits / 8) layout.width row).map layout.plainSample

def plainSamples (layout : Layout) : Reading (List Sample) := do
  let raster ← Reading.take (layout.rowSize * layout.height)
  let rows := (groupsOf layout.rowSize layout.height raster).map layout.rowSamples
  pure (if layout.topDown then rows else rows.reverse).flatten

def blank (layout : Layout) : Sample :=
  layout.sample 0 0 0 0

def filled (layout : Layout) (row : List Sample) : List Sample :=
  row ++ List.replicate (layout.width - row.length) layout.blank

/-- The pixels of a run of one byte, whose places in the palette are told in turn. -/
def run (layout : Layout) (count : Nat) (byte : UInt8) : List Sample :=
  ((List.replicate count (layout.places byte)).flatten.take count).map layout.listed

def literal (layout : Layout) (count : Nat) (bytes : List UInt8) : List Sample :=
  ((bytes.flatMap layout.places).take count).map layout.listed

/-- Reads rows in runs.  The rows that are done and the pixels of the open row are kept;
every step takes two bytes at least, so there are no more steps than bytes. -/
def runRows (layout : Layout) (steps : Nat) (done : List (List Sample)) (row : List Sample) :
    Reading (List (List Sample)) :=
  if layout.height ≤ done.length then pure done
  else
    match steps with
    | 0 => Reading.fail (.io .unexpectedEof)
    | steps + 1 => do
      let count ← Reading.byte
      let value ← Reading.byte
      if 0 < count then
        let row := row ++ layout.run count (UInt8.ofNat value)
        Reading.check (row.length ≤ layout.width) .undecodable
        layout.runRows steps done row
      else if value = 0 then layout.runRows steps (done ++ [layout.filled row]) []
      else if value = 1 then
        pure (done ++ [layout.filled row] ++
          List.replicate (layout.height - done.length - 1) (layout.filled []))
      else if value = 2 then
        let right ← Reading.byte
        let down ← Reading.byte
        let indent := row.length + right
        Reading.check (done.length + down < layout.height && indent ≤ layout.width) .undecodable
        if down = 0 then
          layout.runRows steps done (row ++ List.replicate right layout.blank)
        else
          layout.runRows steps
            (done ++ [layout.filled row] ++ List.replicate (down - 1) (layout.filled []))
            (List.replicate indent layout.blank)
      else
        let size := (value * layout.bits + 15) / 16 * 2
        let row := row ++ layout.literal value (← Reading.take size)
        Reading.check (row.length ≤ layout.width) .undecodable
        layout.runRows steps done row

def samples (layout : Layout) (content : List UInt8) : Reading (List Sample) := do
  Reading.goTo content layout.start
  if layout.coding = .runs then
    let rows ← layout.runRows (← get).length [] []
    pure rows.reverse.flatten
  else layout.plainSamples

end Layout

def picture (content : List UInt8) : Reading Picture := do
  Reading.mark "BM"
  Reading.skip 8
  let start ← Reading.little 4
  let layout ← readLayout content 14 (some start) false
  Reading.reserve layout.width layout.height (if layout.alpha then 4 else 3)
  Reading.picture .eight layout.width layout.height (← layout.samples content)

end RasterText.Bitmap
