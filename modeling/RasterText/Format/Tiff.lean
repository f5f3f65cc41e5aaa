import RasterText.Reading

/-!
# Tiff files

A directory, which can lie anywhere in the file, holds fields with tags.  They tell the
extent, how samples are written, and where the strips lie that the rows are divided into.
Samples are read that are whole numbers of one, eight or sixteen bits and that are not
compressed.
-/

namespace RasterText.Tiff

/-- How a file writes its numbers: in which order their bytes stand, and how many bytes a
place in the file takes. -/
structure Convention where
  lowFirst : Bool
  placeSize : Nat

def Convention.number (convention : Convention) (bytes : List UInt8) : Nat :=
  if convention.lowFirst then littleNumber bytes else bigNumber bytes

def Convention.read (convention : Convention) (size : Nat) : Reading Nat :=
  convention.number <$> Reading.take size

/-- A field of the directory: the kind and the number of its values, and the values
themselves if they fit, or else the place where they are. -/
structure Field where
  kind : Nat
  count : Nat
  body : List UInt8

def valueSize? (kind : Nat) : Option Nat :=
  if kind ∈ [1, 2, 6, 7] then some 1
  else if kind ∈ [3, 8] then some 2
  else if kind ∈ [4, 9, 11, 13] then some 4
  else if kind ∈ [5, 10, 12, 16, 17, 18] then some 8
  else none

def isUnsigned (kind : Nat) : Bool :=
  [1, 3, 4, 7, 13, 16, 18].contains kind

/-- The content of a file and its directory.  Of fields with the same tag the first one
listed counts. -/
structure Directory where
  content : List UInt8
  convention : Convention
  fields : List (Nat × Field)

/-- Reads fields and lists them before others.  A field of an unknown kind is passed over as
if its place took four bytes. -/
def readFields (convention : Convention) : Nat → List (Nat × Field) →
    Reading (List (Nat × Field))
  | 0, fields => pure fields
  | count + 1, fields => do
    let tag ← convention.read 2
    let kind ← convention.read 2
    if (valueSize? kind).isNone then
      Reading.skip 8
      readFields convention count fields
    else
      let number ← convention.read convention.placeSize
      let body ← Reading.take convention.placeSize
      readFields convention count ((tag, ⟨kind, number, body⟩) :: fields)

def placeLimit : Nat := 0xffffffff000

def seek (content : List UInt8) (place : Nat) : Reading Unit := do
  Reading.check (place ≤ placeLimit) (.io .invalidInput)
  Reading.goTo content place

/-- The convention that the first bytes announce: their order, for which a file may be too
short, and the version, which decides about places. -/
def readConvention (content : List UInt8) : Reading Convention := do
  let order := content.take 2
  Reading.check (order == Text.bytes "II" || order == Text.bytes "MM") .undecodable
  Reading.skip 2
  let narrow : Convention := ⟨order == Text.bytes "II", 4⟩
  let version ← narrow.read 2
  Reading.check (version == 42 || version == 43) .undecodable
  if version = 42 then pure narrow
  else
    Reading.check ((← narrow.read 2) == 8) .undecodable
    Reading.check ((← narrow.read 2) == 0) .undecodable
    pure { narrow with placeSize := 8 }

/-- Reads the first directory.  The place of the next one follows it, and it must not be the
same. -/
def readDirectory (content : List UInt8) : Reading Directory := do
  let convention ← readConvention content
  let place ← convention.read convention.placeSize
  seek content place
  let count ← convention.read (if convention.placeSize = 8 then 8 else 2)
  let fields ← readFields convention count []
  let next ← convention.read convention.placeSize
  Reading.check (next == 0 || next ≠ place) .undecodable
  pure ⟨content, convention, fields⟩

namespace Directory

def valueLimit : Nat := 0x800000

def has (directory : Directory) (tag : Nat) : Bool :=
  (directory.fields.lookup tag).isSome

def numbers? (directory : Directory) (tag : Nat) : Reading (Option (List Nat)) :=
  match directory.fields.lookup tag with
  | none => pure none
  | some field => do
    let size := (valueSize? field.kind).getD 1
    let length := size * field.count
    let bytes ←
      if length ≤ directory.convention.placeSize then pure (field.body.take length)
      else
        Reading.check (field.count ≤ valueLimit) .tooLarge
        seek directory.content (directory.convention.number field.body)
        Reading.take length
    Reading.check (isUnsigned field.kind || field.count == 0) .undecodable
    pure (some ((groupsOf size field.count bytes).map directory.convention.number))

/-- The one number of a field, up to a limit. -/
def number? (directory : Directory) (tag limit : Nat) : Reading (Option Nat) := do
  match ← directory.numbers? tag with
  | none => pure none
  | some [value] =>
    Reading.check (value ≤ limit) .undecodable
    pure (some value)
  | some _ => Reading.fail .undecodable

/-- The one number of a field that must be there. -/
def number (directory : Directory) (tag limit : Nat) : Reading Nat := do
  match ← directory.number? tag limit with
  | some value => pure value
  | none => Reading.fail .undecodable

end Directory

inductive Meaning where
  | dark
  | light
  | colours
deriving DecidableEq

structure Strip where
  place : Nat
  length : Nat

structure Layout where
  width : Nat
  height : Nat
  meaning : Nat
  method : Nat
  channels : Nat
  formats : List Nat
  bits : Nat
  /-- The code of what a sample is told by: itself, the difference to the one before it, or
  parts of such differences. -/
  coding : Nat
  rowsPerStrip : Nat
  strips : List Strip

def meanings : List Nat :=
  [0, 1, 2, 3, 4, 5, 6, 8]

/-- Reads where the strips are.  All but the last have the same number of rows. -/
def Directory.strips (directory : Directory) (height : Nat) : Reading (Nat × List Strip) := do
  Reading.check (directory.has 273 && directory.has 279 && !directory.has 324 &&
    !directory.has 325) .undecodable
  let places := (← directory.numbers? 273).getD []
  let lengths := (← directory.numbers? 279).getD []
  let rows := (← directory.number? 278 0xffffffff).getD height
  Reading.check (0 < rows && places.length == lengths.length &&
    places.length == (height - 1) / rows + 1) .undecodable
  pure (rows, places.zipWith Strip.mk lengths)

/-- Reads what the directory tells, in the order in which faults are reported. -/
def Directory.layout (directory : Directory) : Reading Layout := do
  let width ← directory.number 256 0xffffffff
  let height ← directory.number 257 0xffffffff
  Reading.check (0 < width && 0 < height) .undecodable
  let meaning ← directory.number? 262 0xffff
  Reading.check (meaning.any meanings.contains) .unsupported
  let method := (← directory.number? 259 0xffff).getD 1
  let channels := (← directory.number? 277 0xffff).getD 1
  Reading.check (0 < channels) .undecodable
  let formats := (← directory.numbers? 339).getD [1]
  Reading.check (formats ≠ [] && formats.all (· ≤ 0xffff)) .undecodable
  Reading.check (formats.all (· == formats.headD 1)) .unsupported
  let depths := (← directory.numbers? 258).getD [1]
  Reading.check (depths.all (· ≤ 0xff) && (depths.length == channels || depths.length == 1))
    .undecodable
  let bits := depths.headD 1
  Reading.check (depths.all (· == bits)) .unsupported
  let coding := (← directory.number? 317 0xffff).getD 1
  Reading.check (1 ≤ coding && coding ≤ 3) .undecodable
  let planes := (← directory.number? 284 0xffff).getD 1
  Reading.check (planes == 1 || (planes == 2 && channels == 1)) .undecodable
  let (rows, strips) ← directory.strips height
  pure ⟨width, height, meaning.getD 0, method, channels, formats, bits, coding, rows, strips⟩

namespace Layout

def meaning? (layout : Layout) : Option Meaning :=
  match layout.meaning, layout.channels with
  | 0, 1 => some .dark
  | 1, 1 => some .light
  | 2, 3 => some .colours
  | 2, 4 => some .colours
  | _, _ => none

def isReadable (layout : Layout) : Bool :=
  layout.formats.all (· == 1) &&
    (layout.bits == 8 || layout.bits == 16 || (layout.bits == 1 && layout.channels == 1))

def loadedSize (layout : Layout) : Nat :=
  if layout.bits = 16 then 2 * layout.channels else layout.channels

def rowSize (layout : Layout) : Nat :=
  (layout.width * layout.channels * layout.bits + 7) / 8

def written (layout : Layout) (convention : Convention) (row : List UInt8) : List Nat :=
  if layout.bits = 1 then
    (row.flatMap fun byte => (List.range 8).map fun place =>
      if byte.toNat.testBit (7 - place) then 255 else 0).take layout.width
  else
    (groupsOf (layout.bits / 8) (layout.width * layout.channels) row).map convention.number

/-- Pixels from their differences, which wrap around; the pixel before them is given. -/
def summed (modulus : Nat) (last : List Nat) : List (List Nat) → List (List Nat)
  | [] => []
  | pixel :: rest =>
    let next := pixel.zipWith (fun value before => (value + before) % modulus) last
    next :: summed modulus next rest

def rowValues (layout : Layout) (convention : Convention) (meaning : Meaning)
    (row : List UInt8) : List Nat :=
  let values := layout.written convention row
  let full := if layout.bits = 16 then 0xffff else 0xff
  let values :=
    if layout.coding = 2 then
      (summed (full + 1) (List.replicate layout.channels 0)
        (groupsOf layout.channels layout.width values)).flatten
    else values
  if meaning = .dark then values.map (full - ·) else values

/-- The codes of the compressions that are known but not undone here. -/
def compressions : List Nat :=
  [4, 5, 7, 8, 32773, 32946]

/-- The bytes that the data of a strip may take beside the picture. -/
def room (layout : Layout) : Nat :=
  Reading.sampleLimit - 2 * (layout.width * layout.height * layout.loadedSize)

/-- Reads the samples of the rows in strips.  Every strip is judged after its place. -/
def stripValues (layout : Layout) (directory : Directory) (meaning : Meaning) (missing : Nat) :
    List Strip → Reading (List Nat)
  | [] => pure []
  | strip :: rest => do
    seek directory.content strip.place
    Reading.check (layout.coding == 1 || (layout.coding == 2 && layout.bits ≠ 1)) .unsupported
    Reading.check (strip.length ≤ layout.room) .tooLarge
    Reading.check (!compressions.contains layout.method) .undecodable
    Reading.check (layout.method == 1) .unsupported
    let rows := min layout.rowsPerStrip missing
    Reading.check (layout.rowSize * rows ≤ strip.length) (.io .unexpectedEof)
    let raster ← Reading.take (layout.rowSize * rows)
    let found := (groupsOf layout.rowSize rows raster).flatMap
      (layout.rowValues directory.convention meaning)
    let others ← layout.stripValues directory meaning (missing - rows) rest
    pure (found ++ others)

end Layout

def picture (content : List UInt8) : Reading Picture := do
  let directory ← readDirectory content
  let layout ← directory.layout
  match layout.meaning? with
  | none => Reading.fail .unsupported
  | some meaning =>
    Reading.check layout.isReadable .unsupported
    Reading.reserve layout.width layout.height layout.loadedSize
    let values ← layout.stripValues directory meaning layout.height layout.strips
    Reading.picture (if layout.bits = 16 then .sixteen else .eight) layout.width layout.height
      (Sample.group layout.channels values)

end RasterText.Tiff
