import RasterText.Reading

/-!
# Targa files

A header of eighteen bytes, a label, a colour map, and the pixels, in packets or plain.
Pixels hold colours or places in the colour map.  The rows go up and to the right unless
the header says otherwise.
-/

namespace RasterText.Targa

structure Header where
  labelLength : Nat
  mapKind : Nat
  kind : Nat
  mapOrigin : Nat
  mapLength : Nat
  mapEntryBits : Nat
  width : Nat
  height : Nat
  bits : Nat
  descriptor : Nat

inductive Colours where
  | gray
  | grayAlpha
  | packed
  | rgb
  | rgba
deriving DecidableEq

def header : Reading Header := do
  let labelLength ← Reading.byte
  let mapKind ← Reading.byte
  let kind ← Reading.byte
  let mapOrigin ← Reading.little 2
  let mapLength ← Reading.little 2
  let mapEntryBits ← Reading.byte
  Reading.skip 4
  let width ← Reading.little 2
  let height ← Reading.little 2
  let bits ← Reading.byte
  let descriptor ← Reading.byte
  pure ⟨labelLength, mapKind, kind, mapOrigin, mapLength, mapEntryBits, width, height, bits,
    descriptor⟩

namespace Header

def isMapped (header : Header) : Bool :=
  header.kind == 1 || header.kind == 9

def isColoured (header : Header) : Bool :=
  header.isMapped || header.kind == 2 || header.kind == 10

def isPacked (header : Header) : Bool :=
  9 ≤ header.kind && header.kind ≤ 11

def pixelSize (header : Header) : Nat :=
  (header.bits + 7) / 8

def entrySize (header : Header) : Nat :=
  (header.mapEntryBits + 7) / 8

/-- What is wrong with the extent, or with the places in the colour map. -/
def fault? (header : Header) : Option LoadFailure :=
  if header.width = 0 ∨ header.height = 0 then some .undecodable
  else if header.isMapped then
    if header.mapKind ≠ 1 ∨ header.bits ∉ [8, 16] then some .undecodable
    else if header.bits > header.mapEntryBits then some .unsupported
    else none
  else none

/-- The layout of the colours: how many of their bits are alpha, and how many are not. -/
def colours (header : Header) : Except LoadFailure Colours :=
  let alpha := header.descriptor % 16
  let bits := if header.isMapped then header.mapEntryBits else header.bits
  if bits < alpha then .error .undecodable
  else
    match alpha, bits - alpha, header.isColoured with
    | 0, 32, true => .ok .rgba
    | 8, 24, true => .ok .rgba
    | 0, 24, true => .ok .rgb
    | 1, 15, true => .ok .packed
    | 0, 15, true => .ok .packed
    | 0, 16, true => .ok .packed
    | 8, 8, false => .ok .grayAlpha
    | 0, 8, false => .ok .gray
    | 8, 0, false => .ok .gray
    | _, _, _ => .error .unsupported

end Header

def Colours.loadedSize : Colours → Nat
  | .gray => 1
  | .grayAlpha => 2
  | .packed => 3
  | .rgb => 3
  | .rgba => 4

/-- A channel of five bits in the range of eight: the nearest value. -/
def widened (channel : Nat) : Nat :=
  (channel * 510 + 31) / 62

/-- The colour in the bytes of a pixel or of an entry of the colour map. -/
def Colours.sample (colours : Colours) (bytes : List UInt8) : Sample :=
  let part (place : Nat) : Nat := (bytes.getD place 0).toNat
  match colours with
  | .gray => .gray (part 0)
  | .grayAlpha => .grayAlpha (part 0) (part 1)
  | .packed =>
    let value := littleNumber bytes
    .rgb (widened (value / 1024 % 32)) (widened (value / 32 % 32)) (widened (value % 32))
  | .rgb => .rgb (part 2) (part 1) (part 0)
  | .rgba => .rgba (part 2) (part 1) (part 0) (part 3)

/-- The pixels in packets that are still missing.  A packet repeats one pixel or holds
several; it ends with the picture at the latest. -/
def packets (size missing : Nat) : Reading (List (List UInt8)) :=
  match missing with
  | 0 => pure []
  | missing + 1 => do
    let lead ← Reading.byte
    let more := min (lead % 128) missing
    let pixels ←
      if lead < 128 then
        groupsOf size (more + 1) <$> Reading.take (size * (more + 1))
      else List.replicate (more + 1) <$> Reading.take size
    let rest ← packets size (missing - more)
    pure (pixels ++ rest)
termination_by missing

def Header.pixels (header : Header) : Reading (List (List UInt8)) :=
  let count := header.width * header.height
  if header.isPacked then packets header.pixelSize count
  else groupsOf header.pixelSize count <$> Reading.take (header.pixelSize * count)

def Header.upright {α : Type} (header : Header) (pixels : List α) : List α :=
  let rows := groupsOf header.width header.height pixels
  let rows := if header.descriptor / 32 % 2 = 0 then rows.reverse else rows
  (if header.descriptor / 16 % 2 = 0 then rows else rows.map List.reverse).flatten

def Header.entry? (header : Header) (map : List UInt8) (place : Nat) : Option (List UInt8) :=
  let start := (place - header.mapOrigin) * header.entrySize
  if place < header.mapOrigin ∨ map.length < start + header.entrySize then none
  else some ((map.drop start).take header.entrySize)

/-- The colours of pixels, looked up in the colour map if the header says so. -/
def Header.samples (header : Header) (colours : Colours) (map : List UInt8)
    (pixels : List (List UInt8)) : Reading (List Sample) :=
  if header.isMapped then
    match pixels.mapM fun pixel => header.entry? map (littleNumber pixel) with
    | some entries => pure (entries.map colours.sample)
    | none => Reading.fail .undecodable
  else pure (pixels.map colours.sample)

def Header.colourMap (header : Header) : Reading (List UInt8) := do
  if header.mapKind = 1 then
    Reading.check (2 ≤ header.entrySize && header.entrySize ≤ 4) .unsupported
    Reading.take (header.entrySize * header.mapLength)
  else pure []

def picture : Reading Picture := do
  let header ← header
  if let some failure := header.fault? then Reading.fail failure
  let colours ← Reading.settle header.colours
  Reading.skip header.labelLength
  let map ← header.colourMap
  Reading.reserve header.width header.height colours.loadedSize
  let pixels ← header.pixels
  let samples ← header.samples colours map (header.upright pixels)
  Reading.picture .eight header.width header.height samples

end RasterText.Targa
