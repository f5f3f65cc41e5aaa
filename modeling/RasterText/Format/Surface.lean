import RasterText.Reading

/-!
# Surface files

A header of fixed size, and the pixels in blocks of four by four.  A block holds two
colours and, for every pixel, which mixture of them it has; some kinds add alpha, plainly
or by mixtures as well.
-/

namespace RasterText.Surface

/-- The kinds of blocks: without alpha, with plain alpha, and with mixed alpha. -/
inductive Blocks where
  | solid
  | plainAlpha
  | mixedAlpha
deriving DecidableEq

def Blocks.size : Blocks → Nat
  | .solid => 8
  | _ => 16

def extendedBlocks : Reading Blocks := do
  let format ← Reading.little 4
  let dimension ← Reading.little 4
  let flags ← Reading.little 4
  let count ← Reading.little 4
  let alphaMode ← Reading.little 4
  Reading.check (format ≤ 132) .undecodable
  Reading.check (2 ≤ dimension && dimension ≤ 4) .undecodable
  Reading.check (flags == 0 || flags == 4) .undecodable
  Reading.check (dimension ≠ 4 || count == 1) .undecodable
  Reading.check (alphaMode ≤ 4) .undecodable
  if 70 ≤ format ∧ format ≤ 72 then pure .solid
  else if 73 ≤ format ∧ format ≤ 75 then pure .plainAlpha
  else if 76 ≤ format ∧ format ≤ 78 then pure .mixedAlpha
  else Reading.fail .unsupported

def heading : Reading (Nat × Nat × Blocks) := do
  Reading.mark "DDS "
  Reading.check ((← Reading.little 4) == 124) .undecodable
  let flags ← Reading.little 4
  Reading.check (flags &&& 0x1007 == 0x1007 && flags &&& 0x8a100f == flags) .undecodable
  let height ← Reading.little 4
  let width ← Reading.little 4
  Reading.skip 56
  Reading.check ((← Reading.little 4) == 32) .undecodable
  let kind ← Reading.little 4
  let code ← Reading.take 4
  Reading.skip 40
  if kind / 4 % 2 = 0 then Reading.fail .unsupported
  else if code = Text.bytes "DXT1" then pure (width, height, .solid)
  else if code = Text.bytes "DXT3" then pure (width, height, .plainAlpha)
  else if code = Text.bytes "DXT5" then pure (width, height, .mixedAlpha)
  else if code = Text.bytes "DX10" then
    let blocks ← extendedBlocks
    pure (width, height, blocks)
  else Reading.fail .unsupported

def unpacked (colour : Nat) : List Nat :=
  [colour / 2048 * 255 / 31, colour / 32 % 64 * 255 / 63, colour % 32 * 255 / 31]

/-- The four colours of a block.  Only blocks without alpha may have black as the fourth. -/
def palette (blocks : Blocks) (first second : Nat) : List (List Nat) :=
  let mix (f : Nat → Nat → Nat) : List Nat := (unpacked first).zipWith f (unpacked second)
  if second < first ∨ blocks ≠ .solid then
    [unpacked first, unpacked second, mix fun a b => (2 * a + b + 1) / 3,
      mix fun a b => (a + 2 * b + 1) / 3]
  else [unpacked first, unpacked second, mix fun a b => (a + b + 1) / 2, [0, 0, 0]]

def levels (first second : Nat) : List Nat :=
  if second < first then
    [first, second] ++
      (List.range 6).map fun i => ((6 - i) * first + (i + 1) * second) / 7
  else
    [first, second] ++
      ((List.range 4).map fun i => ((4 - i) * first + (i + 1) * second) / 5) ++ [0, 255]

def alphas (blocks : Blocks) (bytes : List UInt8) : List Nat :=
  match blocks with
  | .solid => List.replicate 16 255
  | .plainAlpha =>
    (List.range 16).map fun i => (littleNumber (bytes.take 8) >>> (4 * i)) % 16 * 17
  | .mixedAlpha =>
    let table := levels (bytes.getD 0 0).toNat (bytes.getD 1 0).toNat
    let choices := littleNumber ((bytes.drop 2).take 6)
    (List.range 16).map fun i => table.getD ((choices >>> (3 * i)) % 8) 0

def blockSamples (blocks : Blocks) (bytes : List UInt8) : List Sample :=
  let colours := bytes.drop (blocks.size - 8)
  let table := palette blocks (littleNumber (colours.take 2))
    (littleNumber ((colours.drop 2).take 2))
  let choices := littleNumber ((colours.drop 4).take 4)
  ((alphas blocks bytes).zipIdx).map fun (alpha, i) =>
    match table.getD ((choices >>> (2 * i)) % 4) [] with
    | [red, green, blue] => .rgba red green blue alpha
    | _ => .rgba 0 0 0 alpha

def bandSamples (blocks : Blocks) (band : List (List UInt8)) : List Sample :=
  let decoded := band.map fun block => groupsOf 4 4 (blockSamples blocks block)
  (List.range 4).flatMap fun y => decoded.flatMap fun rows => rows.getD y []

/-- The picture of a file.  Its extents are whole numbers of blocks. -/
def picture : Reading Picture := do
  let (width, height, blocks) ← heading
  let pixelSize := if blocks = .solid then 3 else 4
  Reading.check (width * height * pixelSize ≤ 0xffffffffffffffff) .unsupported
  Reading.check (width % 4 == 0 && height % 4 == 0) .unfitting
  Reading.reserve width height pixelSize
  let across := width / 4
  let down := if across = 0 then 0 else height / 4
  let raster ← Reading.take (across * down * blocks.size)
  let bands := groupsOf across down (groupsOf blocks.size (across * down) raster)
  Reading.picture .eight width height (bands.flatMap (bandSamples blocks))

end RasterText.Surface
