import RasterText.Reading

/-!
# Formats that are not decoded

Of these formats only the parts are read that come before the samples.  They decide why a
file is refused: a file that ends within them ended too early, and one that has them is
refused as undecodable, unless its picture would be too large anyway.
-/

namespace RasterText.Outline

def pngSignature : List UInt8 :=
  [0x89, 0x50, 0x4e, 0x47, 0x0d, 0x0a, 0x1a, 0x0a]

def png : Reading Picture := do
  Reading.check ((← Reading.take 4) == pngSignature.take 4) .undecodable
  Reading.check ((← Reading.take 4) == pngSignature.drop 4) .undecodable
  Reading.fail .undecodable

/-- Passes over the parts of an extension, each of which tells its length; an empty one is
the last.  Every part takes a byte, so there are no more parts than bytes. -/
def gifParts (steps : Nat) : Reading Unit :=
  match steps with
  | 0 => Reading.fail (.io .unexpectedEof)
  | steps + 1 => do
    let size ← Reading.byte
    if size = 0 then pure ()
    else
      Reading.skip size
      gifParts steps

/-- Passes over extensions, and tells whether the file ends before its first frame. -/
def gifIsBare (steps : Nat) : Reading Bool :=
  match steps with
  | 0 => Reading.fail (.io .unexpectedEof)
  | steps + 1 => do
    match ← Reading.byte with
    | 0x21 =>
      Reading.skip 1
      gifParts steps
      gifIsBare steps
    | 0x2c => pure false
    | 0x3b => pure true
    | _ => Reading.fail .undecodable

def gifScreen : Reading (Nat × Nat) := do
  let name ← Reading.take 6
  Reading.check (name == Text.bytes "GIF87a" || name == Text.bytes "GIF89a") .undecodable
  let width ← Reading.little 2
  let height ← Reading.little 2
  let flags ← Reading.byte
  Reading.skip 2
  Reading.skip (if flags < 128 then 0 else 3 * 2 <<< (flags % 8))
  let block := (← get).headD 0
  Reading.check ([0x21, 0x2c, 0x3b].contains block) .undecodable
  pure (width, height)

/-- A `gif` file.  A file that ends before its first frame has nothing to show.  What is
cut off is taken for a fault of the content. -/
def gif : Reading Picture := do
  let (width, height) ← Reading.masked gifScreen
  Reading.reserve width height 4
  let bare ← Reading.masked (gifIsBare (← get).length)
  Reading.fail (if bare then .unfitting else .undecodable)

/-- The first chunk of a `webp` file with lossy coding: the frame tag, the start code and
the extent, and then the first partition, whose length the tag tells. -/
def webpLossy (size : Nat) : Reading Picture := do
  let tag ← Reading.little 3
  Reading.check (tag % 2 == 0) .undecodable
  Reading.check ((← Reading.take 3) == [0x9d, 0x01, 0x2a]) .undecodable
  let width := (← Reading.little 2) % 0x4000
  let height := (← Reading.little 2) % 0x4000
  Reading.check (0 < width && 0 < height) .undecodable
  Reading.reserve width height 3
  let left := min ((← get).length) (size - 10)
  Reading.check (tag / 32 ≤ left) (.io .unexpectedEof)
  Reading.fail .undecodable

/-- The first chunk of a `webp` file with lossless coding: the signature, and a number with
the extent, whether there is alpha, and the version. -/
def webpLossless : Reading Picture := do
  Reading.check ((← Reading.byte) == 0x2f) .undecodable
  let header ← Reading.little 4
  Reading.check (header >>> 29 == 0) .undecodable
  Reading.reserve ((header + 1) % 0x4000) ((header >>> 14 + 1) % 0x4000)
    (if header.testBit 28 then 4 else 3)
  Reading.fail .undecodable

/-- A `webp` file: the outer chunk, its kind, and the first inner chunk. -/
def webp : Reading Picture := do
  let outer ← Reading.take 8
  Reading.check (outer.take 4 == Text.bytes "RIFF") .undecodable
  Reading.mark "WEBP"
  let name ← Reading.take 4
  let size ← Reading.little 4
  if name = Text.bytes "VP8 " then webpLossy size
  else if name = Text.bytes "VP8L" then webpLossless
  else if name = Text.bytes "VP8X" then
    Reading.skip 10
    Reading.fail .undecodable
  else Reading.fail .undecodable

end RasterText.Outline
