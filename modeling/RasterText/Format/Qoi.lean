import RasterText.Pixel
import RasterText.Reading

/-!
# QOI files

Pixels are coded one after the other: as a pixel seen before, as a difference to the last
one, in full, or as a run of the last one.  A table holds the pixels seen before, each at
a place that its channels determine.
-/

namespace RasterText.Qoi

/-- The state of decoding: the last pixel, and the pixels seen before. -/
structure State where
  last : Pixel
  seen : Array Pixel

def State.start : State :=
  ⟨⟨0, 0, 0, 255⟩, Array.replicate 64 ⟨0, 0, 0, 0⟩⟩

def placeOf (pixel : Pixel) : Nat :=
  (pixel.red.toNat * 3 + pixel.green.toNat * 5 + pixel.blue.toNat * 7 +
    pixel.alpha.toNat * 11) % 64

def State.take (state : State) (pixel : Pixel) : State :=
  ⟨pixel, state.seen.setIfInBounds (placeOf pixel) pixel⟩

/-- A pixel whose colours differ from another's; sums wrap around. -/
def shifted (pixel : Pixel) (red green blue : Nat) : Pixel :=
  { pixel with
    red := pixel.red + UInt8.ofNat red
    green := pixel.green + UInt8.ofNat green
    blue := pixel.blue + UInt8.ofNat blue }

def State.step (state : State) (alpha : Bool) (code : Nat) : Reading State := do
  if code < 64 then
    let pixel := state.seen.getD code ⟨0, 0, 0, 0⟩
    pure { state with last := if alpha then pixel else { pixel with alpha := 255 } }
  else if code < 128 then
    pure (state.take (shifted state.last (code / 16 % 4 + 254) (code / 4 % 4 + 254)
      (code % 4 + 254)))
  else if code < 192 then
    let more ← Reading.byte
    let green := code % 64 + 224
    pure (state.take (shifted state.last (green + more / 16 + 248) green
      (green + more % 16 + 248)))
  else
    match ← Reading.take (if code = 255 then 4 else 3) with
    | [red, green, blue] => pure (state.take ⟨red, green, blue, state.last.alpha⟩)
    | [red, green, blue, opacity] =>
      if alpha then pure (state.take ⟨red, green, blue, opacity⟩)
      else Reading.fail .undecodable
    | _ => Reading.fail .undecodable

/-- The pixels that are still missing, where the last one is to be repeated first.  A run
ends with the picture at the latest. -/
def pixels (alpha : Bool) (state : State) (repeats : Nat) : Nat → Reading (List Pixel)
  | 0 => pure []
  | missing + 1 =>
    match repeats with
    | repeats + 1 => List.cons state.last <$> pixels alpha state repeats missing
    | 0 => do
      let code ← Reading.byte
      if 192 ≤ code ∧ code < 254 then
        List.cons state.last <$> pixels alpha state (code % 64) missing
      else
        let state ← state.step alpha code
        List.cons state.last <$> pixels alpha state 0 missing

def heading : Reading (Nat × Nat × Bool) := do
  Reading.mark "qoif"
  let width ← Reading.big 4
  let height ← Reading.big 4
  let channels ← Reading.byte
  let space ← Reading.byte
  Reading.check (channels == 3 || channels == 4) .undecodable
  Reading.check (space ≤ 1) .undecodable
  Reading.check (0 < width * height && width * height ≤ 400000000) .undecodable
  pure (width, height, channels == 4)

def sampleOf (alpha : Bool) (pixel : Pixel) : Sample :=
  if alpha then
    .rgba pixel.red.toNat pixel.green.toNat pixel.blue.toNat pixel.alpha.toNat
  else .rgb pixel.red.toNat pixel.green.toNat pixel.blue.toNat

/-- The picture of a file.  Whatever goes wrong is a fault of the content. -/
def picture : Reading Picture := do
  let (width, height, alpha) ← Reading.masked heading
  Reading.reserve width height (if alpha then 4 else 3)
  Reading.masked do
    let found ← pixels alpha .start 0 (width * height)
    Reading.check ((← Reading.take 8) == [0, 0, 0, 0, 0, 0, 0, 1]) .undecodable
    Reading.picture .eight width height (found.map (sampleOf alpha))

end RasterText.Qoi
