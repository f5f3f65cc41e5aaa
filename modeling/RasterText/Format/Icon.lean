import RasterText.Format.Bitmap

/-!
# Icon files

A directory of pictures of one subject.  The picture with the most bits for a pixel, and
of those the largest, is taken.  It stands in the file as a bitmap without a file header;
a mask of one bit for a pixel may follow, which makes pixels transparent.
-/

namespace RasterText.Icon

structure Entry where
  width : Nat
  height : Nat
  bits : Nat
  length : Nat
  place : Nat

def extent (value : Nat) : Nat :=
  if value = 0 then 256 else value

def entry : Reading Entry := do
  let width ← Reading.byte
  let height ← Reading.byte
  Reading.skip 2
  Reading.check ((← Reading.little 2) ≤ 256) .undecodable
  let bits ← Reading.little 2
  Reading.check (bits ≤ 256) .undecodable
  let length ← Reading.little 4
  let place ← Reading.little 4
  pure ⟨extent width, extent height, bits, length, place⟩

def entries : Nat → Reading (List Entry)
  | 0 => pure []
  | count + 1 => do
    let first ← entry
    let rest ← entries count
    pure (first :: rest)

def Entry.beats (entry other : Entry) : Bool :=
  other.bits < entry.bits ||
    (entry.bits == other.bits && other.width * other.height < entry.width * entry.height)

/-- The best entry.  Among equal ones the last one is preferred to all others, and then
the first one. -/
def best? (entries : List Entry) : Option Entry :=
  match entries.reverse with
  | [] => none
  | last :: earlier =>
    some (earlier.reverse.foldl (fun best entry => if entry.beats best then entry else best) last)

def maskRowSize (width : Nat) : Nat :=
  (width + 31) / 32 * 4

def hidden (set : Bool) : Sample → Sample
  | .rgba red green blue alpha => .rgba red green blue (if set then 0 else alpha)
  | other => other

def masked (width height : Nat) (mask : List UInt8) (samples : List Sample) : List Sample :=
  let rows := (groupsOf (maskRowSize width) height mask).reverse
  let bits := rows.flatMap fun row =>
    (row.flatMap fun byte => (List.range 8).map fun place => byte.toNat.testBit (7 - place)).take
      width
  samples.zipWith (fun sample set => hidden set sample) bits

def picture (content : List UInt8) : Reading Picture := do
  Reading.skip 4
  let count ← Reading.little 2
  match best? (← entries count) with
  | none => Reading.fail .undecodable
  | some entry =>
    Reading.goTo content entry.place
    Reading.skip 8
    let layout ← Bitmap.readLayout content entry.place none true
    let layout := { layout with height := layout.height / 2 }
    Reading.reserve layout.width layout.height 4
    Reading.check (entry.width == min layout.width 256 && entry.height == min layout.height 256)
      .undecodable
    let samples ← layout.samples content
    let finish := content.length - (← get).length
    let maskSize := maskRowSize layout.width * layout.height
    if finish + maskSize ≤ entry.place + entry.length then
      let mask ← Reading.take maskSize
      Reading.picture .eight layout.width layout.height
        (masked layout.width layout.height mask samples)
    else if entry.place + entry.length = finish then
      Reading.picture .eight layout.width layout.height samples
    else Reading.fail .undecodable

end RasterText.Icon
