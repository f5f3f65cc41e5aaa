import RasterText.Error
import RasterText.Picture
import RasterText.Text.Lines

/-!
# Reading bytes

A reader takes bytes from the front of what is left of a file, and yields a value or the
reason why the file holds no picture.  Bytes that are asked for and are not there mean
that the file ended too early.
-/

namespace RasterText

/-- The number that bytes spell, the low byte first. -/
def littleNumber (bytes : List UInt8) : Nat :=
  bytes.foldr (fun byte value => byte.toNat + 256 * value) 0

/-- The number that bytes spell, the high byte first. -/
def bigNumber (bytes : List UInt8) : Nat :=
  bytes.foldl (fun value byte => 256 * value + byte.toNat) 0

def bigPairs : List UInt8 → List Nat
  | high :: low :: rest => (256 * high.toNat + low.toNat) :: bigPairs rest
  | _ => []

def groupsOf {α : Type} (size : Nat) : Nat → List α → List (List α)
  | 0, _ => []
  | count + 1, items => items.take size :: groupsOf size count (items.drop size)

abbrev Reading (α : Type) := StateT (List UInt8) (Except LoadFailure) α

namespace Reading

def fail {α : Type} (failure : LoadFailure) : Reading α :=
  fun _ => .error failure

def settle {α : Type} : Except LoadFailure α → Reading α
  | .ok value => pure value
  | .error failure => fail failure

def take (count : Nat) : Reading (List UInt8) := fun bytes =>
  let found := bytes.take count
  if found.length < count then .error (.io .unexpectedEof) else .ok (found, bytes.drop count)

def byte : Reading Nat :=
  littleNumber <$> take 1

def little (count : Nat) : Reading Nat :=
  littleNumber <$> take count

def big (count : Nat) : Reading Nat :=
  bigNumber <$> take count

def skip (count : Nat) : Reading Unit :=
  (fun _ => ()) <$> take count

def goTo (content : List UInt8) (place : Nat) : Reading Unit :=
  set (content.drop place)

def check (condition : Bool) (failure : LoadFailure) : Reading Unit :=
  if condition then pure () else fail failure

def mark (text : String) : Reading Unit := do
  let expected := Text.bytes text
  check ((← take expected.length) == expected) .undecodable

def masked {α : Type} (reader : Reading α) : Reading α := fun bytes =>
  match reader bytes with
  | .ok result => .ok result
  | .error _ => .error .undecodable

def sampleLimit : Nat := 0x20000000

def reserve (width height size : Nat) : Reading Unit :=
  check (width * height * size ≤ sampleLimit) .tooLarge

def picture (depth : Depth) (width height : Nat) (samples : List Sample) : Reading Picture :=
  match Picture.ofSamples? depth width height samples.toArray with
  | some picture => pure picture
  | none => fail .undecodable

end Reading

end RasterText
