import RasterText.Decimal.Numeral
import RasterText.Reading

/-!
# Headers of portable maps

A portable map starts with `P` and a digit.  In the bit, gray and pixel maps the extent
and the greatest sample follow as words between blanks, where a comment runs from `#`
to the end of the line.  In the arbitrary map they stand in lines of a key and a value,
up to the line `ENDHDR`.
-/

namespace RasterText.Portable

inductive Raster where
  | plainBits
  | packedBits
  | plain
  | binary
deriving DecidableEq

/-- What the header of a map tells.  Samples that are bits are zero or one; wide samples
take two bytes. -/
structure Header where
  raster : Raster
  width : Nat
  height : Nat
  channels : Nat
  greatest : Nat
  wide : Bool
  bits : Bool
deriving DecidableEq

/-- The bytes that separate words: the blank, the tab and the four line breaks. -/
def isBlank (byte : UInt8) : Bool :=
  byte == 32 || (9 ≤ byte && byte ≤ 13)

def charOf (byte : UInt8) : Char :=
  Char.ofNat byte.toNat

def number? (limit : Nat) (digits : List Char) : Option Nat :=
  if digits.isEmpty ∨ !digits.all Char.isDigit then none
  else
    let value := Numeral.digitsValue digits
    if value ≤ limit then some value else none

def signedNumber? (limit : Nat) : List Char → Option Nat
  | '+' :: digits => number? limit digits
  | digits => number? limit digits

def headerLimit : Nat := 0xffffffff

/-- The next word of a header and what follows the blank after it.  Comments are passed
over, and do not divide words. -/
def wordFrom (commented : Bool) (word : List Char) :
    List UInt8 → Except LoadFailure (List Char × List UInt8)
  | [] => if word.isEmpty then .error (.io .unexpectedEof) else .ok (word.reverse, [])
  | byte :: rest =>
    if commented then wordFrom (byte ≠ 10 ∧ byte ≠ 13) word rest
    else if byte = 35 then wordFrom true word rest
    else if isBlank byte then
      if word.isEmpty then wordFrom false word rest else .ok (word.reverse, rest)
    else if byte ≥ 128 then .error .undecodable
    else wordFrom false (charOf byte :: word) rest

def number : Reading Nat := do
  let word ← (wordFrom false [] : Reading (List Char))
  match number? headerLimit word with
  | some value => pure value
  | none => Reading.fail .undecodable

def bitHeader (raster : Raster) : Reading Header := do
  let width ← number
  let height ← number
  pure ⟨raster, width, height, 1, 1, false, true⟩

/-- The header of a gray or pixel map: its extent and its greatest sample, which is not
zero. -/
def sampleHeader (raster : Raster) (channels : Nat) : Reading Header := do
  let width ← number
  let height ← number
  let greatest ← number
  Reading.check (0 < greatest && greatest ≤ 0xffff) .undecodable
  pure ⟨raster, width, height, channels, greatest, 0xff < greatest, false⟩

/-- The lines of an arbitrary header as they have been read so far. -/
structure Lines where
  numbers : List (String × Nat) := []
  kind : Option String := none

def numberKeys : List String :=
  ["WIDTH", "HEIGHT", "DEPTH", "MAXVAL"]

def trim (text : List Char) : List Char :=
  let blank (c : Char) : Bool := isBlank (UInt8.ofNat c.toNat)
  ((text.dropWhile blank).reverse.dropWhile blank).reverse

/-- The lines together with one more.  A number stands once; several lines of the kind
are joined. -/
def Lines.add (lines : Lines) (key : String) (value : List Char) : Except LoadFailure Lines :=
  if key ∈ numberKeys then
    match lines.numbers.lookup key, signedNumber? headerLimit value with
    | none, some number => .ok { lines with numbers := (key, number) :: lines.numbers }
    | _, _ => .error .undecodable
  else if key = "TUPLTYPE" then
    let word := String.ofList value
    .ok { lines with kind := some (match lines.kind with
      | some earlier => earlier ++ " " ++ word
      | none => word) }
  else .error .undecodable

def keyOf (line : List UInt8) : String :=
  String.ofList ((line.takeWhile (!isBlank ·)).map charOf)

def valueOf (line : List UInt8) : List Char :=
  trim ((line.dropWhile (!isBlank ·)).map charOf)

/-- Reads lines up to the one that ends the header, which need not end with a newline.
The bytes of the line that is being read are kept in reverse. -/
def linesFrom (lines : Lines) (line : List UInt8) : List UInt8 →
    Except LoadFailure (Lines × List UInt8)
  | [] =>
    if line.all (· < 128) ∧ keyOf line.reverse = "ENDHDR" then .ok (lines, [])
    else .error .undecodable
  | byte :: rest =>
    if byte ≠ 10 then linesFrom lines (byte :: line) rest
    else if line.getLast? = some 35 then linesFrom lines [] rest
    else if line.any (· ≥ 128) then .error .undecodable
    else if keyOf line.reverse = "ENDHDR" then .ok (lines, rest)
    else
      match lines.add (keyOf line.reverse) (valueOf line.reverse) with
      | .ok lines => linesFrom lines [] rest
      | .error failure => .error failure

/-- What the numbers of an arbitrary map of a kind mean.  The samples of a map without a
kind are narrow, whatever the greatest one is. -/
def headerOfKind (kind : Option String) (width height depth greatest : Nat) :
    Except LoadFailure Header :=
  let bits (channels : Nat) : Except LoadFailure Header :=
    if depth = channels ∧ greatest = 1 then
      .ok ⟨.binary, width, height, channels, greatest, false, true⟩
    else .error .undecodable
  let samples (channels : Nat) : Except LoadFailure Header :=
    if depth = channels ∧ greatest ≤ 0xff then
      .ok ⟨.binary, width, height, channels, greatest, false, false⟩
    else if (depth = channels ∨ depth = 0 ∧ channels = 1) ∧ greatest ≤ 0xffff then
      .ok ⟨.binary, width, height, channels, greatest, true, false⟩
    else .error .undecodable
  match kind with
  | none =>
    if 1 ≤ depth ∧ depth ≤ 4 then .ok ⟨.binary, width, height, depth, greatest, false, false⟩
    else .error .undecodable
  | some "BLACKANDWHITE" => bits 1
  | some "BLACKANDWHITE_ALPHA" => bits 2
  | some "GRAYSCALE" => samples 1
  | some "GRAYSCALE_ALPHA" => samples 2
  | some "RGB" => samples 3
  | some "RGB_ALPHA" => samples 4
  | some _ => .error .unsupported

/-- What the lines of an arbitrary header tell, if they are complete. -/
def Lines.header (lines : Lines) : Except LoadFailure Header :=
  match lines.numbers.lookup "WIDTH", lines.numbers.lookup "HEIGHT",
    lines.numbers.lookup "DEPTH", lines.numbers.lookup "MAXVAL" with
  | some width, some height, some depth, some greatest =>
    if greatest = 0 then .error .undecodable
    else headerOfKind lines.kind width height depth greatest
  | _, _, _, _ => .error .undecodable

/-- The header of an arbitrary map, whose lines start after a newline. -/
def arbitraryHeader : Reading Header := do
  Reading.check ((← Reading.byte) == 10) .undecodable
  let lines ← (linesFrom {} [] : Reading Lines)
  Reading.settle lines.header

def header : Reading Header := do
  match (← Reading.take 2).map charOf with
  | ['P', '1'] => bitHeader .plainBits
  | ['P', '2'] => sampleHeader .plain 1
  | ['P', '3'] => sampleHeader .plain 3
  | ['P', '4'] => bitHeader .packedBits
  | ['P', '5'] => sampleHeader .binary 1
  | ['P', '6'] => sampleHeader .binary 3
  | ['P', '7'] => arbitraryHeader
  | _ => Reading.fail .undecodable

end RasterText.Portable
