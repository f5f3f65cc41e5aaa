import RasterText.Portable.Header

/-!
# Radiance files

A first line with the name of the format, lines of attributes up to an empty one, a line
with the extent, and rows of pixels.  A pixel has three mantissas with a common exponent.
Rows are coded channel by channel, or pixel by pixel with repetitions.
-/

namespace RasterText.Radiance

def wordsOf (line : List Char) : List (List Char) :=
  (line.splitOnP fun c => c == ' ' || ('\t' ≤ c && c ≤ '\r')).filter (!·.isEmpty)

def isNumber (text : List Char) : Bool :=
  (Numeral.read? (String.ofList (Portable.trim text))).isSome

/-- What is wrong with a line of attributes.  Attributes that are not known, and lines
without a value, may hold anything. -/
def attributeFault? (line : List Char) : Option LoadFailure :=
  let value := (line.dropWhile (· != '=')).drop 1
  if line.head? = some '#' ∨ value = [] then none
  else
    match String.ofList (Portable.trim (line.takeWhile (· != '='))) with
    | "FORMAT" =>
      if String.ofList (Portable.trim value) = "32-bit_rle_rgbe" then none else some .unsupported
    | "EXPOSURE" => if isNumber value then none else some .undecodable
    | "PIXASPECT" => if isNumber value then none else some .undecodable
    | "COLORCORR" =>
      if (wordsOf value).length = 3 ∧ (wordsOf value).all isNumber then none
      else some .undecodable
    | _ => none

/-- Reads the attributes.  The line that is being read is kept in reverse. -/
def attributesFrom (line : List Char) : List UInt8 → Except LoadFailure (Unit × List UInt8)
  | [] => .error ((attributeFault? line.reverse).getD .undecodable)
  | byte :: rest =>
    if byte ≠ 10 then attributesFrom (Portable.charOf byte :: line) rest
    else if line.isEmpty then .ok ((), rest)
    else
      match attributeFault? line.reverse with
      | some failure => .error failure
      | none => attributesFrom [] rest

def line : Reading (List Char) := do
  let bytes ← get
  if bytes.isEmpty then Reading.fail .undecodable
  else
    let front := bytes.takeWhile (· != 10)
    set (bytes.drop (front.length + 1))
    pure (front.map Portable.charOf)

/-- The extent that a line tells.  Only rows from the top, read from the left, are known. -/
def extentOf (line : List Char) : Except LoadFailure (Nat × Nat) :=
  match wordsOf line with
  | [first, height, second, width] =>
    if first = ['-', 'Y'] ∧ second = ['+', 'X'] then
      match Portable.signedNumber? 0xffffffff height,
        Portable.signedNumber? 0xffffffff width with
      | some height, some width => .ok (width, height)
      | _, _ => .error .undecodable
    else .error .unsupported
  | _ => .error .undecodable

/-- The values of one channel of a row that are still missing, in runs and groups.
Every step takes a byte, so there are no more steps than bytes. -/
def channel (steps missing : Nat) : Reading (List UInt8) :=
  if missing = 0 then pure []
  else
    match steps with
    | 0 => Reading.fail (.io .unexpectedEof)
    | steps + 1 => do
      let lead ← Reading.byte
      let count := if lead ≤ 128 then lead else lead - 128
      Reading.check (count ≤ missing) .undecodable
      let values ←
        if lead ≤ 128 then Reading.take count
        else List.flatten <$> List.replicate count <$> Reading.take 1
      let rest ← channel steps (missing - count)
      pure (values ++ rest)

/-- The pixels of a row that are still missing.  Three mantissas of one repeat the last
pixel; repetitions that follow each other are digits of one number to the base 256. -/
def repeated (last : List UInt8) (weight steps missing : Nat) : Reading (List (List UInt8)) :=
  if missing = 0 then pure []
  else
    match steps with
    | 0 => Reading.fail (.io .unexpectedEof)
    | steps + 1 => do
      let pixel ← Reading.take 4
      if pixel.take 3 = [1, 1, 1] then
        let count := (pixel.getD 3 0).toNat * weight
        Reading.check (count ≤ missing) .undecodable
        let rest ← repeated last (weight * 256) steps (missing - count)
        pure (List.replicate count last ++ rest)
      else
        let rest ← repeated pixel 1 steps (missing - 1)
        pure (pixel :: rest)

def row (width : Nat) : Reading (List (List UInt8)) := do
  let first ← Reading.take 4
  let steps := (← get).length
  if first.take 3 = [1, 1, 1] then Reading.fail .undecodable
  else if first.take 2 = [2, 2] ∧ first.getD 2 0 < 128 then
    let red ← channel steps width
    let green ← channel steps width
    let blue ← channel steps width
    let exponent ← channel steps width
    pure ((((red.zip green).zip blue).zip exponent).map fun (((r, g), b), e) => [r, g, b, e])
  else List.cons first <$> repeated first 1 steps (width - 1)

def rows (width : Nat) : Nat → Reading (List (List UInt8))
  | 0 => pure []
  | count + 1 => do
    let first ← row width
    let rest ← rows width count
    pure (first ++ rest)

/-- The eight-bit value of a mantissa with an exponent, where one is full light. -/
def lightOf (mantissa exponent : Nat) : Nat :=
  if exponent = 0 then 0
  else if 136 ≤ exponent then min 255 ((255 * mantissa) <<< (exponent - 136))
  else
    let places := 136 - exponent
    min 255 ((255 * mantissa * 2 + 1 <<< places) >>> (places + 1))

def sampleOf (pixel : List UInt8) : Sample :=
  let part (place : Nat) : Nat := (pixel.getD place 0).toNat
  .rgb (lightOf (part 0) (part 3)) (lightOf (part 1) (part 3)) (lightOf (part 2) (part 3))

def picture : Reading Picture := do
  Reading.mark "#?RADIANCE"
  let _ ← (fun bytes => .ok ((), (bytes.dropWhile (· != 10)).drop 1) : Reading Unit)
  let _ ← (attributesFrom [] : Reading Unit)
  let (width, height) ← Reading.settle (extentOf (← line))
  Reading.check (width * height * 3 ≤ 0xffffffffffffffff) .unsupported
  Reading.reserve width height 12
  let pixels ← rows width (if width = 0 then 0 else height)
  Reading.picture .eight width height (pixels.map sampleOf)

end RasterText.Radiance
