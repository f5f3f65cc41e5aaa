import RasterText.Decimal.Shortest

/-!
# Positional text of numbers

Numbers are written positionally, however large or small they are: an exponent
never appears.  A double is written by its shortest decimal.
-/

namespace RasterText

namespace Decimal

def trimFraction (digits : List Char) : List Char :=
  (digits.reverse.dropWhile (· == '0')).reverse

def places (d : Decimal) : List Char × List Char :=
  let shown := Nat.toDigits 10 d.digits
  let shift := (-d.exp).toNat
  let padded := List.replicate (shift + 1 - shown.length) '0' ++ shown
    ++ List.replicate d.exp.toNat '0'
  (padded.take (padded.length - shift), trimFraction (padded.drop (padded.length - shift)))

/-- Positional text; the point is left out when no fraction digit follows. -/
def positional (d : Decimal) : String :=
  let (whole, fraction) := d.places
  String.ofList (if fraction.isEmpty then whole else whole ++ '.' :: fraction)

def positionalWithPoint (d : Decimal) : String :=
  let (whole, fraction) := d.places
  String.ofList (whole ++ '.' :: (if fraction.isEmpty then ['0'] else fraction))

end Decimal

namespace Binary64

def textWith (layout : Decimal → String) : Binary64 → String
  | .nan => "NaN"
  | .infinite negative => if negative then "-inf" else "inf"
  | .finite negative mant exp canonical =>
    let magnitude := if mant = 0 then ⟨0, 0⟩ else Decimal.shortest mant exp canonical
    if negative then "-" ++ layout magnitude else layout magnitude

/-- The shortest positional text of a double: `16`, `-0`, `0.1`, `NaN`, `inf`. -/
def text : Binary64 → String :=
  textWith Decimal.positional

/-- The shortest positional text that shows a fraction: `16.0`, `0.1`. -/
def textWithPoint : Binary64 → String :=
  textWith Decimal.positionalWithPoint

end Binary64

end RasterText
