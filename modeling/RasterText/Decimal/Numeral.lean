import RasterText.Decimal.Basic

/-!
# Reading numerals

A numeral is an optional sign and then either one of the words `inf`, `infinity`
and `nan` in any case, or decimal digits with at most one point among them and an
optional exponent.  There must be a digit before or after the point, and nothing
else may stand in the text: no blank, no separator.
-/

namespace RasterText.Numeral

def splitSign : List Char → Bool × List Char
  | '+' :: rest => (false, rest)
  | '-' :: rest => (true, rest)
  | rest => (false, rest)

def splitDigits (text : List Char) : List Char × List Char :=
  (text.takeWhile Char.isDigit, text.dropWhile Char.isDigit)

def digitsValue (digits : List Char) : Nat :=
  digits.foldl (fun value digit => 10 * value + (digit.toNat - '0'.toNat)) 0

def exponent? : List Char → Option Int
  | [] => some 0
  | mark :: rest =>
    if mark = 'e' ∨ mark = 'E' then
      let (negative, rest) := splitSign rest
      let (digits, rest) := splitDigits rest
      if digits.isEmpty ∨ !rest.isEmpty then none
      else some (if negative then -(digitsValue digits : Int) else digitsValue digits)
    else none

def splitFraction : List Char → List Char × List Char
  | '.' :: rest => splitDigits rest
  | rest => ([], rest)

def decimal? (text : List Char) : Option Decimal :=
  let (whole, rest) := splitDigits text
  let (fraction, rest) := splitFraction rest
  if whole.isEmpty ∧ fraction.isEmpty then none
  else
    (exponent? rest).map fun exp =>
      ⟨digitsValue (whole ++ fraction), exp - (fraction.length : Int)⟩

/-- The double a numeral stands for, rounded to nearest; `none` when the text is
no numeral. -/
def read? (text : String) : Option Binary64 :=
  let (negative, rest) := splitSign text.toList
  let word := String.ofList (rest.map Char.toLower)
  if word = "inf" ∨ word = "infinity" then some (.infinite negative)
  else if word = "nan" then some .nan
  else (decimal? rest).map (Decimal.toBinary64 negative)

end RasterText.Numeral
