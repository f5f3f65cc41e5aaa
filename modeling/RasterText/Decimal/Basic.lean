import RasterText.Binary64.Rounding

/-!
# Decimal fractions

A decimal is a natural number of units of a power of ten.  Its double is the
nearest one.  Decimals far outside the range of doubles are settled by their
number of digits, so an exponent of any size costs nothing.
-/

namespace RasterText

/-- The number `digits * 10 ^ exp`. -/
structure Decimal where
  digits : Nat
  exp : Int
deriving DecidableEq

namespace Decimal

def tens (exp : Nat) : Nat :=
  Nat.pow 10 exp

def digitCount (n : Nat) : Nat :=
  (Nat.toDigits 10 n).length

/-- The double nearest to the decimal, with the given sign.  A number of at least
`10 ^ 310` overflows and one below `10 ^ (-330)` vanishes, whatever its digits. -/
def toBinary64 (negative : Bool) (d : Decimal) : Binary64 :=
  let leading : Int := digitCount d.digits + d.exp
  if d.digits = 0 ∨ leading < -330 then .zero negative
  else if 310 < leading then .infinite negative
  else .ofRatio negative (d.digits * tens d.exp.toNat) (tens (-d.exp).toNat)

end Decimal

end RasterText
