import RasterText.Decimal.Basic

/-!
# The shortest decimal of a double

Among the decimals that read back as a given double, the ones with the fewest
digits are kept, and of two such the closer one; when both are equally close, the
larger.  Only the two neighbours of the value on each decimal grid need to be
tried: when any point of a grid reads back, one of these two does.
-/

namespace RasterText.Decimal

/-- The place of the leading digit of a positive ratio that is no power of ten
below one: the least `k` with `num / den < 10 ^ k`. -/
def leadingPlace (num den : Nat) : Int :=
  if den ≤ num then digitCount (num / den)
  else 1 - (digitCount (den / num) : Int)

/-- The number of grid steps of size `10 ^ exp` in a ratio, rounded down, and
whether the rest is at least half a step. -/
def gridFloor (num den : Nat) (exp : Int) : Nat × Bool :=
  let top := num * tens (-exp).toNat
  let bottom := den * tens exp.toNat
  (top / bottom, decide (bottom ≤ 2 * (top % bottom)))

/-- The neighbour of the ratio on the grid `10 ^ exp` that reads back as `target`;
of two the closer, and the upper one when they are equally close. -/
def readingBack (target : Binary64) (num den : Nat) (exp : Int) : Option Decimal :=
  let (below, upperHalf) := gridFloor num den exp
  let lower : Decimal := ⟨below, exp⟩
  let upper : Decimal := ⟨below + 1, exp⟩
  match decide (lower.toBinary64 false = target), decide (upper.toBinary64 false = target) with
  | true, true => some (if upperHalf then upper else lower)
  | true, false => some lower
  | false, true => some upper
  | false, false => none

/-- The shortest decimal that reads back as the positive double `mant * 2 ^ exp`.
Seventeen digits always suffice; the exact value stands behind them. -/
def shortest (mant : Nat) (exp : Int) (canonical : IsCanonical mant exp) : Decimal :=
  let num := mant <<< exp.toNat
  let den := 1 <<< (-exp).toNat
  let place := leadingPlace num den
  let attempt := fun (count : Nat) =>
    readingBack (.finite false mant exp canonical) num den (place - 1 - count)
  ((List.range 17).findSome? attempt).getD
    ⟨num * Nat.pow 5 (-exp).toNat, min exp 0⟩

end RasterText.Decimal
