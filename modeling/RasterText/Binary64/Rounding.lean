import RasterText.Binary64.Basic

/-!
# Rounding an exact quotient

Every arithmetic operation on doubles is the exact result rounded once.  The
exact result is a quotient of natural numbers with a sign; this module finds the
exponent of its last kept binary place, rounds the significand to nearest with
ties to even, and overflows to an infinity when the result leaves the exponent
range.
-/

namespace RasterText

/-- The quotient rounded to the nearest natural number, a half going to the even
neighbour. -/
def roundDiv (num den : Nat) : Nat :=
  if 2 * (num % den) < den ∨ (2 * (num % den) = den ∧ num / den % 2 = 0) then num / den
  else num / den + 1

theorem roundDiv_eq_or (num den : Nat) :
    roundDiv num den = num / den ∨ roundDiv num den = num / den + 1 := by
  unfold roundDiv
  split <;> simp

@[simp] theorem roundDiv_mul_left (n den : Nat) (pos : 0 < den) :
    roundDiv (den * n) den = n := by
  simp [roundDiv, pos]

@[simp] theorem roundDiv_zero_left (den : Nat) : roundDiv 0 den = 0 := by
  unfold roundDiv
  rw [Nat.zero_mod, Nat.zero_div]
  split <;> omega

/-- The exponent of the leading binary place of a positive quotient:
`2 ^ log2Ratio num den ≤ num / den < 2 ^ (log2Ratio num den + 1)`. -/
def log2Ratio (num den : Nat) : Int :=
  let estimate : Int := (num.log2 : Int) - (den.log2 : Int)
  if num <<< (-estimate).toNat < den <<< estimate.toNat then estimate - 1 else estimate

/-- The exponent of the last place kept of a positive quotient: 53 places are
kept, fewer when they would go below the least exponent. -/
def lastPlace (num den : Nat) : Int :=
  max (log2Ratio num den - 52) (-1074)

namespace Binary64

/-- The number with a rounded significand.  A significand that rounded up to 54
bits is renormalised; one whose exponent is too large overflows. -/
def ofRounded (negative : Bool) (mant : Nat) (exp : Int) : Binary64 :=
  if mant = 0 then zero negative
  else if kept : IsCanonical mant exp then .finite negative mant exp kept
  else if carried : mant = 0x20000000000000 ∧ IsCanonical 0x10000000000000 (exp + 1) then
    .finite negative 0x10000000000000 (exp + 1) carried.2
  else .infinite negative

def ofRatio (negative : Bool) (num den : Nat) : Binary64 :=
  let exp := lastPlace num den
  ofRounded negative (roundDiv (num <<< (-exp).toNat) (den <<< exp.toNat)) exp

theorem ofRatio_zero_left (negative : Bool) (den : Nat) :
    ofRatio negative 0 den = zero negative := by
  simp [ofRatio, ofRounded]

def ofScaledRatio (negative : Bool) (num den : Nat) (exp : Int) : Binary64 :=
  ofRatio negative (num <<< exp.toNat) (den <<< (-exp).toNat)

def ofNat (n : Nat) : Binary64 :=
  ofRatio false n 1

end Binary64

end RasterText
