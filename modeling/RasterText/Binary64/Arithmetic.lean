import RasterText.Binary64.Rounding

/-!
# Products, quotients and floors of doubles

Products and quotients are exact results rounded once, with the usual rules for
zeros, infinities and NaNs.  `floorClamped` reads the floor of a double as a
natural number inside a range.
-/

namespace RasterText.Binary64

protected def mul : Binary64 → Binary64 → Binary64
  | .nan, _ => .nan
  | _, .nan => .nan
  | .infinite s, .infinite t => .infinite (s ^^ t)
  | .infinite s, .finite t n _ _ => if n = 0 then .nan else .infinite (s ^^ t)
  | .finite s m _ _, .infinite t => if m = 0 then .nan else .infinite (s ^^ t)
  | .finite s m e _, .finite t n f _ => ofScaledRatio (s ^^ t) (m * n) 1 (e + f)

/-- The quotient, rounded once; a number over zero is an infinity, zero over zero
and infinity over infinity are NaNs. -/
protected def div : Binary64 → Binary64 → Binary64
  | .nan, _ => .nan
  | _, .nan => .nan
  | .infinite _, .infinite _ => .nan
  | .infinite s, .finite t _ _ _ => .infinite (s ^^ t)
  | .finite s _ _ _, .infinite t => zero (s ^^ t)
  | .finite s m e _, .finite t n f _ =>
    if n = 0 then (if m = 0 then .nan else .infinite (s ^^ t))
    else ofScaledRatio (s ^^ t) m n (e - f)

instance : Mul Binary64 := ⟨Binary64.mul⟩

instance : Div Binary64 := ⟨Binary64.div⟩

/-- The greatest whole number not above the given one, moved into `0 .. limit`.
A NaN counts as zero. -/
def floorClamped (limit : Nat) : Binary64 → Nat
  | .nan => 0
  | .infinite negative => if negative then 0 else limit
  | .finite negative mant exp _ =>
    if negative then 0 else min (mant <<< exp.toNat >>> (-exp).toNat) limit

theorem floorClamped_le (limit : Nat) (a : Binary64) : a.floorClamped limit ≤ limit := by
  unfold floorClamped
  split
  · exact Nat.zero_le limit
  · split
    · exact Nat.zero_le limit
    · exact Nat.le_refl limit
  · split
    · exact Nat.zero_le limit
    · exact Nat.min_le_right ..

@[simp] theorem floorClamped_zero (limit : Nat) (negative : Bool) :
    (zero negative).floorClamped limit = 0 := by
  simp [zero, floorClamped]

theorem floorClamped_zero_mul (limit : Nat) (a : Binary64) :
    (zero false * a).floorClamped limit = 0 := by
  cases a with
  | nan => rfl
  | infinite negative => rfl
  | finite negative mant exp canonical =>
    have product : zero false * finite negative mant exp canonical = zero negative := by
      change ofScaledRatio (false ^^ negative) (0 * mant) 1 (-1074 + exp) = zero negative
      rw [ofScaledRatio, Nat.zero_mul, Nat.zero_shiftLeft, ofRatio_zero_left, Bool.false_xor]
    rw [product, floorClamped_zero]

end RasterText.Binary64
