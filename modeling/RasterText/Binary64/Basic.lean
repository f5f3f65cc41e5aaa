/-!
# Double-precision numbers

A binary64 datum is a NaN, an infinity, or a signed dyadic number
`± mant * 2 ^ exp`.  The pair of a finite number is canonical: the significand
fills its 53 bits unless the exponent is already the least one.  So two finite
data are equal exactly when their bit patterns are, and both zeros are kept
apart.
-/

namespace RasterText

/-- The pairs that spell a finite double: a full 53-bit significand, from
`0x10000000000000` on, or any shorter one at the least exponent. -/
structure IsCanonical (mant : Nat) (exp : Int) : Prop where
  short : mant < 0x20000000000000
  least : -1074 ≤ exp
  most : exp ≤ 971
  full : 0x10000000000000 ≤ mant ∨ exp = -1074

instance (mant : Nat) (exp : Int) : Decidable (IsCanonical mant exp) :=
  decidable_of_iff
    (mant < 0x20000000000000 ∧ -1074 ≤ exp ∧ exp ≤ 971 ∧ (0x10000000000000 ≤ mant ∨ exp = -1074))
    ⟨fun ⟨h₁, h₂, h₃, h₄⟩ => ⟨h₁, h₂, h₃, h₄⟩, fun ⟨h₁, h₂, h₃, h₄⟩ => ⟨h₁, h₂, h₃, h₄⟩⟩

/-- A double-precision number; all NaNs are one. -/
inductive Binary64 where
  | nan
  | infinite (negative : Bool)
  | finite (negative : Bool) (mant : Nat) (exp : Int) (canonical : IsCanonical mant exp)
deriving DecidableEq

namespace Binary64

def zero (negative : Bool) : Binary64 :=
  .finite negative 0 (-1074) (by decide)

def isFinite : Binary64 → Bool
  | .finite .. => true
  | _ => false

def signed (negative : Bool) (mant : Nat) : Int :=
  if negative then -(mant : Int) else mant

/-- The order of the represented values.  A NaN is below nothing and above
nothing, and the two zeros are below each other. -/
def le : Binary64 → Binary64 → Bool
  | .nan, _ => false
  | _, .nan => false
  | .infinite s, .infinite t => s || !t
  | .infinite s, .finite .. => s
  | .finite .., .infinite t => !t
  | .finite s m e _, .finite t n f _ =>
    decide (signed s (m <<< (e - f).toNat) ≤ signed t (n <<< (f - e).toNat))

/-- Equality of the represented values: a NaN differs from itself, the two
zeros are equal. -/
def sameValue (a b : Binary64) : Bool :=
  a.le b && b.le a

/-! ## Bit patterns -/

/-- The number a 64-bit pattern stands for: a sign bit, eleven exponent bits and
52 fraction bits. -/
def ofBits (bits : UInt64) : Binary64 :=
  let negative := decide (0x8000000000000000 ≤ bits.toNat)
  let field : Nat := bits.toNat / 0x10000000000000 % 2048
  let fraction : Nat := bits.toNat % 0x10000000000000
  if top : field = 2047 then
    if fraction = 0 then .infinite negative else .nan
  else if low : field = 0 then
    .finite negative fraction (-1074)
      ⟨by omega, by omega, by omega, .inr rfl⟩
  else
    .finite negative (0x10000000000000 + fraction) ((field : Int) - 1075)
      ⟨by omega, by omega, by omega, .inl (by omega)⟩

/-- The sign bit in its place. -/
def signBit (negative : Bool) : Nat :=
  if negative then 0x8000000000000000 else 0

/-- The bit pattern of a number; a NaN has the quiet pattern without payload.
The leading bit of a full significand carries into the exponent field, which is
why one formula serves the short significands too. -/
def toBits : Binary64 → UInt64
  | .nan => 0x7ff8000000000000
  | .infinite negative => UInt64.ofNat (signBit negative + 0x7ff0000000000000)
  | .finite negative mant exp _ =>
    UInt64.ofNat (signBit negative + (exp + 1074).toNat * 0x10000000000000 + mant)

end Binary64

end RasterText
