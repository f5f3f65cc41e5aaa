/-!
# Pixels

A pixel has three colour channels and an alpha channel of eight bits each.  Two
pixels belong to one run of colour when their colours agree; whether alpha is
looked at is a choice of the caller.  Either comparison is an equivalence.
-/

namespace RasterText

structure Pixel where
  red : UInt8
  green : UInt8
  blue : UInt8
  alpha : UInt8
deriving DecidableEq

namespace Pixel

/-- Equal colour, and equal alpha too when `alphaCounts`. -/
def agrees (alphaCounts : Bool) (p q : Pixel) : Bool :=
  p.red == q.red && p.green == q.green && p.blue == q.blue &&
    (!alphaCounts || p.alpha == q.alpha)

@[simp] theorem agrees_self (alphaCounts : Bool) (p : Pixel) : p.agrees alphaCounts p = true := by
  simp [agrees]

theorem agrees_symm {alphaCounts : Bool} {p q : Pixel} (h : p.agrees alphaCounts q = true) :
    q.agrees alphaCounts p = true := by
  cases alphaCounts <;> simp_all [agrees]

theorem agrees_trans {alphaCounts : Bool} {p q r : Pixel} (first : p.agrees alphaCounts q = true)
    (second : q.agrees alphaCounts r = true) : p.agrees alphaCounts r = true := by
  cases alphaCounts <;> simp_all [agrees]

end Pixel

end RasterText
