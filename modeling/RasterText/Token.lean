import RasterText.Pixel

/-!
# Colour tokens

A token opens a run of colour: a lead marker and three bytes in lowercase
hexadecimal.  The layout chooses which channels the three bytes show, and the
encoding chooses how the lead and the terminator of a line are spelled: as escape
text of four characters, or as the control characters themselves.
-/

namespace RasterText

inductive Layout where
  | rrg
  | rrr
  | rgb
deriving DecidableEq

abbrev Triple := UInt8 × UInt8 × UInt8

namespace Layout

def triple : Layout → Pixel → Triple
  | .rrg, p => (p.red, p.red, p.green)
  | .rrr, p => (p.red, p.red, p.red)
  | .rgb, p => (p.red, p.green, p.blue)

end Layout

inductive Encoding where
  | escaped
  | raw
deriving DecidableEq

namespace Encoding

def lead : Encoding → List Char
  | .escaped => ['\\', 'x', '1', 'c']
  | .raw => ['\x1c']

def terminator : Encoding → List Char
  | .escaped => ['\\', 'x', '1', '9']
  | .raw => ['\x19']

def tokenLength (encoding : Encoding) : Nat :=
  encoding.lead.length + 6

end Encoding

/-- A byte as two lowercase hexadecimal digits. -/
def hexPair (byte : UInt8) : List Char :=
  [Nat.digitChar (byte.toNat / 16), Nat.digitChar (byte.toNat % 16)]

def token (layout : Layout) (encoding : Encoding) (color : Pixel) : List Char :=
  let (first, second, third) := layout.triple color
  encoding.lead ++ hexPair first ++ hexPair second ++ hexPair third

@[simp] theorem length_token (layout : Layout) (encoding : Encoding) (color : Pixel) :
    (token layout encoding color).length = encoding.tokenLength := by
  simp [token, hexPair, Encoding.tokenLength]

def appendToken (text : String) (layout : Layout) (encoding : Encoding) (color : Pixel) : String :=
  text ++ String.ofList (token layout encoding color)

end RasterText
