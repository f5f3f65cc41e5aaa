import RasterText.Binary64.Arithmetic
import RasterText.Decimal.Notation
import RasterText.Token

/-!
# Settings

The scale stretches every row, the layout and the encoding shape the tokens, and
`alphaCounts` tells whether a change of alpha alone starts a new run.  A scale is
accepted when it is a finite number between `minScale` and `maxScale`.
-/

namespace RasterText

/-- The double nearest to one tenth. -/
def minScale : Binary64 := .finite false 0x1999999999999a (-56) (by decide)

/-- Sixteen. -/
def maxScale : Binary64 := .finite false 0x10000000000000 (-48) (by decide)

/-- One and a half. -/
def defaultScale : Binary64 := .finite false 0x18000000000000 (-52) (by decide)

structure Settings where
  scale : Binary64 := defaultScale
  layout : Layout := .rrg
  encoding : Encoding := .escaped
  alphaCounts : Bool := false
deriving DecidableEq

/-- Why settings are refused: for their scale alone, or because the scale leaves
nothing of an image of the given width. -/
inductive SettingsFault where
  | notFinite (scale : Binary64)
  | outOfRange (scale : Binary64)
  | noColumns (scale : Binary64) (width : Nat)
deriving DecidableEq

def SettingsFault.message : SettingsFault → String
  | .notFinite scale => s!"scale must be a finite number, got {scale.text}"
  | .outOfRange scale =>
    s!"scale must be between {minScale.text} and {maxScale.text}, got {scale.text}"
  | .noColumns scale width =>
    s!"scale {scale.text} leaves no columns for an image {width} pixels wide"

namespace Settings

def fault? (settings : Settings) : Option SettingsFault :=
  if settings.scale.isFinite then
    if minScale.le settings.scale && settings.scale.le maxScale then none
    else some (.outOfRange settings.scale)
  else some (.notFinite settings.scale)

/-- Equality of settings as values: scales are compared as numbers, so a NaN
differs from itself and the two zeros are equal. -/
def sameAs (a b : Settings) : Bool :=
  a.scale.sameValue b.scale && a.layout == b.layout && a.encoding == b.encoding &&
    a.alphaCounts == b.alphaCounts

end Settings

end RasterText
