import RasterText.Settings

/-!
# Invocations

What the arguments of the command line come to: a conversion to do, or a refusal.
-/

namespace RasterText.CommandLine

/-- Why reading the arguments ended without a conversion to do.  Asking for help or for
the version ends it too. -/
inductive Refusal where
  | invalidValue
  | valueValidation
  | argumentConflict
  | tooManyValues
  | unknownArgument
  | help (detailed : Bool)
  | version
deriving DecidableEq

def defaultInput : String := "Terminal.png"

structure Invocation where
  input : String := defaultInput
  output : Option String := none
  scale : Binary64 := defaultScale
  layout : Layout := .rrg
  raw : Bool := false
  alphaRuns : Bool := false
deriving DecidableEq

def Invocation.settings (invocation : Invocation) : Settings where
  scale := invocation.scale
  layout := invocation.layout
  encoding := if invocation.raw then .raw else .escaped
  alphaCounts := invocation.alphaRuns

end RasterText.CommandLine
