import RasterText.Pixel

/-!
# Runs of colour

The samples of a row are split into runs: each sample joins the open run when it
agrees with the first sample of that run, and otherwise opens the next one.
-/

namespace RasterText

/-- A stretch of output positions of one colour.  The colour is the first sample,
alpha included. -/
structure Run where
  start : Nat
  length : Nat
  color : Pixel
deriving DecidableEq

namespace Run

def grow (run : Run) : Run :=
  { run with length := run.length + 1 }

def stop (run : Run) : Nat :=
  run.start + run.length

end Run

/-- The runs that end the row, when `current` is open and `samples` follow. -/
def runsFrom (alphaCounts : Bool) (current : Run) : List Pixel → List Run
  | [] => [current]
  | p :: rest =>
    if current.color.agrees alphaCounts p then runsFrom alphaCounts current.grow rest
    else current :: runsFrom alphaCounts ⟨current.stop, 1, p⟩ rest

def runsOf (alphaCounts : Bool) : List Pixel → List Run
  | [] => []
  | p :: rest => runsFrom alphaCounts ⟨0, 1, p⟩ rest

/-- The number of positions that runs cover together. -/
def totalLength : List Run → Nat
  | [] => 0
  | run :: rest => run.length + totalLength rest

end RasterText
