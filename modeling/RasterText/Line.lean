import RasterText.Run
import RasterText.Settings

/-!
# Lines of text

A line spells its runs from left to right: the token of the run's colour and one
space for every position of the run.  The terminator ends the line.
-/

namespace RasterText

def Run.text (settings : Settings) (run : Run) : List Char :=
  token settings.layout settings.encoding run.color ++ List.replicate run.length ' '

def lineOf (settings : Settings) (runs : List Run) : List Char :=
  runs.flatMap (Run.text settings) ++ settings.encoding.terminator

@[simp] theorem Run.length_text (settings : Settings) (run : Run) :
    (run.text settings).length = settings.encoding.tokenLength + run.length := by
  simp [Run.text]

/-- The characters of a line: one for every position, a token for every run, and the
terminator. -/
theorem length_lineOf (settings : Settings) (runs : List Run) :
    (lineOf settings runs).length =
      totalLength runs + runs.length * settings.encoding.tokenLength +
        settings.encoding.terminator.length := by
  unfold lineOf
  induction runs with
  | nil => simp [totalLength]
  | cons run rest ih =>
    simp only [List.flatMap_cons, List.append_assoc, List.length_append, Run.length_text,
      totalLength, List.length_cons, Nat.succ_mul] at ih ⊢
    omega

end RasterText
