import RasterText.Error
import RasterText.Line
import RasterText.Sampling

/-!
# Rendering

Every row of an image becomes one line of text.  Rendering refuses settings with a
fault, images without pixels, rows outside the image, and a scale that leaves no
output position, in this order.  Looking at the runs of a row asks only for a row
that exists.
-/

namespace RasterText

namespace Image

def rowRuns (image : Image) (settings : Settings) (y : Nat) (filled : 0 < image.width)
    (inside : y < image.height) : List Run :=
  runsOf settings.alphaCounts (image.samples settings.scale y filled inside)

def rowLine (image : Image) (settings : Settings) (y : Nat) (filled : 0 < image.width)
    (inside : y < image.height) : List Char :=
  lineOf settings (image.rowRuns settings y filled inside)

def runs (image : Image) (settings : Settings) (y : Nat) : Except Error (List Run) :=
  if filled : image.IsFilled then
    if inside : y < image.height then .ok (image.rowRuns settings y filled.1 inside)
    else .error (.rowOutOfRange y image.height)
  else .error (.emptyImage image.width image.height)

/-- The error of a scale that leaves no output position. -/
def noColumns (image : Image) (settings : Settings) : Error :=
  .invalidSettings (.noColumns settings.scale image.width)

def renderRow (image : Image) (settings : Settings) (y : Nat) : Except Error String :=
  match settings.fault? with
  | some fault => .error (.invalidSettings fault)
  | none =>
    if filled : image.IsFilled then
      if inside : y < image.height then
        if columnCount image.width settings.scale = 0 then .error (image.noColumns settings)
        else .ok (String.ofList (image.rowLine settings y filled.1 inside))
      else .error (.rowOutOfRange y image.height)
    else .error (.emptyImage image.width image.height)

def render (image : Image) (settings : Settings) : Except Error (List String) :=
  match settings.fault? with
  | some fault => .error (.invalidSettings fault)
  | none =>
    if filled : image.IsFilled then
      if columnCount image.width settings.scale = 0 then .error (image.noColumns settings)
      else
        .ok (List.ofFn fun y : Fin image.height =>
          String.ofList (image.rowLine settings y filled.1 y.isLt))
    else .error (.emptyImage image.width image.height)

theorem length_of_render {image : Image} {settings : Settings} {lines : List String}
    (rendered : image.render settings = .ok lines) : lines.length = image.height := by
  unfold render at rendered
  split at rendered
  · contradiction
  · split at rendered
    · split at rendered
      · contradiction
      · cases rendered
        simp
    · contradiction

end Image

end RasterText
