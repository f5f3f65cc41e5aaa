import RasterText.Event
import RasterText.Render
import RasterText.Sink
import RasterText.Text.Lines

/-!
# Writing a rendered image

Lines go to a byte sink one after the other, each followed by a newline, and the
sink is flushed once at the end.  Nothing is written when rendering fails.
-/

namespace RasterText

def Sink.writeLines (sink : Sink) : List String → Sink × Option IoFailure
  | [] => sink.flush
  | line :: rest =>
    match sink.writeAll (Text.bytes line) with
    | (next, some failure) => (next, some failure)
    | (next, none) =>
      match next.writeAll (Text.bytes "\n") with
      | (next, some failure) => (next, some failure)
      | (next, none) => next.writeLines rest

structure Reported (α : Type) where
  result : Except Error α
  events : List Event

structure WriteReport where
  sink : Sink
  error? : Option Error
  events : List Event

namespace Image

def renderReporting (image : Image) (settings : Settings) : Reported (List String) :=
  match image.render settings with
  | .error error => ⟨.error error, []⟩
  | .ok lines =>
    ⟨.ok lines, [.rendering image.width image.height (columnCount image.width settings.scale)]⟩

def write (image : Image) (settings : Settings) (sink : Sink) : WriteReport :=
  let rendering := image.renderReporting settings
  match rendering.result with
  | .error error => ⟨sink, some error, rendering.events⟩
  | .ok lines =>
    match sink.writeLines lines with
    | (next, some failure) => ⟨next, some (.io failure), rendering.events⟩
    | (next, none) => ⟨next, none, rendering.events ++ [.wroteLines lines.length]⟩

@[simp] theorem result_renderReporting (image : Image) (settings : Settings) :
    (image.renderReporting settings).result = image.render settings := by
  unfold renderReporting
  split <;> simp_all

end Image

end RasterText
