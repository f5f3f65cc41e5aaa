import RasterText.Settings
import RasterText.Text.Quoted

/-!
# Events

What a conversion reports while it runs.  An event carries the facts; its level and
wording follow from it.
-/

namespace RasterText

inductive Event where
  | converting (path : String) (settings : Settings)
  | loaded (path : String) (width height : Nat)
  | rendering (width height columns : Nat)
  | wroteLines (count : Nat)
  | finished (count : Nat) (destination : Option String)
deriving DecidableEq

inductive Level where
  | info
  | debug
deriving DecidableEq

def Level.name : Level → String
  | .info => "INFO"
  | .debug => "DEBUG"

def Layout.name : Layout → String
  | .rrg => "Rrg"
  | .rrr => "Rrr"
  | .rgb => "Rgb"

def Encoding.name : Encoding → String
  | .escaped => "Escaped"
  | .raw => "Raw"

def Settings.summary (settings : Settings) : String :=
  "TranscodeConfig \x7b scale: " ++ settings.scale.textWithPoint ++
    ", layout: " ++ settings.layout.name ++
    ", encoding: " ++ settings.encoding.name ++
    ", alpha_splits_runs: " ++ (if settings.alphaCounts then "true" else "false") ++ " \x7d"

namespace Event

def level : Event → Level
  | .converting .. => .info
  | .loaded .. => .debug
  | .rendering .. => .debug
  | .wroteLines _ => .debug
  | .finished .. => .info

def message : Event → String
  | .converting path settings => s!"Converting {Text.quote path} with {settings.summary}"
  | .loaded path width height => s!"loaded {path} ({width}x{height})"
  | .rendering width height columns =>
    s!"transcoding {width}x{height} image to {columns} columns per line"
  | .wroteLines count => s!"wrote {count} lines"
  | .finished count none => s!"Wrote {count} lines to stdout"
  | .finished count (some path) => s!"Wrote {count} lines to {path}"

end Event

end RasterText
