import RasterText.CommandLine.Help
import RasterText.CommandLine.Invocation
import RasterText.Loading

/-!
# Running an invocation

A run checks the settings, loads the input, opens the output and writes the rendered
lines, in this order; the first step that fails ends it.  The output is emptied when
it is opened, so an image that cannot be rendered leaves an empty file behind.  What reads
the arguments and what decodes image files are parameters.
-/

namespace RasterText.CommandLine

inductive RunError where
  | invalidArguments (fault : SettingsFault)
  | conversion (error : Error)
  | creating (path : String) (failure : IoFailure)
deriving DecidableEq

def RunError.headline : RunError → String
  | .invalidArguments _ => "invalid arguments"
  | .conversion error => error.message
  | .creating path _ => s!"creating {path}"

/-- What lies behind the headline, where the program words it itself. -/
def RunError.detail? : RunError → Option String
  | .invalidArguments fault => some fault.message
  | _ => none

structure RunReport where
  error? : Option RunError
  stdout : List UInt8
  tree : FileTree
  events : List Event

inductive Destination where
  | stdout
  | file (place : List String)
deriving DecidableEq

def Destination.deliver (tree : FileTree) (content : List UInt8) :
    Destination → List UInt8 × FileTree
  | .stdout => (content, tree)
  | .file place => ([], tree.put place content)

namespace Invocation

def destination (invocation : Invocation) (tree : FileTree) : Except RunError Destination :=
  match invocation.output with
  | none => .ok .stdout
  | some path =>
    match tree.creationPlace path with
    | .ok place => .ok (.file place)
    | .error failure => .error (.creating path failure)

/-- Writes an image to an open destination, which takes all the bytes that it is given. -/
def deliver (invocation : Invocation) (tree : FileTree) (image : Image)
    (destination : Destination) (before : List Event) : RunReport :=
  let writing := image.write invocation.settings {}
  let (stdout, after) := destination.deliver tree writing.sink.accepted.toList
  match writing.error? with
  | some error => ⟨some (.conversion error), stdout, after, before ++ writing.events⟩
  | none =>
    ⟨none, stdout, after,
      before ++ writing.events ++ [.finished image.height invocation.output]⟩

def run (invocation : Invocation) (openImage : Opener) (tree : FileTree) : RunReport :=
  match invocation.settings.fault? with
  | some fault => ⟨some (.invalidArguments fault), [], tree, []⟩
  | none =>
    let loading := tree.loadReporting openImage invocation.input
    let events := .converting invocation.input invocation.settings :: loading.events
    match loading.result with
    | .error error => ⟨some (.conversion error), [], tree, events⟩
    | .ok image =>
      match invocation.destination tree with
      | .error error => ⟨some error, [], tree, events⟩
      | .ok destination => invocation.deliver tree image destination events

end Invocation

structure Execution where
  code : Nat
  stdout : List UInt8
  /-- The first line of the standard error output, where its wording is fixed. -/
  stderr : Option String
  tree : FileTree

/-- Help and version are printed, refused arguments end with code two, and a failed run
with code one. -/
def execute (read : List String → Except Refusal Invocation) (openImage : Opener)
    (arguments : List String) (tree : FileTree) : Execution :=
  match read arguments with
  | .error (.help detailed) => ⟨0, Text.bytes (helpText detailed), some "", tree⟩
  | .error .version => ⟨0, Text.bytes versionText, some "", tree⟩
  | .error _ => ⟨2, [], none, tree⟩
  | .ok invocation =>
    let report := invocation.run openImage tree
    match report.error? with
    | none => ⟨0, report.stdout, some "", report.tree⟩
    | some error =>
      ⟨1, report.stdout, some (Text.firstLine s!"Error: {error.headline}"), report.tree⟩

end RasterText.CommandLine
