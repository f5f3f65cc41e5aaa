import RasterText.FileTree
import RasterText.Output

/-!
# Loading images

What decodes image files and brings their pixels to eight bits a channel is a parameter:
it is any function from a file tree and a path to an image or to the reason why there is
none.  Loading adds the path to that reason and reports the extent of an image.
-/

namespace RasterText

abbrev Opener := FileTree → String → Except LoadFailure Image

namespace FileTree

def load (tree : FileTree) (openImage : Opener) (path : String) : Except Error Image :=
  match openImage tree path with
  | .ok image => .ok image
  | .error failure => .error (.load path failure)

def loadReporting (tree : FileTree) (openImage : Opener) (path : String) : Reported Image :=
  match tree.load openImage path with
  | .error error => ⟨.error error, []⟩
  | .ok image => ⟨.ok image, [.loaded path image.width image.height]⟩

def convert (tree : FileTree) (openImage : Opener) (path : String) (settings : Settings)
    (sink : Sink) : WriteReport :=
  let loading := tree.loadReporting openImage path
  match loading.result with
  | .error error => ⟨sink, some error, loading.events⟩
  | .ok image =>
    let report := image.write settings sink
    { report with events := loading.events ++ report.events }

end FileTree

end RasterText
