import RasterText.FileTree

/-!
# Image formats

The extension of a file name decides which format the content of the file is read as,
whatever the content is.
-/

namespace RasterText

inductive Format where
  | png
  | jpeg
  | gif
  | webp
  | tiff
  | targa
  | dds
  | bitmap
  | icon
  | radiance
  | openExr
  | portable
  | farbfeld
  | qoi
deriving DecidableEq

/-- The part of a name after its last dot.  A dot that starts the name does not count,
and the name of the parent directory has no extension. -/
def extension? (name : String) : Option String :=
  if name = ".." then none
  else
    let reversed := name.toList.reverse
    match reversed.dropWhile (· != '.') with
    | [] => none
    | [_] => none
    | _ :: _ => some (String.ofList (reversed.takeWhile (· != '.')).reverse)

/-- The last name of a path; slashes and lone dots after it do not count. -/
def fileName? (path : String) : Option String :=
  ((FileTree.namesOf path).filter fun name => name ≠ "" ∧ name ≠ ".").getLast?

namespace Format

def extensions : List (String × Format) :=
  [("png", .png), ("apng", .png), ("jpg", .jpeg), ("jpeg", .jpeg), ("jfif", .jpeg),
    ("gif", .gif), ("webp", .webp), ("tif", .tiff), ("tiff", .tiff), ("tga", .targa),
    ("dds", .dds), ("bmp", .bitmap), ("ico", .icon), ("hdr", .radiance), ("exr", .openExr),
    ("pbm", .portable), ("pgm", .portable), ("ppm", .portable), ("pam", .portable),
    ("pnm", .portable), ("ff", .farbfeld), ("qoi", .qoi)]

def ofExtension? (extension : String) : Option Format :=
  extensions.lookup (String.ofList (extension.toList.map Char.toLower))

def ofPath? (path : String) : Option Format :=
  (fileName? path).bind extension? |>.bind ofExtension?

/-- Whether the reader of a format takes a failure of the system for a fault of the
content. -/
def hidesFailures : Format → Bool
  | .openExr | .farbfeld | .qoi => true
  | _ => false

def unread (format : Format) (failure : IoFailure) : LoadFailure :=
  if format.hidesFailures then .undecodable else .io failure

end Format

end RasterText
