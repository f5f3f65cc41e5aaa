import RasterText.Format
import RasterText.Format.Farbfeld
import RasterText.Format.Icon
import RasterText.Format.Outline
import RasterText.Format.Qoi
import RasterText.Format.Radiance
import RasterText.Format.Surface
import RasterText.Format.Targa
import RasterText.Format.Tiff
import RasterText.Loading
import RasterText.Portable.Raster

/-!
# An opener of image files

The opener that the executable works with; what is proved of runs holds of every opener.
A file is opened before its name is looked at, so a missing file is reported as missing
under any name.  Then the extension of the name decides which format the content is read
as.  The compressed samples of `png` are not read: the pictures of such files are handed
to the opener with their contents.
-/

namespace RasterText

def bigBytes (value : Nat) : List UInt8 :=
  [24, 16, 8, 0].map fun shift => UInt8.ofNat (value >>> shift)

def Depth.bits : Depth → Nat
  | .eight => 8
  | .sixteen => 16

def Sample.values : Sample → List Nat
  | .gray value => [value]
  | .grayAlpha value alpha => [value, alpha]
  | .rgb red green blue => [red, green, blue]
  | .rgba red green blue alpha => [red, green, blue, alpha]

/-- What stands for the `png` file of a picture: the signature and the extent in the first
chunk, as in every such file, and then the samples as they are. -/
def Picture.content (picture : Picture) : List UInt8 :=
  Outline.pngSignature ++ bigBytes 13 ++ Text.bytes "IHDR" ++ bigBytes picture.width ++
    bigBytes picture.height ++ [UInt8.ofNat picture.depth.bits] ++
    picture.samples.toList.flatMap fun sample =>
      UInt8.ofNat sample.values.length :: sample.values.flatMap bigBytes

namespace Format

/-- Some formats are not read from front to back; their readers see the whole content
beside the rest that is still unread. -/
def reader (format : Format) (content : List UInt8) : Reading Picture :=
  match format with
  | .png => Outline.png
  | .gif => Outline.gif
  | .webp => Outline.webp
  | .tiff => Tiff.picture content
  | .targa => Targa.picture
  | .dds => Surface.picture
  | .bitmap => Bitmap.picture content
  | .icon => Icon.picture content
  | .radiance => Radiance.picture
  | .portable => Portable.picture
  | .farbfeld => Farbfeld.picture
  | .qoi => Qoi.picture
  | .jpeg | .openExr => Reading.fail .undecodable

def read (format : Format) (content : List UInt8) : Except LoadFailure Image :=
  match format.reader content content with
  | .ok (picture, _) => .ok picture.toImage
  | .error failure => .error failure

/-- The image in a file of the given format; `pictures` are those of `png` contents. -/
def readKnowing (pictures : List (List UInt8 × Picture)) (format : Format)
    (content : List UInt8) : Except LoadFailure Image :=
  match format, pictures.lookup content with
  | .png, some picture => .ok picture.toImage
  | _, _ => format.read content

def opener (pictures : List (List UInt8 × Picture)) : Opener := fun tree path =>
  match tree.resolve path with
  | .error failure => .error (.io failure)
  | .ok place =>
    match tree.find? place, ofPath? path with
    | none, _ => .error (.io .notFound)
    | some _, none => .error .unsupported
    | some .directory, some format => .error (format.unread .isADirectory)
    | some (.file content), some format => format.readKnowing pictures content

end Format

end RasterText
