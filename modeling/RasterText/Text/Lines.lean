/-!
# Lines and bytes of text

A text made of lines ends every line with a newline.  Its bytes are those of its
characters, one after the other.
-/

namespace RasterText.Text

def unlines (lines : List String) : String :=
  String.ofList (lines.flatMap fun line => line.toList ++ ['\n'])

/-- The text up to its first newline; a carriage return before it does not count. -/
def firstLine (text : String) : String :=
  let line := text.toList.takeWhile (· != '\n')
  String.ofList (if line.getLast? = some '\r' then line.dropLast else line)

def bytes (text : String) : List UInt8 :=
  text.toList.flatMap String.utf8EncodeChar

end RasterText.Text
