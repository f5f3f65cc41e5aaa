import RasterText.Text.Lines

/-!
# Help texts

The texts that the command line prints when it is asked for help or for its version.
Both helps open with the same lines; the detailed one gives every argument a
paragraph.
-/

namespace RasterText.CommandLine

def versionText : String :=
  Text.unlines ["asciiart-cli 0.1.0"]

def shortHelp : String :=
  Text.unlines [
    "Command line front end for asciiart",
    "",
    "Usage: asciiart [OPTIONS] [FILE]",
    "",
    "Arguments:",
    "  [FILE]  Image to convert [default: Terminal.png]",
    "",
    "Options:",
    "  -o, --output <FILE>    Write to a file instead of stdout",
    "  -s, --scale <SCALE>    Horizontal upscaling factor [default: 1.5]",
    "  -l, --layout <LAYOUT>  Channel order of the colour tokens [default: rrg] [possible values: rrg, rrr, rgb]",
    "      --raw              Emit control bytes instead of escape text",
    "      --alpha-runs       Start a new colour run when only alpha changes",
    "  -h, --help             Print help (see more with '--help')",
    "  -V, --version          Print version"]

def detailedHelp : String :=
  Text.unlines [
    "Command line front end for asciiart",
    "",
    "Usage: asciiart [OPTIONS] [FILE]",
    "",
    "Arguments:",
    "  [FILE]",
    "          Image to convert",
    "          ",
    "          [default: Terminal.png]",
    "",
    "Options:",
    "  -o, --output <FILE>",
    "          Write to a file instead of stdout",
    "",
    "  -s, --scale <SCALE>",
    "          Horizontal upscaling factor",
    "          ",
    "          [default: 1.5]",
    "",
    "  -l, --layout <LAYOUT>",
    "          Channel order of the colour tokens",
    "",
    "          Possible values:",
    "          - rrg: red, red, green",
    "          - rrr: red, red, red",
    "          - rgb: red, green, blue",
    "          ",
    "          [default: rrg]",
    "",
    "      --raw",
    "          Emit control bytes instead of escape text",
    "",
    "      --alpha-runs",
    "          Start a new colour run when only alpha changes",
    "",
    "  -h, --help",
    "          Print help (see a summary with '-h')",
    "",
    "  -V, --version",
    "          Print version"]

def helpText (detailed : Bool) : String :=
  if detailed then detailedHelp else shortHelp

end RasterText.CommandLine
