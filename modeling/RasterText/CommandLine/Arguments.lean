import RasterText.CommandLine.Invocation
import RasterText.Decimal.Numeral

/-!
# Command-line arguments

The reader of arguments that the executable works with; what is proved of runs holds of
every invocation, however it was spelled.  Arguments are read from left to right.  An
option may wait for its value, which is then the next plain word; a value is judged when
the next option arrives or the arguments end, so a fault of an earlier argument can hide
behind a later one that is refused at once.  After a lone double dash every word is a file
name.
-/

namespace RasterText.CommandLine

inductive Slot where
  | input
  | output
  | scale
  | layout
deriving DecidableEq

inductive Flag where
  | raw
  | alphaRuns
  | help
  | version
deriving DecidableEq

structure Given where
  input : Option String := none
  output : Option String := none
  scale : Option Binary64 := none
  layout : Option Layout := none
  raw : Bool := false
  alphaRuns : Bool := false
deriving DecidableEq

def layoutNamed? (word : String) : Option Layout :=
  if word = "rrg" then some .rrg
  else if word = "rrr" then some .rrr
  else if word = "rgb" then some .rgb
  else none

namespace Given

def has (given : Given) : Slot → Bool
  | .input => given.input.isSome
  | .output => given.output.isSome
  | .scale => given.scale.isSome
  | .layout => given.layout.isSome

def fill (given : Given) (slot : Slot) (word : String) : Except Refusal Given :=
  match slot with
  | .input =>
    if word = "" then .error .invalidValue else .ok { given with input := some word }
  | .output =>
    if word = "" then .error .invalidValue else .ok { given with output := some word }
  | .scale =>
    match Numeral.read? word with
    | none => .error .valueValidation
    | some scale => .ok { given with scale := some scale }
  | .layout =>
    match layoutNamed? word with
    | none => .error .invalidValue
    | some layout => .ok { given with layout := some layout }

/-- Settles a slot: a missing value is refused first, then a second value, then a value
that does not fit. -/
def settle (given : Given) (slot : Slot) (value : Option String) : Except Refusal Given :=
  match value with
  | none => .error .invalidValue
  | some word => if given.has slot then .error .argumentConflict else given.fill slot word

def raise (given : Given) : Flag → Except Refusal Given
  | .raw => if given.raw then .error .argumentConflict else .ok { given with raw := true }
  | .alphaRuns =>
    if given.alphaRuns then .error .argumentConflict else .ok { given with alphaRuns := true }
  | .help => .error (.help true)
  | .version => .error .version

end Given

inductive Name where
  | valued (slot : Slot)
  | flag (flag : Flag)
deriving DecidableEq

def Name.ofLong? (name : String) : Option Name :=
  if name = "output" then some (.valued .output)
  else if name = "scale" then some (.valued .scale)
  else if name = "layout" then some (.valued .layout)
  else if name = "raw" then some (.flag .raw)
  else if name = "alpha-runs" then some (.flag .alphaRuns)
  else if name = "help" then some (.flag .help)
  else if name = "version" then some (.flag .version)
  else none

def Slot.ofShort? (name : Char) : Option Slot :=
  if name = 'o' then some .output
  else if name = 's' then some .scale
  else if name = 'l' then some .layout
  else none

inductive Word where
  | divider
  | long (name : String) (value : Option String)
  | short (name : Char) (rest : List Char)
  | plain (text : String)
deriving DecidableEq

def valueAfterEquals : List Char → Option String
  | [] => none
  | _ :: value => some (String.ofList value)

/-- The shape of an argument.  A single dash and the empty word are plain. -/
def Word.ofText (text : String) : Word :=
  match text.toList with
  | ['-', '-'] => .divider
  | '-' :: '-' :: rest =>
    .long (String.ofList (rest.takeWhile (· != '=')))
      (valueAfterEquals (rest.dropWhile (· != '=')))
  | '-' :: name :: rest => .short name rest
  | _ => .plain text

/-- The value glued to a short name; one equals sign before it does not count. -/
def gluedValue : List Char → String
  | '=' :: value => String.ofList value
  | value => String.ofList value

/-- The state of reading: what is given, what waits to be settled with the value it has
so far, and whether only file names follow. -/
structure Scan where
  given : Given := {}
  pending : Option (Slot × Option String) := none
  onlyNames : Bool := false

namespace Scan

def resolve (scan : Scan) : Except Refusal Scan :=
  match scan.pending with
  | none => .ok scan
  | some (slot, value) =>
    match scan.given.settle slot value with
    | .ok given => .ok { scan with given, pending := none }
    | .error refusal => .error refusal

def hasInput (scan : Scan) : Bool :=
  scan.given.has .input || scan.pending.any (·.1 == .input)

def name (scan : Scan) (word : String) : Except Refusal Scan :=
  if scan.hasInput then .error .unknownArgument
  else
    match scan.resolve with
    | .ok scan => .ok { scan with pending := some (.input, some word) }
    | .error refusal => .error refusal

def option (scan : Scan) (slot : Slot) (word : String) : Except Refusal Scan :=
  match scan.resolve with
  | .error refusal => .error refusal
  | .ok scan =>
    match scan.given.settle slot (some word) with
    | .ok given => .ok { scan with given }
    | .error refusal => .error refusal

def await (scan : Scan) (slot : Slot) : Except Refusal Scan :=
  match scan.resolve with
  | .ok scan => .ok { scan with pending := some (slot, none) }
  | .error refusal => .error refusal

def flag (scan : Scan) (flag : Flag) : Except Refusal Scan :=
  match scan.resolve with
  | .error refusal => .error refusal
  | .ok scan =>
    match scan.given.raise flag with
    | .ok given => .ok { scan with given }
    | .error refusal => .error refusal

def finish (scan : Scan) (refusal : Refusal) : Except Refusal Scan :=
  match scan.resolve with
  | .ok _ => .error refusal
  | .error earlier => .error earlier

def long (scan : Scan) (name : String) (value : Option String) : Except Refusal Scan :=
  match Name.ofLong? name, value with
  | none, _ => .error .unknownArgument
  | some (.flag _), some _ => .error .tooManyValues
  | some (.flag flag), none => scan.flag flag
  | some (.valued slot), some word => scan.option slot word
  | some (.valued slot), none => scan.await slot

def short (scan : Scan) (name : Char) (rest : List Char) : Except Refusal Scan :=
  match Slot.ofShort? name with
  | some slot => if rest.isEmpty then scan.await slot else scan.option slot (gluedValue rest)
  | none =>
    if name = 'h' then scan.finish (.help false)
    else if name = 'V' then scan.finish .version
    else .error .unknownArgument

/-- A plain word: the value that an option waits for, or a file name. -/
def plain (scan : Scan) (word : String) : Except Refusal Scan :=
  match scan.pending with
  | some (slot, none) => .ok { scan with pending := some (slot, some word) }
  | _ => scan.name word

def step (scan : Scan) (argument : String) : Except Refusal Scan :=
  if scan.onlyNames then scan.name argument
  else
    match Word.ofText argument with
    | .divider => .ok { scan with onlyNames := true }
    | .long name value => scan.long name value
    | .short name rest => scan.short name rest
    | .plain word => scan.plain word

end Scan

/-- The invocation that the given values spell; what is absent has its default. -/
def Given.toInvocation (given : Given) : Invocation where
  input := given.input.getD defaultInput
  output := given.output
  scale := given.scale.getD defaultScale
  layout := given.layout.getD .rrg
  raw := given.raw
  alphaRuns := given.alphaRuns

def scanAll (scan : Scan) : List String → Except Refusal Scan
  | [] => scan.resolve
  | argument :: rest =>
    match scan.step argument with
    | .ok next => scanAll next rest
    | .error refusal => .error refusal

def parse (arguments : List String) : Except Refusal Invocation :=
  match scanAll {} arguments with
  | .ok scan => .ok scan.given.toInvocation
  | .error refusal => .error refusal

end RasterText.CommandLine
