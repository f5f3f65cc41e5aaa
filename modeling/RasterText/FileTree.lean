import RasterText.Error

/-!
# File trees

The files a conversion works on.  Every file has names from the root of the tree, and one
directory of the tree is the working directory.  A path is a text of names divided by
slashes; it is walked from left to right, from the root if it begins with a slash and
from the working directory if not, and every name that is walked through must be a
directory.  A path that holds a null character, or that is too long as a whole, is
refused before the walk; a name that is too long is refused where it would be looked up.
-/

namespace RasterText

inductive Entry where
  | file (content : List UInt8)
  | directory
deriving DecidableEq

def Entry.isDirectory : Entry → Bool
  | .directory => true
  | .file _ => false

/-- The entries of a tree, by their names from the root.  A name that only occurs on the
way to others, or to the working directory, is a directory. -/
structure FileTree where
  entries : List (List String × Entry)
  workingDirectory : List String
  /-- Why no file of a path can be created although its names allow it. -/
  refusal? : String → Option IoFailure := fun _ => none

namespace FileTree

def namesOf (path : String) : List String :=
  (path.toList.splitOnP (· == '/')).map String.ofList

def home : List String := ["work"]

/-- The tree with the given entries, named by paths from the working directory. -/
def ofPaths (entries : List (String × Entry)) : FileTree where
  entries := entries.map fun (path, entry) =>
    (home ++ (namesOf path).filter fun name => name ≠ "" ∧ name ≠ ".", entry)
  workingDirectory := home

def find? (tree : FileTree) (names : List String) : Option Entry :=
  if names.isPrefixOf tree.workingDirectory then some .directory
  else
    match tree.entries.lookup names with
    | some entry => some entry
    | none =>
      if tree.entries.any fun (longer, _) => names.isPrefixOf longer then some .directory
      else none

def hasDirectory (tree : FileTree) (place : List String) : Bool :=
  (tree.find? place).any Entry.isDirectory

def nameLimit : Nat := 255

def pathLimit : Nat := 4095

/-- What is wrong with the text of a path, whatever the tree holds. -/
def pathFault? (path : String) : Option IoFailure :=
  if '\x00' ∈ path.toList then some .invalidInput
  else if path = "" then some .notFound
  else if path.utf8ByteSize > pathLimit then some .invalidFilename
  else none

def step (tree : FileTree) (place : List String) (name : String) :
    Except IoFailure (List String) :=
  if tree.hasDirectory place then
    if name = "" ∨ name = "." then .ok place
    else if name = ".." then .ok place.dropLast
    else if name.utf8ByteSize > nameLimit then .error .invalidFilename
    else if (tree.find? (place ++ [name])).isSome then .ok (place ++ [name])
    else .error .notFound
  else .error .notADirectory

def walk (tree : FileTree) : List String → List String → Except IoFailure (List String)
  | place, [] => .ok place
  | place, name :: rest =>
    match tree.step place name with
    | .ok next => tree.walk next rest
    | .error failure => .error failure

def origin (tree : FileTree) (path : String) : List String :=
  if path.toList.head? = some '/' then [] else tree.workingDirectory

def resolve (tree : FileTree) (path : String) : Except IoFailure (List String) :=
  match pathFault? path with
  | some failure => .error failure
  | none => tree.walk (tree.origin path) (namesOf path)

/-- Why a file of this path cannot be created below a place, under its last name; `bare`
tells that no slash follows that name. -/
def creationFault? (tree : FileTree) (path : String) (holder : List String) (last : String)
    (bare : Bool) : Option IoFailure :=
  if !tree.hasDirectory holder then some .notADirectory
  else if !bare ∨ last = "." ∨ last = ".." then some .isADirectory
  else if last.utf8ByteSize > nameLimit then some .invalidFilename
  else if tree.hasDirectory (holder ++ [last]) then some .isADirectory
  else tree.refusal? path

/-- The place where a file of this path is created: the last name, looked up where the
names before it lead to. -/
def creationPlace (tree : FileTree) (path : String) : Except IoFailure (List String) :=
  match pathFault? path with
  | some failure => .error failure
  | none =>
    let names := namesOf path
    let solid := (names.reverse.dropWhile (· == "")).reverse
    match solid.getLast? with
    | none => .error .isADirectory
    | some last =>
      match tree.walk (tree.origin path) solid.dropLast with
      | .error failure => .error failure
      | .ok holder =>
        match tree.creationFault? path holder last (solid.length == names.length) with
        | some failure => .error failure
        | none => .ok (holder ++ [last])

/-- The tree with a file at a place; an older file there is replaced. -/
def put (tree : FileTree) (place : List String) (content : List UInt8) : FileTree :=
  { tree with
    entries := (place, .file content) :: tree.entries.filter fun (other, _) => other ≠ place }

/-- The files below the working directory that another tree does not have with the same
content, by their paths. -/
def filesBeyond (tree before : FileTree) : List (String × List UInt8) :=
  tree.entries.filterMap fun (names, entry) =>
    match entry with
    | .file content =>
      if tree.workingDirectory.isPrefixOf names && before.find? names != some entry then
        some (String.intercalate "/" (names.drop tree.workingDirectory.length), content)
      else none
    | .directory => none

end FileTree

end RasterText
