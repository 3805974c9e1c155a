import ILGraft.Path
import ILGraft.Text.File

/-!
# File trees

A file tree is a finite value: the files and directories that exist, with the directory that
relative paths start from. Paths are followed part by part, so double dots lead out of the
directory they stand in and every part but the last has to be a directory. Where a path makes the
directories it is missing, it makes those that double dots lead out of again as well.
-/

namespace ILGraft

/-- A place in a tree: the names from the top, the outermost first. -/
abbrev Location := List String

/-- What stands at a place. -/
inductive Entry
  /-- A file with its bytes. -/
  | file (bytes : List UInt8)
  /-- A directory. -/
  | directory
deriving Repr, DecidableEq

/-- Why a file cannot be reached, read or written. -/
inductive FileError
  /-- The path holds a null character. -/
  | nullInName
  /-- The path, or one of its parts, is too long. -/
  | nameTooLong
  /-- Nothing stands there. -/
  | missing
  /-- A part of the path leads through a file. -/
  | notDirectory
  /-- A directory stands there. -/
  | isDirectory
  /-- A file stands where a directory is to be made. -/
  | occupied
deriving Repr, DecidableEq

/-- The system's words for an error. -/
def FileError.message : FileError → String
  | .nullInName => "embedded null byte"
  | .nameTooLong => "File name too long"
  | .missing => "No such file or directory"
  | .notDirectory => "Not a directory"
  | .isDirectory => "Is a directory"
  | .occupied => "File exists"

/-- Why a file yields no text. -/
inductive TextError
  /-- The file cannot be read. -/
  | file (error : FileError)
  /-- The file is not UTF-8. -/
  | encoding (malformed : Text.Utf8.Malformed)
deriving Repr, DecidableEq

/-- The files and directories that exist. -/
structure FileTree where
  /-- The directory that relative paths start from. -/
  working : Location
  /-- What stands at each place below the top. -/
  entries : List (Location × Entry)
deriving Repr, DecidableEq

namespace FileTree

/-- What stands at a place; the top is a directory. -/
def entry? (tree : FileTree) (place : Location) : Option Entry :=
  if place = [] then some .directory else tree.entries.lookup place

/-- The largest size of one part of a path, in bytes. -/
def maxPartSize : Nat := 255

/-- The smallest size of a path that is too long, in bytes. -/
def pathSizeLimit : Nat := 4096

/-- The place that a part leads to from a directory. -/
def step (place : Location) (part : String) : Location :=
  if part = "." then place
  else if part = ".." then place.dropLast
  else place ++ [part]

/-- Follows parts from a place. Whatever a part is looked up in has to be a directory. -/
def walk (tree : FileTree) : Location → List String → Except FileError Location
  | place, [] => .ok place
  | place, part :: rest =>
    match tree.entry? place with
    | none => .error .missing
    | some (.file _) => .error .notDirectory
    | some .directory =>
      if maxPartSize < part.utf8ByteSize then .error .nameTooLong
      else walk tree (step place part) rest

/-- The place that a root starts from. -/
def startOf (tree : FileTree) : Path.Root → Location
  | .working => tree.working
  | _ => []

/-- Refuses the text of a path that no system call accepts. -/
def checkText (text : String) : Except FileError Unit :=
  if text.toList.contains '\x00' then .error .nullInName
  else if pathSizeLimit ≤ text.utf8ByteSize then .error .nameTooLong
  else .ok ()

/-- The place that a path leads to. Its last part need not exist. -/
def locate (tree : FileTree) (path : Path) : Except FileError Location := do
  checkText path.toString
  walk tree (tree.startOf path.root) path.parts

/-- The parts of a path as it is written: single dots count, and a slash at the end asks for a
directory. -/
def writtenParts (text : List Char) : List String :=
  let parts := ((Text.splitOn '/' text).filter (· ≠ [])).map String.ofList
  if text.getLast? = some '/' then parts ++ ["."] else parts

/-- What stands where a path, taken as it is written, leads to. -/
def status (tree : FileTree) (text : String) : Except FileError Entry := do
  checkText text
  if text = "" then throw .missing
  let place ← walk tree (tree.startOf (Path.rootOf text.toList)) (writtenParts text.toList)
  match tree.entry? place with
  | some entry => return entry
  | none => throw .missing

/-- What stands where a path leads to, if anything. Only a name that is too long is an error. -/
def find? (tree : FileTree) (path : Path) : Except FileError (Option Entry) :=
  match tree.locate path with
  | .ok place => .ok (tree.entry? place)
  | .error .nameTooLong => .error .nameTooLong
  | .error _ => .ok none

/-- Whether a path leads to a file. -/
def isFile (tree : FileTree) (path : Path) : Except FileError Bool :=
  (tree.find? path).map fun
    | some (.file _) => true
    | _ => false

/-- The bytes of the file that a path leads to. -/
def readBytes (tree : FileTree) (path : Path) : Except FileError (List UInt8) := do
  let place ← tree.locate path
  match tree.entry? place with
  | none => throw .missing
  | some .directory => throw .isDirectory
  | some (.file bytes) => return bytes

/-- The text of the file that a path leads to. -/
def readText (tree : FileTree) (path : Path) : Except TextError String := do
  let bytes ← (tree.readBytes path).mapError .file
  let text ← (Text.ofFile bytes).mapError .encoding
  return String.ofList text

/-- The tree with an entry at a place, in place of what stood there. -/
def put (tree : FileTree) (place : Location) (entry : Entry) : FileTree :=
  if (tree.entries.lookup place).isSome then
    { tree with
      entries := tree.entries.map fun old => if old.1 = place then (place, entry) else old }
  else { tree with entries := tree.entries ++ [(place, entry)] }

/-- Writes a file. Its directory has to exist. -/
def write (tree : FileTree) (path : Path) (bytes : List UInt8) : Except FileError FileTree := do
  let place ← tree.locate path
  match tree.entry? place with
  | some .directory => throw .isDirectory
  | _ => return tree.put place (.file bytes)

/-- The tree without the entry at a place and without what lies below it. -/
def remove (tree : FileTree) (place : Location) : FileTree :=
  { tree with entries := tree.entries.filter fun old => !place.isPrefixOf old.1 }

/-- The tree without what a path leads to, if anything stands there. -/
def discard (tree : FileTree) (path : Path) : FileTree :=
  match tree.locate path with
  | .ok place => tree.remove place
  | .error _ => tree

/-- The tree with a directory at a place, and at every place above it that was free. -/
def makeDirectories (tree : FileTree) (place : Location) : FileTree :=
  (List.range place.length).foldl
    (fun tree count =>
      let above := place.take (count + 1)
      if (tree.entry? above).isSome then tree else tree.put above .directory)
    tree

/-- The tree with an entry at a place, and with the directories above it. -/
def add (tree : FileTree) (place : Location) (entry : Entry) : FileTree :=
  (tree.makeDirectories place.dropLast).put place entry

/-- Follows parts from a place and makes the directories that are missing on the way. A file takes
the place of the last directory; an earlier one cannot be followed. -/
def extend : FileTree → Location → List String → Except FileError FileTree
  | tree, _, [] => .ok tree
  | tree, place, part :: rest =>
    if maxPartSize < part.utf8ByteSize then .error .nameTooLong
    else
      match tree.entry? (step place part) with
      | none => extend (tree.put (step place part) .directory) (step place part) rest
      | some .directory => extend tree (step place part) rest
      | some (.file _) => .error (if rest = [] then .occupied else .notDirectory)

/-- The tree with the directory that a path leads to. -/
def makePath (tree : FileTree) (path : Path) : Except FileError FileTree := do
  checkText path.toString
  extend tree (tree.startOf path.root) path.parts

/-- Writes a file, and makes its directory if it is missing. -/
def install (tree : FileTree) (path : Path) (bytes : List UInt8) : Except FileError FileTree := do
  checkText path.toString
  let tree ← tree.makePath path.parent
  tree.write path bytes

/-- The tree of a working directory in which nothing lies. -/
def bare (working : Location) : FileTree :=
  (FileTree.mk working []).makeDirectories working

/-- The tree of the given entries below a working directory. -/
def ofEntries (working : Location) (entries : List (Path × Entry)) : Except FileError FileTree :=
  entries.foldlM
    (fun tree (path, entry) =>
      match entry with
      | .file bytes => tree.install path bytes
      | .directory => tree.makePath path)
    (bare working)

/-- The files of a tree that another tree does not hold with the same bytes. -/
def changesSince (tree before : FileTree) : List (Location × List UInt8) :=
  tree.entries.filterMap fun
    | (place, .file bytes) =>
      if before.entry? place = some (.file bytes) then none else some (place, bytes)
    | _ => none

/-- How a place is written: relative to the working directory if it lies inside it. -/
def display (tree : FileTree) (place : Location) : String :=
  match tree.working.isPrefixOf? place with
  | some below => (Path.mk .working below).toString
  | none => (Path.mk .top place).toString

end FileTree

end ILGraft
