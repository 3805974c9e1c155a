import ILGraft.Text.Split

/-!
# Paths

A path is a root and its parts. Empty parts and single dots are dropped when a path is read;
double dots stay, because what they lead to depends on the files.
-/

namespace ILGraft

/-- Where a path starts. -/
inductive Path.Root
  /-- At the working directory. -/
  | working
  /-- At the top of the tree. -/
  | top
  /-- At the place that exactly two leading slashes name. -/
  | doubled
deriving Repr, DecidableEq

/-- The text of a root. -/
def Path.Root.text : Path.Root → String
  | .working => ""
  | .top => "/"
  | .doubled => "//"

/-- A path in normal form. -/
structure Path where
  /-- Where the path starts. -/
  root : Path.Root
  /-- The names below the root, the outermost first. -/
  parts : List String
deriving Repr, DecidableEq

namespace Path

/-- Whether a text can be a part of a path in normal form. -/
def IsName (part : String) : Prop :=
  part.toList ≠ [] ∧ part.toList ≠ ['.'] ∧ '/' ∉ part.toList

instance : DecidablePred IsName :=
  fun part => inferInstanceAs
    (Decidable (part.toList ≠ [] ∧ part.toList ≠ ['.'] ∧ '/' ∉ part.toList))

/-- The root that the leading slashes of a text name. -/
def rootOf : List Char → Root
  | '/' :: '/' :: '/' :: _ => .top
  | '/' :: '/' :: _ => .doubled
  | '/' :: _ => .top
  | _ => .working

/-- Reads a path. -/
def ofString (text : String) : Path where
  root := rootOf text.toList
  parts := ((Text.splitOn '/' text.toList).filter fun part => part ≠ [] ∧ part ≠ ['.']).map
    String.ofList

/-- Writes a path; the empty path is a single dot. -/
def toString (path : Path) : String :=
  if path.root = .working ∧ path.parts = [] then "."
  else path.root.text ++ "/".intercalate path.parts

instance : ToString Path := ⟨Path.toString⟩

/-- The path with one more part. -/
def child (path : Path) (part : String) : Path :=
  { path with parts := path.parts ++ [part] }

/-- The path without its last part. -/
def parent (path : Path) : Path :=
  { path with parts := path.parts.dropLast }

/-- The last part, or the empty text if there is none. -/
def name (path : Path) : String :=
  path.parts.getLastD ""

/-- The suffix of a name: what begins at its last dot, unless that dot is its first or its last
character. -/
def suffixOfName (name : List Char) : List Char :=
  let extension := (name.reverse.takeWhile (· ≠ '.')).reverse
  let stem := name.take (name.length - extension.length - 1)
  if extension = [] ∨ stem = [] ∨ extension.length = name.length then []
  else '.' :: extension

/-- The suffix of the last part. -/
def suffix (path : Path) : String :=
  String.ofList (suffixOfName path.name.toList)

end Path

end ILGraft
