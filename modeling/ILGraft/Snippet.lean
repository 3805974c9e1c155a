import ILGraft.Marker
import ILGraft.Statement

/-!
# Snippets

A snippet is the raw code between the markers of a block in a source file, together with the
source lines it covers. Its annotated form ties every instruction back to its source line.
-/

namespace ILGraft

/-- Raw code lifted from a range of lines of a source file. -/
structure Snippet where
  /-- The source file, as the disassembly names it. -/
  file : String
  /-- The first source line of the code. -/
  first : Int
  /-- The last source line; one less than the first if there is no code. -/
  last : Int
  /-- The lines of code. -/
  raw : List String
  /-- Every line of the range has its line of code. -/
  covers : (raw.length : Int) = last - first + 1
deriving DecidableEq

namespace Snippet

/-- Code whose length differs from the length of its source range. -/
structure Misfit where
  /-- The source file. -/
  file : String
  /-- The first line of the range. -/
  first : Int
  /-- The last line of the range. -/
  last : Int
  /-- How many lines of code there are. -/
  rows : Nat
deriving Repr, DecidableEq

/-- Refuses a misfit if the number of lines that its range covers is too long to be written. -/
def Misfit.checkNumerals (misfit : Misfit) : Except Text.LongNumeral Unit :=
  Text.checkNumerals [misfit.last - misfit.first + 1]

/-- The snippet of a file, a range and the code lines that have to cover it. -/
def ofRange (file : String) (first last : Int) (raw : List String) : Except Misfit Snippet :=
  if covers : (raw.length : Int) = last - first + 1 then
    .ok { file, first, last, raw, covers }
  else .error { file, first, last, rows := raw.length }

/-- How messages refer to a snippet. -/
def describe (snippet : Snippet) : String :=
  "snippet in file '" ++ snippet.file ++ "' at range (" ++ Text.numeral snippet.first ++ ","
    ++ Text.numeral snippet.last ++ ")"

/-- How messages refer to a snippet, unless its range is too long to be written. -/
def tryDescribe (snippet : Snippet) : Except Text.LongNumeral String := do
  Text.checkNumerals [snippet.first, snippet.last]
  return snippet.describe

/-- What stands in front of a line that can carry no marker. -/
def markerSkipped : String := "// skip sequence marker"

/-- The marker, or its stand-in, for a line of code at a source line. -/
def annotation (file : String) (number : Int) (line : String) : String :=
  if isStatement line then Marker.write file number number 1 (line.length + 1)
  else markerSkipped

/-- Lines of code that begin at a source line, each behind its annotation. -/
def annotate (file : String) : Int → List String → List String
  | _, [] => []
  | number, line :: rest =>
    annotation file number line :: line :: annotate file (number + 1) rest

/-- The lines that a snippet adds to a document. -/
def annotated (snippet : Snippet) : List String :=
  ("// Snippet from " ++ snippet.file ++ ":" ++ Text.numeral snippet.first)
    :: annotate snippet.file snippet.first snippet.raw

/-- Refuses lines of code that begin at a source line if a number in their annotations is too long
to be written. -/
def checkLines : Int → List String → Except Text.LongNumeral Unit
  | _, [] => .ok ()
  | number, line :: rest => do
    if isStatement line then
      let _ ← Text.writeNumeral number
    checkLines (number + 1) rest

/-- Refuses a snippet if a number in its annotated form is too long to be written. No source file
is that long, but snippets need not come from one. -/
def checkNumerals (snippet : Snippet) : Except Text.LongNumeral Unit := do
  let _ ← Text.writeNumeral snippet.first
  checkLines snippet.first snippet.raw

end Snippet

end ILGraft
