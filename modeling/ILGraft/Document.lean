import ILGraft.Marker
import ILGraft.Text.Line
import ILGraft.Text.Lower

/-!
# Disassembled documents

A document is the disassembly of one module, line by line, with the marker of every line. A
document is read from text, and merged lines are written back for the assembler.
-/

namespace ILGraft

/-- The lines of a disassembly with their markers. -/
structure Document where
  /-- The lines, in order. -/
  lines : List MarkedLine
deriving DecidableEq

namespace Document

/-- The document without lines. -/
def empty : Document := ⟨[]⟩

/-- The document of the given lines. -/
def ofLines (texts : List String) : Except Text.LongNumeral Document := do
  return ⟨← texts.mapM MarkedLine.ofText⟩

/-- The lines of a document without their markers. -/
def texts (document : Document) : List String :=
  document.lines.map MarkedLine.text

/-- What stands for a declaration of the stack size. -/
def stackSizeRemoved : String := "// removed .maxstack declaration"

/-- Whether a line, blanks apart, begins with a literal. -/
def beginsWith (literal : String) (line : String) : Bool :=
  literal.toList.isPrefixOf (Text.trim line.toList)

/-- A line as a document takes it in. Injected code may need a deeper stack than the module
declares, so declarations of its size go and the assembler computes it. -/
def admitLine (line : String) : String :=
  if beginsWith ".maxstack" line then stackSizeRemoved else line

/-- The lines of a text. -/
def linesOfText (text : String) : List String :=
  (Text.lines text.toList).map String.ofList

/-- Reads a document from the text of a disassembly. -/
def ofText (text : String) : Except Text.LongNumeral Document :=
  ofLines ((linesOfText text).map admitLine)

/-- The source files that a document names, each once, in order of first appearance. -/
def sourceFiles (document : Document) : List String :=
  (document.lines.filterMap fun line => line.marker.file?).eraseDups

/-- A line as the assembler gets it. Markers are lower-cased, since the assembler takes paths
that differ in case for different files. -/
def renderLine (line : String) : String :=
  if beginsWith ".line" line then String.ofList (Text.lower line.toList) else line

/-- Writes lines as text for the assembler. -/
def render (lines : List String) : String :=
  String.join (lines.map fun line => renderLine line ++ "\n")

end Document

end ILGraft
