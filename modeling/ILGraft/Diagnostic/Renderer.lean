import ILGraft.Diagnostic
import ILGraft.FileTree

/-!
# Rendering diagnostics

A diagnostic is shown with a header, the source lines that its labels point at, and its notes.
The lines of a file are remembered under its name from the first time a label uses it; a file
that cannot be read counts as having no lines.
-/

namespace ILGraft

/-- The colours of a rendered diagnostic. -/
structure Palette where
  /-- What introduces text of a severity. -/
  severity : Severity → String
  /-- What introduces bold text. -/
  bold : String
  /-- What introduces the frame around source lines. -/
  frame : String
  /-- What ends coloured text. -/
  reset : String

namespace Palette

/-- The colours of a terminal. -/
def terminal : Palette where
  severity
    | .error => "\x1b[1;31m"
    | .warning => "\x1b[1;33m"
    | .note => "\x1b[1;36m"
  bold := "\x1b[1m"
  frame := "\x1b[1;34m"
  reset := "\x1b[0m"

/-- No colours. -/
def plain : Palette where
  severity _ := ""
  bold := ""
  frame := ""
  reset := ""

/-- The palette for coloured or plain output. -/
def ofColor (color : Bool) : Palette :=
  if color then terminal else plain

end Palette

/-- The lines of files, by the names that labels use. -/
abbrev LineCache := List (String × List String)

namespace Renderer

/-- The lines of a file as a renderer sees them. -/
def linesOf (tree : FileTree) (file : String) : List String :=
  match tree.readText (Path.ofString file) with
  | .ok text => (Text.lines text.toList).map String.ofList
  | .error _ => []

/-- The lines of a file, with the cache that remembers them. -/
def fetch (tree : FileTree) (cache : LineCache) (file : String) : List String × LineCache :=
  match cache.lookup file with
  | some lines => (lines, cache)
  | none => (linesOf tree file, cache ++ [(file, linesOf tree file)])

/-- The line of a number, counted from one. -/
def lineAt? (lines : List String) (number : Int) : Option String :=
  if 1 ≤ number then lines[(number - 1).toNat]? else none

/-- The frame in front of something shown. -/
def framed (palette : Palette) (mark : String) : String :=
  "  " ++ palette.frame ++ mark ++ palette.reset

/-- The first line of a diagnostic. -/
def header (palette : Palette) (diagnostic : Diagnostic) : String :=
  palette.severity diagnostic.severity ++ diagnostic.severity.word ++ "[" ++ diagnostic.code
    ++ "]" ++ palette.reset ++ palette.bold ++ ": " ++ diagnostic.message ++ palette.reset

/-- A source line behind its number. -/
def quote (palette : Palette) (number : Int) (text : String) : String :=
  framed palette (Text.paddedNumeral 4 number ++ " |") ++ " " ++ text

/-- The first source line of a span, if the file has it. -/
def firstQuote (palette : Palette) (lines : List String) (span : Span) : List String :=
  match lineAt? lines span.firstLine with
  | some text => [quote palette span.firstLine text]
  | none => []

/-- The last source line of a span that is longer than a line, behind dots if lines in between
are left out. -/
def lastQuote (palette : Palette) (lines : List String) (span : Span) : List String :=
  if span.lastLine ≤ span.firstLine then []
  else match lineAt? lines span.lastLine with
    | some text =>
      (if span.firstLine + 1 < span.lastLine then [framed palette " ..."] else [])
        ++ [quote palette span.lastLine text]
    | none => []

/-- The lines that show a label. -/
def showLabel (palette : Palette) (severity : Severity) (lines : List String) (label : Label) :
    List String :=
  [framed palette "-->" ++ " " ++ label.span.start, framed palette "   |"]
    ++ firstQuote palette lines label.span ++ lastQuote palette lines label.span
    ++ (if label.message = "" then []
        else [framed palette "   |" ++ "   " ++ palette.severity severity ++ label.message
          ++ palette.reset])

/-- The lines that show labels, with the cache they leave. -/
def showLabels (tree : FileTree) (palette : Palette) (severity : Severity) :
    LineCache → List Label → List String × LineCache
  | cache, [] => ([], cache)
  | cache, label :: rest =>
    let (lines, cache) := fetch tree cache label.span.file
    let (more, cache) := showLabels tree palette severity cache rest
    (showLabel palette severity lines label ++ more, cache)

/-- The line that shows a note. -/
def showNote (palette : Palette) (note : String) : String :=
  framed palette "=" ++ " note: " ++ note

/-- The text of a diagnostic, with the cache it leaves. -/
def render (tree : FileTree) (palette : Palette) (cache : LineCache) (diagnostic : Diagnostic) :
    String × LineCache :=
  let (labels, cache) := showLabels tree palette diagnostic.severity cache diagnostic.labels
  let lines :=
    header palette diagnostic :: labels ++ diagnostic.notes.map (showNote palette)
  ("\n".intercalate lines, cache)

/-- The text of a diagnostic whose labels need not come from a source file, unless a number in it is
too long to be written. -/
def tryRender (tree : FileTree) (palette : Palette) (cache : LineCache) (diagnostic : Diagnostic) :
    Except Text.LongNumeral (String × LineCache) := do
  Text.checkNumerals diagnostic.numerals
  return render tree palette cache diagnostic

/-- The texts of diagnostics, with the cache they leave. -/
def renderAll (tree : FileTree) (palette : Palette) :
    LineCache → List Diagnostic → List String × LineCache
  | cache, [] => ([], cache)
  | cache, diagnostic :: rest =>
    let (text, cache) := render tree palette cache diagnostic
    let (more, cache) := renderAll tree palette cache rest
    (text :: more, cache)

end Renderer

end ILGraft
