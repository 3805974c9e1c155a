import ILGraft.CommandLine.Transcript
import ILGraft.Diagnostic.Renderer
import ILGraft.Highlight
import ILGraft.Injection

/-!
# Listings

What commands show of snippets and diagnostics.
-/

namespace ILGraft.CommandLine

/-- What is said of a snippet that was found: where it is from, where it goes if that is known,
and its annotated lines, in colours on a terminal. -/
def showSnippet [Host] (stream : Stream) (snippet : Snippet) (index? : Option Int) : List Echo :=
  let place :=
    match index? with
    | some index => " -> IL line " ++ Text.numeral (index + 1)
    | none => ""
  let code := Highlight.code (Host.isTerminal stream) snippet.annotated
  say stream ("found: " ++ snippet.describe ++ place)
    :: (Text.displayLines code.toList).map fun line =>
      say stream ("   :" ++ String.ofList line)

/-- Where a snippet was placed; the last placement counts. -/
def indexOf (placements : List Placement) (snippet : Snippet) : Option Int :=
  (placements.reverse.find? fun placement => placement.snippet = snippet).map Placement.index

/-- What is said of the snippets that were found. -/
def showFound [Host] (stream : Stream) (snippets : List Snippet) (placements : List Placement) :
    List Echo :=
  snippets.flatMap fun snippet => showSnippet stream snippet (indexOf placements snippet)

/-- The colours of the stream of complaints: those of a terminal if it is one. -/
def complaintPalette [Host] : Palette :=
  Palette.ofColor (Host.isTerminal .errors)

/-- A stream of complaints that is no terminal has no colours. -/
theorem complaintPalette_eq_plain [Host] (hpiped : Host.isTerminal .errors = false) :
    complaintPalette = Palette.plain := by
  rw [complaintPalette, hpiped]
  rfl

/-- What is said of diagnostics. -/
def showDiagnostics [Host] (files : FileTree) (diagnostics : List Diagnostic) : List Echo :=
  (Renderer.renderAll files complaintPalette [] diagnostics).1.map (say .errors)

end ILGraft.CommandLine
