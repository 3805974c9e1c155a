import ILGraft.Diagnostic.Renderer

/-!
# Displays

A display renders diagnostics one after the other while files come, change and go.
-/

namespace ILGraft.Renderer

/-- What happens to a display. -/
inductive Event
  /-- A file gets new bytes. -/
  | write (path : Path) (bytes : List UInt8)
  /-- A file goes. -/
  | remove (path : Path)
  /-- A diagnostic is rendered. -/
  | show (diagnostic : Diagnostic)
deriving Repr, DecidableEq

/-- The texts that a display renders; events of other kinds render nothing. A file that cannot be
written ends the display. -/
def display (palette : Palette) :
    FileTree → LineCache → List Event → Except FileError (List (Option String))
  | _, _, [] => .ok []
  | tree, cache, .write path bytes :: rest =>
    match tree.install path bytes with
    | .ok tree => (display palette tree cache rest).map (none :: ·)
    | .error error => .error error
  | tree, cache, .remove path :: rest =>
    (display palette (tree.discard path) cache rest).map (none :: ·)
  | tree, cache, .show diagnostic :: rest =>
    let (text, cache) := render tree palette cache diagnostic
    (display palette tree cache rest).map (some text :: ·)

/-- What ends a display. -/
inductive Stop
  /-- A file cannot be written. -/
  | file (error : FileError)
  /-- A number in a diagnostic is too long to be written. -/
  | longNumeral (fault : Text.LongNumeral)
deriving DecidableEq

/-- Whether an event can be shown: no number in its diagnostic is too long to be written. -/
def Event.showable : Event → Bool
  | .write .. | .remove _ => true
  | .show diagnostic => diagnostic.numerals.all (Text.Writable ·)

/-- The texts that a display renders whose labels need not come from a source file: it ends with the
first diagnostic that cannot be shown, if it comes to that. -/
def tryDisplay (palette : Palette) (tree : FileTree) (cache : LineCache) (events : List Event) :
    Except Stop (List (Option String)) := do
  let texts ← (display palette tree cache (events.takeWhile Event.showable)).mapError .file
  if events.all Event.showable then return texts
  else throw (.longNumeral .unwritable)

end ILGraft.Renderer
