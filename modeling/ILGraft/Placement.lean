import ILGraft.Document
import ILGraft.Fault

/-!
# Placing snippets

Code around a snippet was compiled from lines before and after its source range. Among the
markers of its file, taken in order, a snippet belongs between two neighbours of which the first
gives a line before the range and the second a line behind it, just before the line that carries
the second. There has to be exactly one such pair.
-/

namespace ILGraft

/-- A snippet and the line of the document that it is inserted before. -/
structure Placement where
  /-- The snippet. -/
  snippet : Snippet
  /-- How many lines of the document stand before the snippet. -/
  index : Int
deriving DecidableEq

namespace Placement

/-- The numbers of a placement. -/
def numerals (placement : Placement) : List Int :=
  [placement.index, placement.snippet.first, placement.snippet.last]

/-- Whether two neighbouring markers lie on both sides of a snippet. -/
def straddles (snippet : Snippet) (before? : Option Nat) (behind : Nat) : Bool :=
  match before? with
  | none => false
  | some before => (before : Int) < snippet.first && snippet.last < (behind : Int)

/-- Looks for the place of a snippet in lines that begin at a position, given the current source
file, the latest marker of the snippet's file, and the place found before. -/
def locateFrom (snippet : Snippet) (position : Nat) (file : String) (latest? found? : Option Nat) :
    List MarkedLine → Except Fault Nat
  | [] =>
    match found? with
    | some found => .ok found
    | none => .error (.unplaced snippet)
  | line :: rest =>
    let file := line.marker.file?.getD file
    let number := line.marker.number
    if file ≠ snippet.file ∨ number = 0 then
      locateFrom snippet (position + 1) file latest? found? rest
    else if straddles snippet latest? number then
      match found? with
      | some found => .error (.ambiguous snippet found position)
      | none => locateFrom snippet (position + 1) file (some number) (some position) rest
    else locateFrom snippet (position + 1) file (some number) found? rest

/-- The number of lines of a document that stand before the place of a snippet. -/
def locate (document : Document) (snippet : Snippet) : Except Fault Nat :=
  locateFrom snippet 0 "" none none document.lines

/-- Places snippets one by one in the same document. -/
def locateAll (document : Document) (snippets : List Snippet) : Except Fault (List Placement) :=
  snippets.mapM fun snippet => do return ⟨snippet, ← locate document snippet⟩

/-- The place of a snippet that need not come from a source file, unless its fault cannot be
reported. -/
def tryLocate (document : Document) (snippet : Snippet) :
    Except Text.LongNumeral (Except Fault Nat) :=
  Fault.checked (locate document snippet)

/-- The places of snippets that need not come from a source file, unless the first fault cannot be
reported. -/
def tryLocateAll (document : Document) (snippets : List Snippet) :
    Except Text.LongNumeral (Except Fault (List Placement)) :=
  Fault.checked (locateAll document snippets)

end Placement

end ILGraft
