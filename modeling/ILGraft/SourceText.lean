import ILGraft.Text.Line

/-!
# Source texts

A source text gives access to its lines by their numbers, counted from one.
-/

namespace ILGraft

/-- A text with its lines. -/
structure SourceText where
  /-- The whole text. -/
  content : String
  /-- Its lines. -/
  lines : List String
deriving Repr, DecidableEq

namespace SourceText

/-- The source text of a content. -/
def ofContent (content : String) : SourceText where
  content := content
  lines := (Text.lines content.toList).map String.ofList

/-- The line of a number; empty if there is no such line. -/
def lineAt (source : SourceText) (number : Int) : String :=
  if 1 ≤ number then source.lines.getD (number - 1).toNat "" else ""

/-- The lines of a range of numbers, both ends included. -/
def linesBetween (source : SourceText) (first last : Int) : List String :=
  (List.range (last - first + 1).toNat).map fun (offset : Nat) =>
    source.lineAt (first + offset)

end SourceText

end ILGraft
