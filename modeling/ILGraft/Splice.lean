import ILGraft.Placement

/-!
# Splicing snippets into a document

Placements refer to the document as it was. They are carried out from the end of the document
to its start, so that a splice moves only lines which no later splice refers to. Snippets of one
place keep their order.
-/

namespace ILGraft

/-- A placement that lies outside the document. -/
structure OutOfRange where
  /-- The placement. -/
  placement : Placement
  /-- How many lines the document has. -/
  size : Nat
deriving DecidableEq

/-- The wording for a placement outside the document. -/
def OutOfRange.message (fault : OutOfRange) : String :=
  "insert index " ++ Text.numeral fault.placement.index ++ " out of range for a "
    ++ Text.numeral fault.size ++ "-line document (" ++ fault.placement.snippet.describe ++ ")"

/-- The wording for a placement outside the document, unless a number of the placement is too long
to be written. -/
def OutOfRange.tryMessage (fault : OutOfRange) : Except Text.LongNumeral String := do
  Text.checkNumerals fault.placement.numerals
  return fault.message

namespace Splice

/-- Whether a placement lies inside a document of a size. -/
def fits (size : Nat) (placement : Placement) : Bool :=
  0 ≤ placement.index && placement.index ≤ (size : Int)

/-- The lines with one snippet spliced in. -/
def insert (lines : List String) (placement : Placement) : List String :=
  lines.take placement.index.toNat ++ placement.snippet.annotated
    ++ lines.drop placement.index.toNat

/-- Placements in the order in which they are carried out. -/
def lastFirst (placements : List Placement) : List Placement :=
  (placements.mergeSort fun one other => one.index ≤ other.index).reverse

/-- The lines with every snippet spliced in. The first placement outside the document is
refused. -/
def merge (lines : List String) (placements : List Placement) :
    Except OutOfRange (List String) :=
  match placements.find? fun placement => !fits lines.length placement with
  | some placement => .error ⟨placement, lines.length⟩
  | none => .ok ((lastFirst placements).foldl insert lines)

end Splice

end ILGraft
