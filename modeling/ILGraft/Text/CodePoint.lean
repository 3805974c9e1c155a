/-!
# Tables over code points

Character classes are lists of ranges, and case mappings are lists of runs: stretches of
evenly spaced characters that all move by one distance.
-/

namespace ILGraft.Text

/-- Whether the code point of `c` lies in one of the inclusive ranges. -/
def inRanges (ranges : List (Nat × Nat)) (c : Char) : Bool :=
  ranges.any fun range => range.1 ≤ c.toNat && c.toNat ≤ range.2

/-- A stretch of characters whose case mappings all move by the same distance. -/
structure CaseRun where
  /-- The first code point of the run. -/
  first : Nat
  /-- The last code point of the run. -/
  last : Nat
  /-- The distance between neighbours in the run. -/
  step : Nat
  /-- What is added to a code point to map it. -/
  shift : Int
deriving Repr, DecidableEq

/-- Whether the run holds the code point of `c`. -/
def CaseRun.holds (run : CaseRun) (c : Char) : Bool :=
  run.first ≤ c.toNat && c.toNat ≤ run.last && (c.toNat - run.first) % run.step == 0

/-- The character that the run maps `c` to. -/
def CaseRun.map (run : CaseRun) (c : Char) : Char :=
  Char.ofNat (c.toNat + run.shift).toNat

/-- Maps `c` by the first run that holds it. -/
def mapByRuns (runs : List CaseRun) (c : Char) : Char :=
  match runs.find? (·.holds c) with
  | some run => run.map c
  | none => c

end ILGraft.Text
