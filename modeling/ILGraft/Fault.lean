import ILGraft.Block
import ILGraft.Diagnostic

/-!
# Faults

A fault is a cause for which no module can be patched. Its report fixes the wording, and the
diagnostic of a report points at the source range of the fault.
-/

namespace ILGraft

/-- The kinds of fault. -/
inductive FaultKind
  /-- A fault of no particular kind. -/
  | general
  /-- The code of a snippet does not cover its range. -/
  | malformed
  /-- A snippet fits in several places. -/
  | ambiguous
  /-- A snippet fits in no place. -/
  | unplaced
  /-- A code block is not closed. -/
  | unterminated
  /-- A source file cannot be read. -/
  | unavailable
deriving Repr, DecidableEq

/-- The code of a kind of fault. -/
def FaultKind.code : FaultKind → String
  | .general => "E200"
  | .malformed => "E201"
  | .ambiguous => "E202"
  | .unplaced => "E203"
  | .unterminated => "E204"
  | .unavailable => "E205"

/-- What is reported of a fault. -/
structure FaultReport where
  /-- The kind of fault. -/
  kind : FaultKind
  /-- The message. -/
  message : String
  /-- The source file concerned; empty if there is none. -/
  file : String := ""
  /-- The first source line concerned. -/
  first : Int := 0
  /-- The last source line concerned. -/
  last : Int := 0
  /-- Further remarks. -/
  notes : List String := []
deriving Repr, DecidableEq

/-- The diagnostic of a report. A range that ends before it begins is shown by its first
line. -/
def FaultReport.diagnostic (report : FaultReport) : Diagnostic where
  severity := .error
  code := report.kind.code
  message := report.message
  labels :=
    if report.file = "" then []
    else [⟨⟨report.file, report.first, 1, max report.first report.last, 1⟩, ""⟩]
  notes := report.notes

/-- The causes for which no module can be patched. -/
inductive Fault
  /-- The code of a snippet does not cover its range. -/
  | malformed (misfit : Snippet.Misfit)
  /-- A snippet fits before two lines of the document at least. -/
  | ambiguous (snippet : Snippet) (first second : Nat)
  /-- A snippet fits before no line of the document. -/
  | unplaced (snippet : Snippet)
  /-- A code block is not closed. -/
  | unterminated (block : Block.Unterminated)
  /-- A source file cannot be read, for a reason. -/
  | unavailable (file reason : String)
deriving DecidableEq

/-- The report of a fault. -/
def Fault.report : Fault → FaultReport
  | .malformed misfit =>
    { kind := .malformed
      message := "snippet has " ++ Text.numeral misfit.rows
        ++ " line(s) but its source range covers "
        ++ Text.numeral (misfit.last - misfit.first + 1)
      file := misfit.file, first := misfit.first, last := misfit.last }
  | .ambiguous snippet first second =>
    { kind := .ambiguous
      message := snippet.describe ++ " needs to be inserted at multiple spots"
      file := snippet.file, first := snippet.first, last := snippet.last
      notes := ["candidate insertion points at IL lines " ++ Text.numeral (first + 1 : Nat)
        ++ " and " ++ Text.numeral (second + 1 : Nat)] }
  | .unplaced snippet =>
    { kind := .unplaced
      message := "can't find where to place " ++ snippet.describe
      file := snippet.file, first := snippet.first, last := snippet.last
      notes := ["no pair of consecutive .line markers brackets the snippet; "
        ++ "it needs compiled code both before and after it"] }
  | .unterminated block =>
    { kind := .unterminated
      message := "unterminated inline IL segment in file '" ++ block.file
        ++ "' starting with '" ++ block.language.opening ++ "' at line "
        ++ Text.numeral block.first ++ "; expecting to find closing '"
        ++ block.language.closing ++ "'"
      file := block.file, first := block.first - 1, last := block.first - 1 }
  | .unavailable file reason =>
    { kind := .unavailable
      message := "can't read source file '" ++ file ++ "': " ++ reason
      notes := ["the module must be processed on a machine that has its sources"] }

/-- The numbers in the wording of a report that a snippet brings along. -/
def Fault.numerals : Fault → List Int
  | .malformed misfit => [misfit.last - misfit.first + 1]
  | .ambiguous snippet _ _ | .unplaced snippet => [snippet.first, snippet.last]
  | .unterminated _ | .unavailable .. => []

/-- A result, unless it is a fault of which a number is too long to be reported. -/
def Fault.checked {α : Type} : Except Fault α → Except Text.LongNumeral (Except Fault α)
  | .ok result => .ok (.ok result)
  | .error fault => do
    Text.checkNumerals fault.numerals
    return .error fault

/-- The diagnostic of a fault. -/
def Fault.diagnostic (fault : Fault) : Diagnostic :=
  fault.report.diagnostic

end ILGraft
