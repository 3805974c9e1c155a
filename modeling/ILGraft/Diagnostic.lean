import ILGraft.Text.Numeral

/-!
# Diagnostics

A diagnostic is a message with a code, the source ranges it is about, and notes.
-/

namespace ILGraft

/-- How grave a diagnostic is. -/
inductive Severity
  | error
  | warning
  | note
deriving Repr, DecidableEq

/-- The word for a severity. -/
def Severity.word : Severity → String
  | .error => "error"
  | .warning => "warning"
  | .note => "note"

/-- A range of a source file. -/
structure Span where
  /-- The file. -/
  file : String
  /-- The line where the range begins. -/
  firstLine : Int
  /-- The column where the range begins. -/
  firstColumn : Int
  /-- The line where the range ends. -/
  lastLine : Int
  /-- The column where the range ends. -/
  lastColumn : Int
deriving Repr, DecidableEq

/-- Where a range begins, as messages write it. -/
def Span.start (span : Span) : String :=
  span.file ++ ":" ++ Text.numeral span.firstLine ++ ":" ++ Text.numeral span.firstColumn

/-- A range with a remark. -/
structure Label where
  /-- The range. -/
  span : Span
  /-- The remark; may be empty. -/
  message : String
deriving Repr, DecidableEq

/-- A message for the user. -/
structure Diagnostic where
  /-- How grave it is. -/
  severity : Severity
  /-- The code that identifies its kind. -/
  code : String
  /-- The message. -/
  message : String
  /-- The ranges it is about. -/
  labels : List Label
  /-- Further remarks. -/
  notes : List String
deriving Repr, DecidableEq

/-- The numbers that a diagnostic is shown with: where its labels begin. -/
def Diagnostic.numerals (diagnostic : Diagnostic) : List Int :=
  diagnostic.labels.flatMap fun label => [label.span.firstLine, label.span.firstColumn]

end ILGraft
