import ILGraft.Text.Blank
import ILGraft.Text.Numeral
import ILGraft.Text.Split

/-!
# Sequence-point markers

A disassembly made with line numbers carries directives such as

    .line 27,27 : 5,44 'c:\path\to\File.cs'

The quoted path names the source file of every line from there on, until another marker names
one; an empty path names none. The first number is the source line that the next instruction
comes from.
-/

namespace ILGraft

/-- What one line of a disassembly says about its source. -/
structure Marker where
  /-- The source file that the line switches to. -/
  file? : Option String
  /-- The source line that the line gives; zero if it gives none. -/
  number : Nat
deriving Repr, DecidableEq

namespace Marker

/-- The line number of sequence points that have no source line. -/
def hiddenLine : Nat := 0xfeefee

/-- What follows a literal at the start of a text. -/
def after? (literal : String) (text : List Char) : Option (List Char) :=
  literal.toList.isPrefixOf? text

/-- What follows the digits at the start of a text; at least one is needed. -/
def afterDigits? (text : List Char) : Option (List Char) :=
  if text.takeWhile Text.isDigit = [] then none else some (text.dropWhile Text.isDigit)

/-- The path that a file switch at the very start of a text names:
`line a,b : c,d 'path'`, with a path that is not empty. -/
def fileSwitchHere? (text : List Char) : Option (List Char) := do
  let text ← after? "line " text
  let text ← after? "," (← afterDigits? text)
  let text ← after? " : " (← afterDigits? text)
  let text ← after? "," (← afterDigits? text)
  let text ← after? " '" (← afterDigits? text)
  let path := text.takeWhile (· ≠ '\'')
  if path = [] ∨ text.dropWhile (· ≠ '\'') = [] then none else some path

/-- The path that the first file switch in a text names. -/
def fileSwitch? : List Char → Option (List Char)
  | [] => none
  | c :: rest => fileSwitchHere? (c :: rest) <|> fileSwitch? rest

/-- The digits of the source line in a text of the form `.line n,`, blanks in front of it
allowed. -/
def lineDigits? (text : List Char) : Option (List Char) := do
  let text ← after? ".line " (Text.trimLeft text)
  let rest ← afterDigits? text
  let _ ← after? "," rest
  return text.takeWhile Text.isDigit

/-- The source line that a text gives; zero if it gives none or a hidden one. -/
def lineNumber (text : List Char) : Except Text.LongNumeral Nat :=
  match lineDigits? text with
  | none => .ok 0
  | some digits => do
    let number ← Text.readNumeral digits
    return if number = hiddenLine then 0 else number

/-- Reads the marker of one line. -/
def read (line : String) : Except Text.LongNumeral Marker := do
  let number ← lineNumber line.toList
  return { file? := (fileSwitch? line.toList).map String.ofList, number }

/-- Writes a marker: the first and last line, the first and last column, and the path with its
backslashes doubled. -/
def write (path : String) (firstLine lastLine firstColumn lastColumn : Int) : String :=
  ".line " ++ Text.numeral firstLine ++ "," ++ Text.numeral lastLine ++ " : "
    ++ Text.numeral firstColumn ++ "," ++ Text.numeral lastColumn ++ " '"
    ++ String.ofList (Text.replaceChar '\\' ['\\', '\\'] path.toList) ++ "'"

/-- Writes a marker, unless one of its numbers is too long to be written. -/
def tryWrite (path : String) (firstLine lastLine firstColumn lastColumn : Int) :
    Except Text.LongNumeral String := do
  let _ ← Text.writeNumeral firstLine
  let _ ← Text.writeNumeral lastLine
  let _ ← Text.writeNumeral firstColumn
  let _ ← Text.writeNumeral lastColumn
  return write path firstLine lastLine firstColumn lastColumn

end Marker

/-- A line of a disassembly with the marker that it carries. -/
structure MarkedLine where
  /-- The line itself. -/
  text : String
  /-- What the line says about its source. -/
  marker : Marker
  /-- The marker is what the line reads as. -/
  reads : Marker.read text = .ok marker
deriving DecidableEq

namespace MarkedLine

/-- Reads the marker of a line and keeps it with the line. -/
def ofText (text : String) : Except Text.LongNumeral MarkedLine :=
  match h : Marker.read text with
  | .ok marker => .ok ⟨text, marker, h⟩
  | .error fault => .error fault

/-- Whether the line gives a source line. -/
def hasNumber (line : MarkedLine) : Bool :=
  line.marker.number ≠ 0

end MarkedLine

end ILGraft
