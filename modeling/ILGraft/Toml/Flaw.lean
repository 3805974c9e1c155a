import ILGraft.Text.Numeral
import ILGraft.Text.Quoted

/-!
# Flaws of configuration files

A flaw is the first thing in a file that the grammar does not allow. While a file is read, the
place of a flaw is the number of characters behind it.
-/

namespace ILGraft.Toml

/-- What the grammar does not allow. -/
inductive Flaw
  | invalidStatement
  | expectedEndOfStatement
  | invalidKey
  | expectedEquals
  | invalidValue
  | expectedQuote (quote : String)
  | unterminatedText
  | invalidCharacter (c : Char)
  | illegalCharacter (c : Char)
  | unescapedBackslash
  | invalidHexadecimal
  | noCharacter
  | invalidMoment
  | unclosedArray
  | unclosedTable
  | unclosedHeader
  | unclosedArrayHeader
  | declaredTwice (key : List String)
  | immutable (key : List String)
  | redefined (key : List String)
  | overwritten
  | duplicateKey (key : String)
deriving Repr, DecidableEq

/-- A key as messages show it: its parts in quotes, a comma behind a single one. -/
def showKey (key : List String) : String :=
  "(" ++ ", ".intercalate (key.map Text.quoted) ++ (if key.length = 1 then ",)" else ")")

/-- The wording of a flaw. -/
def Flaw.message : Flaw → String
  | .invalidStatement => "Invalid statement"
  | .expectedEndOfStatement => "Expected newline or end of document after a statement"
  | .invalidKey => "Invalid initial character for a key part"
  | .expectedEquals => "Expected '=' after a key in a key/value pair"
  | .invalidValue => "Invalid value"
  | .expectedQuote quote => "Expected " ++ Text.quoted quote
  | .unterminatedText => "Unterminated string"
  | .invalidCharacter c => "Found invalid character " ++ Text.quoted c.toString
  | .illegalCharacter c => "Illegal character " ++ Text.quoted c.toString
  | .unescapedBackslash => "Unescaped '\\' in a string"
  | .invalidHexadecimal => "Invalid hex value"
  | .noCharacter => "Escaped character is not a Unicode scalar value"
  | .invalidMoment => "Invalid date or datetime"
  | .unclosedArray => "Unclosed array"
  | .unclosedTable => "Unclosed inline table"
  | .unclosedHeader => "Expected ']' at the end of a table declaration"
  | .unclosedArrayHeader => "Expected ']]' at the end of an array declaration"
  | .declaredTwice key => "Cannot declare " ++ showKey key ++ " twice"
  | .immutable key => "Cannot mutate immutable namespace " ++ showKey key
  | .redefined key => "Cannot redefine namespace " ++ showKey key
  | .overwritten => "Cannot overwrite a value"
  | .duplicateKey key => "Duplicate inline table key " ++ Text.quoted key

/-- Why a file is refused while it is read. -/
inductive Refusal
  /-- A flaw, with the number of characters behind its place. -/
  | flawed (flaw : Flaw) (behind : Nat)
  /-- An integer with too many digits. -/
  | longNumeral (fault : Text.LongNumeral)
  /-- Values that are nested too deeply. -/
  | tooDeep
deriving Repr, DecidableEq

/-- Why a file is no configuration. -/
inductive Error
  /-- A flaw at a line and a column; none at the end of the file. -/
  | flawed (flaw : Flaw) (place? : Option (Nat × Nat))
  /-- An integer with too many digits. -/
  | longNumeral (fault : Text.LongNumeral)
  /-- Values that are nested too deeply. -/
  | tooDeep
deriving Repr, DecidableEq

/-- The wording of an error. -/
def Error.message : Error → String
  | .flawed flaw none => flaw.message ++ " (at end of document)"
  | .flawed flaw (some (line, column)) =>
    flaw.message ++ " (at line " ++ Text.numeral line ++ ", column " ++ Text.numeral column ++ ")"
  | .longNumeral fault => fault.message
  | .tooDeep => "values are nested too deeply"

/-- The error of a refusal in a text. -/
def Error.ofRefusal (text : List Char) : Refusal → Error
  | .longNumeral fault => .longNumeral fault
  | .tooDeep => .tooDeep
  | .flawed flaw behind =>
    let before := text.take (text.length - behind)
    if behind = 0 then .flawed flaw none
    else
      let column := (before.reverse.takeWhile (· ≠ '\n')).length + 1
      .flawed flaw (some (before.count '\n' + 1, column))

end ILGraft.Toml
