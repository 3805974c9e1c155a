import ILGraft.Binary64
import ILGraft.Host
import ILGraft.Text.Quoted
import ILGraft.Toml.Moment

/-!
# Configuration values
-/

namespace ILGraft.Toml

/-- A value of a configuration file. The entries of a table keep the order in which they were
written. -/
inductive Value
  /-- A text. -/
  | text (text : String)
  /-- An integer. -/
  | integer (integer : Int)
  /-- A floating-point number. -/
  | number (number : Binary64)
  /-- A truth value. -/
  | boolean (boolean : Bool)
  /-- A date or a time. -/
  | moment (moment : Moment)
  /-- An array. -/
  | array (items : List Value)
  /-- A table. -/
  | table (entries : List (String × Value))
deriving Repr, BEq

/-- A table of values. -/
abbrev Table := List (String × Value)

namespace Value

/-- Why a value cannot be written. -/
inductive Unwritable
  /-- An integer in it has too many digits. -/
  | longNumeral (fault : Text.LongNumeral)
  /-- It is nested too deeply. -/
  | tooDeep
deriving Repr, DecidableEq

/-- The text, if the value is one. -/
def text? : Value → Option String
  | .text content => some content
  | _ => none

/-- The entries, if the value is a table. -/
def table? : Value → Option Table
  | .table entries => some entries
  | _ => none

/-- Whether a value counts as set: everything but zeros, false, and empty texts, arrays and
tables. -/
def isSet : Value → Bool
  | .text content => content ≠ ""
  | .integer size => size ≠ 0
  | .number size => !size.isZero
  | .boolean truth => truth
  | .moment _ => true
  | .array items => !items.isEmpty
  | .table entries => !entries.isEmpty

mutual

/-- A value as it stands inside an array or a table, with so much depth left. -/
def showNested : Nat → Value → Except Unwritable String
  | 0, _ => .error .tooDeep
  | _ + 1, .text content => .ok (Text.quoted content)
  | _ + 1, .integer size => (Text.writeNumeral size).mapError .longNumeral
  | _ + 1, .number size => .ok size.text
  | _ + 1, .boolean truth => .ok (if truth then "True" else "False")
  | _ + 1, .moment time => .ok time.expression
  | depth + 1, .array items => do
    return "[" ++ ", ".intercalate (← showItems depth items) ++ "]"
  | depth + 1, .table entries => do
    return "\x7b" ++ ", ".intercalate (← showEntries depth entries) ++ "\x7d"

/-- The items of an array. -/
def showItems : Nat → List Value → Except Unwritable (List String)
  | _, [] => .ok []
  | depth, item :: rest => do return (← showNested depth item) :: (← showItems depth rest)

/-- The entries of a table. -/
def showEntries : Nat → List (String × Value) → Except Unwritable (List String)
  | _, [] => .ok []
  | depth, (key, value) :: rest => do
    return (Text.quoted key ++ ": " ++ (← showNested depth value)) :: (← showEntries depth rest)

end

/-- A value as it is written into a command or a message. Integers in it may be too long to be
written, since those in other bases than ten are read at any length; and it may be nested too
deeply, since a dotted key makes tables of any depth. -/
def display [Host] : Value → Except Unwritable String
  | .text content => .ok content
  | .moment time => .ok (time.text " ")
  | value => showNested Host.writingDepth value

end Value

end ILGraft.Toml
