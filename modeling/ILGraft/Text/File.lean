import ILGraft.Text.Line
import ILGraft.Text.Utf8

/-!
# Text files

A text file is UTF-8 with an optional byte order mark in front and any mixture of line endings.
-/

namespace ILGraft.Text

/-- The text of a file: one byte order mark is dropped and line endings are unified. A file that
ends inside the mark reads as empty, and places in a refusal are counted behind the mark. -/
def ofFile : List UInt8 → Except Utf8.Malformed (List Char)
  | [0xef] => .ok []
  | [0xef, 0xbb] => .ok []
  | 0xef :: 0xbb :: 0xbf :: rest => unifyNewlines <$> Utf8.decode rest
  | bytes => unifyNewlines <$> Utf8.decode bytes

end ILGraft.Text
