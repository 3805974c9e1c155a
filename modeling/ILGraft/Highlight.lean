import ILGraft.Text.Line
import ILGraft.Token.Lexer

/-!
# Highlighting

Code is shown with a colour for each kind of token. Colours are switched on and off again within
every line, so that each line can be shown by itself.
-/

namespace ILGraft.Highlight

/-- The text without the line feeds around it. -/
def trimLineFeeds (text : List Char) : List Char :=
  ((text.dropWhile (· == '\n')).reverse.dropWhile (· == '\n')).reverse

/-- The text without one byte order mark in front of it. -/
def dropMark : List Char → List Char
  | '\ufeff' :: rest => rest
  | text => text

/-- The text that is lexed for a listing: no byte order mark, unified line endings, no blank
lines at either end, and a final line feed. -/
def listing (text : List Char) : List Char :=
  trimLineFeeds (Text.unifyNewlines (dropMark text)) ++ ['\n']

/-- The tokens of a listing. -/
def tokens (text : List Char) : List Token :=
  Lexer.tokens (listing text)

/-- What switches on the colour of a kind of token; empty for kinds without a colour. -/
def colorOf : TokenKind → String
  | .lineComment | .blockComment | .marker => "\x1b[37m"
  | .typeWord | .opcode => "\x1b[36m"
  | .directive | .hexadecimal | .fraction | .integer => "\x1b[34m"
  | .scope => "\x1b[04m\x1b[36m"
  | .string | .quoted | .escape => "\x1b[33m"
  | .stray => "\x1b[04m\x1b[91m"
  | .text | .name | .label | .operator | .punctuation => ""

/-- What switches a colour off. -/
def reset : String := "\x1b[39;49;00m"

/-- A piece of a token within one line, in the colour of its kind. -/
def showPiece (kind : TokenKind) (piece : List Char) : List Char :=
  let shown := piece.filter (· ≠ '\n')
  let ending := piece.filter (· = '\n')
  if colorOf kind = "" then shown ++ ending
  else (colorOf kind).toList ++ shown ++ reset.toList ++ ending

/-- A token in the colour of its kind. -/
def showToken (token : Token) : List Char :=
  (Text.displayLinesKeepingEnds token.text).flatMap (showPiece token.kind)

/-- Lines of code as they are shown, in colours or without. -/
def code (color : Bool) (lines : List String) : String :=
  let text := "\n".intercalate lines
  if color then
    let shown := (tokens text.toList).flatMap showToken
    String.ofList (shown.reverse.dropWhile (· == '\n')).reverse
  else text

end ILGraft.Highlight
