/-!
# Lines of a text

Compilers number lines by carriage return and line feed alone, so `lines` keeps form feeds and
other separators inside a line. Listings break at every separator instead; `displayLines`
does that.
-/

namespace ILGraft.Text

/-- The lines of a text. A line ends at `\r\n`, `\r` or `\n`; a last line without an ending
counts, an empty one after the last ending does not. -/
def lines : List Char → List (List Char)
  | [] => []
  | '\r' :: '\n' :: rest => [] :: lines rest
  | '\r' :: rest => [] :: lines rest
  | '\n' :: rest => [] :: lines rest
  | c :: rest =>
    match lines rest with
    | [] => [[c]]
    | line :: more => (c :: line) :: more

/-- The text with every line ending written as a line feed. -/
def unifyNewlines : List Char → List Char
  | [] => []
  | '\r' :: '\n' :: rest => '\n' :: unifyNewlines rest
  | '\r' :: rest => '\n' :: unifyNewlines rest
  | c :: rest => c :: unifyNewlines rest

/-- Whether `c` ends a line of a listing: line feeds, carriage returns, vertical tabs, form
feeds, the ASCII separators of files, groups and records, and their Unicode relatives. -/
def isLineBreak (c : Char) : Bool :=
  let n := c.toNat
  (0x0a ≤ n && n ≤ 0x0d) || (0x1c ≤ n && n ≤ 0x1e) || n == 0x85 || n == 0x2028 || n == 0x2029

/-- The lines of a listing, each with the break that ends it. -/
def displayLinesKeepingEnds : List Char → List (List Char)
  | [] => []
  | '\r' :: '\n' :: rest => ['\r', '\n'] :: displayLinesKeepingEnds rest
  | c :: rest =>
    if isLineBreak c then [c] :: displayLinesKeepingEnds rest
    else match displayLinesKeepingEnds rest with
      | [] => [[c]]
      | line :: more => (c :: line) :: more

/-- The lines of a listing. -/
def displayLines (text : List Char) : List (List Char) :=
  (displayLinesKeepingEnds text).map fun line => line.takeWhile (!isLineBreak ·)

end ILGraft.Text
