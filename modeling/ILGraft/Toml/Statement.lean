import ILGraft.Toml.Scalar
import ILGraft.Toml.Table

/-!
# Values and statements

A configuration file is a sequence of statements: headers that choose a table, and entries that
assign a value to a key. Values nest, so reading them is bounded by a number of steps that the
length of the text provides. How deep they may nest is bounded as well.
-/

namespace ILGraft.Toml

/-- Skips blanks, line feeds and comments, from inside a comment or outside. -/
def skipFiller (inComment : Bool) : List Char → Except Refusal (List Char)
  | [] => .ok []
  | c :: rest =>
    if inComment then
      if c = '\n' then skipFiller false rest
      else if isControl c then refuse (.invalidCharacter c) (c :: rest)
      else skipFiller true rest
    else if isSpaceOrNewline c then skipFiller false rest
    else if c = '#' then skipFiller true rest
    else .ok (c :: rest)

/-- What follows the equals sign behind a key. -/
def afterEquals : List Char → Except Refusal (List Char)
  | '=' :: rest => .ok (skipSpace rest)
  | text => refuse .expectedEquals text

/-- Whether some keys on the way to a key, or the key itself, are among the given ones. -/
def isWithin (keys : List (List String)) (key : List String) : Bool :=
  keys.any fun outer => outer.isPrefixOf key

/-- Whether a value is an array or a table, which no later statement may extend. -/
def isClosed : Value → Bool
  | .array _ => true
  | .table _ => true
  | _ => false

/-- An inline table with one more entry, given the keys whose values are closed. -/
def addInline (closed : List (List String)) (key : List String) (value : Value) (table : Table) :
    Except Flaw Table :=
  if isWithin closed key then .error (.immutable key)
  else
    let last := key.getLastD ""
    table.modify false (Table.addNew (.duplicateKey last) last value) key.dropLast

/-- What is left of a depth inside an array. -/
def insideArray (depth : Nat) : Except Refusal Nat :=
  if 2 ≤ depth then .ok (depth - 2) else .error .tooDeep

/-- What is left of a depth inside an inline table. -/
def insideTable (depth : Nat) : Except Refusal Nat :=
  if 3 ≤ depth then .ok (depth - 3) else .error .tooDeep

mutual

/-- Reads a value in at most so many steps and with at most so much depth. -/
def readValue : Nat → Nat → List Char → Except Refusal (Value × List Char)
  | 0, _, text => refuse .invalidValue text
  | steps + 1, depth, text =>
    match text with
    | '"' :: rest => do
      let (content, rest) ← readText '"' rest
      return (.text content, rest)
    | '\'' :: rest => do
      let (content, rest) ← readText '\'' rest
      return (.text content, rest)
    | '[' :: rest => do
      let depth ← insideArray depth
      let (items, rest) ← readItems steps depth (← skipFiller false rest)
      return (.array items, rest)
    | '\x7b' :: rest =>
      match skipSpace rest with
      | '\x7d' :: rest => .ok (.table [], rest)
      | rest => do
        let depth ← insideTable depth
        let (entries, rest) ← readEntries steps depth [] [] rest
        return (.table entries, rest)
    | 't' :: 'r' :: 'u' :: 'e' :: rest => .ok (.boolean true, rest)
    | 'f' :: 'a' :: 'l' :: 's' :: 'e' :: rest => .ok (.boolean false, rest)
    | text => readScalar text

/-- Reads the items of an array up to its closing bracket. -/
def readItems : Nat → Nat → List Char → Except Refusal (List Value × List Char)
  | 0, _, text => refuse .unclosedArray text
  | steps + 1, depth, text =>
    match text with
    | ']' :: rest => .ok ([], rest)
    | text => do
      let (item, rest) ← readValue steps depth text
      match ← skipFiller false rest with
      | ']' :: rest => return ([item], rest)
      | ',' :: rest =>
        let (items, rest) ← readItems steps depth (← skipFiller false rest)
        return (item :: items, rest)
      | rest => refuse .unclosedArray rest

/-- Reads entries of an inline table up to its closing brace, given the entries before them and
the keys of those whose values are closed. -/
def readEntries : Nat → Nat → Table → List (List String) → List Char →
    Except Refusal (Table × List Char)
  | 0, _, _, _, text => refuse .unclosedTable text
  | steps + 1, depth, table, closed, text => do
    let (key, rest) ← readKey text
    let (value, rest) ← readValue steps depth (← afterEquals rest)
    match addInline closed key value table with
    | .error flaw => refuse flaw rest
    | .ok table =>
      match skipSpace rest with
      | '\x7d' :: rest => return (table, rest)
      | ',' :: rest =>
        readEntries steps depth table (if isClosed value then key :: closed else closed)
          (skipSpace rest)
      | rest => refuse .unclosedTable rest

end

/-- A statement. -/
inductive Statement
  /-- The entries that follow belong to the table of a key. -/
  | table (key : List String)
  /-- The entries that follow belong to a new table at the end of the array of a key. -/
  | arrayItem (key : List String)
  /-- A key gets a value. -/
  | entry (key : List String) (value : Value)
deriving Repr

/-- A statement as it was read. -/
structure StatementRead where
  /-- The statement. -/
  statement : Statement
  /-- The text behind the place where the statement takes effect. -/
  behind : List Char
  /-- The text behind the end of the statement's line, if nothing else stands in it. -/
  rest : Except Refusal (List Char)

/-- What follows the end of a line in which nothing but blanks and a comment may stand. -/
def afterLine (text : List Char) : Except Refusal (List Char) := do
  let text := skipSpace text
  let comment := if text.head? = some '#' then text.takeWhile (· ≠ '\n') else []
  checkCharacters (!isControl ·) comment text
  match text.drop comment.length with
  | [] => return []
  | '\n' :: rest => return rest
  | text => refuse .expectedEndOfStatement text

/-- What follows the brackets that close a header and the end of their line. -/
def afterHeader (closing : List Char) (flaw : Flaw) (text : List Char) :
    Except Refusal (List Char) :=
  match closing.isPrefixOf? text with
  | some rest => afterLine rest
  | none => refuse flaw text

/-- Reads the statement that a line begins with. Lines without a statement are no such lines. -/
def readStatement [Host] (text : List Char) : Except Refusal StatementRead :=
  match text with
  | '[' :: '[' :: rest => do
    let (key, rest) ← readKey (skipSpace rest)
    return ⟨.arrayItem key, rest, afterHeader [']', ']'] .unclosedArrayHeader rest⟩
  | '[' :: rest => do
    let (key, rest) ← readKey (skipSpace rest)
    return ⟨.table key, rest, afterHeader [']'] .unclosedHeader rest⟩
  | c :: _ =>
    if isBareKeyChar c ∨ c = '"' ∨ c = '\'' then do
      let (key, rest) ← readKey text
      let (value, rest) ← readValue (2 * rest.length + 2) Host.readingDepth (← afterEquals rest)
      return ⟨.entry key value, rest, afterLine rest⟩
    else refuse .invalidStatement text
  | [] => refuse .invalidStatement text

end ILGraft.Toml
