import ILGraft.Toml.Statement

/-!
# Configuration documents

Statements build up one table. What they may not do: open a table by header twice, extend an
array or a table that was written as a value, or assign to a key twice.
-/

namespace ILGraft.Toml

/-- The table that the statements so far have built, and what later ones may not do. -/
structure Draft where
  /-- The table of the whole document. -/
  table : Table
  /-- The key that entries are relative to. -/
  header : List String
  /-- The keys that no header may open any more. -/
  declared : List (List String)
  /-- The keys whose values are closed. -/
  closed : List (List String)
  /-- The keys that become declared with the next header. -/
  pending : List (List String)

namespace Draft

/-- The draft of an empty document. -/
def empty : Draft := ⟨[], [], [], [], []⟩

/-- The draft at a header: what was pending is declared. -/
def atHeader (draft : Draft) : Draft :=
  { draft with declared := draft.pending ++ draft.declared, pending := [] }

/-- Opens the table of a key. -/
def openTable (draft : Draft) (key : List String) : Except Flaw Draft := do
  let draft := draft.atHeader
  if key ∈ draft.declared ∨ isWithin draft.closed key then throw (.declaredTwice key)
  let table ← draft.table.modify true .ok key
  return { draft with table, header := key, declared := key :: draft.declared }

/-- Adds a table to the array of a key. What was said about the item before it is forgotten. -/
def openItem (draft : Draft) (key : List String) : Except Flaw Draft := do
  let draft := draft.atHeader
  if isWithin draft.closed key then throw (.immutable key)
  let outside (other : List String) : Bool := !key.isPrefixOf other
  let table ← draft.table.modify true (Table.addItem (key.getLastD "")) key.dropLast
  return { draft with
    table
    header := key
    declared := key :: draft.declared.filter outside
    closed := draft.closed.filter outside }

/-- The keys on the way from the header to a key. -/
def waypoints (draft : Draft) (key : List String) : List (List String) :=
  (List.range (key.length - 1)).map fun count => draft.header ++ key.take (count + 1)

/-- Assigns a value to a key below the header. -/
def assign (draft : Draft) (key : List String) (value : Value) : Except Flaw Draft := do
  let waypoints := draft.waypoints key
  if let some waypoint := waypoints.find? (· ∈ draft.declared) then
    throw (.redefined waypoint)
  let parent := draft.header ++ key.dropLast
  if isWithin draft.closed parent then throw (.immutable parent)
  let table ← draft.table.modify true
    (Table.addNew .overwritten (key.getLastD "") value) parent
  return { draft with
    table
    closed := if isClosed value then (draft.header ++ key) :: draft.closed else draft.closed
    pending := waypoints ++ draft.pending }

/-- The draft with one more statement. -/
def apply (draft : Draft) : Statement → Except Flaw Draft
  | .table key => draft.openTable key
  | .arrayItem key => draft.openItem key
  | .entry key value => draft.assign key value

end Draft

/-- Reads statements, at most so many, line by line. -/
def readDraft [Host] : Nat → Draft → List Char → Except Refusal Draft
  | 0, draft, _ => .ok draft
  | steps + 1, draft, text =>
    match skipSpace text with
    | [] => .ok draft
    | '\n' :: rest => readDraft steps draft rest
    | '#' :: rest => do readDraft steps draft (← afterLine ('#' :: rest))
    | text => do
      let read ← readStatement text
      match draft.apply read.statement with
      | .error flaw => refuse flaw read.behind
      | .ok draft => readDraft steps draft (← read.rest)

/-- The text with pairs of carriage return and line feed written as line feeds. -/
def joinNewlines : List Char → List Char
  | '\r' :: '\n' :: rest => '\n' :: joinNewlines rest
  | c :: rest => c :: joinNewlines rest
  | [] => []

/-- The table of a configuration document. -/
def read [Host] (text : List Char) : Except Error Table :=
  let text := joinNewlines text
  match readDraft (text.length + 1) Draft.empty text with
  | .ok draft => .ok draft.table
  | .error refusal => .error (Error.ofRefusal text refusal)

end ILGraft.Toml
