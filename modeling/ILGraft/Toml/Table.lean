import ILGraft.Toml.Flaw
import ILGraft.Toml.Value

/-!
# Nested tables

A path of keys leads from a table into the tables below it. Tables on the way that do not exist
yet are created; an array of tables stands for its last item.
-/

namespace ILGraft.Toml.Table

/-- Whether a table has an entry for a key. -/
def has (table : Table) (key : String) : Bool :=
  (table.lookup key).isSome

/-- The table with the value of an existing key replaced. -/
def replace (table : Table) (key : String) (value : Value) : Table :=
  table.map fun entry => if entry.1 = key then (key, value) else entry

/-- Changes the table that a path leads to. Arrays are entered only where that is allowed. -/
def modify (enterArrays : Bool) (change : Table → Except Flaw Table) :
    List String → Table → Except Flaw Table
  | [], table => change table
  | key :: path, table =>
    match table.lookup key with
    | none => do
      return table ++ [(key, .table (← modify enterArrays change path []))]
    | some (.table inner) => do
      return table.replace key (.table (← modify enterArrays change path inner))
    | some (.array items) =>
      match enterArrays, items.getLast? with
      | true, some (.table inner) => do
        let last ← modify enterArrays change path inner
        return table.replace key (.array (items.dropLast ++ [.table last]))
      | _, _ => .error .overwritten
    | some _ => .error .overwritten

/-- Adds an entry with a new key; `duplicate` is the flaw of a key that is there already. -/
def addNew (duplicate : Flaw) (key : String) (value : Value) (table : Table) :
    Except Flaw Table :=
  if table.has key then .error duplicate else .ok (table ++ [(key, value)])

/-- Adds an empty table to the array of a key, or begins the array with it. -/
def addItem (key : String) (table : Table) : Except Flaw Table :=
  match table.lookup key with
  | none => .ok (table ++ [(key, .array [.table []])])
  | some (.array items) => .ok (table.replace key (.array (items ++ [.table []])))
  | some _ => .error .overwritten

end ILGraft.Toml.Table
