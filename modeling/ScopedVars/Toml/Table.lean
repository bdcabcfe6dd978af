import ScopedVars.Toml.Value

/-! # Building tables

Tables are built from assignments and headers in the order in which they are written. A key is
defined once; a dotted key extends only tables that dotted keys made, and a header names a table
only once.
-/

namespace ScopedVars.Toml

abbrev Table := Origin × Entries

namespace Entries

def put (key : String) (value : Value) : Entries → Entries
  | [] => [(key, value)]
  | entry :: rest => if entry.1 = key then (key, value) :: rest else entry :: put key value rest

end Entries

namespace Table

/-- Changes the table that a path leads to. Missing tables on the way are made with the given
origin; of tables in an array the last one is taken. A table in braces is complete, and a dotted
key does not lead through a table that has a header. -/
def alter (made : Origin) (change : Table → Except Reason Table) :
    List String → Table → Except Reason Table
  | [], table => change table
  | key :: path, (origin, entries) =>
    match entries.lookup key with
    | none => do
      let (inner, items) ← alter made change path (made, [])
      return (origin, Entries.put key (.table inner items) entries)
    | some (.table inner items) =>
      if inner = .inline ∨ (made = .dotted ∧ inner = .header) then .error (.closed key)
      else do
        let (inner, items) ← alter made change path (inner, items)
        return (origin, Entries.put key (.table inner items) entries)
    | some (.tables items) => do
      let (_, last) ← alter made change path (.header, items.getLastD [])
      return (origin, Entries.put key (.tables (items.dropLast ++ [last])) entries)
    | some _ => .error (.closed key)

def add (key : String) (value : Value) (table : Table) : Except Reason Table :=
  match table.2.lookup key with
  | none => .ok (table.1, Entries.put key value table.2)
  | some _ => .error (.duplicate key)

/-- Assigns a value to a key of the table. A dotted key must end in a table that dotted keys made,
and a key without points in one that they did not make. -/
def assign (path : KeyPath) (value : Value) : Table → Except Reason Table :=
  alter .dotted (fun table =>
    if table.1 = .dotted ↔ path.parents = [] then .error (.closed path.name)
    else add path.name value table) path.parents

def declare (path : KeyPath) : Table → Except Reason Table :=
  alter .parent (fun table =>
    match table.2.lookup path.name with
    | some (.table .parent items) =>
      .ok (table.1, Entries.put path.name (.table .header items) table.2)
    | _ => add path.name (.table .header []) table) path.parents

/-- Adds a table to the array of tables that a header names. -/
def extend (path : KeyPath) : Table → Except Reason Table :=
  alter .parent (fun table =>
    match table.2.lookup path.name with
    | some (.tables items) =>
      .ok (table.1, Entries.put path.name (.tables (items ++ [[]])) table.2)
    | _ => add path.name (.tables [[]]) table) path.parents

def ofPairs (pairs : List (KeyPath × Value)) : Except Reason Table :=
  pairs.foldlM (fun table pair => assign pair.1 pair.2 table) (.inline, [])

end Table

end ScopedVars.Toml
