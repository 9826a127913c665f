/-!
TOML documents as trees, and how statements build them. Where a table came from decides what may
still be added to it.
-/

namespace LineSelect

/-- How a table came into being. -/
inductive TableOrigin where
  /-- By its own header. -/
  | header
  /-- As a parent of a header; its own header may still come. -/
  | parent
  /-- By a dotted key; further dotted keys may add to it. -/
  | dotted
  /-- Between braces; nothing may be added. -/
  | inline
deriving DecidableEq, Repr

/-- A TOML value. Entries are kept in the order in which their keys first come up. -/
inductive Toml where
  | string (value : String)
  | integer (value : Int)
  | float (literal : String)
  | boolean (value : Bool)
  | datetime (literal : String)
  | array (items : List Toml)
  | table (origin : TableOrigin) (entries : List (String × Toml))
  /-- Tables that share one header; the last one is open. -/
  | tables (items : List (List (String × Toml)))
deriving Repr, Inhabited

namespace Toml

abbrev Entries := List (String × Toml)

/-- Replaces the value of a key that is there. -/
def replaceEntry (key : String) (value : Toml) (entries : Entries) : Entries :=
  entries.map fun entry => if entry.1 == key then (key, value) else entry

/-- Changes the last of some tables. -/
def changeLast? (change : Entries → Option Entries) : List Entries → Option (List Entries)
  | [] => none
  | [last] => do return [← change last]
  | first :: rest => do return first :: (← changeLast? change rest)

/-- Adds a value under a key that is reached through the tables of a path. Tables on the way are
made where they are missing. The table that takes the value has to be new or dotted, unless the
path is empty. -/
def insertPath? (path : List String) (key : String) (value : Toml) (entries : Entries) :
    Option Entries :=
  match path with
  | [] => if (entries.lookup key).isSome then none else some (entries ++ [(key, value)])
  | first :: rest =>
    match entries.lookup first with
    | none => do
      return entries ++ [(first, .table .dotted (← insertPath? rest key value []))]
    | some (.table .dotted inner) => do
      return replaceEntry first (.table .dotted (← insertPath? rest key value inner)) entries
    | some (.table .parent inner) =>
      if rest = [] then none
      else do
        return replaceEntry first (.table .parent (← insertPath? rest key value inner)) entries
    | some (.tables items) =>
      if rest = [] then none
      else do
        let items ← changeLast? (insertPath? rest key value) items
        return replaceEntry first (.tables items) entries
    | some _ => none

/-- Changes the table at a path. Tables on the way are made where they are missing, and of several
tables with one header the last is meant. -/
def changeAt? (change : Entries → Option Entries) (path : List String) (entries : Entries) :
    Option Entries :=
  match path with
  | [] => change entries
  | first :: rest =>
    match entries.lookup first with
    | none => do
      return entries ++ [(first, .table .parent (← changeAt? change rest []))]
    | some (.table .inline _) => none
    | some (.table origin inner) => do
      return replaceEntry first (.table origin (← changeAt? change rest inner)) entries
    | some (.tables items) => do
      return replaceEntry first (.tables (← changeLast? (changeAt? change rest) items)) entries
    | some _ => none

/-- Opens the table of a header, which has no header yet. -/
def openTable? (key : String) (entries : Entries) : Option Entries :=
  match entries.lookup key with
  | none => some (entries ++ [(key, .table .header [])])
  | some (.table .parent inner) => some (replaceEntry key (.table .header inner) entries)
  | some _ => none

/-- Opens one more table under a shared header. -/
def appendTable? (key : String) (entries : Entries) : Option Entries :=
  match entries.lookup key with
  | none => some (entries ++ [(key, .tables [[]])])
  | some (.tables items) => some (replaceEntry key (.tables (items ++ [[]])) entries)
  | some _ => none

/-- A key with the path that leads to it. -/
structure KeyPath where
  path : List String
  key : String
deriving DecidableEq, Repr

namespace KeyPath

def all (k : KeyPath) : List String :=
  k.path ++ [k.key]

end KeyPath

inductive Statement where
  | entry (key : KeyPath) (value : Toml)
  | header (key : KeyPath)
  | sharedHeader (key : KeyPath)

/-- The document built from statements, given the table that is open. -/
def build? (entries : Entries) (openPath : List String) : List Statement → Option Entries
  | [] => some entries
  | .entry key value :: rest => do
    let entries ← changeAt? (insertPath? key.path key.key value) openPath entries
    build? entries openPath rest
  | .header key :: rest => do
    let entries ← changeAt? (openTable? key.key) key.path entries
    build? entries key.all rest
  | .sharedHeader key :: rest => do
    let entries ← changeAt? (appendTable? key.key) key.path entries
    build? entries key.all rest

/-- The table that keys and values between braces make. -/
def inlineTable? (pairs : List (KeyPath × Toml)) : Option Toml := do
  let entries ← pairs.foldlM (fun entries (key, value) =>
    insertPath? key.path key.key value entries) []
  return .table .inline entries

end Toml

end LineSelect
