import Sluice.Data.Basic

/-!
# Tables under construction

The tables of a document grow line by line. How a table came to be decides what may be added to it: a
table opened by a header is complete once the next header comes, a table that only lies on the way to
another one may still be opened, a table made by a dotted key grows by dotted keys alone, and a list
of tables grows by headers in double brackets. Values, with inline tables and lists among them, are
closed.

* `assign` sets a key, given by the dotted path before it.
* `Draft` is a document under construction: `Draft.assign` sets a key of the current table,
  `Draft.enter` opens another table, `Draft.finish` is the whole document.
-/

namespace Sluice.Toml

/-- How a table came to be. -/
inductive Origin where
  /-- It was opened by a header. -/
  | header
  /-- It lies on the way to a table that was opened by a header. -/
  | implied
  /-- It was made by a dotted key. -/
  | dotted
deriving DecidableEq, Repr

/-- What stands under a key of a table under construction. -/
inductive Node where
  /-- A value, which is closed. -/
  | value (data : Data)
  /-- A table. -/
  | table (origin : Origin) (entries : List (String × Node))
  /-- A list of tables, the current one last. -/
  | tables (items : List (List (String × Node)))

/-- The entries of a table under construction. -/
abbrev Entries := List (String × Node)

/-- The order of the fields of a record. -/
def sortFields (fields : List (String × Data)) : List (String × Data) :=
  fields.mergeSort fun a b => a.1 ≤ b.1

mutual

/-- What stands under a key as plain data. -/
def Node.data : Node → Data
  | .value data => data
  | .table _ entries => .record (sortFields (fieldsOf entries))
  | .tables items => .list (recordsOf items)

/-- The entries of a table as fields. -/
def fieldsOf : List (String × Node) → List (String × Data)
  | [] => []
  | (key, node) :: entries => (key, node.data) :: fieldsOf entries

/-- Tables as records. -/
def recordsOf : List (List (String × Node)) → List Data
  | [] => []
  | entries :: items => .record (sortFields (fieldsOf entries)) :: recordsOf items

end

/-- A finished table as plain data. -/
def tableData (entries : Entries) : Data := .record (sortFields (fieldsOf entries))

namespace Entries

/-- The entries with another node under a key that is present. -/
def replace (entries : Entries) (key : String) (node : Node) : Entries :=
  entries.map fun entry => if entry.1 = key then (key, node) else entry

/-- The entries with a node under a key that is absent, or none if it is present. -/
def insertNew (entries : Entries) (key : String) (node : Node) : Option Entries :=
  if (entries.lookup key).isSome then none else some (entries ++ [(key, node)])

/-- The entries without a key. -/
def remove (entries : Entries) (key : String) : Entries :=
  entries.filter (·.1 ≠ key)

end Entries

/-- Change the table at the end of the list of tables. -/
def modifyLast {α : Type} (f : α → Option α) : List α → Option (List α)
  | [] => none
  | [x] => (f x).map ([·])
  | x :: xs => (modifyLast f xs).map (x :: ·)

/-- Set a key of the table at the end of a dotted path. That table must have been made by dotted
keys, as `isDotted` says of the table at hand. -/
def assignDotted (key : String) (data : Data) :
    List String → Bool → Entries → Option Entries
  | [], isDotted, entries => if isDotted then entries.insertNew key (.value data) else none
  | step :: path, _, entries =>
    match entries.lookup step with
    | none => do
      let sub ← assignDotted key data path true []
      some (entries ++ [(step, .table .dotted sub)])
    | some (.table .header _) => none
    | some (.table origin sub) => do
      let sub ← assignDotted key data path (origin = .dotted) sub
      some (entries.replace step (.table origin sub))
    | some (.tables items) => do
      let items ← modifyLast (assignDotted key data path false) items
      some (entries.replace step (.tables items))
    | some (.value _) => none

/-- Set a key, given by the dotted path before it. -/
def assign (entries : Entries) (path : List String) (key : String) (data : Data) : Option Entries :=
  match path with
  | [] => entries.insertNew key (.value data)
  | path => assignDotted key data path false entries

/-- Change the table at the end of a path of headers. Tables that are missing on the way are made. -/
def modifyAt (f : Entries → Option Entries) : List String → Entries → Option Entries
  | [], entries => f entries
  | step :: path, entries =>
    match entries.lookup step with
    | none => do
      let sub ← modifyAt f path []
      some (entries ++ [(step, .table .implied sub)])
    | some (.table origin sub) => do
      let sub ← modifyAt f path sub
      some (entries.replace step (.table origin sub))
    | some (.tables items) => do
      let items ← modifyLast (modifyAt f path) items
      some (entries.replace step (.tables items))
    | some (.value _) => none

/-- The table at the end of a path of headers. -/
def entriesAt : List String → Entries → Option Entries
  | [], entries => some entries
  | step :: path, entries =>
    match entries.lookup step with
    | none => some []
    | some (.table _ sub) => entriesAt path sub
    | some (.tables items) => items.getLast?.bind (entriesAt path)
    | some (.value _) => none

/-- The header of a table. -/
structure Header where
  /-- The keys before the last one. -/
  path : List String
  /-- The last key. -/
  key : String
  /-- The header stands in double brackets and opens one more table of a list. -/
  isItem : Bool
deriving DecidableEq, Repr

/-- A document under construction. -/
structure Draft where
  /-- All tables but the current one. -/
  root : Entries := []
  /-- The header of the current table, or none at the top of the document. -/
  header : Option Header := none
  /-- The entries of the current table. -/
  current : Entries := []

namespace Draft

/-- Set a key of the current table, given by the dotted path before it. -/
def assign (draft : Draft) (path : List String) (key : String) (data : Data) : Option Draft := do
  let current ← Toml.assign draft.current path key data
  return { draft with current }

/-- Put the current table to its place. -/
def close (draft : Draft) : Option Entries :=
  match draft.header with
  | none => some draft.current
  | some header =>
    draft.root |> modifyAt (fun entries =>
      if header.isItem then
        match entries.lookup header.key with
        | none => some (entries ++ [(header.key, .tables [draft.current])])
        | some (.tables items) =>
          some (entries.replace header.key (.tables (items ++ [draft.current])))
        | some _ => none
      else entries.insertNew header.key (.table .header draft.current)) header.path

/-- Open a table. A table that was only implied so far goes on with what it has. -/
def enter (draft : Draft) (header : Header) : Option Draft := do
  let root ← draft.close
  if header.isItem then return { root, header := some header, current := [] }
  let parent ← entriesAt header.path root
  match parent.lookup header.key with
  | none => return { root, header := some header, current := [] }
  | some (.table .implied entries) =>
    let root ← modifyAt (fun parent => some (parent.remove header.key)) header.path root
    return { root, header := some header, current := entries }
  | some _ => none

/-- The whole document. -/
def finish (draft : Draft) : Option Data :=
  draft.close.map tableData

end Draft

end Sluice.Toml
