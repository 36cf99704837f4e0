import Sluice.Net.IoFault

/-!
# Files

A tree of files and directories. A path is resolved name by name; every name but the last one has to
belong to a directory.

* `FileTree.read` reads a file, `FileTree.write` makes a file or replaces its content.
* `FileTree.contains` says whether a path leads anywhere.
-/

namespace Sluice.Simulation

open Net (IoFault)

/-- What a path leads to. -/
inductive FileNode where
  /-- A file with its content. -/
  | file (bytes : List UInt8)
  /-- A directory. -/
  | directory
deriving Repr

/-- A tree of files. The root is a directory. -/
structure FileTree where
  /-- The files and directories by the names on the way from the root. -/
  entries : List (List String × FileNode) := []
deriving Repr

namespace FileTree

/-- What is at a place. -/
def node? (tree : FileTree) (place : List String) : Option FileNode :=
  if place.isEmpty then some .directory else tree.entries.lookup place

/-- Put something at a place. -/
def put (tree : FileTree) (place : List String) (node : FileNode) : FileTree :=
  ⟨(place, node) :: tree.entries.filter (·.1 ≠ place)⟩

/-- Remove what is at a place. -/
def remove (tree : FileTree) (place : List String) : FileTree :=
  ⟨tree.entries.filter (·.1 ≠ place)⟩

/-- The names in a path. -/
def names (path : String) : List String :=
  (path.toList.splitBy fun a b => a ≠ '/' && b ≠ '/').filterMap fun part =>
    if part = ['/'] then none else some (String.ofList part)

/-- The path insists on a directory. -/
def endsInSlash (path : String) : Bool :=
  path.toList.getLast? = some '/'

/-- No path can look like this. -/
def obstacle? (path : String) : Option IoFault :=
  if path.toList.contains '\x00' then
    some (.described .invalidInput "file name contained an unexpected NUL byte")
  else if path.isEmpty then some .noSuchFile
  else if (names path).any (255 < ·.utf8ByteSize) then some .nameTooLong
  else none

/-- The place that names lead to from a directory. -/
def walk (tree : FileTree) (place : List String) : List String → Except IoFault (List String)
  | [] => .ok place
  | name :: rest =>
    match tree.node? place with
    | some .directory =>
      if name = "." then tree.walk place rest
      else if name = ".." then tree.walk place.dropLast rest
      else tree.walk (place ++ [name]) rest
    | some (.file _) => .error .notDirectory
    | none => .error .noSuchFile

/-- What a path leads to. -/
def find (tree : FileTree) (path : String) : Except IoFault FileNode :=
  match obstacle? path with
  | some fault => .error fault
  | none => do
    let place ← tree.walk [] (names path)
    match tree.node? place with
    | none => .error .noSuchFile
    | some (.file bytes) =>
      if endsInSlash path then .error .notDirectory else .ok (.file bytes)
    | some .directory => .ok .directory

/-- The path leads to a file or a directory. -/
def contains (tree : FileTree) (path : String) : Bool :=
  match tree.find path with
  | .ok _ => true
  | .error _ => false

/-- The text in a file. -/
def read (tree : FileTree) (path : String) : Except IoFault String := do
  match ← tree.find path with
  | .directory => .error .isDirectory
  | .file bytes =>
    match String.fromUTF8? ⟨bytes.toArray⟩ with
    | some text => .ok text
    | none => .error .invalidText

/-- Write a text to a file. -/
def write (tree : FileTree) (path text : String) : Except IoFault FileTree :=
  match obstacle? path with
  | some fault => .error fault
  | none => do
    let place ← tree.walk [] (names path)
    match tree.node? place with
    | some .directory => .error .isDirectory
    | some (.file _) =>
      if endsInSlash path then .error .notDirectory
      else .ok (tree.put place (.file text.toUTF8.toList))
    | none =>
      match tree.node? place.dropLast with
      | some .directory =>
        if endsInSlash path then .error .isDirectory
        else .ok (tree.put place (.file text.toUTF8.toList))
      | some (.file _) => .error .notDirectory
      | none => .error .noSuchFile

end FileTree

end Sluice.Simulation
