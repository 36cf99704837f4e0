import Sluice.Live.Sockets

/-!
# Files of the operating system

* `readText` reads a text, `writeText` makes a file or replaces its content.
* `fileExists` says whether a path leads anywhere.
-/

namespace Sluice.Live

open Net (IoFault)

/-- The text in a file. -/
def readText (path : String) : IO (Except IoFault String) := do
  match ← attempt (IO.FS.readBinFile path) with
  | .error fault => return .error fault
  | .ok bytes =>
    match String.fromUTF8? bytes with
    | some text => return .ok text
    | none => return .error .invalidText

/-- Write a text to a file. The result is the fault, if there was one. -/
def writeText (path text : String) : IO (Option IoFault) := do
  match ← attempt (IO.FS.writeFile path text) with
  | .ok () => return none
  | .error fault => return some fault

/-- The path leads to a file or a directory. -/
def fileExists (path : String) : IO Bool := do
  ((← IO.currentDir) / path).pathExists

end Sluice.Live
