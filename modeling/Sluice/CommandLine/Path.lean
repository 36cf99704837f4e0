import Sluice.Config.Environment

/-!
# Paths on the command line

A path may begin with a tilde for the home directory of the user and may be relative to the current
directory.
-/

namespace Sluice.CommandLine

/-- The path with a leading tilde replaced by the home directory. A tilde that stands for the home
directory of another user stays. -/
def expandTilde (home path : String) : String :=
  match path.toList with
  | ['~'] => home
  | '~' :: '/' :: rest => home ++ "/" ++ String.ofList rest
  | _ => path

/-- The path behind a directory, unless it is absolute. -/
def joinPath (directory path : String) : String :=
  match path.toList with
  | '/' :: _ => path
  | _ => if directory.toList.getLast? = some '/' then directory ++ path else directory ++ "/" ++ path

/-- The absolute path that a path on the command line denotes. -/
def expandPath (env : Environment) (path : String) : String :=
  joinPath env.directory (expandTilde env.home path)

end Sluice.CommandLine
