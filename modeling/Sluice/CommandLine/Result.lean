import Sluice.Config.Load

/-!
# What comes of a command

A command prints to its output, writes to the log, and may fail.
-/

namespace Sluice.CommandLine

open Net (IoFault)

/-- Why a command failed. -/
inductive CommandError where
  /-- There is no configuration file at the path. -/
  | notFound (path : String)
  /-- The configuration cannot be loaded. -/
  | load (error : LoadError)
  /-- A tunnel cannot be started. -/
  | start (error : TunnelError)
  /-- The configuration template cannot be written to the path. -/
  | template (path : String) (fault : IoFault)
deriving Repr

namespace CommandError

/-- The messages of the error and its causes, outermost first, given the wording of faults of the
document. -/
def chain (wording : DocumentFault → String) : CommandError → List String
  | .notFound path => [s!"Configuration file not found: {path}"]
  | .load error => error.chain wording
  | .start error => error.chain
  | .template path fault => [s!"Failed to write config template to {path}", fault.text]

/-- The messages of the error and its causes in one line. -/
def line (wording : DocumentFault → String) (error : CommandError) : String :=
  ": ".intercalate (error.chain wording)

/-- The report of the error to the user: its message, and the messages of its causes, numbered if
there are several. -/
def report (wording : DocumentFault → String) (error : CommandError) : List String :=
  match error.chain wording with
  | [] => []
  | [message] => [s!"Error: {message}"]
  | [message, cause] => [s!"Error: {message}", "", "Caused by:", s!"    {cause}"]
  | message :: causes =>
    [s!"Error: {message}", "", "Caused by:"] ++
      causes.mapIdx fun i cause => s!"    {i}: {cause}"

end CommandError

/-- What comes of a command. -/
structure CommandResult where
  /-- What the command printed. -/
  output : String := ""
  /-- What the command wrote to the log. -/
  logs : List LogLine := []
  /-- Why the command failed, if it did. -/
  error : Option CommandError := none
deriving Repr

/-- Lines of output, each with its end. -/
def printed (lines : List String) : String :=
  String.join (lines.map (· ++ "\n"))

end Sluice.CommandLine
