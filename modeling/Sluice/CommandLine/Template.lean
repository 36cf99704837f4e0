import Sluice.CommandLine.Result
import Sluice.Config.Template

/-!
# Writing the configuration template

The command `template` prints the configuration template or writes it to a file.
-/

namespace Sluice.CommandLine

open Net (IoFault)

/-- The command without a file. -/
def printTemplate : CommandResult := { output := printed [Config.template] }

/-- The command with a file, given the fault of writing the file. -/
def writeTemplate (path : String) (fault : Option IoFault) : CommandResult :=
  match fault with
  | none => { output := printed [s!"Generated configuration template: {path}"] }
  | some fault => { error := some (.template path fault) }

end Sluice.CommandLine
