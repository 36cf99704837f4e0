import Sluice.CommandLine.Check
import Sluice.CommandLine.Path
import Sluice.CommandLine.Run
import Sluice.CommandLine.Template
import Sluice.Simulation.Files
import Sluice.Simulation.Host

/-!
# Commands at a terminal

A terminal carries out commands on a tree of files and on the ports of a host.

* `Terminal.execute` carries out a command to its end.
* `Session` is the command `run` while it works, with the signals that it gets.
-/

namespace Sluice.Simulation

open CommandLine

/-- Where commands are carried out. -/
structure Terminal where
  /-- The surroundings. -/
  env : Environment
  /-- The files. -/
  files : FileTree
  /-- The ports of the host. -/
  ports : Loopback

/-- The command `run` at a terminal. -/
structure Session where
  /-- The terminal. -/
  terminal : Terminal
  /-- The command, unless it could not even begin. -/
  service : Option Service
  /-- What was reported before the command could begin. -/
  reports : List Report := []
  /-- How the command ended, if it did. -/
  ending : Option (Option CommandError) := none

namespace Session

/-- Everything that was reported so far, oldest first. -/
def allReports (session : Session) : List Report :=
  match session.service with
  | some service => service.manager.reports
  | none => session.reports

/-- Let everything happen that can happen. -/
def settle (session : Session) : Session :=
  match session.service, session.ending with
  | some service, none =>
    let host : Host := ⟨session.terminal.ports, service.manager⟩
    let host := host.settle
    let service := { service with manager := host.manager }
    let session := { session with terminal.ports := host.ports }
    match service.conclude with
    | some (error, service) => { session with service := some service, ending := some error }
    | none => { session with service := some service }
  | _, _ => session

/-- Begin the command. -/
def start (terminal : Terminal) (config : String) : Session :=
  let path := expandPath terminal.env config
  let session : Session :=
    match Service.start terminal.env path (terminal.files.read path) with
    | (.ok service, _) => { terminal, service := some service }
    | (.error error, reports) =>
      { terminal, service := none, reports, ending := some (some (.load error)) }
  session.settle

/-- The signal to reload. -/
def reload (session : Session) (wording : DocumentFault → String) : Session :=
  match session.service, session.ending with
  | some service, none =>
    let content := session.terminal.files.read service.path
    let session := { session with service := some (service.reload wording content) }
    session.settle
  | _, _ => session

/-- The signal to stop. -/
def stop (session : Session) : Session :=
  match session.service, session.ending with
  | some service, none =>
    let session := { session with service := some service.stop }
    session.settle
  | _, _ => session

end Session

namespace Terminal

/-- Carry out a command, given the wording of faults of the document. The result is what comes of the
command and the terminal after it. -/
def execute (terminal : Terminal) (wording : DocumentFault → String) :
    Command → CommandResult × Terminal
  | .check config format =>
    let path := expandPath terminal.env config
    let content :=
      if terminal.files.contains path then some (terminal.files.read path) else none
    (check terminal.env wording path format content, terminal)
  | .template none => (printTemplate, terminal)
  | .template (some path) =>
    match terminal.files.write path Config.template with
    | .ok files => (writeTemplate path none, { terminal with files })
    | .error fault => (writeTemplate path (some fault), terminal)
  | .run config =>
    let session := Session.start terminal config
    ({ logs := session.allReports.map (·.logLine), error := session.ending.join },
      session.terminal)

end Terminal

end Sluice.Simulation
