import Sluice.CommandLine.Result
import Sluice.Manager.Step

/-!
# Running tunnels

The command `run` starts the tunnels of a configuration file. A signal to reload replaces their
configuration by what is in the file then, unless the file is faulty; a signal to stop shuts all
tunnels down. What the command writes to the log is among the reports of its manager.

* `Service.start`, `Service.reload` and `Service.stop` are the beginning of the command and the
  signals.
* `Service.conclude` ends the command when its manager has come to an end.
-/

namespace Sluice.CommandLine

open Net (IoFault)

/-- The command `run` while its manager works. -/
structure Service where
  /-- The path of the configuration file. -/
  path : String
  /-- The manager of the tunnels. -/
  manager : Manager
  /-- The signal to stop has come. -/
  stopping : Bool := false

namespace Service

/-- The reports of the beginning of the command. -/
def opening (path : String) (logs : List LogLine) : List Report :=
  .line ⟨.info, s!"Loading configuration from: {path}"⟩ :: logs.map .line

/-- The beginning of the command: the service or the error with which the command ends, and the
reports so far. -/
def start (env : Environment) (path : String) (content : Except IoFault String) :
    Except LoadError Service × List Report :=
  let (result, logs) := Config.ofFile path content
  let reports := opening path logs
  match result with
  | .error error => (.error error, reports)
  | .ok config =>
    (.ok { path, manager := { Manager.start env config with reports := reports } }, reports)

/-- The signal to reload: the configuration file is read again. -/
def reload (service : Service) (wording : DocumentFault → String)
    (content : Except IoFault String) : Service :=
  let (result, logs) := Config.ofFile service.path content
  let manager := service.manager.report
    (.line ⟨.info, s!"Reloading configuration from: {service.path}"⟩ :: logs.map .line)
  match result with
  | .ok config => { service with manager := (manager.reload config).getD manager }
  | .error error =>
    let reason := (CommandError.load error).line wording
    { service with
      manager := manager.log .warn s!"Keeping current configuration, reload failed: {reason}" }

/-- The line about the traffic of a tunnel. -/
def trafficLine (name : String) (c : Counters) : Report :=
  .line ⟨.info, s!"Tunnel '{name}': {c.total.toNat} connections, {c.upstream.toNat} bytes up, " ++
    s!"{c.downstream.toNat} bytes down"⟩

/-- The signal to stop. -/
def stop (service : Service) : Service :=
  let manager := (service.manager.log .info "Shutdown signal received").report
    (service.manager.sorted.map fun m => trafficLine m.config.name m.tunnel.counters)
  { service with manager := manager.shutDownAll.getD manager, stopping := true }

/-- The end of the command once its manager has come to an end: the error, if there is one, and the
service with its last reports. -/
def conclude (service : Service) : Option (Option CommandError × Service) :=
  match service.manager.task with
  | .failed error => some (some (.start error), service)
  | .idle =>
    if service.stopping then
      some (none, { service with manager := service.manager.log .info "All tunnels stopped" })
    else none
  | _ => none

end Service

end Sluice.CommandLine
