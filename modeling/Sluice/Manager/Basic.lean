import Sluice.Config.Basic
import Sluice.Tunnel.Step

/-!
# Managers

A manager runs the tunnels of a configuration. It starts them, replaces its configuration by another
one while they run, and shuts them down. While it does one of these it handles one tunnel at a time:
it takes a tunnel in hand, asks something of it, and waits until that is done.

* `Managed` is a tunnel with its configuration.
* `Task` is what a manager is busy with, `Hand` is the tunnel that it has in hand.
* `Manager` is the state of a manager and of all its tunnels.
-/

namespace Sluice

/-- A tunnel with its configuration. -/
structure Managed where
  /-- The configuration. -/
  config : TunnelConfig
  /-- The tunnel. -/
  tunnel : Tunnel

/-- What became of the tunnels when the configuration was replaced. -/
structure ReloadSummary where
  /-- The tunnels that only got new limits. -/
  updated : List String := []
  /-- The tunnels that were started again because an address changed. -/
  restarted : List String := []
  /-- The tunnels that are new. -/
  added : List String := []
  /-- The tunnels that were removed. -/
  removed : List String := []
  /-- The tunnels that could not be started. -/
  failed : List String := []
deriving DecidableEq, Repr

/-- What remains to be done to replace the configuration. -/
structure Reload where
  /-- The names of the tunnels to remove. -/
  removals : List String
  /-- The configured tunnels to compare with those that run. -/
  ahead : List TunnelConfig
  /-- The configured tunnels to start afterwards; some of them ran before. -/
  launches : List (TunnelConfig × Bool) := []
  /-- What became of the other tunnels. -/
  summary : ReloadSummary := {}
deriving Repr

/-- What a manager is busy with. -/
inductive Task where
  /-- It waits for its user. -/
  | idle
  /-- It starts the tunnels of its first configuration. -/
  | starting (rest : List TunnelConfig)
  /-- It replaces its configuration. -/
  | reloading (reload : Reload)
  /-- It shuts all tunnels down, because of the error or because its user asked for it. -/
  | closing (error : Option TunnelError)
  /-- It could not start. -/
  | failed (error : TunnelError)
deriving Repr

/-- What a manager waits for while it has a tunnel in hand. -/
inductive Errand where
  /-- The tunnel is shut down and removed. -/
  | remove
  /-- The tunnel is shut down, to be started again as configured. -/
  | restart (config : TunnelConfig)
  /-- The tunnel is shut down together with all others. -/
  | close
  /-- The call with which the tunnel gets the limits configured. -/
  | update (config : TunnelConfig) (call : Nat)
deriving Repr

/-- A tunnel that a manager has in hand. -/
structure Hand where
  /-- The tunnel. -/
  managed : Managed
  /-- What the manager waits for. -/
  errand : Errand

/-- What a manager and its tunnels report. -/
inductive Report where
  /-- A tunnel reports an event. -/
  | event (tunnel : String) (event : Event)
  /-- The manager writes to the log. -/
  | line (line : LogLine)
deriving Repr

/-- The log line of a report. -/
def Report.logLine : Report → LogLine
  | .event tunnel e => e.logLine tunnel
  | .line l => l

/-- A manager with its tunnels. -/
structure Manager where
  /-- The surroundings in which the manager works. -/
  env : Environment
  /-- The settings for the tunnels that are started next. -/
  settings : Settings
  /-- The tunnels that run, each under a name of its own. -/
  tunnels : List Managed := []
  /-- What the manager is busy with. -/
  task : Task
  /-- The tunnel that the manager has in hand. -/
  hand : Option Hand := none
  /-- The tunnels that were given up and are not managed any more. -/
  orphans : List Tunnel := []
  /-- What became of the tunnels when the configuration was last replaced. -/
  summary : Option ReloadSummary := none
  /-- What the manager and its tunnels have reported, oldest first. -/
  reports : List Report := []

namespace Manager

/-- A manager that begins to start the tunnels of a configuration. -/
def start (env : Environment) (config : Config) : Manager where
  env := env
  settings := config.settings
  task := .starting config.tunnels

/-- The names of the tunnels that run. -/
def names (m : Manager) : List String := m.tunnels.map (·.config.name)

/-- The tunnel that runs under a name. -/
def find? (m : Manager) (name : String) : Option Managed :=
  m.tunnels.find? (·.config.name = name)

/-- Add to the reports. -/
def report (m : Manager) (reports : List Report) : Manager :=
  { m with reports := m.reports ++ reports }

/-- Write to the log. -/
def log (m : Manager) (level : Level) (text : String) : Manager :=
  m.report [.line ⟨level, text⟩]

/-- The tunnels in the order of their names. -/
def sorted (m : Manager) : List Managed :=
  m.tunnels.mergeSort (·.config.name ≤ ·.config.name)

end Manager

end Sluice
