import Sluice.Manager.Initiative
import Sluice.Simulation.Loopback

/-!
# A manager on a host

A host gives ports to the tunnels of one manager. Nobody connects, and no time passes.

* `Host.step?` is the next thing that happens by itself.
* `Host.settle` lets everything happen that can happen.
* `Host.start`, `Host.reload` and `Host.shutDownAll` are what the user of the manager does.
-/

namespace Sluice.Simulation

open Net (SocketAddress IoFault)

/-- A manager on a host. -/
structure Host where
  /-- The ports of the host. -/
  ports : Loopback
  /-- The manager. -/
  manager : Manager

namespace Host

/-- The addresses that the tunnels occupy. -/
def occupied (host : Host) : List SocketAddress :=
  host.manager.allTunnels.filterMap (·.occupied)

/-- Attempt to listen at an address. -/
def bind (host : Host) (text : String) : Except IoFault Listener × Loopback :=
  let (result, ports) := host.ports.bind host.occupied text
  (result.map .stable, ports)

/-- The next thing that happens by itself. -/
def step? (host : Host) : Option Host := do
  match ← host.manager.next? 0 with
  | .act place action => return { host with manager := ← host.manager.act 0 place action }
  | .listen place address =>
    let (result, ports) := host.bind address
    return ⟨ports, ← host.manager.act 0 place (.bound result)⟩
  | .launch config =>
    let (result, ports) := host.bind config.listenAt
    return ⟨ports, ← host.manager.bound 0 result⟩
  | .proceed => return { host with manager := ← host.manager.proceed }

/-- At most `fuel` things happen. -/
def settleWithin : Nat → Host → Host
  | 0, host => host
  | fuel + 1, host =>
    match host.step? with
    | some next => settleWithin fuel next
    | none => host

/-- How many tunnels the task of a manager still concerns. -/
def ahead : Task → Nat
  | .starting rest => rest.length
  | .reloading r => r.removals.length + r.ahead.length + r.launches.length
  | _ => 0

/-- A bound on the number of things that can happen by themselves: each tunnel is started, gets new
limits and is shut down at most once for each mention in the task. -/
def bound (host : Host) : Nat :=
  24 * (host.manager.allTunnels.length + 2 * ahead host.manager.task + 4)

/-- Let everything happen that can happen. -/
def settle (host : Host) : Host :=
  host.settleWithin host.bound

/-- Start the tunnels of a configuration. -/
def start (ports : Loopback) (env : Environment) (config : Config) : Host :=
  let host : Host := ⟨ports, .start env config⟩
  host.settle

/-- Replace the configuration. -/
def reload (host : Host) (config : Config) : Host :=
  let host : Host := { host with manager := (host.manager.reload config).getD host.manager }
  host.settle

/-- Shut all tunnels down. -/
def shutDownAll (host : Host) : Host :=
  let host : Host := { host with manager := host.manager.shutDownAll.getD host.manager }
  host.settle

end Host

end Sluice.Simulation
