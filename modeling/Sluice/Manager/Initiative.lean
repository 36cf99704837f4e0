import Sluice.Manager.Step
import Sluice.Tunnel.Initiative
import Sluice.Tunnel.Outside

/-!
# What a manager and its tunnels do by themselves

Whoever drives a manager asks again and again for the next thing that can happen without news from
outside, and carries it out. Most of these things change the manager and its tunnels only; attempts to
listen need an answer from outside.

* `Manager.Next` is something that can happen.
* `Manager.next?` is the next thing. Tunnels come before the manager.
* `Manager.due` is the next instant at which something happens by itself.
* `Manager.forget` drops what is over from a manager that runs for a long time.
-/

namespace Sluice.Manager

/-- Something that can happen without news from outside. -/
inductive Next where
  /-- A tunnel does something by itself. -/
  | act (place : Place) (action : Tunnel.Action)
  /-- A tunnel attempts to listen at an address. -/
  | listen (place : Place) (address : String)
  /-- The manager attempts to listen for a new tunnel. -/
  | launch (config : TunnelConfig)
  /-- The manager goes on. -/
  | proceed

/-- The places at which tunnels are. -/
def places (m : Manager) : List Place :=
  m.names.map .running ++ [.inHand] ++ (List.range m.orphans.length).map .orphaned

/-- The tunnels at all places. -/
def allTunnels (m : Manager) : List Tunnel :=
  m.places.filterMap m.tunnelAt?

/-- The next thing that the tunnel at a place does. -/
def nextAt? (m : Manager) (now : Nat) (place : Place) : Option Next := do
  let tunnel ← m.tunnelAt? place
  match tunnel.initiative? now with
  | some action => return .act place action
  | none => if tunnel.owner = .binding then return .listen place tunnel.plan.listenAt else none

/-- The next thing that the manager does. -/
def nextOfManager? (m : Manager) : Option Next :=
  match m.launching? with
  | some config => some (.launch config)
  | none => if m.proceed.isSome then some .proceed else none

/-- The next thing that can happen at the instant `now`. -/
def next? (m : Manager) (now : Nat) : Option Next :=
  m.places.findSome? (m.nextAt? now) <|> m.nextOfManager?

/-- The next instant at which a tunnel has something to do if nothing else happens. -/
def due (m : Manager) : Option Nat :=
  (m.allTunnels.filterMap (·.due)).min?

/-- Drop what is over: the reports so far, and what the tunnels have reported and finished. -/
def forget (m : Manager) : Manager :=
  { m with
    reports := []
    tunnels := m.tunnels.map fun managed => { managed with tunnel := managed.tunnel.forget }
    hand := m.hand.map fun hand =>
      { hand with managed := { hand.managed with tunnel := hand.managed.tunnel.forget } }
    orphans := (m.orphans.filter (!·.isFinished)).map (·.forget) }

end Sluice.Manager
