import Sluice.Simulation.Loopback
import Sluice.Simulation.Timeline
import Sluice.Tunnel.Initiative

/-!
# A tunnel at its dock

A dock is one tunnel on a virtual clock, with the answers that it gets from outside: what comes of its
attempts to listen, and what its listeners deliver. The remote never answers.

* `Binder` says what comes of an attempt to listen.
* `Dock.start` starts a tunnel.
* `Dock.settle` lets everything happen that can happen without time passing.
* The other operations are what the user of the tunnel does.
-/

namespace Sluice.Simulation

open Net (SocketAddress IoFault)

/-- What comes of attempts to listen. -/
inductive Binder where
  /-- The answers are given, and there are no others. -/
  | scripted (answers : List (Except IoFault Listener))
  /-- The host gives a port. -/
  | host (ports : Loopback)

namespace Binder

/-- The listener that reports the given addresses in turn and the last one for ever. It is of no use
if the first report is a fault. -/
def listener (reports : List (Except IoFault SocketAddress)) : Except IoFault Listener :=
  match reports with
  | [] => .error (.plain .other)
  | first :: later =>
    match first with
    | .error fault => .error fault
    | .ok address => .ok ⟨address, ((later.head?.getD first).toOption)⟩

/-- Attempt to listen at an address. -/
def bind (text : String) : Binder → Except IoFault Listener × Binder
  | .scripted [] => (.error (.described .other "no more listeners"), .scripted [])
  | .scripted (answer :: rest) => (answer, .scripted rest)
  | .host ports =>
    let (result, ports) := ports.bind [] text
    (result.map .stable, .host ports)

/-- The number of answers that are given. -/
def size : Binder → Nat
  | .scripted answers => answers.length
  | .host _ => 0

end Binder

/-- A tunnel with the answers that it gets from outside. -/
structure Dock where
  /-- The instant at which the dock stands. -/
  now : Nat := 0
  /-- The tunnel. -/
  tunnel : Tunnel
  /-- What comes of attempts to listen. -/
  binder : Binder
  /-- The number of attempts to listen so far. -/
  attempts : Nat := 1
  /-- What the listeners deliver, in order. -/
  arrivals : List Arrival := []

namespace Dock

/-- Start a tunnel. -/
def start (plan : TunnelPlan) (binder : Binder) : Except IoFault Dock :=
  let (result, binder) := binder.bind plan.listenAt
  result.map fun listener => { tunnel := .start plan 0 listener, binder }

/-- Let an action happen. -/
def act (dock : Dock) (action : Tunnel.Action) : Option Dock :=
  (dock.tunnel.step dock.now action).map fun tunnel => { dock with tunnel }

/-- The next thing that happens without time passing. -/
def step? (dock : Dock) : Option Dock :=
  match dock.tunnel.initiative? dock.now with
  | some action => dock.act action
  | none =>
    match dock.tunnel.owner, dock.tunnel.acceptor, dock.arrivals with
    | .binding, _, _ =>
      let (result, binder) := dock.binder.bind dock.tunnel.plan.listenAt
      { dock with binder, attempts := dock.attempts + 1 }.act (.bound result)
    | _, .accepting, arrival :: rest => { dock with arrivals := rest }.act (.arrive arrival)
    | _, _, _ => none

/-- At most `fuel` things happen. -/
def settleWithin : Nat → Dock → Dock
  | 0, dock => dock
  | fuel + 1, dock =>
    match dock.step? with
    | some next => settleWithin fuel next
    | none => dock

/-- A bound on the number of things that can happen without time passing. -/
def bound (dock : Dock) : Nat :=
  16 * (dock.binder.size + dock.arrivals.length + dock.tunnel.requests.length +
    dock.tunnel.relay.connections.length + 4)

/-- Let everything happen that can happen now. -/
def settle (dock : Dock) : Dock :=
  dock.settleWithin dock.bound

/-- How time works at a dock. -/
def timeline : Timeline Dock where
  now := Dock.now
  setNow dock now := { dock with now }
  due dock := dock.tunnel.due
  settle := Dock.settle

/-- Let time pass. -/
def advance (dock : Dock) (delay : Duration) : Dock :=
  timeline.advance (dock.now + delay.nanos) dock

/-- The user does something, if that is possible. -/
def use (dock : Dock) (action : Tunnel.Action) : Dock :=
  ((dock.act action).getD dock).settle

/-- The listeners deliver something. -/
def deliver (dock : Dock) (arrival : Arrival) : Dock :=
  { dock with arrivals := dock.arrivals ++ [arrival] }.settle

end Dock

end Sluice.Simulation
