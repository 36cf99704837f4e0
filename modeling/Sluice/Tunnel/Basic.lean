import Sluice.Relay.Basic
import Sluice.Tunnel.Plan

/-!
# Tunnels

A tunnel listens for clients, dials the remote for each of them and relays between the two. Four
parties work on it side by side.

* The *user* holds the tunnel, asks for new limits, and gives the tunnel up.
* The *acceptor* of the listener in service takes clients from the listener and hands them over one
  by one.
* The *owner* is the only party that changes what the tunnel is: it opens and closes connections,
  puts new limits into force, and replaces a listener that stopped working.
* The *directions* of the connections forward bytes.

The parties meet in two slots of one place each, one for arrivals and one for updates of the limits,
and in the queue of notices of the relay.

* `Tunnel` is the state of all parties.
* `Tunnel.start` starts a tunnel.
* `Tunnel.isFinished` says that nothing of the tunnel is left to do.
-/

namespace Sluice

open Net (SocketAddress IoFault)

/-- The phase of a tunnel as its user sees it. -/
inductive Phase where
  /-- Clients can connect at the address. -/
  | listening (address : SocketAddress)
  /-- The listener is lost, and another attempt to listen follows. -/
  | retrying
  /-- The tunnel began to shut down. -/
  | shuttingDown
  /-- The owner is gone. -/
  | stopped
deriving DecidableEq, Repr

/-- What the acceptor takes from a listener: a client, known by its address, or the fault with which
the listener stopped working. -/
abbrev Arrival := Except IoFault SocketAddress

/-- What the acceptor is busy with. -/
inductive Acceptor where
  /-- It waits for the listener. -/
  | accepting
  /-- It hands an arrival over. -/
  | handing (arrival : Arrival)
  /-- It is gone, and so is its listener. -/
  | ended

/-- What the owner is busy with. -/
inductive Owner where
  /-- It has a listener, which reports the given address, and puts it into service. -/
  | opening (inService : Option SocketAddress)
  /-- It waits for arrivals, notices and updates. -/
  | serving
  /-- It dials the remote for the client of the given number, until the deadline. -/
  | dialing (id deadline : Nat)
  /-- It waits for the deadline to listen again. -/
  | retrying (deadline : Nat)
  /-- It attempts to listen. -/
  | binding
  /-- It has announced the end and clears up. -/
  | ending
  /-- It is gone. -/
  | stopped
deriving DecidableEq, Repr

/-- What the user does with the tunnel. -/
inductive Handle where
  /-- The tunnel is in use. -/
  | held
  /-- The user waits for the end of the tunnel. -/
  | closing
  /-- The end of the tunnel is reported. -/
  | closed
  /-- The tunnel is given up, and nobody waits for its end. -/
  | dropped
deriving DecidableEq, Repr

/-- A request for new limits. -/
structure Update where
  /-- The call that waits for the answer, unless it was given up. -/
  call : Option Nat
  /-- The new limits. -/
  limits : Limits
deriving DecidableEq, Repr

/-- The number of notices that a tunnel keeps in its queue. -/
def noticeCapacity : Nat := 64

/-- A tunnel. -/
structure Tunnel where
  /-- What the tunnel was built from. -/
  plan : TunnelPlan
  /-- The limits that the user sees. -/
  limits : Limits
  /-- The phase that the user sees. -/
  phase : Phase
  /-- What the user does. -/
  handle : Handle := .held
  /-- What the owner does. -/
  owner : Owner
  /-- The address that the newest listener reported when it was made. -/
  address : SocketAddress
  /-- What the acceptor does. -/
  acceptor : Acceptor := .ended
  /-- The arrival that the acceptor has handed over and the owner has not yet taken. -/
  arrival : Option Arrival := none
  /-- The request that is handed over and that the owner has not yet taken. -/
  update : Option Update := none
  /-- The requests that wait to be handed over, oldest first. -/
  requests : List Update := []
  /-- The number of calls for new limits so far. -/
  calls : Nat := 0
  /-- The calls that were answered, oldest first: with an error, or with none when the limits are in
  force. -/
  answers : List (Nat × Option TunnelError) := []
  /-- The number of clients announced so far. -/
  accepted : Nat := 0
  /-- The connections of the tunnel. -/
  relay : Relay

namespace Tunnel

/-- A tunnel with its first listener. -/
def start (plan : TunnelPlan) (now : Nat) (listener : Listener) : Tunnel where
  plan := plan
  limits := plan.limits
  phase := .listening listener.address
  owner := .opening listener.inService
  address := listener.address
  relay := {
    limiter := .ofRate now plan.limits.tunnel
    connectionLimit := plan.limits.connection
    queue := { capacity := noticeCapacity, isOpen := false }
    events := [.listenStarted listener.address] }

/-- The events of the tunnel so far, oldest first. -/
def events (t : Tunnel) : List Event := t.relay.events

/-- The counters of the tunnel. -/
def counters (t : Tunnel) : Counters := t.relay.counters

/-- The address at which clients can connect. -/
def localAddress (t : Tunnel) : Option SocketAddress :=
  match t.phase with
  | .listening address => some address
  | _ => none

/-- The user has asked for the end of the tunnel. -/
def isShut (t : Tunnel) : Bool := t.handle != .held

/-- The slot for arrivals is open. -/
def isReceiving (t : Tunnel) : Bool :=
  match t.owner with
  | .serving | .dialing .. | .ending => true
  | _ => false

/-- The owner, the acceptor and every direction are gone. -/
def isFinished (t : Tunnel) : Bool :=
  t.owner = .stopped && (match t.acceptor with | .ended => true | _ => false) && t.relay.tasks = 0

/-- A listener belongs to the tunnel. -/
def hasListener (t : Tunnel) : Bool :=
  match t.owner, t.acceptor with
  | .opening _, _ => true
  | _, .ended => false
  | _, _ => true

/-- The address that the listener of the tunnel occupies. -/
def occupied (t : Tunnel) : Option SocketAddress :=
  if t.hasListener then some t.address else none

end Tunnel

end Sluice
