import Sluice.Tunnel.Step

/-!
# What a tunnel needs from outside

A tunnel works with sockets that somebody else holds for it: a listener, the sockets of clients that
are not yet announced, and two sockets for each connection.

* `Tunnel.demands` says what the tunnel waits for at its sockets.
* `Tunnel.unannounced` and `Tunnel.usesSockets` say which sockets it still needs.
* `Tunnel.forget` drops what is over from a tunnel that runs for a long time.
-/

namespace Sluice

/-- Something for which a tunnel waits at its sockets. -/
inductive Demand where
  /-- A client connects. -/
  | client
  /-- The remote answers for the client of the given number. -/
  | remote (id : Nat)
  /-- A direction of a connection gets bytes from its source. -/
  | source (id : Nat) (direction : Direction)
  /-- The destination of a direction of a connection takes bytes. -/
  | destination (id : Nat) (direction : Direction)
deriving DecidableEq, Repr

/-- What a direction of a connection waits for. -/
def Connection.demand? (c : Connection) (direction : Direction) : Option Demand :=
  match c.worker direction with
  | .forwarding forward =>
    match forward.stage with
    | .reading => some (.source c.id direction)
    | .writing .. => some (.destination c.id direction)
    | _ => none
  | _ => none

/-- Drop the events so far and the connections of which nothing is left. -/
def Relay.forget (relay : Relay) : Relay :=
  { relay with
    events := []
    connections := relay.connections.filter fun c => !c.closed || 0 < c.tasks }

namespace Tunnel

/-- What the tunnel waits for at its sockets. -/
def demands (t : Tunnel) : List Demand :=
  let client := match t.acceptor with | .accepting => [Demand.client] | _ => []
  let remote := match t.owner with | .dialing id _ => [Demand.remote id] | _ => []
  client ++ remote ++ t.relay.connections.flatMap fun c =>
    [c.demand? .upstream, c.demand? .downstream].filterMap id

/-- How many clients have connected and are not announced. -/
def unannounced (t : Tunnel) : Nat :=
  let handed := match t.arrival with | some (.ok _) => 1 | _ => 0
  let inHand := match t.acceptor with | .handing (.ok _) => 1 | _ => 0
  handed + inHand

/-- The sockets for the client of the given number are in use. -/
def usesSockets (t : Tunnel) (id : Nat) : Bool :=
  match t.owner, t.relay.find? id with
  | .dialing dialed _, c => dialed = id || c.any (·.holdsSockets)
  | _, c => c.any (·.holdsSockets)

/-- The bytes that a direction of a connection has to write. -/
def unwritten (t : Tunnel) (id : Nat) (direction : Direction) : List UInt8 :=
  match t.relay.worker? id direction with
  | some (.forwarding forward) =>
    match forward.stage with
    | .writing _ rest => rest
    | _ => []
  | _ => []

/-- Drop what is over. -/
def forget (t : Tunnel) : Tunnel :=
  { t with relay := t.relay.forget }

end Tunnel

end Sluice
