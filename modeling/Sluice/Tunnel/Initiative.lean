import Sluice.Relay.Initiative
import Sluice.Tunnel.Step

/-!
# What a tunnel does by itself

Some actions of a tunnel answer to the outside: clients arrive, the remote answers, an attempt to
listen ends, bytes come and go, the user asks for something. All others the tunnel does by itself as
soon as they are possible.

* `Tunnel.initiative?` is one action that the tunnel can do by itself now.
* `Tunnel.due` is the next instant at which the tunnel has something to do.
-/

namespace Sluice.Tunnel

/-- What a direction of a connection does by itself. A direction that has to close its destination
does so without a fault. -/
def laneInitiative? (t : Tunnel) (now : Nat) (c : Connection) (direction : Direction) :
    Option Action :=
  match t.relay.initiative? now c direction, c.worker direction with
  | some work, _ => some (.work c.id direction work)
  | none, .forwarding forward =>
    match forward.stage with
    | .closing _ => some (.work c.id direction (.forward (.shut none)))
    | _ => none
  | none, _ => none

/-- What the directions of the connections do by themselves. -/
def relayInitiative? (t : Tunnel) (now : Nat) : Option Action :=
  t.relay.connections.findSome? fun c =>
    t.laneInitiative? now c .upstream <|> t.laneInitiative? now c .downstream

/-- What the acceptor does by itself. -/
def acceptorInitiative? (t : Tunnel) : Option Action :=
  match t.acceptor with
  | .accepting => if t.isShut || !t.isReceiving then some .retire else none
  | .handing _ =>
    if t.isShut || !t.isReceiving then some .retire
    else if t.arrival.isNone then some .handArrival
    else none
  | .ended => none

/-- What the owner does by itself. The end that the user asked for comes first, then arrivals, then
notices, then new limits, then the time. -/
def ownerInitiative? (t : Tunnel) (now : Nat) : Option Action :=
  match t.owner with
  | .opening _ => some .openFirst
  | .serving =>
    if t.isShut then some .heed
    else if t.arrival.isSome then some .takeArrival
    else if !t.relay.queue.notices.isEmpty then some .takeNotice
    else if t.update.isSome then some .takeUpdate
    else none
  | .dialing _ deadline =>
    if t.isShut then some .abandonDial else if deadline ≤ now then some .timeOutDial else none
  | .retrying deadline =>
    if t.isShut then some .heed
    else if t.update.isSome then some .takeUpdate
    else if deadline ≤ now then some .wake
    else none
  | .binding => none
  | .ending => some .stop
  | .stopped => none

/-- What the user gets without asking again: requests are handed over, and the end is reported. -/
def userInitiative? (t : Tunnel) : Option Action :=
  if t.update.isNone && !t.requests.isEmpty then some .handUpdate
  else if t.handle = .closing && t.isFinished then some .finish
  else none

/-- One action that the tunnel can do by itself now. -/
def initiative? (t : Tunnel) (now : Nat) : Option Action :=
  t.ownerInitiative? now <|> t.acceptorInitiative? <|> t.userInitiative? <|> t.relayInitiative? now

/-- The instant for which the owner waits. -/
def deadline? (t : Tunnel) : Option Nat :=
  match t.owner with
  | .dialing _ deadline | .retrying deadline => some deadline
  | _ => none

/-- The next instant at which the tunnel has something to do if nothing else happens. -/
def due (t : Tunnel) : Option Nat :=
  (t.deadline?.toList ++ t.relay.due.toList).min?

end Sluice.Tunnel
