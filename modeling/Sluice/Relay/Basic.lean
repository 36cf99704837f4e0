import Sluice.Counters
import Sluice.Event
import Sluice.Relay.Connection
import Sluice.Relay.Notices

/-!
# Relays

A relay is the set of connections of one tunnel with what they share: the limiter of the tunnel, the
queue of notices, the counters and the record of events.

What can happen to a relay is an `Action`. Its owner opens and closes connections, changes rates and
takes notices; the directions of the connections work on their own. `Relay.step` is the whole
machine, with no choice of which action comes first.

* `Relay.openConnection`, `Relay.close`, `Relay.setTunnelRate`, `Relay.setConnectionRate`,
  `Relay.setDefaultRate` and `Relay.takeNotice` are the actions of the owner.
* `Relay.work` is one action of one direction.
-/

namespace Sluice

/-- The connections of a tunnel with what they share. -/
structure Relay where
  /-- The limiter that all connections pay. -/
  limiter : Limiter
  /-- The rate of the limiter that the next connection gets. -/
  connectionLimit : UInt64
  /-- The queue to which connections report. -/
  queue : NoticeQueue
  /-- The counters of the tunnel. -/
  counters : Counters := {}
  /-- The events so far, oldest first. -/
  events : List Event := []
  /-- The connections, in the order in which they were opened. -/
  connections : List Connection := []

namespace Relay

/-- What a direction of a connection does on its own. -/
inductive Work where
  /-- Something happens to its forwarder. -/
  | forward (action : Forward.Action)
  /-- The forwarder has finished, and the direction turns to its report. -/
  | conclude
  /-- The report goes into the queue. -/
  | announce
  /-- The connection is closed, so nobody waits for the report. -/
  | withdraw
  /-- The queue is gone, so nobody gets the report. -/
  | abandon

/-- Report an event. -/
def emit (relay : Relay) (event : Event) : Relay :=
  { relay with events := relay.events ++ [event] }

/-- The connection of the given number. -/
def find? (relay : Relay) (id : Nat) : Option Connection :=
  relay.connections.find? (·.id = id)

/-- The state of a direction of the connection of the given number. -/
def worker? (relay : Relay) (id : Nat) (direction : Direction) : Option Worker :=
  (relay.find? id).map (Connection.worker · direction)

/-- Change the connection of the given number. -/
def modify (relay : Relay) (id : Nat) (f : Connection → Connection) : Relay :=
  { relay with connections := relay.connections.map fun c => if c.id = id then f c else c }

/-- Open a connection at the instant `now`. -/
def openConnection (relay : Relay) (now id : Nat) : Relay :=
  { relay with
    counters := relay.counters.started
    events := relay.events ++ [.connectionOpened id relay.connectionLimit]
    connections := relay.connections ++
      [{ id, limiter := .ofRate now relay.connectionLimit, queue := relay.queue.number }] }

/-- Close a connection. Only the first close of a connection has an effect. -/
def close (relay : Relay) (id : Nat) (reason : CloseReason) : Relay :=
  match relay.find? id with
  | none => relay
  | some c =>
    if c.closed then relay
    else
      { relay.modify id ({ · with closed := true }) with
        counters := relay.counters.ended
        events := relay.events ++ [.connectionClosed id reason] }

/-- The numbers of the connections that are not closed. -/
def active (relay : Relay) : List Nat :=
  (relay.connections.filter (!·.closed)).map (·.id)

/-- Close every connection that is not closed. The table of a real relay has no order, and they may be
closed in any; here it is that in which they were opened. -/
def closeAll (relay : Relay) (reason : CloseReason) : Relay :=
  relay.active.foldl (·.close · reason) relay

/-- Change the rate of the limiter that all connections pay. -/
def setTunnelRate (relay : Relay) (now : Nat) (rate : UInt64) : Relay :=
  { relay with limiter := relay.limiter.setRate now rate }

/-- Change the rate of the limiter of one connection. -/
def setConnectionRate (relay : Relay) (now id : Nat) (rate : UInt64) : Relay :=
  relay.modify id fun c => { c with limiter := c.limiter.setRate now rate }

/-- Change the rate that the next connection gets. -/
def setDefaultRate (relay : Relay) (rate : UInt64) : Relay :=
  { relay with connectionLimit := rate }

/-- Take the oldest notice. -/
def takeNotice (relay : Relay) : Option (Notice × Relay) :=
  relay.queue.take.map fun (notice, queue) => (notice, { relay with queue })

/-- Take no more notices. -/
def hangUp (relay : Relay) : Relay :=
  { relay with queue := relay.queue.hangUp }

/-- The queue of the connection is still the one from which the owner takes notices. -/
def isHeard (relay : Relay) (c : Connection) : Bool :=
  relay.queue.isOpen && c.queue = relay.queue.number

/-- One thing that happens to a forwarder, with the limiters of the tunnel and the connection. -/
def workForward (relay : Relay) (now : Nat) (c : Connection) (direction : Direction)
    (forward : Forward) (action : Forward.Action) : Option Relay :=
  match forward.step [relay.limiter, c.limiter] c.closed now action with
  | some ⟨forward, [tunnel, connection], _, carried⟩ =>
    some
      { relay.modify c.id fun c =>
          { c.setWorker direction (.forwarding forward) with limiter := connection } with
        limiter := tunnel
        counters := relay.counters.carried direction (.ofNat carried) }
  | _ => none

/-- The events at the end of a forwarder: closing its destination may have failed, and so may
forwarding, unless it was cancelled. -/
def endEvents (id : Nat) (direction : Direction) (outcome : Outcome)
    (closeFault : Option Net.IoFault) : List Event :=
  let closing := closeFault.map fun fault => Event.closeFailed id direction.destination fault.text
  let forwarding :=
    match outcome with
    | .ok _ => none
    | .error error =>
      if error.isCancelled then none else some (Event.forwardFailed id direction error.message)
  closing.toList ++ forwarding.toList

/-- What a direction does after its forwarder has finished: it reports the end, unless the forwarder
was cancelled or the connection is closed. -/
def afterForward (closed : Bool) (turn : Nat) : Outcome → Worker
  | .ok _ => if closed then .ended else .reporting none turn
  | .error error =>
    if error.isCancelled || closed then .ended else .reporting (some error) turn

/-- One action of a direction, or none if it cannot happen now. -/
def work (relay : Relay) (now id : Nat) (direction : Direction) (action : Work) : Option Relay := do
  let c ← relay.find? id
  let become (relay : Relay) (worker : Worker) : Relay :=
    relay.modify id (·.setWorker direction worker)
  match c.worker direction, action with
  | .forwarding forward, .forward action => relay.workForward now c direction forward action
  | .forwarding forward, .conclude =>
    let (outcome, closeFault) ← forward.outcome?
    let queue := { relay.queue with turns := relay.queue.turns + 1 }
    let events := relay.events ++ endEvents id direction outcome closeFault
    some (become { relay with queue, events } (afterForward c.closed relay.queue.turns outcome))
  | .reporting error _, .announce =>
    if relay.isHeard c then
      let queue ← relay.queue.push ⟨id, error⟩
      some (become { relay with queue } .ended)
    else none
  | .reporting .., .withdraw => if c.closed then some (become relay .ended) else none
  | .reporting .., .abandon => if relay.isHeard c then none else some (become relay .ended)
  | _, _ => none

/-- What can happen to a relay. -/
inductive Action where
  /-- The owner opens a connection. -/
  | openConnection (id : Nat)
  /-- The owner closes a connection. -/
  | close (id : Nat) (reason : CloseReason)
  /-- The owner gives a connection out of hand, which closes it. -/
  | drop (id : Nat)
  /-- The owner changes the rate of all connections together. -/
  | setTunnelRate (rate : UInt64)
  /-- The owner changes the rate of one connection. -/
  | setConnectionRate (id : Nat) (rate : UInt64)
  /-- The owner changes the rate that the next connection gets. -/
  | setDefaultRate (rate : UInt64)
  /-- The owner takes the oldest notice. -/
  | takeNotice
  /-- The owner takes no more notices. -/
  | hangUp
  /-- A direction of a connection works. -/
  | work (id : Nat) (direction : Direction) (work : Work)

/-- The relay after an action, or none if the action cannot happen now. -/
def step (relay : Relay) (now : Nat) : Action → Option Relay
  | .openConnection id =>
    if (relay.find? id).isSome then none else some (relay.openConnection now id)
  | .close id reason => some (relay.close id reason)
  | .drop id => some (relay.close id .shutdown)
  | .setTunnelRate rate => some (relay.setTunnelRate now rate)
  | .setConnectionRate id rate => some (relay.setConnectionRate now id rate)
  | .setDefaultRate rate => some (relay.setDefaultRate rate)
  | .takeNotice => relay.takeNotice.map (·.2)
  | .hangUp => some relay.hangUp
  | .work id direction work => relay.work now id direction work

/-- The number of directions that have something left to do. -/
def tasks (relay : Relay) : Nat :=
  relay.connections.foldr (fun c n => c.tasks + n) 0

end Relay

end Sluice
