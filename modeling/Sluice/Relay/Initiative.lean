import Sluice.Relay.Basic

/-!
# What the directions of a relay do by themselves

A direction needs its sockets for reading, writing and closing. All the rest it does without them: it
pays for its chunk, notices that its connection is closed, and reports its end.

* `Relay.initiative?` is what a direction does next without its sockets.
* `Relay.due` is the next instant at which a limiter lets a direction go on.
-/

namespace Sluice.Relay

/-- No other direction that still has to report began to wait before. -/
def isNextReport (relay : Relay) (turn : Nat) : Bool :=
  relay.connections.all fun c =>
    [c.upstream, c.downstream].all fun
      | .reporting _ other => c.closed || turn ≤ other
      | _ => true

/-- What a direction does next without its sockets. A direction of a closed connection notices that
before anything else, and reports go into the queue in the order in which they began to wait. -/
def initiative? (relay : Relay) (now : Nat) (c : Connection) (direction : Direction) :
    Option Work :=
  match c.worker direction with
  | .forwarding forward =>
    match forward.stage with
    | .reading | .writing .. => if c.closed then some (.forward .heed) else none
    | .paying .. =>
      if forward.isAboutToPay [relay.limiter, c.limiter] c.closed now then some (.forward .pay)
      else none
    | .closing _ => none
    | .finished .. => some .conclude
  | .reporting _ turn =>
    if c.closed then some .withdraw
    else if !relay.isHeard c then some .abandon
    else if relay.queue.hasRoom && relay.isNextReport turn then some .announce
    else none
  | .ended => none

/-- The next instant at which a direction that pays has something to do if nothing else happens. -/
def due (relay : Relay) : Option Nat :=
  (relay.connections.flatMap fun c =>
    [c.upstream, c.downstream].filterMap fun
      | .forwarding forward => forward.due
      | _ => none).min?

end Sluice.Relay
