import Sluice.Direction
import Sluice.Forward

/-!
# Connections

A connection joins two sockets by two forwarders, one for each direction, which both pay at the
limiter of the connection. A direction whose forwarder has ended reports the end to the owner of the
connection, unless the connection was closed meanwhile.

* `Worker` is the state of one direction.
* `Connection` is both directions with what they share.
-/

namespace Sluice

/-- The state of one direction of a connection. -/
inductive Worker where
  /-- Bytes are forwarded. -/
  | forwarding (forward : Forward)
  /-- The end is to be reported as soon as the queue has room; `turn` counts the directions that
  began to wait before. -/
  | reporting (error : Option TunnelError) (turn : Nat)
  /-- Nothing is left to do. -/
  | ended

namespace Worker

/-- The direction has something left to do. -/
def isAlive : Worker → Bool
  | .ended => false
  | _ => true

/-- The forwarder of the direction holds its half of each socket. -/
def holdsSockets : Worker → Bool
  | .forwarding forward => forward.outcome?.isNone
  | _ => false

end Worker

/-- A connection. -/
structure Connection where
  /-- The number of the connection. -/
  id : Nat
  /-- The limiter that both directions pay. -/
  limiter : Limiter
  /-- The queue to which both directions report. -/
  queue : Nat
  /-- The connection was closed, which cancels both directions. -/
  closed : Bool := false
  /-- The direction from the ingress socket to the egress socket. -/
  upstream : Worker := .forwarding {}
  /-- The direction from the egress socket to the ingress socket. -/
  downstream : Worker := .forwarding {}

namespace Connection

/-- The state of a direction. -/
def worker (c : Connection) : Direction → Worker
  | .upstream => c.upstream
  | .downstream => c.downstream

/-- The connection with another state of a direction. -/
def setWorker (c : Connection) (direction : Direction) (worker : Worker) : Connection :=
  match direction with
  | .upstream => { c with upstream := worker }
  | .downstream => { c with downstream := worker }

/-- The number of directions that have something left to do. -/
def tasks (c : Connection) : Nat :=
  c.upstream.isAlive.toNat + c.downstream.isAlive.toNat

/-- The sockets of the connection are in use. -/
def holdsSockets (c : Connection) : Bool :=
  c.upstream.holdsSockets || c.downstream.holdsSockets

/-- A direction has the state that it was given. -/
@[simp] theorem worker_setWorker_self (c : Connection) (d : Direction) (w : Worker) :
    (c.setWorker d w).worker d = w := by
  cases d <;> rfl

/-- The other direction keeps its state. -/
theorem worker_setWorker_of_ne (c : Connection) {d e : Direction} (w : Worker) (h : e ≠ d) :
    (c.setWorker d w).worker e = c.worker e := by
  cases d <;> cases e <;> simp_all [setWorker, worker]

end Connection

end Sluice
