import Sluice.Relay.Initiative
import Sluice.Simulation.Pipe
import Sluice.Simulation.Timeline

/-!
# A relay between sockets in memory

A rig is a relay whose connections have sockets in memory, on a virtual clock. One direction works at
a time and goes on until it has to wait; then it is the turn of the direction that has waited
longest. When a far end is given up, the direction that reads from it comes before the one that
writes to it. Directions that wait for the queue of notices get in by their turns.

* `Rig.stepAt?` is the next thing that a direction does without time passing.
* `Rig.settle` lets every direction go on until all of them wait.
* The other operations are what the owner of the relay and the users at the far ends do.
-/

namespace Sluice.Simulation

/-- A connection with its sockets. -/
structure Station where
  /-- The number of the connection. -/
  id : Nat
  /-- The socket on which the client connected. -/
  ingress : Port
  /-- The socket dialled to the remote. -/
  egress : Port
  /-- The owner still has the connection at hand. -/
  held : Bool := true

namespace Station

/-- The socket of a side. -/
def port (station : Station) : Side → Port
  | .ingress => station.ingress
  | .egress => station.egress

/-- The station with another socket on a side. -/
def setPort (station : Station) (side : Side) (port : Port) : Station :=
  match side with
  | .ingress => { station with ingress := port }
  | .egress => { station with egress := port }

end Station

/-- A direction of a connection. -/
structure Lane where
  /-- The number of the connection. -/
  id : Nat
  /-- The direction. -/
  direction : Direction
deriving DecidableEq, Repr

/-- Both directions of a connection, the given one first. -/
def lanes (id : Nat) : Direction → List Lane
  | .upstream => [⟨id, .upstream⟩, ⟨id, .downstream⟩]
  | .downstream => [⟨id, .downstream⟩, ⟨id, .upstream⟩]

/-- A relay with the sockets of its connections. -/
structure Rig where
  /-- The instant at which the rig stands. -/
  now : Nat := 0
  /-- The relay. -/
  relay : Relay
  /-- The connections with their sockets. -/
  stations : List Station := []
  /-- The directions in the order in which they began to wait. -/
  order : List Lane := []

namespace Rig

/-- The station of the given number. -/
def find? (rig : Rig) (id : Nat) : Option Station :=
  rig.stations.find? (·.id = id)

/-- Change the station of the given number. -/
def modify (rig : Rig) (id : Nat) (f : Station → Station) : Rig :=
  { rig with stations := rig.stations.map fun s => if s.id = id then f s else s }

/-- What a direction does next, and the station after its sockets were used for it. -/
def next? (rig : Rig) (c : Connection) (station : Station) (direction : Direction) :
    Option (Relay.Work × Station) :=
  match rig.relay.initiative? rig.now c direction with
  | some work => some (work, station)
  | none =>
    let source := station.port direction.source
    let destination := station.port direction.destination
    match c.worker direction with
    | .forwarding forward =>
      match forward.stage with
      | .reading =>
        match source.read rig.now chunkSize with
        | (.ready bytes, port) =>
          some (.forward (.received bytes), station.setPort direction.source port)
        | (.failed fault, port) =>
          some (.forward (.readFailed fault), station.setPort direction.source port)
        | (.pending, _) => none
      | .writing _ rest =>
        match destination.write rig.now rest with
        | (.ready count, port) =>
          some (.forward (.took count), station.setPort direction.destination port)
        | (.failed fault, port) =>
          some (.forward (.writeFailed fault), station.setPort direction.destination port)
        | (.pending, _) => none
      | .closing _ =>
        let (fault, port) := destination.shut rig.now
        some (.forward (.shut fault), station.setPort direction.destination port)
      | _ => none
    | _ => none

/-- Give the sockets of a connection up once neither direction uses them. -/
def release (rig : Rig) (id : Nat) : Rig :=
  match rig.relay.find? id with
  | none => rig
  | some c =>
    if c.holdsSockets then rig
    else
      rig.modify id fun s => { s with ingress := s.ingress.release, egress := s.egress.release }

/-- The next thing that a direction does. -/
def stepAt? (rig : Rig) (lane : Lane) : Option Rig := do
  let c ← rig.relay.find? lane.id
  let station ← rig.find? lane.id
  let (work, station) ← rig.next? c station lane.direction
  let relay ← rig.relay.work rig.now lane.id lane.direction work
  return ({ rig with relay }.modify lane.id fun _ => station).release lane.id

/-- What a direction waits for while it is in the same write, or none if it is not writing. -/
def currentWrite (rig : Rig) (lane : Lane) : Option Nat :=
  match rig.relay.worker? lane.id lane.direction with
  | some (.forwarding forward) =>
    match forward.stage with
    | .writing .. => some forward.total
    | _ => none
  | _ => none

/-- Let a direction do at most `fuel` things. -/
def runWithin (lane : Lane) : Nat → Rig → Rig
  | 0, rig => rig
  | fuel + 1, rig =>
    match rig.stepAt? lane with
    | some next => runWithin lane fuel next
    | none => rig

/-- Let a direction go on until it waits. It then waits as the last one, unless it is still in the
write in which it waited before. -/
def run (rig : Rig) (fuel : Nat) (lane : Lane) : Rig :=
  let next := rig.runWithin lane fuel
  let sameWrite := (rig.currentWrite lane).isSome && rig.currentWrite lane = next.currentWrite lane
  if sameWrite then next else { next with order := next.order.filter (· ≠ lane) ++ [lane] }

/-- A direction that waits for a socket lets the script of the socket begin its pause. -/
def awaitAt (now : Nat) (station : Station) (direction : Direction) : Worker → Station
  | .forwarding forward =>
    match forward.stage with
    | .reading =>
      let (_, port) := (station.port direction.source).read now chunkSize
      station.setPort direction.source port
    | .writing _ rest =>
      let (_, port) := (station.port direction.destination).write now rest
      station.setPort direction.destination port
    | _ => station
  | _ => station

/-- Every direction waits. -/
def await (rig : Rig) : Rig :=
  { rig with
    stations := rig.stations.map fun s =>
      match rig.relay.find? s.id with
      | none => s
      | some c => awaitAt rig.now (awaitAt rig.now s .upstream c.upstream) .downstream c.downstream }

/-- At most `rounds` directions go on, each for at most `fuel` things, and then all of them wait.
The directions `first` come before the others. -/
def settleWithin (first : List Lane) (fuel : Nat) : Nat → Rig → Rig
  | 0, rig => rig
  | rounds + 1, rig =>
    match (first ++ rig.order).find? fun lane => (rig.stepAt? lane).isSome with
    | some lane => settleWithin first fuel rounds (rig.run fuel lane)
    | none => rig.await

/-- A bound on the number of things that can happen without time passing: each byte is read, paid
for at two limiters and written, each limiter refuses at most once, and a direction ends in four
steps. -/
def bound (rig : Rig) : Nat :=
  let held : Worker → Nat
    | .forwarding forward => forward.held
    | _ => 0
  let waiting := rig.stations.foldr (fun s n => s.ingress.size + s.egress.size + n) 0
  let bytes :=
    rig.relay.connections.foldr (fun c n => held c.upstream + held c.downstream + n) waiting
  (bytes + 2 * rig.stations.length + 1) * 12

/-- Let every direction go on until all of them wait, the directions `first` before the others. -/
def settleFrom (rig : Rig) (first : List Lane) : Rig :=
  rig.settleWithin first rig.bound rig.bound

/-- Let every direction go on until all of them wait. -/
def settle (rig : Rig) : Rig :=
  rig.settleFrom []

/-- The instant at which a timer of a direction fires. -/
def dueAt (station : Station) (direction : Direction) : Worker → Option Nat
  | .forwarding forward =>
    match forward.stage with
    | .reading => (station.port direction.source).readDue
    | .writing .. => (station.port direction.destination).writeDue
    | _ => forward.due
  | _ => none

/-- The earliest timer. -/
def due (rig : Rig) : Option Nat :=
  (rig.relay.connections.flatMap fun c =>
    match rig.find? c.id with
    | none => []
    | some station =>
      [dueAt station .upstream c.upstream, dueAt station .downstream c.downstream].filterMap
        id).min?

/-- How time works on a rig. -/
def timeline : Timeline Rig where
  now := Rig.now
  setNow rig now := { rig with now }
  due := Rig.due
  settle := Rig.settle

/-! ## What the owner does -/

/-- Open a connection between two sockets. -/
def openConnection (rig : Rig) (id : Nat) (ingress egress : Port) : Rig :=
  let station : Station := { id, ingress, egress }
  { rig with
    relay := rig.relay.openConnection rig.now id
    stations := rig.stations ++ [station]
    order := rig.order ++ lanes id .upstream }.settle

/-- Close a connection that the owner has at hand. -/
def close (rig : Rig) (id : Nat) (reason : CloseReason) : Rig :=
  if (rig.find? id).any (·.held) then { rig with relay := rig.relay.close id reason }.settle
  else rig

/-- Give a connection out of hand, which closes it. -/
def drop (rig : Rig) (id : Nat) : Rig :=
  (rig.close id .shutdown).modify id ({ · with held := false })

/-- Change the rate of a connection that the owner has at hand. -/
def setRate (rig : Rig) (id : Nat) (rate : UInt64) : Option Rig :=
  if (rig.find? id).any (·.held) then
    some { rig with relay := rig.relay.setConnectionRate rig.now id rate }.settle
  else none

/-- Change the rate of all connections together. -/
def setTunnelRate (rig : Rig) (rate : UInt64) : Rig :=
  { rig with relay := rig.relay.setTunnelRate rig.now rate }.settle

/-- Change the rate that the next connection gets. -/
def setDefaultRate (rig : Rig) (rate : UInt64) : Rig :=
  { rig with relay := rig.relay.setDefaultRate rate }

/-- Take all notices. -/
def takeNotices (rig : Rig) : List Notice × Rig :=
  (rig.relay.queue.notices,
    { rig with relay.queue.notices := [] }.settle)

/-- Take no more notices. -/
def hangUp (rig : Rig) : Rig :=
  { rig with relay := rig.relay.hangUp }.settle

/-- Let time pass. -/
def advance (rig : Rig) (delay : Duration) : Rig :=
  timeline.advance (rig.now + delay.nanos) rig

/-! ## What the users at the far ends do -/

/-- Use the socket of a side at its far end. -/
def atFarEnd {α : Type} (rig : Rig) (id : Nat) (side : Side) (use : Port → α × Port) :
    Option (α × Rig) :=
  (rig.find? id).map fun station =>
    let (result, port) := use (station.port side)
    (result, (rig.modify id (·.setPort side port)).settle)

/-- Give the far end of a side up. -/
def dropFarEnd (rig : Rig) (id : Nat) (side : Side) : Rig :=
  let reader :=
    match side with
    | .ingress => .upstream
    | .egress => .downstream
  (rig.modify id fun s => s.setPort side (FarEnd.drop (s.port side))).settleFrom (lanes id reader)

end Rig

end Sluice.Simulation
