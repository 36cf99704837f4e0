import Sluice.Direction

/-!
# Counters of a tunnel

How many connections a tunnel has carried, how many are open, and how many bytes went each way. The
counters are 64-bit words and wrap around.
-/

namespace Sluice

/-- The counters of a tunnel. -/
structure Counters where
  /-- The connections opened so far. -/
  total : UInt64 := 0
  /-- The connections open now. -/
  active : UInt64 := 0
  /-- The bytes carried upstream. -/
  upstream : UInt64 := 0
  /-- The bytes carried downstream. -/
  downstream : UInt64 := 0
deriving DecidableEq, Repr, Inhabited

namespace Counters

/-- A connection was opened. -/
def started (c : Counters) : Counters :=
  { c with total := c.total + 1, active := c.active + 1 }

/-- A connection was closed. -/
def ended (c : Counters) : Counters :=
  { c with active := c.active - 1 }

/-- `n` more bytes went in the given direction. -/
def carried (c : Counters) (direction : Direction) (n : UInt64) : Counters :=
  match direction with
  | .upstream => { c with upstream := c.upstream + n }
  | .downstream => { c with downstream := c.downstream + n }

/-- The bytes carried in the given direction. -/
def bytes (c : Counters) : Direction → UInt64
  | .upstream => c.upstream
  | .downstream => c.downstream

/-- Carrying bytes adds to the counter of their direction. -/
theorem bytes_carried_self (c : Counters) (d : Direction) (n : UInt64) :
    (c.carried d n).bytes d = c.bytes d + n := by
  cases d <;> rfl

/-- Carrying bytes leaves the counter of the other direction alone. -/
theorem bytes_carried_of_ne (c : Counters) {d e : Direction} (n : UInt64) (h : e ≠ d) :
    (c.carried d n).bytes e = c.bytes e := by
  cases d <;> cases e <;> first | rfl | exact absurd rfl h

/-- Carrying bytes opens no connection. -/
theorem total_carried (c : Counters) (d : Direction) (n : UInt64) :
    (c.carried d n).total = c.total := by
  cases d <;> rfl

/-- Carrying bytes opens and closes no connection. -/
theorem active_carried (c : Counters) (d : Direction) (n : UInt64) :
    (c.carried d n).active = c.active := by
  cases d <;> rfl

/-- Carrying nothing counts nothing. -/
theorem carried_zero (c : Counters) (d : Direction) : c.carried d 0 = c := by
  cases d <;> simp [carried]

/-- Carrying twice in one direction is carrying the sum. -/
theorem carried_carried (c : Counters) (d : Direction) (m n : UInt64) :
    (c.carried d m).carried d n = c.carried d (m + n) := by
  cases d <;> simp [carried, UInt64.add_assoc]

end Counters

/-- A snapshot of the counters of a tunnel, with what identifies the tunnel. -/
structure TunnelStats where
  /-- The name of the tunnel. -/
  name : String
  /-- The address at which the tunnel listens. -/
  listenAt : String
  /-- The address of the remote. -/
  connectTo : String
  /-- The connections opened so far. -/
  totalConnections : UInt64
  /-- The connections open now. -/
  activeConnections : UInt64
  /-- The bytes carried upstream. -/
  bytesUpstream : UInt64
  /-- The bytes carried downstream. -/
  bytesDownstream : UInt64
  /-- When the tunnel was made, in seconds of the calendar. -/
  startTime : UInt64
deriving DecidableEq, Repr

end Sluice
