/-!
# Bandwidth limits

The two numbers that bound the traffic of a tunnel, in bytes per second: one for the whole tunnel
and one for each of its connections.
-/

namespace Sluice

/-- The highest rate in bytes per second that a limiter tells apart from a higher one. -/
def maxRate : UInt64 := 1000000000

/-- The limits of a tunnel. -/
structure Limits where
  /-- The whole tunnel carries at most this many bytes per second. -/
  tunnel : UInt64
  /-- Each connection carries at most this many bytes per second. -/
  connection : UInt64
deriving DecidableEq, Repr, Inhabited

namespace Limits

/-- The highest rate for the tunnel and for each connection. -/
def unlimited : Limits := ⟨maxRate, maxRate⟩

/-- The limits in words. -/
def text (limits : Limits) : String :=
  s!"tunnel {limits.tunnel.toNat} B/s, connection {limits.connection.toNat} B/s"

end Limits

end Sluice
