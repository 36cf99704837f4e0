import Sluice.Net.Endpoint

/-!
# The ports of a host

A host without a network knows the loopback addresses only. A socket can be bound to one of them
unless another socket occupies the same port there. A socket that asks for port 0 gets a port that
nobody uses.

* `Loopback.bind` binds a socket to the endpoint that a text names.
-/

namespace Sluice.Simulation

open Net (IpAddress SocketAddress IoFault)

/-- The address stands for all addresses of the host. -/
def isUnspecified : IpAddress → Bool
  | .v4 a b c d => a = 0 && b = 0 && c = 0 && d = 0
  | .v6 groups => groups.toList.all (· = 0)

/-- The address belongs to the host. -/
def isLocal : IpAddress → Bool
  | .v4 a b c d => a = 127 || isUnspecified (.v4 a b c d)
  | .v6 groups => groups.toList.dropLast.all (· = 0) && groups.toList.getLast?.any (· ≤ 1)

/-- Two sockets at these addresses get in each other's way. -/
def conflict (a b : SocketAddress) : Bool :=
  a.port = b.port && (a.ip = b.ip || isUnspecified a.ip || isUnspecified b.ip)

/-- The ports of a host. -/
structure Loopback where
  /-- The addresses that other programs occupy. -/
  taken : List SocketAddress := []
  /-- The addresses with ports that the host picked, newest first. -/
  picked : List SocketAddress := []
deriving Repr

namespace Loopback

/-- The first port that the host picks. -/
def firstPort : Nat := 61000

/-- Bind a socket to the endpoint that a text names, while the addresses `occupied` are in use. -/
def bind (ports : Loopback) (occupied : List SocketAddress) (text : String) :
    Except IoFault SocketAddress × Loopback :=
  match Net.resolve text with
  | .error fault => (.error fault, ports)
  | .ok address =>
    if !isLocal address.ip then (.error .addressUnavailable, ports)
    else if address.port = 0 then
      let address := { address with port := .ofNat (firstPort + ports.picked.length) }
      (.ok address, { ports with picked := address :: ports.picked })
    else if (ports.taken ++ occupied).any (conflict address) then (.error .addressInUse, ports)
    else (.ok address, ports)

end Loopback

end Sluice.Simulation
