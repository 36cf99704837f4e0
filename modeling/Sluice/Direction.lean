/-!
# The two ways through a connection

A connection joins an ingress socket, on which a client connected, to an egress socket, dialled to
the remote. Bytes travel both ways.
-/

namespace Sluice

/-- The way that bytes take through a connection. -/
inductive Direction where
  /-- From the ingress socket to the egress socket. -/
  | upstream
  /-- From the egress socket back to the ingress socket. -/
  | downstream
deriving DecidableEq, Repr

/-- One of the two sockets of a connection. -/
inductive Side where
  /-- The socket on which the client connected. -/
  | ingress
  /-- The socket dialled to the remote. -/
  | egress
deriving DecidableEq, Repr

namespace Direction

/-- The direction in words. -/
def text : Direction → String
  | .upstream => "ingress->egress"
  | .downstream => "egress->ingress"

/-- The side that the direction reads from. -/
def source : Direction → Side
  | .upstream => .ingress
  | .downstream => .egress

/-- The side that the direction writes to. -/
def destination : Direction → Side
  | .upstream => .egress
  | .downstream => .ingress

end Direction

/-- The side in words. -/
def Side.text : Side → String
  | .ingress => "Ingress"
  | .egress => "Egress"

end Sluice
