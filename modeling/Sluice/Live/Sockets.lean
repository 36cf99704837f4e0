import Std.Async.TCP
import Sluice.Limiter.Basic
import Sluice.Net.Endpoint
import Sluice.Tunnel.Outside

/-!
# Sockets of the operating system

The sockets that a running tunnel uses, and the translation of addresses and faults between the
operating system and the library.

* `Sockets` holds the sockets of one tunnel.
* `listenAt` and `dial` make sockets.
-/

namespace Sluice.Live

open Net (IpAddress SocketAddress IoFault)
open Std.Async (Async)
open Std.Async.TCP.Socket (Server Client)

/-- The form in which the operating system takes an address. -/
def toSystem (a : SocketAddress) : Std.Net.SocketAddress :=
  match a.ip with
  | .v4 x y z w => .v4 ⟨.ofParts x y z w, a.port⟩
  | .v6 groups => .v6 ⟨⟨groups⟩, a.port⟩

/-- The address that the operating system reports. -/
def ofSystem : Std.Net.SocketAddress → SocketAddress
  | .v4 a => ⟨.v4 a.addr.octets[0] a.addr.octets[1] a.addr.octets[2] a.addr.octets[3], a.port, 0⟩
  | .v6 a => ⟨.v6 a.addr.segments, a.port, 0⟩

/-- The fault that the operating system reports. -/
def faultOf : IO.Error → IoFault
  | .alreadyExists _ code _ | .otherError code _ | .resourceBusy code _ | .resourceVanished code _
  | .unsupportedOperation code _ | .hardwareFault code _ | .unsatisfiedConstraints code _
  | .illegalOperation code _ | .protocolError code _ | .timeExpired code _ | .interrupted _ code _
  | .noFileOrDirectory _ code _ | .invalidArgument _ code _ | .permissionDenied _ code _
  | .resourceExhausted _ code _ | .inappropriateType _ code _ | .noSuchThing _ code _ =>
    .system code.toInt32.toInt.natAbs
  | .unexpectedEof => .plain .unexpectedEof
  | .userError words => .described .other words

/-- The outcome of an attempt in the words of the library. -/
def attempt {α : Type} (action : IO α) : IO (Except IoFault α) := do
  match ← action.toBaseIO with
  | .ok value => return .ok value
  | .error error => return .error (faultOf error)

/-- The most clients that wait until they are accepted. -/
def backlog : UInt32 := 1024

/-- Listen at the endpoint that a text names. -/
def listenAt (text : String) : IO (Except IoFault (Server × Listener)) := do
  match Net.resolve text with
  | .error fault => return .error fault
  | .ok address =>
    attempt do
      let server ← Server.mk
      server.bind (toSystem address)
      server.listen backlog
      return (server, .stable (ofSystem (← server.getSockName)))

/-- Dial the endpoint that a text names. -/
def dial (text : String) : Async (Except IoFault Client) := do
  match Net.resolve text with
  | .error fault => return .error fault
  | .ok address =>
    try
      let client ← Client.mk
      client.connect (toSystem address)
      return .ok client
    catch error => return .error (faultOf error)

/-- The sockets of a connection. -/
structure Pair where
  /-- The number of the connection. -/
  id : Nat
  /-- The socket on which the client connected. -/
  ingress : Client
  /-- The socket dialled to the remote, once the remote has answered. -/
  egress : Option Client := none

/-- The socket of a side. -/
def Pair.socket? (pair : Pair) : Side → Option Client
  | .ingress => some pair.ingress
  | .egress => pair.egress

/-- The sockets of a tunnel. -/
structure Sockets where
  /-- The listener. -/
  listener : Option Server := none
  /-- The clients that are not announced, oldest first. -/
  unannounced : List Client := []
  /-- The connections. -/
  pairs : List Pair := []

namespace Sockets

/-- The sockets of the connection of the given number. -/
def pair? (sockets : Sockets) (id : Nat) : Option Pair :=
  sockets.pairs.find? (·.id = id)

/-- Announce the oldest client under a number. -/
def announce (sockets : Sockets) (id : Nat) : Sockets :=
  match sockets.unannounced with
  | [] => sockets
  | client :: rest =>
    { sockets with unannounced := rest, pairs := sockets.pairs ++ [{ id, ingress := client }] }

/-- Add the socket dialled for a client. -/
def join (sockets : Sockets) (id : Nat) (egress : Client) : Sockets :=
  { sockets with
    pairs := sockets.pairs.map fun pair =>
      if pair.id = id then { pair with egress := some egress } else pair }

/-- Keep the sockets that a tunnel still uses. -/
def keepFor (sockets : Sockets) (tunnel : Tunnel) : Sockets where
  listener := if tunnel.hasListener then sockets.listener else none
  unannounced := sockets.unannounced.drop (sockets.unannounced.length - tunnel.unannounced)
  pairs := sockets.pairs.filter fun pair => tunnel.usesSockets pair.id

end Sockets

end Sluice.Live
