import Sluice.Direction
import Sluice.Duration
import Sluice.Limits
import Sluice.Log
import Sluice.Net.Address

/-!
# Events of a tunnel

Every change in the life of a tunnel is reported as an event. An event can be written to the log,
and a journal keeps the events of several tunnels in the order in which they were reported.
-/

namespace Sluice

open Net (SocketAddress)

/-- Why a connection was closed. -/
inductive CloseReason where
  /-- One direction reached the end of its source. -/
  | completed
  /-- One direction failed with the given message. -/
  | failed (message : String)
  /-- The listener of the connection stopped working. -/
  | listenerLost
  /-- The tunnel is shutting down. -/
  | shutdown
deriving DecidableEq, Repr

/-- The reason in words. -/
def CloseReason.text : CloseReason → String
  | .completed => "completed"
  | .failed message => s!"failed: {message}"
  | .listenerLost => "listener lost"
  | .shutdown => "shutdown"

/-- Something that happened to a tunnel. -/
inductive Event where
  /-- The tunnel listens at the address. -/
  | listenStarted (address : SocketAddress)
  /-- The tunnel could not listen. -/
  | listenFailed (error : String)
  /-- The next attempt to listen follows after the delay. -/
  | listenRetryScheduled (delay : Duration)
  /-- The listener stopped working. -/
  | acceptFailed (error : String)
  /-- A client connected. -/
  | connectionAccepted (id : Nat) (peer : SocketAddress)
  /-- The remote could not be reached for the connection. -/
  | dialFailed (id : Nat) (remote : String) (error : String)
  /-- The connection forwards in both directions. -/
  | connectionOpened (id : Nat) (connectionLimit : UInt64)
  /-- One direction of the connection failed. -/
  | forwardFailed (id : Nat) (direction : Direction) (error : String)
  /-- The connection was closed. -/
  | connectionClosed (id : Nat) (reason : CloseReason)
  /-- One socket of the connection could not be closed in good order. -/
  | closeFailed (id : Nat) (side : Side) (error : String)
  /-- New limits are in force. -/
  | limitsUpdated (limits : Limits) (activeConnections : Nat)
  /-- The tunnel began to shut down. -/
  | shutdownStarted
  /-- Nothing of the tunnel is left. -/
  | stopped
deriving DecidableEq, Repr

namespace Event

/-- The name of the kind of event. -/
def name : Event → String
  | .listenStarted .. => "ListenStarted"
  | .listenFailed .. => "ListenFailed"
  | .listenRetryScheduled .. => "ListenRetryScheduled"
  | .acceptFailed .. => "AcceptFailed"
  | .connectionAccepted .. => "ConnectionAccepted"
  | .dialFailed .. => "DialFailed"
  | .connectionOpened .. => "ConnectionOpened"
  | .forwardFailed .. => "ForwardFailed"
  | .connectionClosed .. => "ConnectionClosed"
  | .closeFailed .. => "CloseFailed"
  | .limitsUpdated .. => "LimitsUpdated"
  | .shutdownStarted => "ShutdownStarted"
  | .stopped => "Stopped"

/-- The log line for an event of the named tunnel. -/
def logLine (tunnel : String) : Event → LogLine
  | .listenStarted address => ⟨.info, s!"Tunnel '{tunnel}' listening on {address.text}"⟩
  | .listenFailed error => ⟨.error, s!"Tunnel '{tunnel}' failed to listen: {error}"⟩
  | .listenRetryScheduled delay => ⟨.warn, s!"Tunnel '{tunnel}' retrying listen in {delay.text}"⟩
  | .acceptFailed error =>
    ⟨.error, s!"Tunnel '{tunnel}' unable to accept connections, dropping listener: {error}"⟩
  | .connectionAccepted id peer =>
    ⟨.info, s!"Tunnel '{tunnel}' accepted connection #{id} from {peer.text}"⟩
  | .dialFailed id remote error =>
    ⟨.warn, s!"Tunnel '{tunnel}' connection #{id}: failed to connect to {remote}: {error}"⟩
  | .connectionOpened id limit =>
    ⟨.debug, s!"Tunnel '{tunnel}' connection #{id} forwarding (limit {limit.toNat} B/s)"⟩
  | .forwardFailed id direction error =>
    ⟨.warn, s!"Tunnel '{tunnel}' connection #{id}: forwarding {direction.text} failed: {error}"⟩
  | .connectionClosed id reason =>
    ⟨.info, s!"Tunnel '{tunnel}' closed connection #{id} ({reason.text})"⟩
  | .closeFailed id side error =>
    ⟨.debug, s!"Tunnel '{tunnel}' connection #{id}: failed to close {side.text} socket: {error}"⟩
  | .limitsUpdated limits active =>
    ⟨.info, s!"Tunnel '{tunnel}' limits updated: {limits.text} ({active} active connections)"⟩
  | .shutdownStarted => ⟨.info, s!"Tunnel '{tunnel}' shutting down"⟩
  | .stopped => ⟨.info, s!"Tunnel '{tunnel}' stopped"⟩

end Event

/-- The events of several tunnels in the order of their reports. -/
structure Journal where
  /-- Each event with the name of its tunnel, oldest first. -/
  entries : List (String × Event) := []
deriving Repr

namespace Journal

/-- Report an event of the named tunnel. -/
def record (journal : Journal) (tunnel : String) (event : Event) : Journal :=
  ⟨journal.entries ++ [(tunnel, event)]⟩

/-- All events, oldest first. -/
def events (journal : Journal) : List Event :=
  journal.entries.map (·.2)

/-- The events of one tunnel, oldest first. -/
def eventsOf (journal : Journal) (tunnel : String) : List Event :=
  (journal.entries.filter (·.1 = tunnel)).map (·.2)

/-- How many events satisfy the test. -/
def count (journal : Journal) (test : Event → Bool) : Nat :=
  journal.events.countP test

end Journal

end Sluice
