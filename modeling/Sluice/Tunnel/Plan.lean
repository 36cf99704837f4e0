import Sluice.Config.Environment
import Sluice.Net.Address
import Sluice.Net.IoFault

/-!
# What a tunnel is built from

* `TunnelPlan` holds the choices with which a tunnel is started. Choices that are left open are made
  by `TunnelPlan.make`.
* `Listener` is a socket on which clients can connect, known by the addresses that it reports.
-/

namespace Sluice

open Net (SocketAddress IoFault)

/-- The choices with which a tunnel is started. -/
structure TunnelPlan where
  /-- The name under which the tunnel reports events. -/
  name : String
  /-- The address at which the tunnel listens. -/
  listenAt : String
  /-- The address of the remote. -/
  connectTo : String
  /-- The limits in force at the start. -/
  limits : Limits
  /-- The time between the loss of a listener and the next attempt to listen. -/
  retryInterval : Duration
  /-- The time after which an attempt to reach the remote is given up. -/
  connectTimeout : Duration
deriving DecidableEq, Repr

namespace TunnelPlan

/-- A plan with some choices left open. The name is then the address at which the tunnel listens, the
limits are the highest ones, and the intervals come from the environment. -/
def make (env : Environment) (listenAt connectTo : String) (name : Option String)
    (limits : Option Limits) (retryInterval connectTimeout : Option Duration) : TunnelPlan where
  name := name.getD listenAt
  listenAt := listenAt
  connectTo := connectTo
  limits := limits.getD .unlimited
  retryInterval := retryInterval.getD (.ofSeconds env.retryIntervalSecs.toNat)
  connectTimeout := connectTimeout.getD (.ofSeconds env.connectTimeoutSecs.toNat)

end TunnelPlan

/-- The plan of a configured tunnel. -/
def TunnelConfig.plan (config : TunnelConfig) (settings : Settings) (env : Environment) :
    TunnelPlan where
  name := config.name
  listenAt := config.listenAt
  connectTo := config.connectTo
  limits := config.limits
  retryInterval := settings.retryInterval env
  connectTimeout := settings.connectTimeout env

/-- A socket on which clients can connect. -/
structure Listener where
  /-- The address that the listener reports when it is made. -/
  address : SocketAddress
  /-- The address that the listener reports when it comes into service, if it reports one then. -/
  inService : Option SocketAddress
deriving DecidableEq, Repr

/-- The listener reports the same address whenever it is asked. -/
def Listener.IsStable (listener : Listener) : Prop :=
  listener.inService = some listener.address

/-- A listener that always reports the given address. -/
def Listener.stable (address : SocketAddress) : Listener := ⟨address, some address⟩

end Sluice
