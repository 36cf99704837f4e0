import Sluice.Counters
import Sluice.Data.Field
import Sluice.Limits

/-!
# Configurations

What a user configures: the tunnels and some settings for all of them. Each of these records is read
from plain data and written as plain data.

* `Settings`, `TunnelConfig` and `Config` are the records of a configuration.
* `Settings.ofData`, `TunnelConfig.ofData`, `Config.ofData`, `Limits.ofData` and
  `TunnelStats.ofData` read plain data, and `toData` writes it.
-/

namespace Sluice

/-- Settings for all tunnels. -/
structure Settings where
  /-- The seconds between two attempts to listen. -/
  retryIntervalSecs : Option UInt64 := none
  /-- The seconds after which an attempt to reach the remote is given up. -/
  connectTimeoutSecs : Option UInt64 := none
deriving DecidableEq, Repr, Inhabited

/-- The configuration of one tunnel. -/
structure TunnelConfig where
  /-- The name of the tunnel. -/
  name : String
  /-- The address at which the tunnel listens. -/
  listenAt : String
  /-- The address of the remote. -/
  connectTo : String
  /-- The bytes per second of the whole tunnel. -/
  tunnelLimit : UInt64
  /-- The bytes per second of each connection. -/
  connectionLimit : UInt64
deriving DecidableEq, Repr, Inhabited

/-- A configuration. -/
structure Config where
  /-- The settings for all tunnels. -/
  settings : Settings := {}
  /-- The tunnels, in order. -/
  tunnels : List TunnelConfig := []
deriving DecidableEq, Repr, Inhabited

namespace TunnelConfig

/-- The limits of the tunnel. -/
def limits (t : TunnelConfig) : Limits := ⟨t.tunnelLimit, t.connectionLimit⟩

/-- Both tunnels listen at the same address and lead to the same remote. -/
def sameEndpoints (t u : TunnelConfig) : Bool :=
  t.listenAt = u.listenAt && t.connectTo = u.connectTo

/-- A single connection is promised more than the whole tunnel may carry. -/
def isWide (t : TunnelConfig) : Bool := t.tunnelLimit < t.connectionLimit

end TunnelConfig

/-! ## Reading and writing -/

/-- A field that must be present. -/
def required {α : Type} (name : String) (read : Data → Except Fault α) : Field α :=
  ⟨name, read, none⟩

namespace Settings

/-- The field of the interval between two attempts to listen. -/
def retryIntervalField : Field (Option UInt64) := ⟨"retry_interval_secs", readOptional, some none⟩

/-- The field of the time for an attempt to reach the remote. -/
def connectTimeoutField : Field (Option UInt64) := ⟨"connect_timeout_secs", readOptional, some none⟩

/-- Settings read from plain data. -/
def ofData (rule : ListRule) : Data → Except Fault Settings :=
  readRecord rule "Settings" [retryIntervalField.check, connectTimeoutField.check]
    (fun fields => do
      let retryIntervalSecs ← retryIntervalField.among fields
      let connectTimeoutSecs ← connectTimeoutField.among fields
      return { retryIntervalSecs, connectTimeoutSecs })
    (fun whole items => do
      let retryIntervalSecs ← retryIntervalField.nth whole items 0
      let connectTimeoutSecs ← connectTimeoutField.nth whole items 1
      return { retryIntervalSecs, connectTimeoutSecs })

/-- Settings as plain data. -/
def toData (s : Settings) : Data :=
  .record [("connect_timeout_secs", .ofOptional s.connectTimeoutSecs),
    ("retry_interval_secs", .ofOptional s.retryIntervalSecs)]

end Settings

namespace TunnelConfig

/-- The field of the name. -/
def nameField : Field String := required "name" readText

/-- The field of the address at which the tunnel listens. -/
def listenAtField : Field String := required "listen_at" readText

/-- The field of the address of the remote. -/
def connectToField : Field String := required "connect_to" readText

/-- The field of the limit of the whole tunnel. -/
def tunnelLimitField : Field UInt64 := required "tunnel_limit" readUInt64

/-- The field of the limit of each connection. -/
def connectionLimitField : Field UInt64 := required "connection_limit" readUInt64

/-- The configuration of a tunnel read from plain data. -/
def ofData (rule : ListRule) : Data → Except Fault TunnelConfig :=
  readRecord rule "TunnelConfig"
    [nameField.check, listenAtField.check, connectToField.check, tunnelLimitField.check,
      connectionLimitField.check]
    (fun fields => do
      let name ← nameField.among fields
      let listenAt ← listenAtField.among fields
      let connectTo ← connectToField.among fields
      let tunnelLimit ← tunnelLimitField.among fields
      let connectionLimit ← connectionLimitField.among fields
      return { name, listenAt, connectTo, tunnelLimit, connectionLimit })
    (fun whole items => do
      let name ← nameField.nth whole items 0
      let listenAt ← listenAtField.nth whole items 1
      let connectTo ← connectToField.nth whole items 2
      let tunnelLimit ← tunnelLimitField.nth whole items 3
      let connectionLimit ← connectionLimitField.nth whole items 4
      return { name, listenAt, connectTo, tunnelLimit, connectionLimit })

/-- The configuration of a tunnel as plain data. -/
def toData (t : TunnelConfig) : Data :=
  .record [("connect_to", .text t.connectTo), ("connection_limit", .ofUInt64 t.connectionLimit),
    ("listen_at", .text t.listenAt), ("name", .text t.name),
    ("tunnel_limit", .ofUInt64 t.tunnelLimit)]

end TunnelConfig

namespace Config

/-- The field of the settings. -/
def settingsField (rule : ListRule) : Field Settings := ⟨"settings", Settings.ofData rule, some {}⟩

/-- The field of the tunnels. -/
def tunnelsField (rule : ListRule) : Field (List TunnelConfig) :=
  ⟨"tunnels", readList (TunnelConfig.ofData rule), some []⟩

/-- A configuration read from plain data. -/
def ofData (rule : ListRule) : Data → Except Fault Config :=
  readRecord rule "AppConfig" [(settingsField rule).check, (tunnelsField rule).check]
    (fun fields => do
      let settings ← (settingsField rule).among fields
      let tunnels ← (tunnelsField rule).among fields
      return { settings, tunnels })
    (fun whole items => do
      let settings ← (settingsField rule).nth whole items 0
      let tunnels ← (tunnelsField rule).nth whole items 1
      return { settings, tunnels })

/-- A configuration as plain data. -/
def toData (c : Config) : Data :=
  .record [("settings", c.settings.toData), ("tunnels", .list (c.tunnels.map (·.toData)))]

end Config

namespace Limits

/-- The field of the limit of the whole tunnel. -/
def tunnelField : Field UInt64 := required "tunnel_limit" readUInt64

/-- The field of the limit of each connection. -/
def connectionField : Field UInt64 := required "connection_limit" readUInt64

/-- Limits read from plain data. -/
def ofData (rule : ListRule) : Data → Except Fault Limits :=
  readRecord rule "TunnelLimits" [tunnelField.check, connectionField.check]
    (fun fields => do
      let tunnel ← tunnelField.among fields
      let connection ← connectionField.among fields
      return { tunnel, connection })
    (fun whole items => do
      let tunnel ← tunnelField.nth whole items 0
      let connection ← connectionField.nth whole items 1
      return { tunnel, connection })

/-- Limits as plain data. -/
def toData (l : Limits) : Data :=
  .record [("connection_limit", .ofUInt64 l.connection), ("tunnel_limit", .ofUInt64 l.tunnel)]

end Limits

namespace TunnelStats

/-- The field of the name. -/
def nameField : Field String := required "name" readText

/-- The field of the address at which the tunnel listens. -/
def listenAtField : Field String := required "listen_at" readText

/-- The field of the address of the remote. -/
def connectToField : Field String := required "connect_to" readText

/-- The field of the number of connections opened. -/
def totalConnectionsField : Field UInt64 := required "total_connections" readUInt64

/-- The field of the number of connections open now. -/
def activeConnectionsField : Field UInt64 := required "active_connections" readUInt64

/-- The field of the bytes carried upstream. -/
def bytesUpstreamField : Field UInt64 := required "bytes_upstream" readUInt64

/-- The field of the bytes carried downstream. -/
def bytesDownstreamField : Field UInt64 := required "bytes_downstream" readUInt64

/-- The field of the time at which the tunnel was made. -/
def startTimeField : Field UInt64 := required "start_time" readUInt64

/-- A snapshot of counters read from plain data. -/
def ofData (rule : ListRule) : Data → Except Fault TunnelStats :=
  readRecord rule "TunnelStats"
    [nameField.check, listenAtField.check, connectToField.check, totalConnectionsField.check,
      activeConnectionsField.check, bytesUpstreamField.check, bytesDownstreamField.check,
      startTimeField.check]
    (fun fields => do
      let name ← nameField.among fields
      let listenAt ← listenAtField.among fields
      let connectTo ← connectToField.among fields
      let totalConnections ← totalConnectionsField.among fields
      let activeConnections ← activeConnectionsField.among fields
      let bytesUpstream ← bytesUpstreamField.among fields
      let bytesDownstream ← bytesDownstreamField.among fields
      let startTime ← startTimeField.among fields
      return { name, listenAt, connectTo, totalConnections, activeConnections, bytesUpstream,
               bytesDownstream, startTime })
    (fun whole items => do
      let name ← nameField.nth whole items 0
      let listenAt ← listenAtField.nth whole items 1
      let connectTo ← connectToField.nth whole items 2
      let totalConnections ← totalConnectionsField.nth whole items 3
      let activeConnections ← activeConnectionsField.nth whole items 4
      let bytesUpstream ← bytesUpstreamField.nth whole items 5
      let bytesDownstream ← bytesDownstreamField.nth whole items 6
      let startTime ← startTimeField.nth whole items 7
      return { name, listenAt, connectTo, totalConnections, activeConnections, bytesUpstream,
               bytesDownstream, startTime })

/-- A snapshot of counters as plain data. -/
def toData (s : TunnelStats) : Data :=
  .record [("active_connections", .ofUInt64 s.activeConnections),
    ("bytes_downstream", .ofUInt64 s.bytesDownstream),
    ("bytes_upstream", .ofUInt64 s.bytesUpstream), ("connect_to", .text s.connectTo),
    ("listen_at", .text s.listenAt), ("name", .text s.name), ("start_time", .ofUInt64 s.startTime),
    ("total_connections", .ofUInt64 s.totalConnections)]

end TunnelStats

end Sluice
