import Sluice.Config.Basic
import Sluice.Error
import Sluice.Log
import Sluice.Text.Blank

/-!
# The rules of a configuration

A configuration must have tunnels, each with a name, two addresses and two limits; no two tunnels may
share a name or an address to listen at; and no interval may be zero. The rules are checked in a fixed
order, tunnel by tunnel, and the first one that is broken is reported. A tunnel whose connections are
promised more than the tunnel may carry only draws a warning.

* `Violation` is a broken rule, `Violation.message` says which one.
* `TunnelConfig.violation?` checks one tunnel by itself, `Config.audit` checks all.
-/

namespace Sluice

/-- A broken rule. -/
inductive Violation where
  /-- There are no tunnels. -/
  | noTunnels
  /-- A name is blank. -/
  | blankName (context : String)
  /-- An address is blank. -/
  | blankAddress (context : String)
  /-- A number that must be positive is zero. -/
  | zero (context : String)
  /-- Two tunnels have the same name. -/
  | duplicateName (name : String)
  /-- Two tunnels listen at the same address. -/
  | duplicateListenAt (address : String)
deriving DecidableEq, Repr

namespace Violation

/-- The broken rule in words. -/
def message : Violation → String
  | .noTunnels => "No tunnel configurations defined"
  | .blankName context => s!"{context}: name cannot be empty"
  | .blankAddress context => s!"{context}: address cannot be empty"
  | .zero context => s!"{context} must be greater than 0"
  | .duplicateName name => s!"Duplicate tunnel name '{name}': each tunnel must have a unique name"
  | .duplicateListenAt address =>
    s!"Duplicate listen_at '{address}': each tunnel must listen on a different address"

/-- The error that reports the broken rule. -/
def error (v : Violation) : TunnelError := .config v.message

end Violation

/-- The rule that a name is not blank. -/
def checkName (name context : String) : Option Violation :=
  if Text.isBlank name then some (.blankName context) else none

/-- The rule that an address is not blank. -/
def checkAddress (address context : String) : Option Violation :=
  if Text.isBlank address then some (.blankAddress context) else none

/-- The rule that a number is positive. -/
def checkPositive (n : UInt64) (context : String) : Option Violation :=
  if n = 0 then some (.zero context) else none

namespace TunnelConfig

/-- The first rule that the tunnel breaks by itself. -/
def violation? (t : TunnelConfig) : Option Violation :=
  checkName t.name "Tunnel"
    <|> checkAddress t.listenAt s!"Tunnel '{t.name}' listen_at"
    <|> checkAddress t.connectTo s!"Tunnel '{t.name}' connect_to"
    <|> checkPositive t.tunnelLimit s!"Tunnel '{t.name}' tunnel_limit"
    <|> checkPositive t.connectionLimit s!"Tunnel '{t.name}' connection_limit"

/-- The log line that warns of a tunnel whose connections are promised too much. -/
def warning (t : TunnelConfig) : LogLine :=
  ⟨.warn, s!"Tunnel '{t.name}': connection_limit ({t.connectionLimit.toNat}) is greater than " ++
    s!"tunnel_limit ({t.tunnelLimit.toNat}), a single connection is still capped by the tunnel limit"⟩

end TunnelConfig

/-- The result of a check. -/
structure Audit where
  /-- The tunnels that draw a warning, in order. -/
  warned : List TunnelConfig
  /-- The first broken rule. -/
  violation : Option Violation
deriving DecidableEq, Repr

namespace Audit

/-- The log lines of the check. -/
def logs (audit : Audit) : List LogLine := audit.warned.map (·.warning)

end Audit

/-- Check one tunnel by itself. -/
def TunnelConfig.audit (t : TunnelConfig) : Audit :=
  match t.violation? with
  | some violation => ⟨[], some violation⟩
  | none => ⟨if t.isWide then [t] else [], none⟩

namespace Settings

/-- The first rule that the settings break. -/
def violation? (s : Settings) : Option Violation :=
  if s.retryIntervalSecs = some 0 then some (.zero "settings.retry_interval_secs")
  else if s.connectTimeoutSecs = some 0 then some (.zero "settings.connect_timeout_secs")
  else none

end Settings

namespace Config

/-- Check tunnels in order, given the names and the addresses of those before them. `final` is the
first rule broken elsewhere, which counts if the tunnels break none. -/
def auditTunnels (final : Option Violation) (names addresses : List String) :
    List TunnelConfig → Audit
  | [] => ⟨[], final⟩
  | t :: rest =>
    match t.violation? with
    | some violation => ⟨[], some violation⟩
    | none =>
      let warned := if t.isWide then [t] else []
      if t.name ∈ names then ⟨warned, some (.duplicateName t.name)⟩
      else if t.listenAt ∈ addresses then ⟨warned, some (.duplicateListenAt t.listenAt)⟩
      else
        let audit := auditTunnels final (t.name :: names) (t.listenAt :: addresses) rest
        ⟨warned ++ audit.warned, audit.violation⟩

/-- Check a configuration. -/
def audit (c : Config) : Audit :=
  if c.tunnels.isEmpty then ⟨[], some .noTunnels⟩
  else auditTunnels c.settings.violation? [] [] c.tunnels

end Config

end Sluice
