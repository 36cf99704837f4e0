import Sluice.CommandLine.Options
import Sluice.CommandLine.Result
import Sluice.Config.Environment
import Sluice.Data.Json

/-!
# Checking a configuration file

The command `check` reads a configuration file and says what it found, in words or as JSON.

* `Finding` is what the check found.
* `Finding.text` and `Finding.data` write it in either form.
* `check` is the command.
-/

namespace Sluice.CommandLine

open Net (IoFault)

/-- What the check of a configuration file found. -/
inductive Finding where
  /-- The configuration is valid. -/
  | valid (config : Config)
  /-- There is no file. -/
  | notFound (path : String)
  /-- The configuration cannot be loaded. -/
  | faulty (error : LoadError)

namespace Finding

/-- The error with which the command ends. -/
def error : Finding → Option CommandError
  | .valid _ => none
  | .notFound path => some (.notFound path)
  | .faulty error => some (.load error)

/-- The warning for a tunnel whose connections are promised more than the tunnel may carry. -/
def warning (t : TunnelConfig) : String :=
  s!"Tunnel '{t.name}': connection_limit ({t.connectionLimit.toNat}) exceeds " ++
    s!"tunnel_limit ({t.tunnelLimit.toNat})"

/-- The warnings for a configuration. -/
def warnings (config : Config) : List String :=
  (config.tunnels.filter (·.isWide)).map warning

/-- What users get wrong most often: the values if they are at fault, the document otherwise. -/
def hints (error : LoadError) : List String :=
  if error.isInvalid then
    ["Limits are bytes per second and must be greater than 0",
      "Tunnel names and listen addresses must be unique",
      "Addresses and names cannot be empty"]
  else
    ["Check TOML syntax (brackets, quotes, commas)",
      "Each [[tunnels]] needs name, listen_at, connect_to, tunnel_limit and connection_limit"]

/-- One line for each tunnel, with its number. -/
def tunnelLines (first : Nat) : List TunnelConfig → List String
  | [] => []
  | t :: rest =>
    s!"  Tunnel #{first}: '{t.name}' {t.listenAt} -> {t.connectTo} ({t.limits.text})" ::
      tunnelLines (first + 1) rest

/-- One line for each hint, with its number. -/
def hintLines (first : Nat) : List String → List String
  | [] => []
  | hint :: rest => s!"  {first}. {hint}" :: hintLines (first + 1) rest

/-- The lines of the finding in words. -/
def lines (env : Environment) (wording : DocumentFault → String) : Finding → List String
  | .notFound path => [s!"✗ Configuration file not found: {path}"]
  | .valid config =>
    [s!"✓ Retry interval: {(config.settings.retryInterval env).seconds}s",
      s!"✓ Connect timeout: {(config.settings.connectTimeout env).seconds}s",
      s!"✓ Number of tunnels: {config.tunnels.length}"] ++
    tunnelLines 1 config.tunnels ++ (warnings config).map ("⚠ Warning: " ++ ·) ++
    ["", "✓ Configuration is valid!"]
  | .faulty error =>
    ["✗ Configuration validation failed!", "", "Error details:",
      (CommandError.load error).line wording, "", "Common issues:"] ++ hintLines 1 (hints error)

/-- The details of a valid configuration. -/
def details (env : Environment) (config : Config) : Data :=
  .record [
    ("connect_timeout_secs", .integer (config.settings.connectTimeout env).seconds),
    ("retry_interval_secs", .integer (config.settings.retryInterval env).seconds),
    ("tunnels", .list (config.tunnels.map (·.toData))),
    ("tunnels_count", .integer config.tunnels.length)]

/-- The finding as plain data. -/
def data (env : Environment) (wording : DocumentFault → String) (finding : Finding) : Data :=
  match finding with
  | .valid config =>
    let warned := warnings config
    .record ([("valid", .boolean true)] ++
      (if warned.isEmpty then [] else [("warnings", .list (warned.map .text))]) ++
      [("details", details env config)])
  | _ =>
    .record ([("valid", .boolean false)] ++
      (finding.error.map fun e => ("error", .text (e.line wording))).toList ++
      [("details", .record [])])

end Finding

/-- The finding for a file, none for a file that does not exist, and the log lines of the check. -/
def Finding.ofFile (path : String) (content : Option (Except IoFault String)) :
    Finding × List LogLine :=
  match content with
  | none => (.notFound path, [])
  | some content =>
    match Config.ofFile path content with
    | (.ok config, logs) => (.valid config, logs)
    | (.error error, logs) => (.faulty error, logs)

/-- The command. -/
def check (env : Environment) (wording : DocumentFault → String) (path : String) (format : Format)
    (content : Option (Except IoFault String)) : CommandResult :=
  let (finding, logs) := Finding.ofFile path content
  let heading :=
    if content.isSome then [s!"Checking configuration file: {path}", ""] else []
  let output :=
    match format with
    | .text => printed (heading ++ finding.lines env wording)
    | .json => printed [(finding.data env wording).jsonText]
  { output, logs, error := finding.error }

end Sluice.CommandLine
