import Sluice.CommandLine.Check
import Sluice.CommandLine.Options
import Sluice.CommandLine.Template
import Sluice.Live.Service

/-!
# The program

The program carries out the command of its command line on the files and sockets of the operating
system.
-/

namespace Sluice.Live

open CommandLine

/-- The version of the program. -/
def version : String := "0.1.0"

/-- How the program is used. -/
def usage : List String := [
  "Usage: bw-tunnel [OPTIONS] <COMMAND>",
  "",
  "Commands:",
  "  run       Run the tunnels of a configuration file (-c, --config <FILE>)",
  "  check     Check a configuration file (-c, --config <FILE>, --format text|json)",
  "  template  Write the configuration template (-o, --output <FILE>)",
  "  help      Print this text",
  "",
  "Options:",
  "  -l, --log-level <LEVEL>  trace, debug, info, warn or error",
  "  -h, --help               Print this text",
  "  -V, --version            Print the version"]

/-- The environment of the program. -/
def environment : IO Environment := do
  let mut given : List (String × String) := []
  for name in Environment.variableNames do
    let full := Environment.variablePrefix ++ name
    if let some value ← IO.getEnv full then
      given := given ++ [(full, value)]
  let home := (← IO.getEnv "HOME").getD ""
  return { «variables» := given, home, directory := (← IO.currentDir).toString }

/-- Write a line to the log if it is grave enough. -/
def logTo (least : Level) (line : LogLine) : IO Unit := do
  if line.level.isAtLeast least then
    let out ← IO.getStdout
    let indent := "".pushn ' ' (5 - line.level.text.length)
    out.putStrLn (indent ++ line.level.text ++ " " ++ line.text)
    out.flush

/-- Carry out the command `run`. -/
def run (env : Environment) (log : LogLine → IO Unit) (config : String) :
    IO (Option CommandError) := do
  let path := expandPath env config
  match Service.start env path (← readText path) with
  | (.error error, reports) =>
    for report in reports do
      log report.logLine
    return some (.load error)
  | (.ok service, _) =>
    let mailbox : Mailbox ← Std.Channel.new
    mailbox.listenFor .sigint .stop
    mailbox.listenFor .sighup .reload
    let around : Surroundings :=
      { mailbox, origin := ← IO.monoNanosNow, wording := DocumentFault.message, log }
    serve around { service }

/-- Write what came of a command, and give the error back. -/
def conclude (log : LogLine → IO Unit) (result : CommandResult) : IO (Option CommandError) := do
  for line in result.logs do
    log line
  IO.print result.output
  return result.error

/-- Carry out a command. -/
def execute (env : Environment) (log : LogLine → IO Unit) :
    Command → IO (Option CommandError)
  | .run config => run env log config
  | .check config format => do
    let path := expandPath env config
    let content ← if ← fileExists path then some <$> readText path else pure none
    conclude log (check env DocumentFault.message path format content)
  | .template none => conclude log printTemplate
  | .template (some path) => do
    conclude log (writeTemplate path (← writeText path Config.template))

/-- Say why no command is carried out. -/
def explain (error : UsageError) : IO Unit := do
  match error with
  | .version => IO.println s!"bw-tunnel {version}"
  | .help => for line in usage do IO.println line
  | error =>
    if let some message := error.message? then IO.eprintln s!"error: {message}\n"
    for line in usage do IO.eprintln line

end Sluice.Live

/-- The program: the status is `0` for success, `1` for a command that failed and `2` for a command
line that makes no sense. -/
def main (words : List String) : IO UInt32 := do
  match Sluice.CommandLine.Options.ofWords words with
  | .error error =>
    Sluice.Live.explain error
    return error.exitCode.toUInt32
  | .ok options =>
    let named ← IO.getEnv "RUST_LOG"
    let least := (named.bind Sluice.Level.ofName?).getD
      ((Sluice.Level.ofName? options.logLevel).getD .error)
    let log := Sluice.Live.logTo least
    log ⟨.info, s!"bw-tunnel v{Sluice.Live.version}"⟩
    match ← Sluice.Live.execute (← Sluice.Live.environment) log options.command with
    | none => return 0
    | some error =>
      for line in error.report Sluice.DocumentFault.message do
        IO.eprintln line
      return 1
