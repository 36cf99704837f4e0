import Sluice.Config.Basic
import Sluice.Duration

/-!
# The environment and the intervals in force

An interval that the settings leave open is taken from a variable of the environment, if that
variable holds a number, and has a fixed length otherwise.
-/

namespace Sluice

/-- What the library knows about its surroundings. -/
structure Environment where
  /-- The variables with their values. -/
  «variables» : List (String × String) := []
  /-- The home directory of the user. -/
  home : String
  /-- The directory against which relative paths are resolved. -/
  directory : String
deriving Repr

namespace Environment

/-- What the names of the variables begin with. -/
def variablePrefix : String := "BW_TUNNEL_"

/-- The names of the variables, without their beginning. -/
def variableNames : List String := ["RETRY_INTERVAL_SECS", "CONNECT_TIMEOUT_SECS"]

/-- The number that decimal digits denote, if it has at most 64 bits. One plus sign may stand before
the digits. -/
def number? (text : String) : Option UInt64 :=
  let digits :=
    match text.toList with
    | '+' :: digits => digits
    | digits => digits
  if digits.isEmpty || !digits.all Char.isDigit then none
  else
    let value := digits.foldl (fun value c => value * 10 + (c.toNat - 48)) 0
    if value < UInt64.size then some (.ofNat value) else none

/-- The number in a variable, if it holds one. -/
def numberIn? (env : Environment) (name : String) : Option UInt64 :=
  (env.«variables».lookup (variablePrefix ++ name)).bind number?

/-- The seconds between two attempts to listen if nothing else is said. -/
def defaultRetryIntervalSecs : UInt64 := 5

/-- The seconds for an attempt to reach the remote if nothing else is said. -/
def defaultConnectTimeoutSecs : UInt64 := 10

/-- The interval between two attempts to listen if the settings leave it open. -/
def retryIntervalSecs (env : Environment) : UInt64 :=
  (env.numberIn? "RETRY_INTERVAL_SECS").getD defaultRetryIntervalSecs

/-- The time for an attempt to reach the remote if the settings leave it open. -/
def connectTimeoutSecs (env : Environment) : UInt64 :=
  (env.numberIn? "CONNECT_TIMEOUT_SECS").getD defaultConnectTimeoutSecs

end Environment

namespace Settings

/-- The interval between two attempts to listen. -/
def retryInterval (s : Settings) (env : Environment) : Duration :=
  .ofSeconds (s.retryIntervalSecs.getD env.retryIntervalSecs).toNat

/-- The time after which an attempt to reach the remote is given up. -/
def connectTimeout (s : Settings) (env : Environment) : Duration :=
  .ofSeconds (s.connectTimeoutSecs.getD env.connectTimeoutSecs).toNat

end Settings

end Sluice
