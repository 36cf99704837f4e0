/-!
# Log lines

A log line is graver than another one if its level comes later. A log can be bounded to the lines that
are grave enough.
-/

namespace Sluice

/-- How grave a log line is. -/
inductive Level where
  | trace
  | debug
  | info
  | warn
  | error
deriving DecidableEq, Repr

/-- The name of a level. -/
def Level.text : Level → String
  | .trace => "TRACE"
  | .debug => "DEBUG"
  | .info => "INFO"
  | .warn => "WARN"
  | .error => "ERROR"

namespace Level

/-- The levels, the gravest last. -/
def all : List Level := [.trace, .debug, .info, .warn, .error]

/-- The level of the given name, in capital or small letters. -/
def ofName? (name : String) : Option Level :=
  all.find? (·.text = name.toUpper)

/-- The level is grave enough for a log that begins at `least`. -/
def isAtLeast (level least : Level) : Bool :=
  all.idxOf least ≤ all.idxOf level

end Level

/-- One line of the log. -/
structure LogLine where
  /-- How grave the line is. -/
  level : Level
  /-- What the line says. -/
  text : String
deriving DecidableEq, Repr

end Sluice
