import Sluice.Config.Validation
import Sluice.Net.IoFault
import Sluice.Toml.Document

/-!
# Loading configurations

A configuration is the text of a document that has the right shape and breaks no rule.

* `Config.ofText` reads and checks a text, `Config.ofFile` the content of a file.
* `LoadError` says what is wrong, in the wording that the caller wants for faults of the document.
-/

namespace Sluice

/-- What is wrong with a document. -/
inductive DocumentFault where
  /-- The text is no document. -/
  | malformed
  /-- The document is no configuration. -/
  | misshapen (fault : Fault)
deriving Repr

/-- The fault in words. -/
def DocumentFault.message : DocumentFault → String
  | .malformed => "not a valid TOML document"
  | .misshapen fault => fault.message Number.Binary64.text

/-- Why a configuration cannot be loaded. -/
inductive LoadError where
  /-- The file cannot be read. -/
  | unreadable (path : String) (fault : Net.IoFault)
  /-- Something is wrong with the document. -/
  | document (fault : DocumentFault)
  /-- The configuration breaks a rule. -/
  | invalid (violation : Violation)
deriving Repr

namespace LoadError

/-- The messages of the error and its causes, outermost first, given the wording of faults of the
document. -/
def chain (wording : DocumentFault → String) : LoadError → List String
  | .unreadable path fault => [s!"Failed to read configuration file {path}", fault.text]
  | .document fault => ["Failed to parse tunnel configuration", wording fault]
  | .invalid violation => ["Configuration validation failed", violation.error.message]

/-- The values in the configuration are at fault. -/
def isInvalid : LoadError → Bool
  | .invalid _ => true
  | _ => false

end LoadError

namespace Config

/-- A configuration file may list more values than a record has fields. -/
def fileRule : ListRule := ⟨false⟩

/-- The configuration that a text denotes before its rules are checked. -/
def parse (text : String) : Except DocumentFault Config :=
  match Toml.ofText? text with
  | none => .error .malformed
  | some data =>
    match ofData fileRule data with
    | .ok config => .ok config
    | .error fault => .error (.misshapen fault)

/-- The configuration that a text denotes, and the log lines of its check. -/
def ofText (text : String) : Except LoadError Config × List LogLine :=
  match parse text with
  | .error fault => (.error (.document fault), [])
  | .ok config =>
    let audit := config.audit
    match audit.violation with
    | some violation => (.error (.invalid violation), audit.logs)
    | none => (.ok config, audit.logs)

/-- The configuration in a file of the given content, and the log lines of its check. -/
def ofFile (path : String) (content : Except Net.IoFault String) :
    Except LoadError Config × List LogLine :=
  match content with
  | .error fault => (.error (.unreadable path fault), [])
  | .ok text => ofText text

end Config

end Sluice
