/-!
# Command line options

The words of a command line are read from left to right. An option is written `--name value`,
`--name=value`, `-n value`, `-nvalue` or `-n=value`; the words after `--` are no options. One of the
commands `run`, `check`, `template` and `help` follows the options of the program and is followed by
options of its own.

An option whose value is a word of its own takes effect only when the next option begins or the words
are at their end. Therefore an unknown word behind it is reported before a fault in its value.

* `Options` is what a command line asks for, `UsageError` is why it asks for nothing.
* `Options.ofWords` reads a command line.
-/

namespace Sluice.CommandLine

/-- The form in which the result of a check is written. -/
inductive Format where
  | text
  | json
deriving DecidableEq, Repr

/-- The name of a form. -/
def Format.name : Format → String
  | .text => "text"
  | .json => "json"

/-- The form of the given name. -/
def Format.ofName? (name : String) : Option Format :=
  [Format.text, Format.json].find? (·.name = name)

/-- What a command line asks for. -/
inductive Command where
  /-- Run the tunnels of a configuration file. -/
  | run (config : String)
  /-- Check a configuration file. -/
  | check (config : String) (format : Format)
  /-- Write the configuration template, to a file if one is named. -/
  | template (output : Option String)
deriving DecidableEq, Repr

/-- A command with the options of the program. -/
structure Options where
  /-- How grave a line must be for the log. -/
  logLevel : String
  /-- The command. -/
  command : Command
deriving DecidableEq, Repr

/-- Why no command is carried out. -/
inductive UsageError where
  /-- The help text is asked for. -/
  | help
  /-- The version is asked for. -/
  | version
  /-- The command line is empty. -/
  | nothing
  /-- No command follows the options. -/
  | missingCommand
  /-- There is no command of this name. -/
  | unknownCommand
  /-- A word has no meaning here. -/
  | unknownWord
  /-- A required option is missing. -/
  | missingOption
  /-- An option has no value, or one that is not possible. -/
  | invalidValue
  /-- An option is given twice. -/
  | repeated
  /-- An option that takes no value has one. -/
  | unneededValue
deriving DecidableEq, Repr

namespace UsageError

/-- The user got what was asked for. -/
def isAnswer : UsageError → Bool
  | .help | .version => true
  | _ => false

/-- What is wrong with the command line, if something is. -/
def message? : UsageError → Option String
  | .help | .version | .nothing => none
  | .missingCommand => some "a command is missing"
  | .unknownCommand => some "there is no such command"
  | .unknownWord => some "a word has no meaning here"
  | .missingOption => some "the option --config is missing"
  | .invalidValue => some "an option has no value or one that is not possible"
  | .repeated => some "an option is given twice"
  | .unneededValue => some "an option that takes no value has one"

/-- The status with which the program ends. -/
def exitCode (e : UsageError) : Nat := if e.isAnswer then 0 else 2

end UsageError

/-! ## The options of each command -/

/-- An option. -/
inductive Flag where
  | logLevel
  | config
  | format
  | output
  | help
  | version
deriving DecidableEq, Repr

namespace Flag

/-- The name of an option after two dashes. -/
def long : Flag → String
  | .logLevel => "log-level"
  | .config => "config"
  | .format => "format"
  | .output => "output"
  | .help => "help"
  | .version => "version"

/-- The letter of an option after one dash. -/
def short? : Flag → Option Char
  | .logLevel => some 'l'
  | .config => some 'c'
  | .format => none
  | .output => some 'o'
  | .help => some 'h'
  | .version => some 'V'

/-- The option has a value. -/
def hasValue : Flag → Bool
  | .help | .version => false
  | _ => true

/-- A value is possible for the option. -/
def allows (flag : Flag) (value : String) : Bool :=
  match flag with
  | .format => (Format.ofName? value).isSome
  | _ => true

end Flag

/-- Which options and words are known. -/
inductive Scope where
  /-- Before the command. -/
  | program
  /-- After `run`. -/
  | run
  /-- After `check`. -/
  | check
  /-- After `template`. -/
  | template
deriving DecidableEq, Repr

namespace Scope

/-- The options that are known. -/
def flags : Scope → List Flag
  | .program => [.logLevel, .help, .version]
  | .run => [.logLevel, .config, .help]
  | .check => [.logLevel, .config, .format, .help]
  | .template => [.logLevel, .output, .help]

/-- The known option with a name. -/
def long? (scope : Scope) (name : String) : Option Flag :=
  scope.flags.find? (·.long = name)

/-- The known option with a letter. -/
def short? (scope : Scope) (letter : Char) : Option Flag :=
  scope.flags.find? (·.short? = some letter)

/-- The scope behind the command of a name. -/
def ofCommand? : String → Option Scope
  | "run" => some .run
  | "check" => some .check
  | "template" => some .template
  | _ => none

end Scope

/-- The word is the name of a command. -/
def isCommand (word : String) : Bool :=
  (Scope.ofCommand? word).isSome || word = "help"

/-! ## Reading words -/

/-- The options that were read. -/
structure Reading where
  /-- The options that took effect, with their values. -/
  values : List (Flag × String) := []
  /-- The option that has not yet taken effect, with its value if that was read. -/
  pending : Option (Flag × Option String) := none
deriving DecidableEq, Repr

namespace Reading

/-- The next word is the value of an option, unless it is an option itself. -/
def awaitsValue (r : Reading) : Bool :=
  match r.pending with
  | some (_, none) => true
  | _ => false

/-- Let an option take effect. -/
def add (r : Reading) (flag : Flag) (value : String) : Except UsageError Reading :=
  if (r.values.lookup flag).isSome then .error .repeated
  else if flag.allows value then .ok { r with values := r.values ++ [(flag, value)] }
  else .error .invalidValue

/-- Let the pending option take effect. -/
def settle (r : Reading) : Except UsageError Reading :=
  match r.pending with
  | none => .ok r
  | some (_, none) => .error .invalidValue
  | some (flag, some value) => { r with pending := none }.add flag value

/-- Begin an option, whose value may be attached to it. -/
def begin (r : Reading) (flag : Flag) (attached : Option String) : Except UsageError Reading := do
  let r ← r.settle
  match flag, attached with
  | .help, _ => .error .help
  | .version, _ => .error .version
  | flag, some value => r.add flag value
  | flag, none => .ok { r with pending := some (flag, none) }

/-- Read the value of the pending option. -/
def complete (r : Reading) (value : String) : Reading :=
  { r with pending := r.pending.map fun (flag, _) => (flag, some value) }

/-- The name of an option and the value attached to it. -/
def splitLong (word : List Char) : String × Option String :=
  let name := String.ofList (word.takeWhile (· ≠ '='))
  match word.dropWhile (· ≠ '=') with
  | [] => (name, none)
  | _ :: value => (name, some (String.ofList value))

/-- Read an option by its name. -/
def readLong (r : Reading) (scope : Scope) (word : List Char) : Except UsageError Reading :=
  let (name, attached) := splitLong word
  match scope.long? name with
  | none => .error .unknownWord
  | some flag =>
    if attached.isSome && !flag.hasValue then .error .unneededValue else r.begin flag attached

/-- The value attached to a letter. -/
def attachedValue : List Char → Option String
  | [] => none
  | '=' :: value => some (String.ofList value)
  | value => some (String.ofList value)

/-- Read an option by its letter. -/
def readShort (r : Reading) (scope : Scope) (letter : Char) (rest : List Char) :
    Except UsageError Reading :=
  match scope.short? letter with
  | none => .error .unknownWord
  | some flag => r.begin flag (attachedValue rest)

end Reading

/-- What a word is. -/
inductive Word where
  /-- The end of the options. -/
  | terminator
  /-- An option by its name. -/
  | long (rest : List Char)
  /-- An option by its letter. -/
  | short (letter : Char) (rest : List Char)
  /-- A plain word. -/
  | plain

/-- What a word is as long as the options are not at their end. A single dash is a plain word. -/
def Word.ofString (word : String) : Word :=
  match word.toList with
  | ['-', '-'] => .terminator
  | '-' :: '-' :: rest => .long rest
  | '-' :: letter :: rest => .short letter rest
  | _ => .plain

/-- Why a plain word is refused that is neither a value nor a command. -/
def refusal (scope : Scope) (ended : Bool) (word : String) : UsageError :=
  match scope with
  | .program => if ended && isCommand word then .unknownWord else .unknownCommand
  | _ => .unknownWord

/-- Read options up to the end of the words or up to a command. `ended` says that the options are at
their end. The command comes with the words that follow it. -/
def readOptions (scope : Scope) (r : Reading) (ended : Bool) :
    List String → Except UsageError (Reading × Option (String × List String))
  | [] => .ok (r, none)
  | word :: rest =>
    if ended then .error (refusal scope ended word)
    else if scope = .program && !r.awaitsValue && isCommand word then .ok (r, some (word, rest))
    else
      match Word.ofString word with
      | .terminator => readOptions scope r true rest
      | .long name =>
        match r.readLong scope name with
        | .ok r => readOptions scope r ended rest
        | .error e => .error e
      | .short letter value =>
        match r.readShort scope letter value with
        | .ok r => readOptions scope r ended rest
        | .error e => .error e
      | .plain =>
        if r.awaitsValue then readOptions scope (r.complete word) ended rest
        else .error (refusal scope ended word)

/-- The answer to a request for help about a command. -/
def helpFor : List String → UsageError
  | [] => .help
  | [command] => if isCommand command then .help else .unknownCommand
  | _ => .unknownCommand

/-- The command that the options behind it describe. -/
def commandOf (scope : Scope) (r : Reading) : Except UsageError Command :=
  match scope with
  | .run => .ok (.run ((r.values.lookup .config).getD "tunnels.toml"))
  | .check =>
    match r.values.lookup .config with
    | none => .error .missingOption
    | some config =>
      .ok (.check config (((r.values.lookup .format).bind Format.ofName?).getD .text))
  | .template => .ok (.template (r.values.lookup .output))
  | .program => .error .missingCommand

/-- Read a command line. An option of the program may also stand behind the command, where it
prevails. -/
def Options.ofWords (words : List String) : Except UsageError Options := do
  let (outer, command) ← readOptions .program {} false words
  match command with
  | none =>
    let outer ← outer.settle
    .error (if outer.values.isEmpty then .nothing else .missingCommand)
  | some (name, rest) =>
    match Scope.ofCommand? name with
    | none => .error (helpFor rest)
    | some scope =>
      let (inner, _) ← readOptions scope {} false rest
      let inner ← inner.settle
      let command ← commandOf scope inner
      let outer ← outer.settle
      let logLevel := (inner.values.lookup .logLevel <|> outer.values.lookup .logLevel).getD "info"
      return ⟨logLevel, command⟩

end Sluice.CommandLine
