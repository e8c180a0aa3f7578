import RackTelemetry.Journal
import RackTelemetry.Store.Printer

/-!
The command line of the service. An option has a long name, and perhaps a letter; its value is
attached to it or is the next word. No option may be given twice. What the command line leaves open
is taken from environment variables.
-/

namespace RackTelemetry

/-- What a command line asks for. -/
structure CommandLine where
  logLevel : String := "info"
  config : Option String := none
  input : Option String := none
  format : OutputFormat := .text
  debug : Bool := false
  noColor : Bool := false
  validate : Bool := false
  deriving Repr, DecidableEq, Inhabited

namespace CommandLine

/-- Why a command line does not lead to a run. -/
inductive Refusal where
  | invalidValue
  | tooManyValues
  | unknownArgument
  | argumentConflict
  | help
  | version
  deriving Repr, DecidableEq, Inhabited

inductive Setting where
  | logLevel
  | config
  | input
  | format
  deriving Repr, DecidableEq, Inhabited

inductive Switch where
  | debug
  | noColor
  | validate
  | help
  | version
  deriving Repr, DecidableEq, Inhabited

inductive OptionName where
  | setting (s : Setting)
  | switch (s : Switch)
  deriving Repr, DecidableEq, Inhabited

/-- The option with a long name. Names are never shortened. -/
def named? : String → Option OptionName
  | "log-level" => some (.setting .logLevel)
  | "config" => some (.setting .config)
  | "input" => some (.setting .input)
  | "format" => some (.setting .format)
  | "debug" => some (.switch .debug)
  | "no-color" => some (.switch .noColor)
  | "validate" => some (.switch .validate)
  | "help" => some (.switch .help)
  | "version" => some (.switch .version)
  | _ => none

/-- The option with a letter. -/
def lettered? : Char → Option OptionName
  | 'l' => some (.setting .logLevel)
  | 'c' => some (.setting .config)
  | 'i' => some (.setting .input)
  | 'f' => some (.setting .format)
  | 'h' => some (.switch .help)
  | 'V' => some (.switch .version)
  | _ => none

inductive Word where
  /-- Nothing after it is an option. -/
  | separator
  | setting (s : Setting) (attached : Option String)
  | switch (s : Switch)
  | switchWithValue
  | unknownOption
  | value (s : String)
  deriving Repr, DecidableEq, Inhabited

/-- A word that begins with two hyphens, without them. -/
def Word.ofLong (cs : List Char) : Word :=
  let attached : Option String :=
    match cs.dropWhile (· != '=') with
    | _ :: rest => some (String.ofList rest)
    | [] => none
  match named? (String.ofList (cs.takeWhile (· != '='))), attached with
  | some (.setting s), attached => .setting s attached
  | some (.switch s), none => .switch s
  | some (.switch _), some _ => .switchWithValue
  | none, _ => .unknownOption

/-- A word that begins with one hyphen and the letter `c`; `cs` is the rest. -/
def Word.ofLetter (c : Char) (cs : List Char) : Word :=
  match lettered? c with
  | some (.setting s) =>
    match cs with
    | [] => .setting s none
    | '=' :: rest => .setting s (some (String.ofList rest))
    | rest => .setting s (some (String.ofList rest))
  | some (.switch s) => .switch s
  | none => .unknownOption

/-- Classifies a word. A single hyphen is a value. -/
def Word.ofString (s : String) : Word :=
  match s.toList with
  | ['-', '-'] => .separator
  | '-' :: '-' :: cs => .ofLong cs
  | '-' :: c :: cs => .ofLetter c cs
  | _ => .value s

/-- The options met so far, with their values. -/
structure Given where
  settings : List (Setting × String) := []
  switches : List Switch := []
  deriving Repr, DecidableEq, Inhabited

namespace Given

/-- A value that an option can have. Paths are not empty, and a format is one of two words. -/
def isValue : Setting → String → Bool
  | .logLevel, _ => true
  | .config, value | .input, value => !value.isEmpty
  | .format, value => value = "text" || value = "json"

def putSetting (given : Given) (s : Setting) (value : String) : Except Refusal Given :=
  if (given.settings.lookup s).isSome then .error .argumentConflict
  else if isValue s value then .ok { given with settings := (s, value) :: given.settings }
  else .error .invalidValue

def putSwitch (given : Given) : Switch → Except Refusal Given
  | .help => .error .help
  | .version => .error .version
  | s =>
    if given.switches.contains s then .error .argumentConflict
    else .ok { given with switches := s :: given.switches }

end Given

/-- An option whose value is, or was, the next word. -/
structure Pending where
  setting : Setting
  value : Option String
  deriving Repr, DecidableEq, Inhabited

/-- Completes the option before the next one. -/
def settle (given : Given) : Option Pending → Except Refusal Given
  | none => .ok given
  | some { setting := _, value := none } => .error .invalidValue
  | some { setting, value := some value } => given.putSetting setting value

/-- Reads words. A word that is no option and no value of one ends the reading, whatever is pending;
`plain` tells that a separator was met. -/
def readWords (given : Given) (pending : Option Pending) (plain : Bool) :
    List String → Except Refusal Given
  | [] => settle given pending
  | word :: words =>
    if plain then .error .unknownArgument
    else
      match Word.ofString word with
      | .separator => readWords given pending true words
      | .unknownOption => .error .unknownArgument
      | .switchWithValue => .error .tooManyValues
      | .value value =>
        match pending with
        | some { setting, value := none } =>
          readWords given (some { setting, value := some value }) false words
        | _ => .error .unknownArgument
      | .setting s none => do
        readWords (← settle given pending) (some { setting := s, value := none }) false words
      | .setting s (some value) => do
        readWords (← (← settle given pending).putSetting s value) none false words
      | .switch s => do
        readWords (← (← settle given pending).putSwitch s) none false words

/-- The variable that stands in for an option. -/
def variableOf : Setting → Option String
  | .logLevel => some "RUST_LOG"
  | .config => some "NM2SRV_CONFIG"
  | _ => none

/-- The value of an option: the one given, or that of its variable. -/
def settingOf (given : Given) (environment : List (String × String)) (s : Setting) :
    Except Refusal (Option String) :=
  match given.settings.lookup s with
  | some value => .ok (some value)
  | none =>
    match (variableOf s).bind fun name => environment.lookup name with
    | none => .ok none
    | some value => if Given.isValue s value then .ok (some value) else .error .invalidValue

def debugOf (given : Given) (environment : List (String × String)) : Except Refusal Bool :=
  if given.switches.contains .debug then .ok true
  else
    match environment.lookup "DEBUG" with
    | none | some "false" => .ok false
    | some "true" => .ok true
    | some _ => .error .invalidValue

/-- What a command line asks for, with the environment variables it is given in. -/
def parse (words : List String) (environment : List (String × String)) :
    Except Refusal CommandLine := do
  let given ← readWords {} none false words
  let logLevel ← settingOf given environment .logLevel
  let config ← settingOf given environment .config
  let input ← settingOf given environment .input
  let format ← settingOf given environment .format
  let debug ← debugOf given environment
  return {
    logLevel := logLevel.getD "info"
    config, input, debug
    format := if format = some "json" then .json else .text
    noColor := given.switches.contains .noColor
    validate := given.switches.contains .validate }

/-- The level that the log level names. Any other directive counts as the standard level. -/
def level (line : CommandLine) : Level :=
  let word := String.ofList (line.logLevel.toList.map Char.toLower)
  if word = "trace" then .trace
  else if word = "debug" then .debug
  else if word = "warn" ∨ word = "warning" then .warn
  else if word = "error" then .error
  else .info

/-- A run for development shows more than a run in service. -/
def isDevelopment (line : CommandLine) : Bool :=
  line.debug || line.logLevel = "debug" || line.logLevel = "trace"

/-- The log directive. Debugging comes before the log level. -/
def directive (line : CommandLine) : String := if line.debug then "debug" else line.logLevel

/-- Records come from standard input unless a file is named. -/
def readsInput (line : CommandLine) : Bool := line.input.all fun path => path = "-"

end CommandLine

end RackTelemetry
