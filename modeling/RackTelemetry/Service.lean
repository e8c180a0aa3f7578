import RackTelemetry.Capture
import RackTelemetry.CommandLine
import RackTelemetry.Journal.Console
import RackTelemetry.Journal.Setup
import RackTelemetry.Settings.Load

/-!
A run of the service: settings are loaded, the journal is opened, a capture is replayed, and what
has been published is printed. A run is a function of what it meets: the command line, the
environment, the files and standard input.
-/

namespace RackTelemetry

/-- What a run meets. A signal that stops the run arrives after the last line of standard input. -/
structure Surroundings where
  words : List String
  environment : List (String × String) := []
  files : FileTree := {}
  input : ByteArray := ByteArray.empty
  signal : Option StopSignal := none
  deriving Inhabited

/-- What a run leaves: what it prints, what it notes and shows on the console, and the log file it
makes, as a place without the day. -/
structure Run where
  status : Nat := 0
  printed : String := ""
  noted : List Event := []
  coloured : Bool := true
  asJson : Bool := false
  failure : Option String := none
  logFile : Option Place := none
  deriving Inhabited

namespace Service

def version : String := "common 0.1.0\n"

def usage : String :=
  "\n".intercalate [
    "Usage: nm2srv [OPTIONS]",
    "",
    "Options:",
    "  -l, --log-level <LOG_LEVEL>  Log level or directive [env: RUST_LOG=] [default: info]",
    "  -c, --config <CONFIG>        Configuration file [env: NM2SRV_CONFIG=]",
    "  -i, --input <INPUT>          Capture file, standard input when absent or -",
    "  -f, --format <FORMAT>        Output format [default: text] [possible values: text, json]",
    "      --debug                  Enable debug mode [env: DEBUG=]",
    "      --no-color               Disable colored output",
    "      --validate               Only validate the configuration",
    "  -h, --help                   Print help",
    "  -V, --version                Print version",
    ""]

/-- A cause below another text: indented, and numbered if there are several. -/
def indented (number : Option Nat) (cause : String) : String :=
  let (first, rest) : String × String :=
    match number with
    | some n => ("    " ++ toString n ++ ": ", "       ")
    | none => ("    ", "    ")
  first ++ ("\n" ++ rest).intercalate ((cause.toList.splitOn '\n').map String.ofList)

/-- The text of a failure: what failed, then its causes. -/
def failureText (context : String) (causes : List String) : String :=
  let lines :=
    match causes with
    | [cause] => [indented none cause]
    | causes => causes.mapIdx fun i cause => indented (some i) cause
  "\n".intercalate (["Error: " ++ context, "", "Caused by:"] ++ lines) ++ "\n"

/-- The settings of a run. A file that is named must be there; the standard one need not be. A
directory in its place sets nothing. -/
def settings (line : CommandLine) (around : Surroundings) : Except Error Settings :=
  let path := line.config.getD Settings.standardPath
  match around.files.open? path with
  | .ok none => Settings.load none around.environment
  | .ok (some bytes) =>
    match String.fromUTF8? bytes with
    | some text => Settings.load (some text) around.environment
    | none => .error (.settingsUnreadable "the file is not text")
  | .error _ =>
    if line.config.isSome then .error (Settings.missingFile path)
    else Settings.load none around.environment

/-- How the journal of a run is kept. The level of the settings counts where the command line leaves
the standard one. -/
def journal (line : CommandLine) (settings : Settings) : Journal.Setup :=
  { service := settings.service.name
    directive :=
      match settings.logging.level with
      | some level => if !line.debug && line.logLevel = "info" then level else line.directive
      | none => line.directive
    dir := settings.logging.dir
    asJson := settings.logging.json
    coloured := !line.noColor }

def input (line : CommandLine) (around : Surroundings) : Except FileFault (Option ByteArray) :=
  match line.input with
  | some path => if line.readsInput then .ok around.input else around.files.open? path
  | none => .ok around.input

/-- Replays the input of a run and prints what has been published. A signal comes before the last
line has an end. The run ends where its arithmetic has no result, and prints nothing. -/
def replay (line : CommandLine) (around : Surroundings) (engine : Engine) (bytes : ByteArray)
    (soFar : Run) : Run :=
  let bytes := bytes.toList
  let lines := if around.signal.isSome then Replay.endedLines bytes else Replay.splitLines bytes
  let (replay, complete) := Replay.lines engine {} lines
  match replay.events.span fun event => !event.isOverflow with
  | (reached, overflow :: _) =>
    { soFar with
      status := 101
      noted := soFar.noted ++ reached
      failure := some (overflow.text ++ "\n") }
  | (events, []) =>
    let noted := soFar.noted ++ events
    if complete then
      let printed := replay.engine.site.store.render line.format
      let stopped : List Event := around.signal.toList.map .stopped
      { soFar with
        noted := noted ++ stopped ++ [.replayFinished replay.stats]
        printed := if printed.toList.getLast? = some '\n' then printed else printed ++ "\n" }
    else
      { soFar with
        status := 1
        noted
        failure :=
          some (failureText "Failed to read input" ["stream did not contain valid UTF-8"]) }

/-- A run on a command line that is understood. -/
def runLine (line : CommandLine) (around : Surroundings) : Run :=
  let failed (soFar : Run) (context : String) (causes : List String) : Run :=
    { soFar with status := 1, failure := some (failureText context causes) }
  match settings line around with
  | .error e => failed {} "Failed to load configuration" [e.message]
  | .ok settings =>
    let setup := journal line settings
    match setup.opened around.files with
    | .error fault => failed {} "Failed to initialize logging" fault.causes
    | .ok opened =>
      let start : Run :=
        { noted := [opened.event]
          coloured := setup.coloured
          asJson := setup.asJson
          logFile := opened.file }
      let finished :=
        if line.validate then { start with noted := start.noted ++ [.settingsValid] }
        else
          let started : Event :=
            .started settings.service.name TopicFilter.subscriptions.length
          let ready := { start with noted := start.noted ++ Engine.readyEvents ++ [started] }
          match input line around with
          | .error fault =>
            failed ready ("Failed to open " ++ line.input.getD "") [fault.message]
          | .ok none =>
            failed ready "Failed to read input" [FileFault.isADirectory.message]
          | .ok (some bytes) => replay line around (Engine.ofSettings settings.engine) bytes ready
      { finished with noted := finished.noted.filter (Journal.shows opened.rules) }

def run (around : Surroundings) : Run :=
  match CommandLine.parse around.words around.environment with
  | .error .version => { printed := version }
  | .error .help => { printed := usage }
  | .error _ => { status := 2, failure := some usage }
  | .ok line => runLine line around

end Service

namespace Run

/-- The text on the console, if no times stand before the lines. -/
def console (run : Run) : String :=
  String.join (run.noted.map fun event => Journal.line run.coloured event ++ "\n") ++
    run.failure.getD ""

end Run

end RackTelemetry
