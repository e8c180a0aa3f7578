import RackTelemetry.Settings.Basic
import RackTelemetry.Settings.Environment
import RackTelemetry.Yaml.Value

/-!
Putting settings together. Three layers stand above each other, and each member comes from the
highest layer that sets it: the standard settings, a file, the environment. What is put together
must have the right types and pass `Settings.validate`.
-/

namespace RackTelemetry.Settings

/-- Where the settings file is looked for when none is named. -/
def standardPath : String := "config/nm2srv.yaml"

def decode (document : Json) : Except Error Settings :=
  match ofJson? .ignored document with
  | none => .error (.settingsUnreadable "a member has a value of another type")
  | some settings => settings.validate.map fun _ => settings

/-- The settings from the text of a file, if there is one, and environment variables. -/
def load (file : Option String) (environment : List (String × String)) : Except Error Settings :=
  let layer? : Option Json :=
    match file with
    | none => some (.object [])
    | some text => Yaml.ofString? text
  match layer? with
  | none => .error (.settingsUnreadable "the file is not a mapping of settings")
  | some layer =>
    decode ((({} : Settings).toJson.merge layer).merge (Environment.document environment))

def missingFile (path : String) : Error := .settings s!"Configuration file not found: {path}"

def standardText : String :=
  let s : Settings := {}
  let text : Option String → String
    | some s => s
    | none => "null"
  "\n".intercalate [
    "service:",
    s!"  name: {s.service.name}",
    "logging:",
    s!"  level: {text s.logging.level}",
    s!"  dir: {text s.logging.dir}",
    s!"  json: {s.logging.json}",
    "engine:",
    "  keyspace:",
    s!"    ambient_prefix: {s.engine.keyspace.ambientRoot}",
    s!"    outlet_prefix: {s.engine.keyspace.outletRoot}",
    s!"    alarm_key: {s.engine.keyspace.alarmKey}",
    s!"    status_key: {s.engine.keyspace.statusKey}",
    s!"  max_sensors: {s.engine.maxSensors}",
    s!"  max_outlets: {s.engine.maxOutlets}",
    s!"  max_alarms: {s.engine.maxAlarms}",
    s!"  accept_all_topics: {s.engine.acceptAllTopics}",
    ""]

end RackTelemetry.Settings
