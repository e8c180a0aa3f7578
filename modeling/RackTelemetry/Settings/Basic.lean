import RackTelemetry.Json.Basic
import RackTelemetry.Naming.KeySpace
import RackTelemetry.Number.Integer

/-!
The settings of the service. They are decoded from a document in which every member may be missing;
unknown members are ignored, members of another type are not. A list stands for an object whose
members have the order in which they are declared here; whether it may be longer depends on where
the document comes from.
-/

namespace RackTelemetry

structure ServiceSettings where
  name : String := "nm2srv"
  deriving Repr, DecidableEq, Inhabited

structure LoggingSettings where
  level : Option String := none
  dir : Option String := none
  json : Bool := false
  deriving Repr, DecidableEq, Inhabited

structure EngineSettings where
  keyspace : KeySpace := {}
  maxSensors : Nat := 32
  maxOutlets : Nat := 64
  maxAlarms : Nat := 256
  acceptAllTopics : Bool := false
  deriving Repr, DecidableEq, Inhabited

structure Settings where
  service : ServiceSettings := {}
  logging : LoggingSettings := {}
  engine : EngineSettings := {}
  deriving Repr, DecidableEq, Inhabited

namespace Json

def text? : Json → Option String
  | .text s => some s
  | _ => none

def bool? : Json → Option Bool
  | .bool b => some b
  | _ => none

def count? : Json → Option Nat
  | .integer i => if 0 ≤ i ∧ i ≤ Number.maxWord then some i.toNat else none
  | _ => none

def optionalText? : Json → Option (Option String)
  | .null => some none
  | .text s => some (some s)
  | _ => none

/-- What happens to the items of a list that stand for no declared member. -/
inductive Surplus where
  | refused
  | ignored
  deriving Repr, DecidableEq, Inhabited

/-- The values of the declared members of an object; `none` for those that are missing. -/
def fields? (surplus : Surplus) (names : List String) : Json → Option (List (Option Json))
  | .object members => some (names.map fun name => members.lookup name)
  | .list items =>
    if surplus = .refused ∧ names.length < items.length then none
    else some ((items.map some ++ List.replicate (names.length - items.length) none).take
      names.length)
  | _ => none

def orDefault {α : Type} (read : Json → Option α) (default : α) : Option Json → Option α
  | none => some default
  | some value => read value

end Json

open Json (Surplus fields? orDefault)

def KeySpace.ofJson? (surplus : Surplus) (document : Json) : Option KeySpace := do
  match ← fields? surplus ["ambient_prefix", "outlet_prefix", "alarm_key", "status_key"]
      document with
  | [ambient, outlet, alarm, status] =>
    let standard : KeySpace := {}
    return {
      ambientRoot := ← orDefault Json.text? standard.ambientRoot ambient
      outletRoot := ← orDefault Json.text? standard.outletRoot outlet
      alarmKey := ← orDefault Json.text? standard.alarmKey alarm
      statusKey := ← orDefault Json.text? standard.statusKey status }
  | _ => none

def EngineSettings.ofJson? (surplus : Surplus) (document : Json) : Option EngineSettings := do
  match ← fields? surplus
      ["keyspace", "max_sensors", "max_outlets", "max_alarms", "accept_all_topics"] document with
  | [keyspace, sensors, outlets, alarms, acceptAll] =>
    let standard : EngineSettings := {}
    return {
      keyspace := ← orDefault (KeySpace.ofJson? surplus) standard.keyspace keyspace
      maxSensors := ← orDefault Json.count? standard.maxSensors sensors
      maxOutlets := ← orDefault Json.count? standard.maxOutlets outlets
      maxAlarms := ← orDefault Json.count? standard.maxAlarms alarms
      acceptAllTopics := ← orDefault Json.bool? standard.acceptAllTopics acceptAll }
  | _ => none

def ServiceSettings.ofJson? (surplus : Surplus) (document : Json) : Option ServiceSettings := do
  match ← fields? surplus ["name"] document with
  | [name] => return { name := ← orDefault Json.text? ({} : ServiceSettings).name name }
  | _ => none

def LoggingSettings.ofJson? (surplus : Surplus) (document : Json) : Option LoggingSettings := do
  match ← fields? surplus ["level", "dir", "json"] document with
  | [level, dir, json] =>
    return {
      level := ← orDefault Json.optionalText? none level
      dir := ← orDefault Json.optionalText? none dir
      json := ← orDefault Json.bool? false json }
  | _ => none

namespace Settings

def ofJson? (surplus : Surplus) (document : Json) : Option Settings := do
  match ← fields? surplus ["service", "logging", "engine"] document with
  | [service, logging, engine] =>
    return {
      service := ← orDefault (ServiceSettings.ofJson? surplus) {} service
      logging := ← orDefault (LoggingSettings.ofJson? surplus) {} logging
      engine := ← orDefault (EngineSettings.ofJson? surplus) {} engine }
  | _ => none

/-- The names of the four roots and channels, with what they are set to. -/
def keyspaceEntries (ks : KeySpace) : List (String × String) :=
  [("ambient_prefix", ks.ambientRoot), ("outlet_prefix", ks.outletRoot), ("alarm_key", ks.alarmKey),
    ("status_key", ks.statusKey)]

/-- What is wrong with the settings: the first fault. -/
def fault? (s : Settings) : Option String :=
  if s.service.name.isEmpty then some "Service name cannot be empty"
  else if s.engine.maxSensors = 0 then some "engine.max_sensors must be at least 1"
  else if s.engine.maxOutlets = 0 then some "engine.max_outlets must be at least 1"
  else if s.engine.maxAlarms = 0 then some "engine.max_alarms must be at least 1"
  else
    match (keyspaceEntries s.engine.keyspace).find? fun (_, value) => value.isEmpty with
    | some (name, _) => some s!"engine.keyspace.{name} cannot be empty"
    | none =>
      if s.engine.keyspace.ambientRoot = s.engine.keyspace.outletRoot then
        some "engine.keyspace.ambient_prefix and outlet_prefix must differ"
      else none

def validate (s : Settings) : Except Error Unit :=
  match s.fault? with
  | some fault => .error (.settings fault)
  | none => .ok ()

/-- The document of the settings, with every member. -/
def toJson (s : Settings) : Json :=
  let optional : Option String → Json
    | some s => .text s
    | none => .null
  .object [
    ("service", .object [("name", .text s.service.name)]),
    ("logging", .object [
      ("level", optional s.logging.level),
      ("dir", optional s.logging.dir),
      ("json", .bool s.logging.json)]),
    ("engine", .object [
      ("keyspace", .object ((keyspaceEntries s.engine.keyspace).map fun (name, value) =>
        (name, .text value))),
      ("max_sensors", .integer s.engine.maxSensors),
      ("max_outlets", .integer s.engine.maxOutlets),
      ("max_alarms", .integer s.engine.maxAlarms),
      ("accept_all_topics", .bool s.engine.acceptAllTopics)])]

end Settings

end RackTelemetry
