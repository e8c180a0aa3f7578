import RackTelemetry.Inventory.Device

/-!
Published names. A name is a path of steps with points between them; devices, contacts and outlets
are numbered from one. Temperature and humidity are published without a number, since a device has
one sensor of each.
-/

namespace RackTelemetry

/-- The roots of the published names. -/
structure KeySpace where
  ambientRoot : String := "ambient"
  outletRoot : String := "outlet"
  alarmKey : String := "ups.alarm"
  statusKey : String := "ups.status"
  deriving Repr, DecidableEq, Inhabited

namespace KeySpace

def deviceFields : List String := ["key", "firmware", "mfr", "model", "name", "present", "serial"]

/-- The fields of a temperature or humidity sensor; `none` is the reading itself. -/
def sensorFields : List (Option String) :=
  [none, some "name", some "low.critical", some "low.warning", some "high.critical",
    some "high.warning", some "status"]

def contactFields : List String := ["name", "config", "status"]

def device (ks : KeySpace) (position : Nat) (field : String) : String :=
  ks.ambientRoot ++ "." ++ toString (Number.ordinal position) ++ "." ++ field

/-- The step of a published name for one sensor of a device. -/
def sensorStep (kind : SensorKind) (index : Nat) : String :=
  if kind.isIndexed then kind.objectName ++ "." ++ toString (Number.ordinal index)
  else kind.objectName

/-- The name of a field of a sensor; without a field, of its reading. -/
def sensor (ks : KeySpace) (position : Nat) (kind : SensorKind) (index : Nat)
    (field : Option String) : String :=
  let base := ks.device position (sensorStep kind index)
  match field with
  | some field => base ++ "." ++ field
  | none => base

def outlet (ks : KeySpace) (index : Nat) (field : String) : String :=
  ks.outletRoot ++ "." ++ toString (Number.ordinal index) ++ "." ++ field

def contactKeys (ks : KeySpace) (position index : Nat) : List String :=
  contactFields.map fun field => ks.sensor position .digitalInput index (some field)

/-- Every name under which the device at a position and its sensors can be published. The lists for
two positions and one number of contacts agree entry by entry. -/
def deviceObjectKeys (ks : KeySpace) (position contacts : Nat) : List String :=
  deviceFields.map (ks.device position) ++
    sensorFields.map (ks.sensor position .temperature 0) ++
    sensorFields.map (ks.sensor position .humidity 0) ++
    (List.range contacts).flatMap (ks.contactKeys position)

/-- The names that go when a sensor is disabled. -/
def disabledSensorKeys (ks : KeySpace) (position : Nat) (kind : SensorKind) (index : Nat) :
    List String :=
  if kind.isIndexed then [ks.sensor position kind index (some "status")]
  else [ks.sensor position kind index none, ks.sensor position kind index (some "status")]

end KeySpace

end RackTelemetry
