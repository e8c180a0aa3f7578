import RackTelemetry.Error

/-!
Sensors of an environment device: their kinds, what is known of a sensor, and the slots of one kind.
A slot exists from the moment its number is announced; its key and its state come later.
-/

namespace RackTelemetry

inductive SensorKind where
  | temperature
  | humidity
  | digitalInput
  deriving Repr, DecidableEq, Inhabited

namespace SensorKind

def all : List SensorKind := [.temperature, .humidity, .digitalInput]

/-- The step of a topic that holds the sensors of a kind. -/
def channelName : SensorKind → String
  | .temperature => "temperatures"
  | .humidity => "humidities"
  | .digitalInput => "digitalInputs"

/-- The step of a published name that stands for a kind. -/
def objectName : SensorKind → String
  | .temperature => "temperature"
  | .humidity => "humidity"
  | .digitalInput => "contacts"

/-- Whether published names tell the sensors of this kind apart by number. -/
def isIndexed : SensorKind → Bool
  | .digitalInput => true
  | _ => false

def label : SensorKind → String
  | .temperature => "Temperature"
  | .humidity => "Humidity"
  | .digitalInput => "DigitalInput"

/-- The kind whose channel has this name. -/
def ofChannel (name : String) : Except Error SensorKind :=
  match all.find? fun kind => kind.channelName = name with
  | some kind => .ok kind
  | none => .error (.unknownSensorKind name)

end SensorKind

/-- What is known of whether a sensor is in use. -/
inductive SensorState where
  | unknown
  | enabled
  | disabled
  deriving Repr, DecidableEq, Inhabited

/-- The state that an `enabled` flag reports: the text `1`, or anything else. -/
def SensorState.ofFlag (flag : String) : SensorState :=
  if flag = "1" then .enabled else .disabled

structure Sensor where
  key : Option String := none
  state : SensorState := .unknown
  deriving Repr, DecidableEq, Inhabited

/-- The slots of one kind, in order. -/
abbrev SensorGroup := List Sensor

namespace SensorGroup

def ofCount (count : Nat) : SensorGroup := List.replicate count {}

def indexOf? (group : SensorGroup) (key : String) : Option Nat :=
  group.findIdx? fun sensor => sensor.key = some key

/-- Gives a slot a key; none if there is no such slot. -/
def withKey? (group : SensorGroup) (index : Nat) (key : Option String) : Option SensorGroup :=
  group[index]?.map fun sensor => group.set index { sensor with key }

end SensorGroup

end RackTelemetry
