import RackTelemetry.Inventory.Sensor
import RackTelemetry.Number.Integer

/-!
The environment devices, in the order of their published positions. Keys are distinct and not empty.
Every operation either succeeds with the new registry or fails and leaves none, so that a failure
never changes anything.
-/

namespace RackTelemetry

/-- A device and its sensors by kind. -/
structure Device where
  key : String
  temperatures : SensorGroup := []
  humidities : SensorGroup := []
  digitalInputs : SensorGroup := []
  deriving Repr, DecidableEq, Inhabited

namespace Device

def group (device : Device) : SensorKind → SensorGroup
  | .temperature => device.temperatures
  | .humidity => device.humidities
  | .digitalInput => device.digitalInputs

def withGroup (device : Device) (kind : SensorKind) (sensors : SensorGroup) : Device :=
  match kind with
  | .temperature => { device with temperatures := sensors }
  | .humidity => { device with humidities := sensors }
  | .digitalInput => { device with digitalInputs := sensors }

/-- The number of contacts, which decides how many names a device publishes. -/
def contacts (device : Device) : Nat := device.digitalInputs.length

@[simp] theorem key_withGroup (device : Device) (kind : SensorKind) (sensors : SensorGroup) :
    (device.withGroup kind sensors).key = device.key := by
  cases kind <;> rfl

@[simp] theorem group_withGroup (device : Device) (kind other : SensorKind)
    (sensors : SensorGroup) :
    (device.withGroup kind sensors).group other =
      if other = kind then sensors else device.group other := by
  cases kind <;> cases other <;> rfl

end Device

/-- Where a device is to stand in the list. -/
inductive Position where
  | index (i : Nat)
  | last
  deriving Repr, DecidableEq, Inhabited

def Position.text : Position → String
  | .index i => "At(" ++ toString i ++ ")"
  | .last => "End"

/-- The devices, the number of them that was announced last, and how many sensors of one kind a
device may have. -/
structure DeviceRegistry where
  devices : List Device := []
  declared : Nat := 0
  maxSensors : Nat := 32
  deriving Repr, DecidableEq, Inhabited

namespace DeviceRegistry

def keys (r : DeviceRegistry) : List String := r.devices.map Device.key

/-- Whether index `index` is the last of the announced list. The number of the index is taken only
if a list is announced, so that there is no answer then at the largest index. -/
def completesDeclared (r : DeviceRegistry) (index : Nat) : Option Bool :=
  if r.declared = 0 then some false
  else (Number.ordinal? index).map fun number => number = r.declared

/-- Drops the devices after `index`, and lists them with their positions, the last one first. There
is no result at the largest index, which leaves no number of devices to keep. -/
def trimAfter (r : DeviceRegistry) (index : Nat) : Option (DeviceRegistry × List (Nat × Device)) :=
  (Number.ordinal? index).map fun kept =>
    ({ r with devices := r.devices.take kept },
      (r.devices.zipIdx.drop kept).reverse.map fun (device, position) => (position, device))

/-- The position of the device with this key, if there is one. -/
def position? (r : DeviceRegistry) (key : String) : Option Nat :=
  r.devices.findIdx? fun device => device.key = key

/-- The position of the device with this key. -/
def positionOf (r : DeviceRegistry) (key : String) : Except Error Nat :=
  if r.devices.isEmpty then .error .emptyRegistry
  else match r.position? key with
    | some position => .ok position
    | none => .error (.deviceNotFound key)

def deviceAt (r : DeviceRegistry) (position : Nat) : Except Error Device :=
  if r.devices.isEmpty then .error .emptyRegistry
  else match r.devices[position]? with
    | some device => .ok device
    | none => .error (.outOfBounds position r.devices.length)

/-- Puts a new device without sensors into the list, and returns its position. -/
def add (r : DeviceRegistry) (position : Position) (key : String) :
    Except Error (DeviceRegistry × Nat) :=
  if key.isEmpty then .error .emptyKey
  else if r.devices.any fun device => device.key = key then .error (.duplicateKey key)
  else
    let insert (index : Nat) : DeviceRegistry × Nat :=
      ({ r with devices := r.devices.insertIdx index { key } }, index)
    match position with
    | .last => .ok (insert r.devices.length)
    | .index index =>
      if index ≤ r.devices.length then .ok (insert index)
      else .error (.outOfBounds index r.devices.length)

/-- Moves a device, and says whether the order changed. The target is a position of the list, and is
counted without the device itself. Nothing happens where the device already stands before the one at
the target. -/
def move (r : DeviceRegistry) (source : Nat) (target : Position) :
    Except Error (DeviceRegistry × Bool) :=
  let len := r.devices.length
  if len = 0 then .error .emptyRegistry
  else if len ≤ source then .error (.outOfBounds source len)
  else do
    let target : Option Nat ← match target with
      | .last => .ok none
      | .index index => if index < len then .ok (some index) else .error (.outOfBounds index len)
    let follower := r.devices[source + 1]?.map Device.key
    let occupant := (target.bind (r.devices[·]?)).map Device.key
    if follower = occupant then return (r, false)
    else match r.devices[source]? with
      | none => return (r, false)
      | some device =>
        let others := r.devices.eraseIdx source
        let index := target.getD others.length
        return ({ r with devices := others.insertIdx index device }, index != source)

def remove (r : DeviceRegistry) (position : Nat) : Except Error (DeviceRegistry × Device) := do
  let device ← r.deviceAt position
  return ({ r with devices := r.devices.eraseIdx position }, device)

def removeAll (r : DeviceRegistry) : DeviceRegistry × List Device :=
  ({ r with devices := [] }, r.devices)

def declare (r : DeviceRegistry) (count : Nat) : DeviceRegistry := { r with declared := count }

def replace (r : DeviceRegistry) (position : Nat) (device : Device) : DeviceRegistry :=
  { r with devices := r.devices.set position device }

/-- Gives a device fresh sensors of one kind, and returns how many it had. -/
def addSensors (r : DeviceRegistry) (key : String) (kind : SensorKind) (count : Nat) :
    Except Error (DeviceRegistry × Nat) :=
  if r.maxSensors < count then .error (.capacityExceeded count r.maxSensors)
  else do
    let position ← r.positionOf key
    let device ← r.deviceAt position
    return (r.replace position (device.withGroup kind (SensorGroup.ofCount count)),
      (device.group kind).length)

/-- Gives a sensor slot its key, and says whether it had none before. A key once given stays. -/
def initSensor (r : DeviceRegistry) (deviceKey : String) (kind : SensorKind) (index : Nat)
    (key : String) : Except Error (DeviceRegistry × Bool) :=
  if key.isEmpty then .error .emptyKey
  else do
    let position ← r.positionOf deviceKey
    let device ← r.deviceAt position
    let group := device.group kind
    match group[index]? with
    | none => .error (.outOfBounds index group.length)
    | some sensor =>
      match sensor.key with
      | none =>
        let group := group.set index { sensor with key := some key }
        return (r.replace position (device.withGroup kind group), true)
      | some existing =>
        if existing = key then return (r, false) else .error (.slotAlreadyKeyed index existing)

/-- The slot of a sensor of the device at a position. -/
def sensorIndex (r : DeviceRegistry) (position : Nat) (kind : SensorKind) (key : String) :
    Except Error Nat := do
  let device ← r.deviceAt position
  match (device.group kind).indexOf? key with
  | some index => return index
  | none => .error (.sensorNotFound (kind.channelName ++ "/" ++ key))

/-- The position of a device and the slot of one of its sensors. -/
def resolve (r : DeviceRegistry) (deviceKey : String) (kind : SensorKind) (sensorKey : String) :
    Except Error (Nat × Nat) := do
  let position ← r.positionOf deviceKey
  let index ← r.sensorIndex position kind sensorKey
  return (position, index)

/-- Sets the state of a sensor slot, and returns the state it had. -/
def setState (r : DeviceRegistry) (position : Nat) (kind : SensorKind) (index : Nat)
    (state : SensorState) : Except Error (DeviceRegistry × SensorState) := do
  let device ← r.deviceAt position
  let group := device.group kind
  match group[index]? with
  | none => .error (.outOfBounds index group.length)
  | some sensor =>
    let group := group.set index { sensor with state }
    return (r.replace position (device.withGroup kind group), sensor.state)

def stateOf (r : DeviceRegistry) (position : Nat) (kind : SensorKind) (index : Nat) :
    Except Error SensorState := do
  let device ← r.deviceAt position
  let group := device.group kind
  match group[index]? with
  | none => .error (.outOfBounds index group.length)
  | some sensor => return sensor.state

@[simp] theorem length_keys (r : DeviceRegistry) : r.keys.length = r.devices.length := by
  simp [keys]

@[simp] theorem keys_declare (r : DeviceRegistry) (count : Nat) :
    (r.declare count).keys = r.keys := rfl

end DeviceRegistry

end RackTelemetry
