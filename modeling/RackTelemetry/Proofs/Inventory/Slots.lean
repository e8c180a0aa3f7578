import RackTelemetry.Proofs.Inventory.Order

/-!
What it takes for an operation on sensors to succeed, and what it does to the devices then: each
finds one device, and at most one slot of one of its groups, and replaces that.
-/

namespace RackTelemetry

/-- A step of a chain that succeeds has succeeded, and so have the steps after it. -/
theorem exists_of_bind_eq_ok {α β : Type} {x : Except Error α} {f : α → Except Error β} {b : β}
    (h : (x >>= f) = .ok b) : ∃ a, x = .ok a ∧ f a = .ok b := by
  cases x with
  | ok a => exact ⟨a, rfl, h⟩
  | error e => cases h

/-- A device with another sensor in one of its slots. -/
def Device.withSlot (device : Device) (kind : SensorKind) (index : Nat) (sensor : Sensor) :
    Device :=
  device.withGroup kind ((device.group kind).set index sensor)

@[simp] theorem Device.key_withSlot (device : Device) (kind : SensorKind) (index : Nat)
    (sensor : Sensor) : (device.withSlot kind index sensor).key = device.key :=
  device.key_withGroup kind _

@[simp] theorem Device.contacts_withSlot (device : Device) (kind : SensorKind) (index : Nat)
    (sensor : Sensor) : (device.withSlot kind index sensor).contacts = device.contacts := by
  cases kind <;> simp [withSlot, withGroup, contacts, group]

namespace DeviceRegistry

/-- A slot of the device at a position, and the sensor in it. -/
structure Slot (r : DeviceRegistry) (p : Nat) (kind : SensorKind) (index : Nat) (device : Device)
    (sensor : Sensor) : Prop where
  stands : r.devices[p]? = some device
  holds : (device.group kind)[index]? = some sensor

variable {r after : DeviceRegistry} {p index : Nat} {kind : SensorKind}

/-- The number of a contact is below the number of contacts of its device. -/
theorem Slot.lt_contacts {device : Device} {sensor : Sensor}
    (h : r.Slot p kind index device sensor) (hkind : kind.isIndexed = true) :
    index < device.contacts := by
  cases kind with
  | temperature => cases hkind
  | humidity => cases hkind
  | digitalInput => exact (List.getElem?_eq_some_iff.mp h.holds).1

theorem Slot.unique {device other : Device} {sensor found : Sensor}
    (h : r.Slot p kind index device sensor) (h' : r.Slot p kind index other found) :
    device = other ∧ sensor = found := by
  obtain rfl := Option.some.inj (h.stands.symm.trans h'.stands)
  exact ⟨rfl, Option.some.inj (h.holds.symm.trans h'.holds)⟩

@[simp] theorem getElem?_replace (r : DeviceRegistry) (p q : Nat) (device : Device) :
    (r.replace p device).devices[q]? =
      if p = q then (if q < r.devices.length then some device else none) else r.devices[q]? := by
  simp only [replace, List.getElem?_set]
  split <;> simp_all

theorem stands_replace {device : Device} (hp : r.devices[p]? = some device) (other : Device) :
    (r.replace p other).devices[p]? = some other := by
  rw [getElem?_replace, if_pos rfl, if_pos (List.getElem?_eq_some_iff.mp hp).1]

theorem replace_self {device : Device} (hp : r.devices[p]? = some device) :
    r.replace p device = r := by
  obtain ⟨hlt, rfl⟩ := List.getElem?_eq_some_iff.mp hp
  rw [replace, List.set_getElem_self]

theorem replace_replace (r : DeviceRegistry) (p : Nat) (first second : Device) :
    (r.replace p first).replace p second = r.replace p second := by
  simp only [replace, List.set_set]

/-- Replacing a device by one with its key keeps all keys. -/
theorem keys_replace {device other : Device} (hp : r.devices[p]? = some device)
    (hkey : other.key = device.key) : (r.replace p other).keys = r.keys := by
  obtain ⟨hlt, rfl⟩ := List.getElem?_eq_some_iff.mp hp
  simp only [keys, replace, List.map_set, hkey]
  have hlt' : p < (r.devices.map Device.key).length := by simpa using hlt
  have hself : r.devices[p].key = (r.devices.map Device.key)[p] := by simp
  rw [hself, List.set_getElem_self]

theorem position?_replace {device other : Device} (hp : r.devices[p]? = some device)
    (hkey : other.key = device.key) (key : String) :
    (r.replace p other).position? key = r.position? key := by
  rw [position?_eq_findIdx?_keys, keys_replace hp hkey, ← position?_eq_findIdx?_keys]

theorem replace_withSlot_self {device : Device} {sensor : Sensor}
    (hslot : r.Slot p kind index device sensor) :
    r.replace p (device.withSlot kind index sensor) = r := by
  obtain ⟨hlt, rfl⟩ := List.getElem?_eq_some_iff.mp hslot.holds
  have hdevice : device.withSlot kind index (device.group kind)[index] = device := by
    rw [Device.withSlot, List.set_getElem_self]
    cases kind <;> rfl
  rw [hdevice, replace_self hslot.stands]

/-! ### Counting sensors -/

/-- Counting the sensors of a known device succeeds within the limit. -/
theorem addSensors_of_position? {name : String} {device : Device} {count : Nat} (kind : SensorKind)
    (hname : r.position? name = some p) (hp : r.devices[p]? = some device)
    (hcount : count ≤ r.maxSensors) :
    r.addSensors name kind count =
      .ok (r.replace p (device.withGroup kind (.ofCount count)), (device.group kind).length) := by
  rw [addSensors, if_neg (Nat.not_lt.mpr hcount), positionOf_eq_ok.mpr hname]
  simp only [deviceAt_eq_ok.mpr hp, bind, Except.bind]
  rfl

theorem addSensors_eq_ok {key : String} {count previous : Nat}
    (h : r.addSensors key kind count = .ok (after, previous)) :
    ∃ p device, r.position? key = some p ∧ r.devices[p]? = some device ∧ count ≤ r.maxSensors ∧
      previous = (device.group kind).length ∧
      after = r.replace p (device.withGroup kind (.ofCount count)) := by
  unfold addSensors at h
  split at h
  · cases h
  · next hle =>
    obtain ⟨p, hp, h⟩ := exists_of_bind_eq_ok h
    obtain ⟨device, hdevice, h⟩ := exists_of_bind_eq_ok h
    obtain ⟨rfl, rfl⟩ := Prod.mk.inj (Except.ok.inj h)
    exact ⟨p, device, positionOf_eq_ok.mp hp, deviceAt_eq_ok.mp hdevice, by omega, rfl, rfl⟩

/-- A device whose sensors have just been counted is found where it stood. -/
theorem positionOf_addSensors {key : String} {count previous : Nat}
    (h : r.addSensors key kind count = .ok (after, previous)) :
    ∃ p, r.position? key = some p ∧ after.positionOf key = .ok p := by
  obtain ⟨p, device, hposition, hp, -, -, rfl⟩ := addSensors_eq_ok h
  refine ⟨p, hposition, positionOf_eq_ok.mpr ?_⟩
  rw [position?_replace hp (device.key_withGroup kind _), hposition]

/-! ### Keying a slot -/

section Keying

variable {deviceKey key : String} {device : Device} {sensor : Sensor}
  (hposition : r.position? deviceKey = some p) (hslot : r.Slot p kind index device sensor)
include hposition hslot

/-- A slot without a key of a known device gets one. -/
theorem initSensor_of_slot (hnone : sensor.key = none) (hkey : key ≠ "") :
    r.initSensor deviceKey kind index key =
      .ok (r.replace p (device.withSlot kind index { sensor with key := some key }), true) := by
  have hkey' : ¬ key.isEmpty = true := by simpa using hkey
  rw [initSensor, if_neg hkey', positionOf_eq_ok.mpr hposition]
  simp only [deviceAt_eq_ok.mpr hslot.stands, hslot.holds, hnone, bind, Except.bind]
  rfl

/-- A slot that has the key already is left as it is. -/
theorem initSensor_of_keyed (hsensor : sensor.key = some key) (hkey : key ≠ "") :
    r.initSensor deviceKey kind index key = .ok (r, false) := by
  have hkey' : ¬ key.isEmpty = true := by simpa using hkey
  rw [initSensor, if_neg hkey', positionOf_eq_ok.mpr hposition]
  simp only [deviceAt_eq_ok.mpr hslot.stands, hslot.holds, hsensor, bind, Except.bind, if_true]
  rfl

/-- A key once given stays. -/
theorem initSensor_of_other {existing : String} (hsensor : sensor.key = some existing)
    (hother : existing ≠ key) (hkey : key ≠ "") :
    r.initSensor deviceKey kind index key = .error (.slotAlreadyKeyed index existing) := by
  have hkey' : ¬ key.isEmpty = true := by simpa using hkey
  rw [initSensor, if_neg hkey', positionOf_eq_ok.mpr hposition]
  simp only [deviceAt_eq_ok.mpr hslot.stands, hslot.holds, hsensor, bind, Except.bind,
    if_neg hother]

end Keying

/-- A slot gets a key once; a slot that has this key already is left alone. -/
theorem initSensor_eq_ok {deviceKey key : String} {isNew : Bool}
    (h : r.initSensor deviceKey kind index key = .ok (after, isNew)) :
    ∃ p device sensor, r.position? deviceKey = some p ∧ r.Slot p kind index device sensor ∧
      (isNew = false ∧ after = r ∨
        isNew = true ∧ sensor.key = none ∧ key ≠ "" ∧
          after = r.replace p (device.withSlot kind index { sensor with key := some key })) := by
  unfold initSensor at h
  split at h
  · cases h
  · next hkey =>
    have hkey' : key ≠ "" := by simpa using hkey
    obtain ⟨p, hp, h⟩ := exists_of_bind_eq_ok h
    obtain ⟨device, hdevice, h⟩ := exists_of_bind_eq_ok h
    have hposition := positionOf_eq_ok.mp hp
    have hstands := deviceAt_eq_ok.mp hdevice
    simp only at h
    cases hslot : (device.group kind)[index]? with
    | none =>
      rw [hslot] at h
      cases h
    | some sensor =>
      rw [hslot] at h
      simp only at h
      cases hsensor : sensor.key with
      | none =>
        rw [hsensor] at h
        obtain ⟨rfl, rfl⟩ := Prod.mk.inj (Except.ok.inj h)
        exact ⟨p, device, sensor, hposition, ⟨hstands, hslot⟩, .inr ⟨rfl, hsensor, hkey', rfl⟩⟩
      | some existing =>
        rw [hsensor] at h
        simp only at h
        split at h
        · obtain ⟨rfl, rfl⟩ := Prod.mk.inj (Except.ok.inj h)
          exact ⟨p, device, sensor, hposition, ⟨hstands, hslot⟩, .inl ⟨rfl, rfl⟩⟩
        · cases h

/-- A device one of whose slots has just been announced is found where it stood. -/
theorem positionOf_initSensor {deviceKey key : String} {isNew : Bool}
    (h : r.initSensor deviceKey kind index key = .ok (after, isNew)) :
    ∃ p, r.position? deviceKey = some p ∧ after.positionOf deviceKey = .ok p := by
  obtain ⟨p, device, sensor, hposition, hslot, hcase⟩ := initSensor_eq_ok h
  refine ⟨p, hposition, positionOf_eq_ok.mpr ?_⟩
  rcases hcase with ⟨-, rfl⟩ | ⟨-, -, -, rfl⟩
  · exact hposition
  · rw [position?_replace hslot.stands (device.key_withSlot kind index _), hposition]

/-- An announced slot has its key afterwards, and had no other one before. -/
theorem keyed_of_initSensor {deviceKey key : String} {isNew : Bool}
    (h : r.initSensor deviceKey kind index key = .ok (after, isNew)) :
    key ≠ "" ∧ ∃ p device sensor, r.position? deviceKey = some p ∧
      r.Slot p kind index device sensor ∧ (sensor.key = none ∨ sensor.key = some key) ∧
      after = r.replace p (device.withSlot kind index { sensor with key := some key }) := by
  obtain ⟨p, device, sensor, hposition, hslot, -⟩ := initSensor_eq_ok h
  have hkey : key ≠ "" := by
    rintro rfl
    cases h
  refine ⟨hkey, p, device, sensor, hposition, hslot, ?_⟩
  cases hsensor : sensor.key with
  | none =>
    rw [initSensor_of_slot hposition hslot hsensor hkey] at h
    exact ⟨.inl rfl, (Prod.mk.inj (Except.ok.inj h)).1.symm⟩
  | some existing =>
    by_cases hsame : existing = key
    · subst hsame
      have hunchanged : ({ sensor with key := some existing } : Sensor) = sensor := by
        rw [← hsensor]
      rw [initSensor_of_keyed hposition hslot hsensor hkey] at h
      rw [hunchanged, replace_withSlot_self hslot]
      exact ⟨.inr rfl, (Prod.mk.inj (Except.ok.inj h)).1.symm⟩
    · rw [initSensor_of_other hposition hslot hsensor hsame hkey] at h
      cases h

/-- A sensor is found in a slot that has its key, of the device that has the other key. -/
theorem resolve_eq_ok {deviceKey sensorKey : String} :
    r.resolve deviceKey kind sensorKey = .ok (p, index) ↔
      r.position? deviceKey = some p ∧ ∃ device, r.devices[p]? = some device ∧
        (device.group kind).indexOf? sensorKey = some index := by
  constructor
  · intro h
    obtain ⟨q, hq, h⟩ := exists_of_bind_eq_ok h
    obtain ⟨i, hi, h⟩ := exists_of_bind_eq_ok h
    obtain ⟨rfl, rfl⟩ := Prod.mk.inj (Except.ok.inj h)
    obtain ⟨device, hdevice, hi⟩ := exists_of_bind_eq_ok hi
    refine ⟨positionOf_eq_ok.mp hq, device, deviceAt_eq_ok.mp hdevice, ?_⟩
    cases hfound : (device.group kind).indexOf? sensorKey with
    | none =>
      rw [hfound] at hi
      cases hi
    | some j =>
      rw [hfound] at hi
      obtain rfl := Except.ok.inj hi
      rfl
  · rintro ⟨hp, device, hdevice, hfound⟩
    simp only [resolve, sensorIndex, positionOf_eq_ok.mpr hp, deviceAt_eq_ok.mpr hdevice, hfound,
      bind, Except.bind, pure, Except.pure]

theorem slot_of_indexOf? {device : Device} {key : String} (hp : r.devices[p]? = some device)
    (h : (device.group kind).indexOf? key = some index) :
    ∃ sensor, r.Slot p kind index device sensor ∧ sensor.key = some key := by
  obtain ⟨hlt, hkey, -⟩ := List.findIdx?_eq_some_iff_getElem.mp h
  exact ⟨_, ⟨hp, List.getElem?_eq_getElem hlt⟩, by simpa using hkey⟩

theorem setState_eq_ok {state previous : SensorState}
    (h : r.setState p kind index state = .ok (after, previous)) :
    ∃ device sensor, r.Slot p kind index device sensor ∧ previous = sensor.state ∧
      after = r.replace p (device.withSlot kind index { sensor with state }) := by
  obtain ⟨device, hdevice, h⟩ := exists_of_bind_eq_ok h
  have hstands := deviceAt_eq_ok.mp hdevice
  simp only at h
  cases hslot : (device.group kind)[index]? with
  | none =>
    rw [hslot] at h
    cases h
  | some sensor =>
    rw [hslot] at h
    obtain ⟨rfl, rfl⟩ := Prod.mk.inj (Except.ok.inj h)
    exact ⟨device, sensor, ⟨hstands, hslot⟩, rfl, rfl⟩

theorem stateOf_eq_ok {state : SensorState} :
    r.stateOf p kind index = .ok state ↔
      ∃ device sensor, r.Slot p kind index device sensor ∧ state = sensor.state := by
  constructor
  · intro h
    obtain ⟨device, hdevice, h⟩ := exists_of_bind_eq_ok h
    have hstands := deviceAt_eq_ok.mp hdevice
    simp only at h
    cases hslot : (device.group kind)[index]? with
    | none =>
      rw [hslot] at h
      cases h
    | some sensor =>
      rw [hslot] at h
      obtain rfl := Except.ok.inj h
      exact ⟨device, sensor, ⟨hstands, hslot⟩, rfl⟩
  · rintro ⟨device, sensor, ⟨hstands, hslot⟩, rfl⟩
    simp only [stateOf, deviceAt_eq_ok.mpr hstands, hslot, bind, Except.bind, pure, Except.pure]

end DeviceRegistry

end RackTelemetry
