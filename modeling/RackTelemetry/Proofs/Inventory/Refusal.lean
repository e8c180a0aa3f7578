import RackTelemetry.Alarm.Draft
import RackTelemetry.Inventory.Outlet
import RackTelemetry.Proofs.Inventory.Slots
import RackTelemetry.Site.Value

/-!
What the operations refuse: for each one that can fail, every error that it fails with. What cannot
fail after what was found out before is shown to succeed.
-/

namespace RackTelemetry

/-- A chain fails with the error of its first step, or of the rest. -/
theorem bind_eq_error {α β : Type} {x : Except Error α} {f : α → Except Error β} {e : Error}
    (h : (x >>= f) = .error e) : x = .error e ∨ ∃ a, x = .ok a ∧ f a = .error e := by
  cases x with
  | ok a => exact .inr ⟨a, rfl, h⟩
  | error e' =>
    obtain rfl := Except.error.inj h
    exact .inl rfl

variable {e : Error}

/-! ### Texts that cannot be read -/

namespace Value

variable {value : String}

theorem count_eq_error (h : count value = .error e) : e = .invalidValue value "not a count" := by
  unfold count at h
  split at h
  · cases h
  · exact (Except.error.inj h).symm

theorem index_eq_error (h : index value = .error e) : e = .invalidValue value "not an index" := by
  unfold index at h
  split at h
  · cases h
  · exact (Except.error.inj h).symm

theorem lastSegment_eq_error (h : lastSegment value = .error e) :
    e = .invalidValue value "expected a path ending in a key" := by
  unfold lastSegment at h
  split at h
  · cases h
  · exact (Except.error.inj h).symm

theorem flag_eq_error (h : flag value = .error e) :
    e = .invalidValue value "expected a boolean" := by
  unfold flag at h
  split at h
  · cases h
  · split at h
    · cases h
    · exact (Except.error.inj h).symm

theorem code_eq_error (h : code value = .error e) :
    e = .invalidValue value "not an integer code" := by
  unfold code at h
  split at h
  · cases h
  · exact (Except.error.inj h).symm

end Value

/-! ### Devices and sensors -/

namespace DeviceRegistry

variable {r : DeviceRegistry} {key : String} {kind : SensorKind} {p index : Nat}

theorem positionOf_eq_unknown (h : r.positionOf key = .error e) :
    e = .emptyRegistry ∨ e = .deviceNotFound key := by
  unfold positionOf at h
  split at h
  · exact .inl (Except.error.inj h).symm
  · split at h
    · cases h
    · exact .inr (Except.error.inj h).symm

/-- There is a device at a position that was found. -/
theorem deviceAt_positionOf (h : r.positionOf key = .ok p) :
    ∃ device, r.deviceAt p = .ok device := by
  obtain ⟨device, hp, -⟩ := device_of_position? (positionOf_eq_ok.mp h)
  exact ⟨device, deviceAt_eq_ok.mpr hp⟩

theorem addSensors_eq_error {count : Nat} (h : r.addSensors key kind count = .error e) :
    e = .capacityExceeded count r.maxSensors ∨ e = .emptyRegistry ∨ e = .deviceNotFound key := by
  unfold addSensors at h
  split at h
  · exact .inl (Except.error.inj h).symm
  · rcases bind_eq_error h with hposition | ⟨p, hposition, h⟩
    · exact .inr (positionOf_eq_unknown hposition)
    · obtain ⟨device, hdevice⟩ := deviceAt_positionOf hposition
      rw [hdevice] at h
      cases h

theorem initSensor_eq_error {deviceKey : String} (hkey : key ≠ "")
    (h : r.initSensor deviceKey kind index key = .error e) :
    e = .emptyRegistry ∨ e = .deviceNotFound deviceKey ∨ (∃ len, e = .outOfBounds index len) ∨
      ∃ existing, e = .slotAlreadyKeyed index existing := by
  unfold initSensor at h
  rw [if_neg (by simpa using hkey)] at h
  rcases bind_eq_error h with hposition | ⟨p, hposition, h⟩
  · rcases positionOf_eq_unknown hposition with rfl | rfl
    · exact .inl rfl
    · exact .inr (.inl rfl)
  · obtain ⟨device, hdevice⟩ := deviceAt_positionOf hposition
    rcases bind_eq_error h with h | ⟨_, -, h⟩
    · rw [hdevice] at h
      cases h
    · simp only at h
      split at h
      · exact .inr (.inr (.inl ⟨_, (Except.error.inj h).symm⟩))
      · split at h
        · cases h
        · split at h
          · cases h
          · exact .inr (.inr (.inr ⟨_, (Except.error.inj h).symm⟩))

theorem resolve_eq_error {deviceKey : String} (h : r.resolve deviceKey kind key = .error e) :
    e = .emptyRegistry ∨ e = .deviceNotFound deviceKey ∨
      e = .sensorNotFound (kind.channelName ++ "/" ++ key) := by
  rcases bind_eq_error h with hposition | ⟨p, hposition, h⟩
  · rcases positionOf_eq_unknown hposition with rfl | rfl
    · exact .inl rfl
    · exact .inr (.inl rfl)
  · rcases bind_eq_error h with h | ⟨_, -, h⟩
    · obtain ⟨device, hdevice⟩ := deviceAt_positionOf hposition
      rcases bind_eq_error h with h | ⟨_, -, h⟩
      · rw [hdevice] at h
        cases h
      · split at h
        · cases h
        · exact .inr (.inr (Except.error.inj h).symm)
    · cases h

/-- A sensor that was found has a slot. -/
theorem slot_of_resolve {deviceKey : String} (h : r.resolve deviceKey kind key = .ok (p, index)) :
    ∃ device sensor, r.Slot p kind index device sensor := by
  obtain ⟨-, device, hp, hindex⟩ := resolve_eq_ok.mp h
  obtain ⟨sensor, hslot, -⟩ := slot_of_indexOf? hp hindex
  exact ⟨device, sensor, hslot⟩

theorem setState_of_slot {device : Device} {sensor : Sensor}
    (h : r.Slot p kind index device sensor) (state : SensorState) :
    ∃ after, r.setState p kind index state = .ok (after, sensor.state) := by
  refine ⟨r.replace p (device.withSlot kind index { sensor with state }), ?_⟩
  simp only [setState, deviceAt_eq_ok.mpr h.stands, h.holds, bind, Except.bind, pure, Except.pure]
  rfl

end DeviceRegistry

/-! ### Outlets -/

namespace OutletRegistry

variable {r : OutletRegistry} {index : Nat} {topic : String}

theorem reset_eq_error {count : Nat} (h : r.reset count = .error e) :
    e = .capacityExceeded count r.maxOutlets := by
  unfold reset at h
  split at h
  · exact (Except.error.inj h).symm
  · cases h

theorem update_eq_error {change : Outlet → Outlet} (h : r.update index change = .error e) :
    e = .outOfBounds index r.outlets.length := by
  unfold update at h
  split at h
  · cases h
  · exact (Except.error.inj h).symm

theorem setTopic_eq_error (h : r.setTopic index topic = .error e) :
    e = .emptyKey ∨ e = .outOfBounds index r.outlets.length := by
  unfold setTopic at h
  split at h
  · exact .inl (Except.error.inj h).symm
  · exact .inr (update_eq_error h)

theorem indexOf_eq_error (h : r.indexOf topic = .error e) : e = .outletNotFound topic := by
  unfold indexOf at h
  split at h
  · cases h
  · exact (Except.error.inj h).symm

end OutletRegistry

/-! ### The alarm list that is being received -/

namespace AlarmDraft

theorem setField_eq_error {draft : AlarmDraft} {index : Nat} {field : AlarmField} {value : String}
    (h : draft.setField index field value = .error e) :
    (∃ len, e = .outOfBounds index len) ∨ ∃ reason, e = .invalidValue value reason := by
  unfold setField at h
  split at h
  · exact .inl ⟨_, (Except.error.inj h).symm⟩
  · split at h
    · exact .inl ⟨_, (Except.error.inj h).symm⟩
    · rcases bind_eq_error h with h | ⟨slot, -, h⟩
      · unfold PartialAlarm.withField at h
        split at h
        · cases h
        · cases h
        · cases h
        · split at h
          · cases h
          · exact .inr ⟨_, (Except.error.inj h).symm⟩
      · cases h

end AlarmDraft

end RackTelemetry
