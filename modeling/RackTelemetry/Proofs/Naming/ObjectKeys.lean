import RackTelemetry.Proofs.Naming.Step
import RackTelemetry.Proofs.Topic.Card

/-!
The lists of names that belong to the device at a position. Lists for different positions have no
name in common, a device with more contacts has the names it has with fewer and then those of the
contacts that are new, and every field that a sensor publishes or hides has a name in the list.
-/

namespace RackTelemetry.KeySpace

variable {ks : KeySpace} {p q contacts index : Nat} {kind : SensorKind} {field : Option String}

theorem disjoint_deviceObjectKeys (ks : KeySpace) (h : p ≠ q) (c d : Nat) :
    (ks.deviceObjectKeys p c).Disjoint (ks.deviceObjectKeys q d) := by
  intro name hp hq
  obtain ⟨s, -, rfl⟩ := mem_deviceObjectKeys.mp hp
  exact h (device_mem_deviceObjectKeys.mp hq).1

theorem deviceObjectKeys_of_le (ks : KeySpace) (p : Nat) {c d : Nat} (h : c ≤ d) :
    ks.deviceObjectKeys p d =
      ks.deviceObjectKeys p c ++ (List.range' c (d - c)).flatMap (ks.contactKeys p) := by
  have hrange : List.range d = List.range c ++ List.range' c (d - c) := by
    have happend := List.range'_append_1 (s := 0) (m := c) (n := d - c)
    rw [Nat.zero_add, Nat.add_sub_of_le h] at happend
    rw [List.range_eq_range', List.range_eq_range', happend]
  rw [deviceObjectKeys, deviceObjectKeys, hrange, List.flatMap_append]
  simp only [List.append_assoc]

theorem length_deviceObjectKeys (ks : KeySpace) (p contacts : Nat) :
    (ks.deviceObjectKeys p contacts).length = (objectSteps contacts).length := by
  rw [deviceObjectKeys_eq_map, List.length_map]

theorem device_field_mem_deviceObjectKeys {field : String} (hfield : field ∈ deviceFields) :
    ks.device p field ∈ ks.deviceObjectKeys p contacts :=
  device_mem_deviceObjectKeys.mpr ⟨rfl, deviceField_mem_objectSteps hfield⟩

/-- What a sensor publishes is an object of its device. Contacts must be among those that count. -/
theorem sensorField_mem_objectSteps_of_publishes (hfield : kind.publishes field = true)
    (hindex : kind.isIndexed = true → index < contacts) :
    sensorField kind index field ∈ objectSteps contacts := by
  unfold SensorKind.publishes at hfield
  cases kind with
  | temperature => exact sensorField_mem_objectSteps rfl (of_decide_eq_true hfield)
  | humidity => exact sensorField_mem_objectSteps rfl (of_decide_eq_true hfield)
  | digitalInput =>
    obtain ⟨text, htext, rfl⟩ := List.mem_map.mp (of_decide_eq_true hfield)
    exact contactField_mem_objectSteps (hindex rfl) htext

theorem sensor_mem_deviceObjectKeys (hfield : kind.publishes field = true)
    (hindex : kind.isIndexed = true → index < contacts) :
    ks.sensor p kind index field ∈ ks.deviceObjectKeys p contacts := by
  rw [sensor_eq_device]
  exact device_mem_deviceObjectKeys.mpr
    ⟨rfl, sensorField_mem_objectSteps_of_publishes hfield hindex⟩

theorem disabledSensorKeys_subset (ks : KeySpace) (p : Nat)
    (hindex : kind.isIndexed = true → index < contacts) :
    ks.disabledSensorKeys p kind index ⊆ ks.deviceObjectKeys p contacts := by
  have hstatus : ks.sensor p kind index (some "status") ∈ ks.deviceObjectKeys p contacts :=
    sensor_mem_deviceObjectKeys kind.publishes_status hindex
  intro name hname
  unfold disabledSensorKeys at hname
  split at hname
  · obtain rfl := List.mem_singleton.mp hname
    exact hstatus
  · next hkind =>
    rcases List.mem_pair.mp hname with rfl | rfl
    · refine sensor_mem_deviceObjectKeys ?_ hindex
      rw [SensorKind.publishes, if_neg hkind]
      decide
    · exact hstatus

end RackTelemetry.KeySpace
