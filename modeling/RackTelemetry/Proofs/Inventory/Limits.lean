import Mathlib.Data.List.TakeWhile
import RackTelemetry.Proofs.Alarm.Arrival
import RackTelemetry.Proofs.Inventory.Outlets
import RackTelemetry.Proofs.Inventory.Slots
import RackTelemetry.Site.Value

/-!
The limits of the registries. Every operation on devices keeps their keys distinct and acceptable
and their groups within the limit; an outlet list or an alarm list that is too long is refused.
-/

namespace RackTelemetry

/-- A key as it stands at the end of a path. -/
def Value.IsSegment (key : String) : Prop := key ≠ "" ∧ '/' ∉ key.toList

theorem Value.isSegment_lastSegment {value key : String} (h : lastSegment value = .ok key) :
    IsSegment key := by
  unfold lastSegment at h
  split at h
  · next c cs hafter =>
    obtain rfl := Except.ok.inj h
    refine ⟨by simp, ?_⟩
    unfold afterSlash? at hafter
    split at hafter
    · -- what was taken up to the first slash from the end has no slash
      intro hslash
      rw [String.toList_ofList, ← Option.some.inj hafter, List.mem_reverse] at hslash
      have hnone := List.mem_takeWhile_imp hslash
      simp at hnone
    · cases hafter
  · cases h

/-- A path that ends in a key, whatever stands before it. -/
def Value.EndsIn (path key : String) : Prop := IsSegment key ∧ ∃ stem, path = stem ++ "/" ++ key

theorem Value.lastSegment_of_endsIn {path key : String} (h : EndsIn path key) :
    lastSegment path = .ok key := by
  obtain ⟨⟨hne, hslash⟩, stem, rfl⟩ := h
  have hlist : (stem ++ "/" ++ key).toList = stem.toList ++ '/' :: key.toList := by
    simp only [String.toList_append, List.append_assoc]
    rfl
  have hkept : ∀ c ∈ key.toList.reverse, (c != '/') = true := by
    intro c hc
    rw [bne_iff_ne]
    rintro rfl
    exact hslash (List.mem_reverse.mp hc)
  have hafter : afterSlash? (stem ++ "/" ++ key).toList = some key.toList := by
    rw [afterSlash?, hlist, if_pos (by simp), List.reverse_append, List.reverse_cons,
      List.append_assoc, List.takeWhile_append_of_pos hkept, List.singleton_append,
      List.takeWhile_cons_of_neg (by simp), List.append_nil, List.reverse_reverse]
  rw [lastSegment, hafter]
  cases hchars : key.toList with
  | nil => exact absurd (String.toList_inj.mp hchars) hne
  | cons c cs => exact congrArg Except.ok (by rw [← hchars, String.ofList_toList])

/-! ### Devices -/

namespace DeviceRegistry

/-- Keys are distinct and acceptable, and no device has more sensors of a kind than it may have. -/
structure Sound (IsKey : String → Prop) (r : DeviceRegistry) : Prop where
  distinct : r.keys.Nodup
  named : ∀ device ∈ r.devices, IsKey device.key
  bounded : ∀ device ∈ r.devices, ∀ kind, (device.group kind).length ≤ r.maxSensors

variable {IsKey : String → Prop} {r after : DeviceRegistry}

theorem Sound.of_perm (h : r.Sound IsKey) (hperm : after.devices.Perm r.devices)
    (hlimit : after.maxSensors = r.maxSensors) : after.Sound IsKey := by
  refine ⟨(hperm.map Device.key).nodup_iff.mpr h.distinct, ?_, ?_⟩
  · intro device hmem
    exact h.named device (hperm.mem_iff.mp hmem)
  · intro device hmem kind
    rw [hlimit]
    exact h.bounded device (hperm.mem_iff.mp hmem) kind

theorem Sound.of_sublist (h : r.Sound IsKey) (hsublist : after.devices.Sublist r.devices)
    (hlimit : after.maxSensors = r.maxSensors) : after.Sound IsKey := by
  refine ⟨h.distinct.sublist (hsublist.map Device.key), ?_, ?_⟩
  · intro device hmem
    exact h.named device (hsublist.subset hmem)
  · intro device hmem kind
    rw [hlimit]
    exact h.bounded device (hsublist.subset hmem) kind

theorem Sound.inserted (h : r.Sound IsKey) {index : Nat} {key : String} (hkey : IsKey key)
    (hnew : key ∉ r.keys) (hindex : index ≤ r.devices.length) :
    (r.inserted index key).Sound IsKey := by
  refine ⟨nodup_keys_inserted h.distinct hindex hnew, ?_, ?_⟩
  · intro device hmem
    rcases (mem_inserted hindex).mp hmem with rfl | hold
    · exact hkey
    · exact h.named device hold
  · intro device hmem kind
    rcases (mem_inserted hindex).mp hmem with rfl | hold
    · cases kind <;> exact Nat.zero_le _
    · exact h.bounded device hold kind

/-- A device is replaced by one with the same key whose groups are within the limit. -/
theorem Sound.replace (h : r.Sound IsKey) {p : Nat} {device other : Device}
    (hp : r.devices[p]? = some device) (hkey : other.key = device.key)
    (hbounded : ∀ kind, (other.group kind).length ≤ r.maxSensors) :
    (r.replace p other).Sound IsKey := by
  refine ⟨(keys_replace hp hkey).symm ▸ h.distinct, ?_, ?_⟩
  · intro found hmem
    rcases List.mem_or_eq_of_mem_set hmem with hold | rfl
    · exact h.named found hold
    · rw [hkey]
      exact h.named device (List.mem_of_getElem? hp)
  · intro found hmem kind
    rcases List.mem_or_eq_of_mem_set hmem with hold | rfl
    · exact h.bounded found hold kind
    · exact hbounded kind

theorem Sound.withGroup (h : r.Sound IsKey) {p : Nat} {device : Device}
    (hp : r.devices[p]? = some device) {kind : SensorKind} {sensors : SensorGroup}
    (hlength : sensors.length ≤ r.maxSensors) :
    (r.replace p (device.withGroup kind sensors)).Sound IsKey := by
  apply h.replace hp (device.key_withGroup kind sensors)
  intro other
  rw [Device.group_withGroup]
  split
  · exact hlength
  · exact h.bounded device (List.mem_of_getElem? hp) other

/-- Another sensor in a slot leaves a group as long as it is. -/
theorem Sound.withSlot (h : r.Sound IsKey) {p index : Nat} {kind : SensorKind} {device : Device}
    (hp : r.devices[p]? = some device) (sensor : Sensor) :
    (r.replace p (device.withSlot kind index sensor)).Sound IsKey := by
  apply h.withGroup hp
  rw [List.length_set]
  exact h.bounded device (List.mem_of_getElem? hp) kind

end DeviceRegistry

/-! ### Outlets -/

namespace OutletRegistry

def Sound (r : OutletRegistry) : Prop := r.outlets.length ≤ r.maxOutlets

variable {r after : OutletRegistry} {index : Nat}

theorem sound_reset {count : Nat} (h : r.reset count = .ok after) :
    after.Sound ∧ after.maxOutlets = r.maxOutlets := by
  unfold reset at h
  split at h
  · cases h
  · next hle =>
    obtain rfl := Except.ok.inj h
    refine ⟨?_, rfl⟩
    rw [Sound, List.length_replicate]
    exact Nat.le_of_not_lt hle

/-- A change of one outlet leaves the list as long as it is. -/
theorem Sound.update (hsound : r.Sound) {change : Outlet → Outlet}
    (h : r.update index change = .ok after) :
    after.Sound ∧ after.maxOutlets = r.maxOutlets := by
  have hlength := length_update h
  obtain ⟨-, rfl⟩ := update_eq_ok_iff.mp h
  exact ⟨hlength.trans_le hsound, rfl⟩

theorem Sound.setTopic (hsound : r.Sound) {topic : String}
    (h : r.setTopic index topic = .ok after) :
    after.Sound ∧ after.maxOutlets = r.maxOutlets := by
  unfold OutletRegistry.setTopic at h
  split at h
  · cases h
  · exact hsound.update h

end OutletRegistry

/-! ### The alarm list that is being received -/

namespace AlarmDraft

def Sound (draft : AlarmDraft) : Prop :=
  ∀ slots, draft.slots = some slots → slots.length ≤ draft.maxAlarms

theorem sound_begin (draft : AlarmDraft) (count : Nat) : (draft.begin count).1.Sound := by
  unfold AlarmDraft.begin
  split
  · intro slots hslots
    cases hslots
  · next hle =>
    intro slots hslots
    obtain rfl := Option.some.inj hslots
    rw [List.length_replicate]
    exact Nat.le_of_not_lt hle

theorem Sound.setField {draft after : AlarmDraft} (hsound : draft.Sound) {index : Nat}
    {field : AlarmField} {value : String} (h : draft.setField index field value = .ok after) :
    after.Sound := by
  obtain ⟨slots, slot, filled, hslots, -, -, rfl⟩ := setField_eq_ok_iff.mp h
  intro changed hchanged
  obtain rfl := Option.some.inj hchanged
  rw [List.length_set]
  exact hsound slots hslots

/-- Taking a list closes it, or leaves it as it is. -/
theorem Sound.takeComplete {draft : AlarmDraft} (h : draft.Sound) :
    draft.takeComplete.1.Sound := by
  unfold AlarmDraft.takeComplete
  split
  · split
    · intro slots hslots
      cases hslots
    · exact h
  · exact h

/-- A list that is taken has no more alarms than it may have. -/
theorem Sound.length_takeComplete {draft : AlarmDraft} (h : draft.Sound) {received : List Alarm}
    (htaken : draft.takeComplete.2 = some received) : received.length ≤ draft.maxAlarms := by
  unfold AlarmDraft.takeComplete at htaken
  split at htaken
  · next slots hslots =>
    split at htaken
    · obtain rfl := Option.some.inj htaken
      exact Nat.le_trans (List.length_filterMap_le _ _) (h slots hslots)
    · cases htaken
  · cases htaken

end AlarmDraft

end RackTelemetry
