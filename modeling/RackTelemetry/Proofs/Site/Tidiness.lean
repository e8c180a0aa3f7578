import RackTelemetry.Proofs.Naming.Collision
import RackTelemetry.Proofs.Site.Upkeep

/-!
A tidy site has nothing published for outlets that are not there, nor for the temperature or the
humidity of a device without sensors of it. No value withdraws what is published for them: whatever
has no object after a change was published by then exactly if it was published before. So a change
leaves a tidy site unless it drops the object of something published.
-/

namespace RackTelemetry

open KeySpace DeviceRegistry

theorem DeviceRegistry.Slot.group_ne_nil {r : DeviceRegistry} {p index : Nat} {kind : SensorKind}
    {device : Device} {sensor : Sensor} (h : r.Slot p kind index device sensor) :
    device.group kind ≠ [] := by
  intro hnil
  have hholds := h.holds
  rw [hnil] at hholds
  cases hholds

/-- Another sensor in a slot leaves no group without sensors. -/
theorem Device.group_withSlot_eq_nil {device : Device} {kind other : SensorKind} {index : Nat}
    {sensor : Sensor} :
    (device.withSlot kind index sensor).group other = [] ↔ device.group other = [] := by
  rw [withSlot, group_withGroup]
  split
  · next hkind =>
    subst hkind
    exact List.set_eq_nil_iff index sensor
  · rfl

namespace Site

structure Tidy (ks : KeySpace) (site : Site) : Prop where
  outlets : ∀ i field value, site.store.get? (ks.outlet i field) = some value →
    i < site.outlets.outlets.length
  sensors : ∀ p device, site.devices.devices[p]? = some device → ∀ kind : SensorKind,
    kind.isIndexed = false → device.group kind = [] →
      ∀ field, site.entry ks p (sensorField kind 0 field) = none

/-- Something that was published has no object afterwards, whether or not it had one before: the
outlet is not there, or the device is and has no sensors of the kind. -/
inductive Drops (ks : KeySpace) (before after : Site) : Prop where
  | outlet {i : Nat} {field value : String}
    (hpublished : before.store.get? (ks.outlet i field) = some value)
    (hgone : after.outlets.outlets.length ≤ i)
  | sensors {p q : Nat} {device left : Device} {kind : SensorKind} {field : Option String}
    {value : String} (hkind : kind.isIndexed = false)
    (hstood : before.devices.devices[p]? = some device)
    (hpublished : before.entry ks p (sensorField kind 0 field) = some value)
    (hstands : after.devices.devices[q]? = some left) (hkey : left.key = device.key)
    (hgone : left.group kind = [])

/-- What a device without sensors of a kind has published for it, it had published before. -/
def LeavesSensors (ks : KeySpace) (before after : Site) : Prop :=
  ∀ (q : Nat) (left : Device) (kind : SensorKind) (field : Option String) (value : String),
    after.devices.devices[q]? = some left → kind.isIndexed = false → left.group kind = [] →
      (after.entry ks q (sensorField kind 0 field) = some value ↔
        ∃ p device, before.devices.devices[p]? = some device ∧ left.key = device.key ∧
          before.entry ks p (sensorField kind 0 field) = some value)

/-- What has no object afterwards is published then exactly if it was published before. -/
structure Leaves (ks : KeySpace) (before after : Site) : Prop where
  outlets : ∀ i field, after.outlets.outlets.length ≤ i →
    after.store.get? (ks.outlet i field) = before.store.get? (ks.outlet i field)
  sensors : LeavesSensors ks before after

variable {ks : KeySpace} {site after : Site}

theorem Leaves.tidy_iff (h : Leaves ks site after) : Tidy ks after ↔ ¬ Drops ks site after := by
  constructor
  · rintro htidy (⟨hpublished, hgone⟩ | ⟨hkind, hstood, hpublished, hstands, hkey, hgone⟩)
    · rw [← h.outlets _ _ hgone] at hpublished
      have hthere := htidy.outlets _ _ _ hpublished
      omega
    · have hstale := (h.sensors _ _ _ _ _ hstands hkind hgone).mpr ⟨_, _, hstood, hkey, hpublished⟩
      rw [htidy.sensors _ _ hstands _ hkind hgone] at hstale
      cases hstale
  · intro hkept
    refine ⟨?_, ?_⟩
    · intro i field value hvalue
      apply Nat.lt_of_not_le
      intro hgone
      rw [h.outlets i field hgone] at hvalue
      exact hkept (.outlet hvalue hgone)
    · intro q left hq kind hkind hgone field
      cases hvalue : after.entry ks q (sensorField kind 0 field) with
      | none => rfl
      | some value =>
        obtain ⟨p, device, hp, hkey, hpublished⟩ :=
          (h.sensors q left kind field value hq hkind hgone).mp hvalue
        exact absurd (.sensors hkind hp hpublished hq hkey hgone) hkept

/-! ### What a change leaves of the sensors -/

/-- The devices stay where they are, and what is published for kinds without sensors stays. -/
theorem Mirrored.leavesSensors_of_places (h : Mirrored ks site)
    (hplaces : ∀ (q : Nat) (left : Device), after.devices.devices[q]? = some left →
      ∃ device, site.devices.devices[q]? = some device ∧ left.key = device.key)
    (hentry : ∀ (q : Nat) (left : Device) (kind : SensorKind) (field : Option String),
      after.devices.devices[q]? = some left → kind.isIndexed = false → left.group kind = [] →
        after.entry ks q (sensorField kind 0 field) = site.entry ks q (sensorField kind 0 field)) :
    LeavesSensors ks site after := by
  intro q left kind field value hq hkind hgone
  obtain ⟨device, hdevice, hkey⟩ := hplaces q left hq
  rw [hentry q left kind field hq hkind hgone]
  constructor
  · intro hvalue
    exact ⟨q, device, hdevice, hkey, hvalue⟩
  · rintro ⟨p, other, hp, hother, hvalue⟩
    obtain rfl := position_unique h.distinct hp hdevice (hother.symm.trans hkey)
    exact hvalue

/-- Devices that are carried along keep what is published for them. -/
theorem Mirrored.leavesSensors_of_carried (h : Mirrored ks site)
    (hcarried : Carried ks site after) : LeavesSensors ks site after := by
  intro q left kind field value hq _ _
  rcases hcarried q left hq with ⟨p, hp, hentries⟩ | ⟨hnew, -, hentries⟩
  · rw [hentries]
    constructor
    · intro hvalue
      exact ⟨p, left, hp, rfl, hvalue⟩
    · rintro ⟨o, device, ho, hkey, hvalue⟩
      obtain rfl := position_unique h.distinct ho hp hkey.symm
      exact hvalue
  · rw [hentries, if_neg (sensorField_ne_key kind 0 field)]
    constructor
    · intro hvalue
      cases hvalue
    · rintro ⟨o, device, ho, hkey, -⟩
      exact absurd (hkey ▸ List.mem_map_of_mem (List.mem_of_getElem? ho)) hnew

/-- Nothing happens to the devices, nor to what is published for them. -/
theorem Mirrored.leavesSensors_of_ambient (h : Mirrored ks site)
    (hdevices : after.devices.devices = site.devices.devices)
    (hstore : ∀ name, ks.Ambient name → after.store.get? name = site.store.get? name) :
    LeavesSensors ks site after := by
  apply h.leavesSensors_of_places
  · intro q left hq
    rw [hdevices] at hq
    exact ⟨left, hq, rfl⟩
  · intro q left kind field _ _ _
    exact hstore _ (ks.ambient_device q _)

/-- A device is replaced by one with the same key, and what is published for kinds of which that has
no sensors stays. -/
theorem Mirrored.leavesSensors_of_replace (h : Mirrored ks site) {p : Nat} {device other : Device}
    (hp : site.devices.devices[p]? = some device) (hkey : other.key = device.key)
    (hdevices : after.devices = site.devices.replace p other)
    (hstore : ∀ q kind field, kind.isIndexed = false → (q = p → other.group kind = []) →
      after.store.get? (ks.device q (sensorField kind 0 field)) =
        site.store.get? (ks.device q (sensorField kind 0 field))) :
    LeavesSensors ks site after := by
  have hlt : p < site.devices.devices.length := (List.getElem?_eq_some_iff.mp hp).1
  apply h.leavesSensors_of_places
  · intro q left hq
    rw [hdevices, getElem?_replace] at hq
    split at hq
    · next heq =>
      subst heq
      rw [if_pos hlt] at hq
      obtain rfl := Option.some.inj hq
      exact ⟨device, hp, hkey⟩
    · exact ⟨left, hq, rfl⟩
  · intro q left kind field hq hkind hgone
    apply hstore q kind field hkind
    rintro rfl
    rw [hdevices, getElem?_replace, if_pos rfl, if_pos hlt] at hq
    obtain rfl := Option.some.inj hq
    exact hgone

/-- What happens to one sensor touches its own fields at most. -/
theorem Mirrored.leavesSensors_of_slot (h : Mirrored ks site) {p index : Nat} {kind : SensorKind}
    {device : Device} {sensor other : Sensor} (hslot : site.devices.Slot p kind index device sensor)
    (hdevices : after.devices = site.devices.replace p (device.withSlot kind index other))
    (hstore : ∀ name, (∀ field, name ≠ ks.device p (sensorField kind index field)) →
      after.store.get? name = site.store.get? name) : LeavesSensors ks site after := by
  apply h.leavesSensors_of_replace hslot.stands (Device.key_withSlot ..) hdevices
  intro q found field _ hgone
  apply hstore
  intro field' hname
  obtain ⟨rfl, hstep⟩ := device_inj.mp hname
  obtain rfl := kind_of_sensorField hstep
  exact hslot.group_ne_nil (Device.group_withSlot_eq_nil.mp (hgone rfl))

/-! ### Every change -/

theorem not_outlet_global (i : Nat) (field : String) :
    ({} : KeySpace).outlet i field ∉ TopicTable.globalNames := by
  have hall : ∀ name ∈ TopicTable.globalNames, ¬ "outlet.".toList <+: name.toList := by decide
  intro hmem
  apply hall _ hmem
  refine ⟨(toString (Number.ordinal i) ++ "." ++ field).toList, ?_⟩
  simp [KeySpace.outlet]

theorem Mirrored.leavesSensors (h : Mirrored {} site) (hchange : Change {} site after) :
    LeavesSensors {} site after := by
  cases hchange with
  | unchanged => exact h.leavesSensors_of_ambient rfl fun _ _ => rfl
  | devicesCounted count =>
    by_cases hcount : count = 0
    · subst hcount
      exact h.leavesSensors_of_carried (truncated_countDevices_zero {} site).carried
    · rw [countDevices, if_neg hcount]
      exact h.leavesSensors_of_ambient rfl fun _ _ => rfl
  | deviceAnnounced position hkey =>
    exact h.leavesSensors_of_carried (h.carried_announce hkey position)
  | devicePublished hp hfield hkey hset =>
    refine h.leavesSensors_of_places (fun q left hq => ⟨left, hq, rfl⟩) ?_
    intro q left kind field _ _ _
    refine Store.get?_set_other hset ?_
    intro hname
    exact DeviceObject.own_ne_sensorField hfield kind 0 field (device_inj.mp hname).2.symm
  | sensorsCounted kind hp _ =>
    refine h.leavesSensors_of_replace hp (Device.key_withGroup ..) rfl ?_
    intro q other field hother _
    refine Store.get?_delMany_of_notMem ?_
    intro hmem
    obtain ⟨i, field', hname⟩ := contact_of_mem_dropped hmem
    have hstep := (device_inj.mp hname).2
    exact DeviceObject.reading_ne_contact hother i field (some field') hstep
  | sensorAnnounced hslot _ _ _ => exact h.leavesSensors_of_slot hslot rfl fun _ _ => rfl
  | sensorStarted hslot _ _ _ _ hset =>
    refine h.leavesSensors_of_slot hslot rfl ?_
    intro name hname
    rw [sensor_eq_device] at hset
    exact Store.get?_set_other hset (hname _)
  | sensorPublished hslot _ _ hset =>
    refine h.leavesSensors_of_places (fun q left hq => ⟨left, hq, rfl⟩) ?_
    intro q left other field' hq _ hgone
    refine Store.get?_set_other hset ?_
    rw [sensor_eq_device]
    intro hname
    obtain ⟨rfl, hstep⟩ := device_inj.mp hname
    obtain rfl := kind_of_sensorField hstep
    obtain rfl := Option.some.inj (hq.symm.trans hslot.stands)
    exact hslot.group_ne_nil hgone
  | sensorSwitched hslot _ => exact h.leavesSensors_of_slot hslot rfl fun _ _ => rfl
  | sensorDisabled hslot _ _ =>
    refine h.leavesSensors_of_slot hslot rfl ?_
    intro name hname
    refine Store.get?_delMany_of_notMem ?_
    intro hmem
    obtain ⟨field, heq⟩ := disabledSensorKeys_eq hmem
    exact hname field heq
  | outletsChanged outlets => exact h.leavesSensors_of_ambient rfl fun _ _ => rfl
  | outletPublished _ _ hset =>
    refine h.leavesSensors_of_ambient rfl ?_
    intro name hambient
    refine Store.get?_set_other hset ?_
    rintro rfl
    exact not_ambient_outlet _ _ hambient
  | draftChanged _ => exact h.leavesSensors_of_ambient rfl fun _ _ => rfl
  | globalPublished hname hset =>
    refine h.leavesSensors_of_ambient rfl ?_
    intro name hambient
    refine Store.get?_set_other hset ?_
    rintro rfl
    exact not_ambient_global _ hname hambient

/-- No change withdraws what is published for objects that are not there. -/
theorem Mirrored.leaves (h : Mirrored {} site) (hchange : Change {} site after) :
    Leaves {} site after := by
  refine ⟨?_, h.leavesSensors hchange⟩
  intro i field hgone
  apply h.published_unowned hchange (not_ambient_outlet i field)
  · intro j other hname
    obtain ⟨rfl, -⟩ := outlet_inj.mp hname
    exact hgone
  · exact not_outlet_global i field

end Site

end RackTelemetry
