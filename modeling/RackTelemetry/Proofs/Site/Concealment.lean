import RackTelemetry.Proofs.Site.Upkeep

/-!
Disabled sensors are concealed. A disabled contact has no status; where the sensors of a kind share
their entries, the reading and the status are gone once all of them are disabled. Values only go to
sensors that are not disabled, a sensor that becomes disabled takes its entries along, and a device
that moves keeps its sensors together with their entries. What makes this an invariant is that a
sensor is disabled by its key: a slot that still waits for its key is not disabled, so the status
that comes with the first key is none of a concealed sensor.
-/

namespace RackTelemetry

open KeySpace DeviceRegistry

/-! ### What a group of sensors conceals -/

namespace KeySpace

/-- The steps below a device of the names that go when one of its sensors is disabled. -/
def disabledSteps (kind : SensorKind) (index : Nat) : List String :=
  if kind.isIndexed then [sensorField kind index (some "status")]
  else [sensorField kind index none, sensorField kind index (some "status")]

theorem mem_disabledSensorKeys {ks : KeySpace} {p index : Nat} {kind : SensorKind} {s : String}
    (h : s ∈ disabledSteps kind index) : ks.device p s ∈ ks.disabledSensorKeys p kind index := by
  unfold disabledSteps at h
  unfold disabledSensorKeys
  split at h
  · next hkind =>
    obtain rfl := List.mem_singleton.mp h
    rw [if_pos hkind, sensor_eq_device]
    exact List.mem_singleton_self _
  · next hkind =>
    rw [if_neg hkind, sensor_eq_device, sensor_eq_device]
    rcases List.mem_pair.mp h with rfl | rfl
    · exact List.mem_cons_self
    · exact List.mem_cons_of_mem _ (List.mem_singleton_self _)

theorem field_of_mem_disabledSteps {kind : SensorKind} {index : Nat} {s : String}
    (h : s ∈ disabledSteps kind index) :
    ∃ field, s = sensorField kind index field ∧
      (kind.isIndexed = true → field = some "status") := by
  unfold disabledSteps at h
  split at h
  · obtain rfl := List.mem_singleton.mp h
    exact ⟨some "status", rfl, fun _ => rfl⟩
  · next hkind =>
    rcases List.mem_pair.mp h with rfl | rfl
    · exact ⟨none, rfl, fun hindexed => absurd hindexed hkind⟩
    · exact ⟨some "status", rfl, fun _ => rfl⟩

theorem disabledSteps_of_not_isIndexed {kind : SensorKind} (h : kind.isIndexed = false) (i : Nat) :
    disabledSteps kind i = disabledSteps kind 0 := by
  unfold disabledSteps
  rw [sensorField_of_not_isIndexed h i, sensorField_of_not_isIndexed h i]

end KeySpace

namespace SensorGroup

variable {group : SensorGroup} {kind : SensorKind} {index : Nat} {sensor : Sensor} {s : String}

/-- The steps of a device under which a group of its sensors may not be published. -/
def Conceals (group : SensorGroup) (kind : SensorKind) (s : String) : Prop :=
  if kind.isIndexed then
    ∃ i sensor, group[i]? = some sensor ∧ sensor.state = .disabled ∧ s ∈ disabledSteps kind i
  else group ≠ [] ∧ (∀ sensor ∈ group, sensor.state = .disabled) ∧ s ∈ disabledSteps kind 0

theorem conceals_iff_of_isIndexed (h : kind.isIndexed = true) : group.Conceals kind s ↔
    ∃ i sensor, group[i]? = some sensor ∧ sensor.state = .disabled ∧ s ∈ disabledSteps kind i := by
  rw [Conceals, if_pos h]

theorem conceals_iff_of_not_isIndexed (h : kind.isIndexed = false) : group.Conceals kind s ↔
    group ≠ [] ∧ (∀ sensor ∈ group, sensor.state = .disabled) ∧ s ∈ disabledSteps kind 0 := by
  rw [Conceals, if_neg (by rw [h]; exact Bool.false_ne_true)]

/-- A step that is concealed belongs to a field of a sensor, for a contact to its status. -/
theorem Conceals.field (h : group.Conceals kind s) :
    ∃ i field, s = sensorField kind i field ∧ (kind.isIndexed = true → field = some "status") := by
  cases hkind : kind.isIndexed with
  | true =>
    obtain ⟨i, sensor, -, -, hs⟩ := (conceals_iff_of_isIndexed hkind).mp h
    obtain ⟨field, hfield, hstatus⟩ := field_of_mem_disabledSteps hs
    exact ⟨i, field, hfield, fun _ => hstatus hkind⟩
  | false =>
    obtain ⟨-, -, hs⟩ := (conceals_iff_of_not_isIndexed hkind).mp h
    obtain ⟨field, hfield, -⟩ := field_of_mem_disabledSteps hs
    exact ⟨0, field, hfield, nofun⟩

/-- Fresh sensors are not disabled. -/
theorem not_conceals_ofCount (count : Nat) (kind : SensorKind) (s : String) :
    ¬ (ofCount count).Conceals kind s := by
  have hfresh : ∀ sensor ∈ ofCount count, sensor.state ≠ .disabled := by
    intro sensor hmem
    obtain rfl := List.eq_of_mem_replicate hmem
    exact nofun
  intro h
  cases hkind : kind.isIndexed with
  | true =>
    obtain ⟨i, sensor, hi, hstate, -⟩ := (conceals_iff_of_isIndexed hkind).mp h
    exact hfresh sensor (List.mem_of_getElem? hi) hstate
  | false =>
    obtain ⟨hne, hall, -⟩ := (conceals_iff_of_not_isIndexed hkind).mp h
    obtain ⟨sensor, hmem⟩ := List.exists_mem_of_ne_nil _ hne
    exact hfresh sensor hmem (hall sensor hmem)

/-- What a group conceals after one of its sensors was replaced, it concealed before, or the sensor
has become disabled and the step is one of those that go with it. -/
theorem conceals_of_set {other : Sensor} (hi : group[index]? = some sensor)
    (h : Conceals (group.set index other) kind s) :
    group.Conceals kind s ∨
      other.state = .disabled ∧ sensor.state ≠ .disabled ∧ s ∈ disabledSteps kind index := by
  have hlt : index < group.length := (List.getElem?_eq_some_iff.mp hi).1
  cases hkind : kind.isIndexed with
  | true =>
    obtain ⟨i, found, hfound, hstate, hs⟩ := (conceals_iff_of_isIndexed hkind).mp h
    by_cases hindex : index = i
    · subst hindex
      rw [List.getElem?_set_self hlt] at hfound
      obtain rfl := Option.some.inj hfound
      by_cases hbefore : sensor.state = .disabled
      · exact .inl ((conceals_iff_of_isIndexed hkind).mpr ⟨index, sensor, hi, hbefore, hs⟩)
      · exact .inr ⟨hstate, hbefore, hs⟩
    · rw [List.getElem?_set_ne hindex] at hfound
      exact .inl ((conceals_iff_of_isIndexed hkind).mpr ⟨i, found, hfound, hstate, hs⟩)
  | false =>
    obtain ⟨-, hall, hs⟩ := (conceals_iff_of_not_isIndexed hkind).mp h
    by_cases hbefore : sensor.state = .disabled
    · -- the sensor was disabled already, and so were all the others
      refine .inl ((conceals_iff_of_not_isIndexed hkind).mpr
        ⟨List.ne_nil_of_length_pos (by omega), ?_, hs⟩)
      intro found hmem
      obtain ⟨i, hfound⟩ := List.mem_iff_getElem?.mp hmem
      by_cases hindex : index = i
      · subst hindex
        obtain rfl := Option.some.inj (hi.symm.trans hfound)
        exact hbefore
      · refine hall found (List.mem_iff_getElem?.mpr ⟨i, ?_⟩)
        rw [List.getElem?_set_ne hindex]
        exact hfound
    · refine .inr ⟨hall other ?_, hbefore, disabledSteps_of_not_isIndexed hkind index ▸ hs⟩
      exact List.mem_iff_getElem?.mpr ⟨index, List.getElem?_set_self hlt⟩

/-- A step that holds a field of a sensor is concealed only if the sensor is disabled, and is not
the wiring of a contact. -/
theorem Conceals.disabled {field : Option String}
    (h : group.Conceals kind (sensorField kind index field)) (hi : group[index]? = some sensor)
    (hfield : kind.publishes field = true) :
    sensor.state = .disabled ∧ field ≠ some "config" := by
  cases hkind : kind.isIndexed with
  | true =>
    obtain rfl : kind = .digitalInput := by
      cases kind with
      | digitalInput => rfl
      | temperature => cases hkind
      | humidity => cases hkind
    obtain ⟨i, found, hfound, hstate, hs⟩ := (conceals_iff_of_isIndexed hkind).mp h
    obtain ⟨other, hsame, hstatus⟩ := field_of_mem_disabledSteps hs
    obtain rfl := hstatus rfl
    obtain ⟨text, -, rfl⟩ := List.mem_map.mp (of_decide_eq_true hfield)
    obtain ⟨rfl, rfl⟩ := contactField_inj.mp hsame
    obtain rfl := Option.some.inj (hi.symm.trans hfound)
    exact ⟨hstate, by decide⟩
  | false =>
    obtain ⟨-, hall, -⟩ := (conceals_iff_of_not_isIndexed hkind).mp h
    refine ⟨hall sensor (List.mem_of_getElem? hi), ?_⟩
    rintro rfl
    cases kind with
    | temperature => cases hfield
    | humidity => cases hfield
    | digitalInput => cases hkind

end SensorGroup

namespace Device

variable {device : Device} {kind : SensorKind} {s : String}

/-- The steps under which a device may not be published. -/
def Conceals (device : Device) (s : String) : Prop := ∃ kind, (device.group kind).Conceals kind s

theorem conceals_of_withGroup {sensors : SensorGroup}
    (h : (device.withGroup kind sensors).Conceals s) :
    sensors.Conceals kind s ∨ device.Conceals s := by
  obtain ⟨other, hother⟩ := h
  rw [group_withGroup] at hother
  split at hother
  · next hkind =>
    subst hkind
    exact .inl hother
  · exact .inr ⟨other, hother⟩

/-- A field of a sensor that is not disabled may be published, and so may the wiring of a contact.
-/
theorem not_conceals_sensor {index : Nat} {sensor : Sensor} {field : Option String}
    (hi : (device.group kind)[index]? = some sensor) (hfield : kind.publishes field = true)
    (hstate : sensor.state = .disabled → field = some "config") :
    ¬ device.Conceals (sensorField kind index field) := by
  rintro ⟨other, h⟩
  obtain ⟨i, text, hsame, -⟩ := h.field
  obtain rfl := kind_of_sensorField hsame
  obtain ⟨hdisabled, hconfig⟩ := h.disabled hi hfield
  exact hconfig (hstate hdisabled)

theorem not_conceals_field (device : Device) {field : String} (hfield : field ∈ deviceFields) :
    ¬ device.Conceals field := by
  rintro ⟨kind, h⟩
  obtain ⟨i, text, rfl, -⟩ := h.field
  obtain ⟨rest, hrest⟩ := objectName_prefix_sensorField kind i text
  have hprefix : kind.objectName.toList <+: (sensorField kind i text).toList := by
    rw [hrest, String.toList_append]
    exact List.prefix_append _ _
  have hother : ∀ kind ∈ SensorKind.all, ∀ field ∈ deviceFields,
      ¬ kind.objectName.toList <+: field.toList := by
    decide
  refine hother kind ?_ _ hfield hprefix
  cases kind with
  | temperature => decide
  | humidity => decide
  | digitalInput => decide

end Device

namespace Site

variable {ks : KeySpace} {site after : Site}

/-! ### The invariant -/

/-- No sensor without a key is disabled, and nothing is published that a device conceals. -/
structure Concealed (ks : KeySpace) (site : Site) : Prop where
  keyed : ∀ device ∈ site.devices.devices, ∀ kind, ∀ sensor ∈ device.group kind,
    sensor.key = none → sensor.state ≠ .disabled
  hidden : ∀ p device s, site.devices.devices[p]? = some device → device.Conceals s →
    site.entry ks p s = none

theorem Concealed.contact (h : Concealed ks site) {p i : Nat} {device : Device} {contact : Sensor}
    (hp : site.devices.devices[p]? = some device) (hi : device.digitalInputs[i]? = some contact)
    (hdisabled : contact.state = .disabled) :
    site.entry ks p (sensorField .digitalInput i (some "status")) = none :=
  h.hidden p device _ hp ⟨.digitalInput, (SensorGroup.conceals_iff_of_isIndexed rfl).mpr
    ⟨i, contact, hi, hdisabled, List.mem_singleton_self _⟩⟩

theorem Concealed.group (h : Concealed ks site) {p : Nat} {device : Device} {kind : SensorKind}
    (hp : site.devices.devices[p]? = some device) (hkind : kind.isIndexed = false)
    (hne : device.group kind ≠ [])
    (hdisabled : ∀ sensor ∈ device.group kind, sensor.state = .disabled) (field : Option String)
    (hfield : field = none ∨ field = some "status") :
    site.entry ks p (sensorField kind 0 field) = none := by
  refine h.hidden p device _ hp
    ⟨kind, (SensorGroup.conceals_iff_of_not_isIndexed hkind).mpr ⟨hne, hdisabled, ?_⟩⟩
  rw [disabledSteps, if_neg (by rw [hkind]; exact Bool.false_ne_true)]
  rcases hfield with rfl | rfl
  · exact List.mem_cons_self
  · exact List.mem_cons_of_mem _ (List.mem_singleton_self _)

/-- The sensors of a device and its entries stay together, wherever the device goes. -/
theorem Concealed.carried (h : Concealed ks site) (hcarried : Carried ks site after) :
    Concealed ks after := by
  have hempty : ∀ (key : String) (kind : SensorKind), ({ key } : Device).group kind = [] := by
    intro key kind
    cases kind with
    | temperature => rfl
    | humidity => rfl
    | digitalInput => rfl
  refine ⟨?_, ?_⟩
  · intro device hmem kind sensor hsensor
    obtain ⟨q, hq⟩ := List.mem_iff_getElem?.mp hmem
    rcases hcarried q device hq with ⟨p, hp, -⟩ | ⟨-, hnew, -⟩
    · exact h.keyed device (List.mem_of_getElem? hp) kind sensor hsensor
    · rw [hnew, hempty] at hsensor
      cases hsensor
  · intro q device s hq hs
    rcases hcarried q device hq with ⟨p, hp, hentries⟩ | ⟨-, hnew, -⟩
    · rw [hentries]
      exact h.hidden p device s hp hs
    · obtain ⟨kind, hkind⟩ := hs
      rw [hnew, hempty] at hkind
      exact absurd hkind (SensorGroup.not_conceals_ofCount 0 kind s)

/-- Only the devices and what is published for them matter. -/
theorem Concealed.of_ambient (h : Concealed ks site)
    (hdevices : after.devices.devices = site.devices.devices)
    (hstore : ∀ name, ks.Ambient name → after.store.get? name = site.store.get? name) :
    Concealed ks after := by
  refine ⟨?_, ?_⟩
  · rw [hdevices]
    exact h.keyed
  · intro p device s hp hs
    rw [hdevices] at hp
    rw [entry, hstore _ (ks.ambient_device p s)]
    exact h.hidden p device s hp hs

/-- A value goes where nothing is concealed. -/
theorem Concealed.set_entry (h : Concealed ks site) {p : Nat} {device : Device} {s value : String}
    {store : Store} (hp : site.devices.devices[p]? = some device) (hs : ¬ device.Conceals s)
    (hset : site.store.set (ks.device p s) value = .ok store) :
    Concealed ks { site with store } := by
  refine ⟨h.keyed, ?_⟩
  intro q other t hq ht
  refine (Store.get?_set_other hset ?_).trans (h.hidden q other t hq ht)
  intro heq
  obtain ⟨rfl, rfl⟩ := device_inj.mp heq
  obtain rfl := Option.some.inj (hq.symm.trans hp)
  exact hs ht

theorem Concealed.set_sensor (h : Concealed ks site) {p index : Nat} {kind : SensorKind}
    {device : Device} {sensor : Sensor} {field : Option String} {value : String} {store : Store}
    (hslot : site.devices.Slot p kind index device sensor) (hfield : kind.publishes field = true)
    (hstate : sensor.state = .disabled → field = some "config")
    (hset : site.store.set (ks.sensor p kind index field) value = .ok store) :
    Concealed ks { site with store } := by
  rw [sensor_eq_device] at hset
  exact h.set_entry hslot.stands (Device.not_conceals_sensor hslot.holds hfield hstate) hset

theorem Concealed.set_elsewhere (h : Concealed ks site) {name value : String} {store : Store}
    (hname : ¬ ks.Ambient name) (hset : site.store.set name value = .ok store) :
    Concealed ks { site with store } := by
  refine h.of_ambient rfl ?_
  intro other hambient
  refine Store.get?_set_other hset ?_
  rintro rfl
  exact hname hambient

/-- A device is replaced; what it conceals only now is withdrawn. -/
theorem Concealed.replace (h : Concealed ks site) {p : Nat} {device other : Device}
    (names : List String) (hp : site.devices.devices[p]? = some device)
    (hkeyed : ∀ kind, ∀ sensor ∈ other.group kind, sensor.key = none → sensor.state ≠ .disabled)
    (hgone : ∀ s, other.Conceals s → device.Conceals s ∨ ks.device p s ∈ names) :
    Concealed ks
      (({ site with devices := site.devices.replace p other } : Site).withdraw names) := by
  have hlt : p < site.devices.devices.length := (List.getElem?_eq_some_iff.mp hp).1
  refine ⟨?_, ?_⟩
  · intro found hmem
    rcases List.mem_or_eq_of_mem_set hmem with hold | rfl
    · exact h.keyed found hold
    · exact hkeyed
  · intro q found s hq hs
    simp only [withdraw, getElem?_replace] at hq
    simp only [entry, withdraw, Store.get?_delMany]
    split
    · rfl
    · next hstays =>
      split at hq
      · next hpq =>
        subst hpq
        rw [if_pos hlt] at hq
        obtain rfl := Option.some.inj hq
        rcases hgone s hs with hold | hmem
        · exact h.hidden p device s hp hold
        · exact absurd hmem hstays
      · exact h.hidden q found s hq hs

/-- A sensor is replaced. If that makes it disabled, the names that go with it are withdrawn. -/
theorem Concealed.replace_slot (h : Concealed ks site) {p index : Nat} {kind : SensorKind}
    {device : Device} {sensor other : Sensor} (names : List String)
    (hslot : site.devices.Slot p kind index device sensor)
    (hkeyed : other.key = none → other.state ≠ .disabled)
    (hgone : other.state = .disabled → sensor.state ≠ .disabled →
      ∀ s ∈ disabledSteps kind index, ks.device p s ∈ names) :
    Concealed ks
      (({ site with
          devices := site.devices.replace p (device.withSlot kind index other) } : Site).withdraw
        names) := by
  refine h.replace names hslot.stands ?_ ?_
  · intro kind' found hmem
    rw [Device.withSlot, Device.group_withGroup] at hmem
    split at hmem
    · rcases List.mem_or_eq_of_mem_set hmem with hold | rfl
      · exact h.keyed device (List.mem_of_getElem? hslot.stands) kind found hold
      · exact hkeyed
    · exact h.keyed device (List.mem_of_getElem? hslot.stands) kind' found hmem
  · intro s hs
    rcases Device.conceals_of_withGroup hs with hset | hold
    · rcases SensorGroup.conceals_of_set hslot.holds hset with hold | ⟨hnow, hbefore, hmem⟩
      · exact .inl ⟨kind, hold⟩
      · exact .inr (hgone hnow hbefore s hmem)
    · exact .inl hold

/-- The sensor in a slot that waits for its key is not disabled. -/
theorem Concealed.waiting (h : Concealed ks site) {p index : Nat} {kind : SensorKind}
    {device : Device} {sensor : Sensor} (hslot : site.devices.Slot p kind index device sensor)
    (hnone : sensor.key = none) : sensor.state ≠ .disabled :=
  h.keyed device (List.mem_of_getElem? hslot.stands) kind sensor (List.mem_of_getElem? hslot.holds)
    hnone

/-- A slot gets its key. -/
theorem Concealed.keyed_slot (h : Concealed ks site) {p index : Nat} {kind : SensorKind}
    {device : Device} {sensor : Sensor} (key : String)
    (hslot : site.devices.Slot p kind index device sensor) (hnone : sensor.key = none) :
    Concealed ks { site with
      devices :=
        site.devices.replace p (device.withSlot kind index { sensor with key := some key }) } := by
  have hwaiting := h.waiting hslot hnone
  exact h.replace_slot [] hslot nofun fun hdisabled => absurd hdisabled hwaiting

/-- A device gets fresh sensors of a kind. -/
theorem Concealed.sensorsCounted (h : Concealed ks site) {p : Nat} {device : Device}
    (kind : SensorKind) (count : Nat) (names : List String)
    (hp : site.devices.devices[p]? = some device) :
    Concealed ks (({ site with
      devices := site.devices.replace p (device.withGroup kind (.ofCount count)) } : Site).withdraw
        names) := by
  refine h.replace names hp ?_ ?_
  · intro kind' found hmem
    rw [Device.group_withGroup] at hmem
    split at hmem
    · obtain rfl := List.eq_of_mem_replicate hmem
      exact fun _ => nofun
    · exact h.keyed device (List.mem_of_getElem? hp) kind' found hmem
  · intro s hs
    rcases Device.conceals_of_withGroup hs with hfresh | hold
    · exact absurd hfresh (SensorGroup.not_conceals_ofCount count kind s)
    · exact .inl hold

/-- Under the usual roots, every change of a site that mirrors its devices leaves disabled sensors
concealed. -/
theorem Concealed.change (h : Concealed {} site) (hmirrored : Mirrored {} site)
    (hchange : Change {} site after) : Concealed {} after := by
  cases hchange with
  | unchanged => exact h
  | devicesCounted count =>
    by_cases hcount : count = 0
    · subst hcount
      exact h.carried (truncated_countDevices_zero {} site).carried
    · rw [countDevices, if_neg hcount]
      exact h.of_ambient rfl fun _ _ => rfl
  | deviceAnnounced position hkey => exact h.carried (hmirrored.carried_announce hkey position)
  | devicePublished hp hfield _ hset =>
    exact h.set_entry hp (Device.not_conceals_field _ hfield) hset
  | sensorsCounted kind hp _ => exact h.sensorsCounted kind _ _ hp
  | sensorAnnounced hslot hnone _ _ => exact h.keyed_slot _ hslot hnone
  | sensorStarted hslot hnone _ _ _ hset =>
    have hwaiting := h.waiting hslot hnone
    have hstarted := h.set_sensor hslot (SensorKind.publishes_status _)
      (fun hdisabled => absurd hdisabled hwaiting) hset
    exact hstarted.keyed_slot _ hslot hnone
  | sensorPublished hslot hfield hstate hset => exact h.set_sensor hslot hfield hstate hset
  | sensorSwitched hslot hstate =>
    refine h.replace_slot [] hslot ?_ ?_
    · exact fun hnone hdisabled => h.waiting hslot hnone (hstate hdisabled)
    · exact fun hdisabled hbefore => absurd (hstate hdisabled) hbefore
  | sensorDisabled hslot hkey _ =>
    refine h.replace_slot _ hslot ?_ ?_
    · exact fun hnone => absurd hnone hkey
    · exact fun _ _ s hs => mem_disabledSensorKeys hs
  | outletsChanged outlets => exact h.of_ambient rfl fun _ _ => rfl
  | outletPublished _ _ hset =>
    exact (h.set_elsewhere (not_ambient_outlet _ _) hset).of_ambient rfl fun _ _ => rfl
  | draftChanged _ => exact h.of_ambient rfl fun _ _ => rfl
  | globalPublished hname hset => exact h.set_elsewhere (not_ambient_global _ hname) hset

end Site

end RackTelemetry
