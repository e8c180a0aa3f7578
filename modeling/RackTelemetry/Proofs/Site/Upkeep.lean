import RackTelemetry.Proofs.Naming.ObjectKeys
import RackTelemetry.Proofs.Site.Change
import RackTelemetry.Proofs.Site.Truncation

/-!
Under the usual roots, every change keeps a site that mirrors its devices in that state: values go
to entries of devices that are there or below other roots, and a device that has fewer contacts than
before takes the entries of those that went.
-/

namespace RackTelemetry

open KeySpace DeviceRegistry

namespace Site

variable {ks : KeySpace} {site after : Site}

/-- Only the devices and what is published for them matter. -/
theorem Mirrored.of_ambient (h : Mirrored ks site)
    (hdevices : after.devices.devices = site.devices.devices)
    (hstore : ∀ name, ks.Ambient name → after.store.get? name = site.store.get? name) :
    Mirrored ks after := by
  refine ⟨?_, ?_, ?_⟩
  · rw [DeviceRegistry.keys, hdevices]
    exact h.distinct
  · intro p device hp
    rw [hdevices] at hp
    rw [entry, hstore _ (ks.ambient_device p "key")]
    exact h.keyed p device hp
  · intro name value hambient hvalue
    rw [hstore name hambient] at hvalue
    rw [hdevices]
    exact h.owned name value hambient hvalue

/-- A value goes to an entry of a device other than its key. -/
theorem Mirrored.set_entry (h : Mirrored ks site) {p : Nat} {device : Device} {s value : String}
    {store : Store} (hp : site.devices.devices[p]? = some device)
    (hs : s ∈ objectSteps device.contacts) (hkey : s ≠ "key")
    (hset : site.store.set (ks.device p s) value = .ok store) :
    Mirrored ks { site with store } := by
  refine ⟨h.distinct, ?_, ?_⟩
  · intro q other hq
    refine (Store.get?_set_other hset ?_).trans (h.keyed q other hq)
    intro e
    exact hkey (device_inj.mp e).2.symm
  · intro name written hambient hwritten
    by_cases hname : name = ks.device p s
    · subst hname
      exact ⟨p, device, hp, device_mem_deviceObjectKeys.mpr ⟨rfl, hs⟩⟩
    · rw [Store.get?_set_other hset hname] at hwritten
      exact h.owned name written hambient hwritten

theorem Mirrored.set_elsewhere (h : Mirrored ks site) {name value : String} {store : Store}
    (hname : ¬ ks.Ambient name) (hset : site.store.set name value = .ok store) :
    Mirrored ks { site with store } := by
  refine h.of_ambient rfl ?_
  intro other hambient
  refine Store.get?_set_other hset ?_
  rintro rfl
  exact hname hambient

/-- A device is replaced by one with the same key, and entries that it has no longer go. -/
theorem Mirrored.replace (h : Mirrored ks site) {p : Nat} {device other : Device}
    (names : List String) (hp : site.devices.devices[p]? = some device)
    (hkey : other.key = device.key)
    (hnames : ∀ name ∈ names, ∃ s, s ≠ "key" ∧ name = ks.device p s)
    (hgone : ∀ s ∈ objectSteps device.contacts, s ∉ objectSteps other.contacts →
      ks.device p s ∈ names) :
    Mirrored ks
      (({ site with devices := site.devices.replace p other } : Site).withdraw names) := by
  have hlt : p < site.devices.devices.length := (List.getElem?_eq_some_iff.mp hp).1
  refine ⟨?_, ?_, ?_⟩
  · exact (keys_replace hp hkey).symm ▸ h.distinct
  · intro q found hq
    have hkeyed : site.entry ks q "key" = some found.key := by
      simp only [withdraw, getElem?_replace] at hq
      split at hq
      · next heq =>
        subst heq
        rw [if_pos hlt] at hq
        obtain rfl := Option.some.inj hq
        rw [hkey]
        exact h.keyed p device hp
      · exact h.keyed q found hq
    refine (Store.get?_delMany_of_notMem ?_).trans hkeyed
    intro hmem
    obtain ⟨s, hs, e⟩ := hnames _ hmem
    exact hs (device_inj.mp e).2.symm
  · intro name value hambient hvalue
    simp only [withdraw, Store.get?_delMany] at hvalue
    split at hvalue
    · cases hvalue
    · next hstays =>
      obtain ⟨q, found, hq, hmem⟩ := h.owned name value hambient hvalue
      by_cases hqp : p = q
      · subst hqp
        obtain rfl := Option.some.inj (hq.symm.trans hp)
        obtain ⟨s, hs, rfl⟩ := mem_deviceObjectKeys.mp hmem
        refine ⟨p, other, ?_, device_mem_deviceObjectKeys.mpr ⟨rfl, ?_⟩⟩
        · simp only [withdraw, getElem?_replace, if_true, if_pos hlt]
        · exact Decidable.byContradiction fun hs' => hstays (hgone s hs hs')
      · refine ⟨q, found, ?_, hmem⟩
        simp only [withdraw, getElem?_replace, if_neg hqp]
        exact hq

/-- A device is replaced by one with the same key and as many contacts. -/
theorem Mirrored.replace_same (h : Mirrored ks site) {p : Nat} {device other : Device}
    (hp : site.devices.devices[p]? = some device) (hkey : other.key = device.key)
    (hcontacts : other.contacts = device.contacts) :
    Mirrored ks { site with devices := site.devices.replace p other } := by
  refine h.replace [] hp hkey ?_ ?_
  · intro name hmem
    cases hmem
  · intro s hs hgone
    rw [hcontacts] at hgone
    exact absurd hs hgone

theorem Mirrored.set_sensor (h : Mirrored ks site) {p index : Nat} {kind : SensorKind}
    {device : Device} {sensor : Sensor} {field : Option String} {value : String} {store : Store}
    (hslot : site.devices.Slot p kind index device sensor) (hfield : kind.publishes field = true)
    (hset : site.store.set (ks.sensor p kind index field) value = .ok store) :
    Mirrored ks { site with store } := by
  rw [sensor_eq_device] at hset
  exact h.set_entry hslot.stands (sensorField_mem_objectSteps_of_publishes hfield hslot.lt_contacts)
    (sensorField_ne_key kind index field) hset

theorem disabledSensorKeys_eq {p index : Nat} {kind : SensorKind} {name : String}
    (h : name ∈ ks.disabledSensorKeys p kind index) :
    ∃ field, name = ks.device p (sensorField kind index field) := by
  unfold disabledSensorKeys at h
  split at h
  · obtain rfl := List.mem_singleton.mp h
    exact ⟨_, ks.sensor_eq_device p kind index _⟩
  · rcases List.mem_pair.mp h with rfl | rfl
    · exact ⟨_, ks.sensor_eq_device p kind index _⟩
    · exact ⟨_, ks.sensor_eq_device p kind index _⟩

/-- A device gets fresh sensors of a kind; contacts that go take their entries. -/
theorem Mirrored.sensorsCounted (h : Mirrored ks site) {p : Nat} {device : Device}
    (kind : SensorKind) (count : Nat) (hp : site.devices.devices[p]? = some device) :
    Mirrored ks (({ site with
      devices := site.devices.replace p (device.withGroup kind (.ofCount count)) } : Site).withdraw
        (if kind = .digitalInput then
          (List.range' count (device.contacts - count)).flatMap (ks.contactKeys p)
        else [])) := by
  cases kind with
  | temperature => exact h.replace_same hp rfl rfl
  | humidity => exact h.replace_same hp rfl rfl
  | digitalInput =>
    have hcontacts : (device.withGroup .digitalInput (.ofCount count)).contacts = count :=
      List.length_replicate
    refine h.replace _ hp rfl ?_ ?_
    · intro name hmem
      obtain ⟨i, field, rfl⟩ := contact_of_mem_dropped hmem
      exact ⟨_, sensorField_ne_key _ _ _, rfl⟩
    · intro s hs hgone
      rw [hcontacts, mem_objectSteps, not_or] at hgone
      rcases mem_objectSteps.mp hs with hfixed | ⟨i, hi, hcontact⟩
      · exact absurd hfixed hgone.1
      · -- the contact was there before and is not any more
        have hle : count ≤ i := Nat.le_of_not_lt fun hlt => hgone.2 ⟨i, hlt, hcontact⟩
        refine List.mem_flatMap.mpr ⟨i, List.mem_range'_1.mpr ⟨hle, by omega⟩, ?_⟩
        rw [contactKeys_eq_map]
        exact List.mem_map_of_mem hcontact

/-! ### The usual roots -/

theorem not_ambient_outlet (index : Nat) (field : String) :
    ¬ ({} : KeySpace).Ambient (({} : KeySpace).outlet index field) := by
  rintro ⟨rest, h⟩
  have hhead := congrArg List.head? h
  simp [KeySpace.outlet] at hhead

theorem not_ambient_global : ∀ name ∈ TopicTable.globalNames, ¬ ({} : KeySpace).Ambient name := by
  unfold KeySpace.Ambient
  decide

/-- Every change keeps the published state a mirror of the devices. -/
theorem Mirrored.change (h : Mirrored {} site) (hchange : Change {} site after) :
    Mirrored {} after := by
  cases hchange with
  | unchanged => exact h
  | devicesCounted count =>
    by_cases hcount : count = 0
    · subst hcount
      exact h.truncated (truncated_countDevices_zero {} site)
    · rw [countDevices, if_neg hcount]
      exact h.of_ambient rfl fun _ _ => rfl
  | deviceAnnounced position hkey => exact (h.announce hkey position).1
  | devicePublished hp hfield hkey hset =>
    exact h.set_entry hp (deviceField_mem_objectSteps hfield) hkey hset
  | sensorsCounted kind hp _ => exact h.sensorsCounted kind _ hp
  | sensorAnnounced hslot _ _ _ =>
    exact h.replace_same hslot.stands (Device.key_withSlot ..) (Device.contacts_withSlot ..)
  | sensorStarted hslot _ _ hkind _ hset =>
    have hpublished := h.set_sensor hslot (SensorKind.publishes_status _) hset
    exact hpublished.replace_same hslot.stands (Device.key_withSlot ..)
      (Device.contacts_withSlot ..)
  | sensorPublished hslot hfield _ hset => exact h.set_sensor hslot hfield hset
  | sensorSwitched hslot _ =>
    exact h.replace_same hslot.stands (Device.key_withSlot ..) (Device.contacts_withSlot ..)
  | sensorDisabled hslot _ _ =>
    refine h.replace _ hslot.stands (Device.key_withSlot ..) ?_ ?_
    · intro name hmem
      obtain ⟨field, rfl⟩ := disabledSensorKeys_eq hmem
      exact ⟨_, sensorField_ne_key _ _ _, rfl⟩
    · intro s hs hgone
      rw [Device.contacts_withSlot] at hgone
      exact absurd hs hgone
  | outletsChanged outlets => exact h.of_ambient rfl fun _ _ => rfl
  | outletPublished _ _ hset =>
    exact (h.set_elsewhere (not_ambient_outlet _ _) hset).of_ambient rfl fun _ _ => rfl
  | draftChanged _ => exact h.of_ambient rfl fun _ _ => rfl
  | globalPublished hname hset => exact h.set_elsewhere (not_ambient_global _ hname) hset

/-- A name that is no entry of a device or of an outlet that is there, and that no value goes to
directly, is left alone. -/
theorem Mirrored.published_unowned (h : Mirrored ks site) (hchange : Change ks site after)
    {name : String} (hambient : ¬ ks.Ambient name)
    (houtlet : ∀ i field, name = ks.outlet i field → after.outlets.outlets.length ≤ i)
    (hglobal : name ∉ TopicTable.globalNames) : after.store.get? name = site.store.get? name := by
  have hdevice : ∀ p s, name ≠ ks.device p s := by
    rintro p s rfl
    exact hambient (ks.ambient_device p s)
  have hsensor : ∀ p kind i field, name ≠ ks.sensor p kind i field := by
    intro p kind i field
    rw [sensor_eq_device]
    exact hdevice p _
  cases hchange with
  | unchanged => rfl
  | devicesCounted count =>
    by_cases hcount : count = 0
    · subst hcount
      exact (truncated_countDevices_zero ks site).sameElsewhere.published name hambient
    · rw [countDevices, if_neg hcount]
      rfl
  | deviceAnnounced position hkey => exact (h.announce hkey position).2.published name hambient
  | devicePublished _ _ _ hset => exact Store.get?_set_other hset (hdevice _ _)
  | sensorsCounted kind _ _ =>
    refine Store.get?_delMany_of_notMem ?_
    intro hmem
    obtain ⟨i, field, hname⟩ := contact_of_mem_dropped hmem
    exact hdevice _ _ hname
  | sensorAnnounced _ _ _ _ => rfl
  | sensorStarted _ _ _ _ _ hset => exact Store.get?_set_other hset (hsensor _ _ _ _)
  | sensorPublished _ _ _ hset => exact Store.get?_set_other hset (hsensor _ _ _ _)
  | sensorSwitched _ _ => rfl
  | sensorDisabled _ _ _ =>
    refine Store.get?_delMany_of_notMem ?_
    intro hmem
    obtain ⟨field, rfl⟩ := disabledSensorKeys_eq hmem
    exact hdevice _ _ rfl
  | outletsChanged _ => rfl
  | outletPublished hindex _ hset =>
    refine Store.get?_set_other hset ?_
    intro hname
    exact absurd hindex (Nat.not_lt.mpr (houtlet _ _ hname))
  | draftChanged _ => rfl
  | globalPublished hname hset =>
    refine Store.get?_set_other hset ?_
    rintro rfl
    exact hglobal hname

theorem Mirrored.published_elsewhere (h : Mirrored ks site) (hchange : Change ks site after)
    {name : String} (hambient : ¬ ks.Ambient name) (houtlet : ∀ i field, name ≠ ks.outlet i field)
    (hglobal : name ∉ TopicTable.globalNames) : after.store.get? name = site.store.get? name :=
  h.published_unowned hchange hambient (fun i field hname => absurd hname (houtlet i field)) hglobal

end Site

end RackTelemetry
