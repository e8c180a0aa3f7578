import RackTelemetry.Proofs.Alarm.Arrival
import RackTelemetry.Proofs.Inventory.Outlets
import RackTelemetry.Proofs.Inventory.Slots
import RackTelemetry.Proofs.Site.Relocation
import RackTelemetry.Proofs.Topic.Card
import RackTelemetry.Site.Handling

/-!
Everything that a value can do to a site: `Change` has one case for each, with what was checked
before. Whatever the path and the value, dispatching by the rules of the card makes such a change,
so a property of sites that every change keeps is kept by every value.
-/

namespace RackTelemetry

open KeySpace DeviceRegistry

/-- What only reports on a site leaves it as it is. -/
theorem Outcome.site_andThen {α β : Type} {first : Outcome α} {next : α → Site → Outcome β}
    (h : ∀ a site, (next a site).site = site) : (first.andThen next).site = first.site := by
  unfold andThen
  split
  · exact h _ _
  · rfl

namespace Site

variable {ks : KeySpace} {site : Site}

/-- A change of a site by one value. -/
inductive Change (ks : KeySpace) (site : Site) : Site → Prop where
  | unchanged : Change ks site site
  | devicesCounted (count : Nat) : Change ks site (countDevices ks site count).site
  | deviceAnnounced {key : String} (position : Nat) (hkey : key ≠ "") :
    Change ks site (announceDevice ks site key position).site
  | devicePublished {p : Nat} {device : Device} {field value : String} {store : Store}
    (hp : site.devices.devices[p]? = some device) (hfield : field ∈ deviceFields)
    (hkey : field ≠ "key") (hset : site.store.set (ks.device p field) value = .ok store) :
    Change ks site { site with store }
  | sensorsCounted {p : Nat} {device : Device} (kind : SensorKind) {count : Nat}
    (hp : site.devices.devices[p]? = some device) (hcount : count ≤ site.devices.maxSensors) :
    Change ks site
      (({ site with
            devices := site.devices.replace p (device.withGroup kind (.ofCount count)) } :
          Site).withdraw
        (if kind = .digitalInput then
          (List.range' count (device.contacts - count)).flatMap (ks.contactKeys p)
        else []))
  | sensorAnnounced {p index : Nat} {kind : SensorKind} {device : Device} {sensor : Sensor}
    {key : String} (hslot : site.devices.Slot p kind index device sensor)
    (hnone : sensor.key = none) (hkey : key ≠ "")
    (hstatus : kind.isIndexed = true ∨
      site.store.contains (ks.sensor p kind index (some "status")) = true) :
    Change ks site
      { site with
        devices :=
          site.devices.replace p (device.withSlot kind index { sensor with key := some key }) }
  | sensorStarted {p index : Nat} {kind : SensorKind} {device : Device} {sensor : Sensor}
    {key : String} {store : Store} (hslot : site.devices.Slot p kind index device sensor)
    (hnone : sensor.key = none) (hkey : key ≠ "") (hkind : kind.isIndexed = false)
    (hstatus : site.store.contains (ks.sensor p kind index (some "status")) = false)
    (hset : site.store.set (ks.sensor p kind index (some "status")) "good" = .ok store) :
    Change ks site
      { site with
        devices :=
          site.devices.replace p (device.withSlot kind index { sensor with key := some key })
        store }
  | sensorPublished {p index : Nat} {kind : SensorKind} {device : Device} {sensor : Sensor}
    {field : Option String} {value : String} {store : Store}
    (hslot : site.devices.Slot p kind index device sensor) (hfield : kind.publishes field = true)
    (hstate : sensor.state = .disabled → field = some "config")
    (hset : site.store.set (ks.sensor p kind index field) value = .ok store) :
    Change ks site { site with store }
  | sensorSwitched {p index : Nat} {kind : SensorKind} {device : Device} {sensor : Sensor}
    {state : SensorState} (hslot : site.devices.Slot p kind index device sensor)
    (hstate : state = .disabled → sensor.state = .disabled) :
    Change ks site
      { site with
        devices := site.devices.replace p (device.withSlot kind index { sensor with state }) }
  | sensorDisabled {p index : Nat} {kind : SensorKind} {device : Device} {sensor : Sensor}
    (hslot : site.devices.Slot p kind index device sensor) (hkey : sensor.key ≠ none)
    (hstate : sensor.state ≠ .disabled) :
    Change ks site
      (({ site with
          devices := site.devices.replace p
            (device.withSlot kind index { sensor with state := .disabled }) } : Site).withdraw
        (ks.disabledSensorKeys p kind index))
  | outletsChanged (outlets : OutletRegistry) : Change ks site { site with outlets }
  | outletPublished {outlets : OutletRegistry} {index : Nat} {field value : String} {store : Store}
    (hindex : index < outlets.outlets.length) (hfield : field ∈ outletFields)
    (hset : site.store.set (ks.outlet index field) value = .ok store) :
    Change ks site { site with outlets, store }
  | draftChanged {draft : AlarmDraft} (hlimit : draft.maxAlarms = site.draft.maxAlarms) :
    Change ks site { site with draft }
  | globalPublished {name value : String} {store : Store} (hname : name ∈ TopicTable.globalNames)
    (hset : site.store.set name value = .ok store) : Change ks site { site with store }

/-- Work that cannot be found out changes nothing. -/
theorem attempt_cases {α : Type} {work : Except Error (Outcome α)} {P : Site → Prop}
    (herror : P site) (hok : ∀ outcome, work = .ok outcome → P outcome.site) :
    P (site.attempt work).site := by
  unfold attempt
  split
  · next outcome => exact hok outcome rfl
  · exact herror

theorem bind_cases {α β : Type} {x : Except Error α} {next : α → Except Error (Outcome β)}
    {P : Site → Prop} (herror : P site)
    (hnext : ∀ a, x = .ok a → P (site.attempt (next a)).site) :
    P (site.attempt (x >>= next)).site := by
  cases x with
  | ok a => exact hnext a rfl
  | error e => exact herror

/-- Whatever has to be found out first, a change is made by what follows. -/
theorem change_bind {α : Type} {x : Except Error α} {next : α → Except Error (Outcome Unit)}
    (hnext : ∀ a, x = .ok a → Change ks site (site.attempt (next a)).site) :
    Change ks site (site.attempt (x >>= next)).site := bind_cases .unchanged hnext

/-- A value is either published under the name that the template gives, or nothing changes. -/
theorem publish_cases {template : KeyTemplate} {target : KeyTarget} {value : String}
    {P : Site → Prop} (hsame : P site)
    (hset : ∀ key store, template.render ks target = .ok key →
      site.store.set key value = .ok store → P { site with store }) :
    P (publish ks site (some template) target value).site := by
  unfold publish
  apply attempt_cases hsame
  intro outcome h
  obtain ⟨key, hkey, h⟩ := exists_of_bind_eq_ok h
  obtain rfl := Except.ok.inj h
  unfold put
  split
  · next store hstore => exact hset key store hkey hstore
  · exact hsame

theorem publishMeaning_cases {template : Option KeyTemplate} {target : KeyTarget}
    {table : List String} {code : Int} {P : Site → Prop} (hsame : P site)
    (htext : ∀ text, P (publish ks site template target text).site) :
    P (publishMeaning ks site template target table code).site := by
  unfold publishMeaning
  split
  · next text _ => exact htext text
  · exact hsame

/-- A sensor that is found and not disabled has a slot. -/
theorem enabledSensor_eq_some {device sensor : String} {kind : SensorKind} {target : KeyTarget}
    (h : enabledSensor site device kind sensor = .ok (some target)) :
    ∃ p index owner slot, site.devices.position? device = some p ∧
      site.devices.Slot p kind index owner slot ∧ slot.state ≠ .disabled ∧
      target = .sensor p kind index := by
  obtain ⟨⟨p, index⟩, hfound, h⟩ := exists_of_bind_eq_ok h
  obtain ⟨state, hstate, h⟩ := exists_of_bind_eq_ok h
  obtain ⟨owner, slot, hslot, rfl⟩ := stateOf_eq_ok.mp hstate
  simp only [pure, Except.pure] at h
  split at h
  · cases Except.ok.inj h
  · next hne =>
    exact ⟨p, index, owner, slot, (resolve_eq_ok.mp hfound).1, hslot, hne,
      (Option.some.inj (Except.ok.inj h)).symm⟩

theorem lastSegment_ne_empty {value key : String} (h : Value.lastSegment value = .ok key) :
    key ≠ "" := by
  unfold Value.lastSegment at h
  split at h
  · obtain rfl := Except.ok.inj h
    simp
  · cases h

/-! ### The operations on sensors -/

section Found

variable {device key : String} {kind : SensorKind} {count previous index p : Nat} {isNew : Bool}
  {devices : DeviceRegistry}

theorem withdraw_nil (site : Site) : site.withdraw [] = site := rfl

/-- Counting sensors does not fail any more once they are counted: the device is found again. -/
theorem countSensors_of_addSensors (ks : KeySpace)
    (hadd : site.devices.addSensors device kind count = .ok (devices, previous))
    (hposition : site.devices.position? device = some p) :
    countSensors ks site device kind count =
      (({ site with devices } : Site).withdraw
        (if kind = .digitalInput then
          (List.range' count (previous - count)).flatMap (ks.contactKeys p)
        else [])).note [.sensorsCounted device count kind] := by
  obtain ⟨q, hq, hfound⟩ := positionOf_addSensors hadd
  obtain rfl := Option.some.inj (hposition.symm.trans hq)
  simp only [countSensors, hadd, hfound, attempt, bind, Except.bind, pure, Except.pure]
  by_cases hkind : kind = .digitalInput
  · by_cases hless : count < previous
    · simp only [hkind, hless, and_self, if_true]
    · have hnone : previous - count = 0 := by omega
      simp only [hkind, hless, and_false, if_false, if_true, hnone, List.range'_zero,
        List.flatMap_nil, withdraw_nil]
  · simp only [hkind, false_and, if_false, withdraw_nil]

/-- Announcing a sensor does not fail any more once its slot has the key: the device is found again,
and its status has a name. -/
theorem announceSensor_of_initSensor (ks : KeySpace)
    (hinit : site.devices.initSensor device kind index key = .ok (devices, isNew))
    (hposition : site.devices.position? device = some p) :
    ∃ store, announceSensor ks site device kind index key =
        ({ site with devices, store } : Site).done ∧
      if isNew = true ∧ kind.isIndexed = false ∧
          site.store.contains (ks.sensor p kind index (some "status")) = false then
        site.store.set (ks.sensor p kind index (some "status")) "good" = .ok store
      else store = site.store := by
  obtain ⟨q, hq, hfound⟩ := positionOf_initSensor hinit
  obtain rfl := Option.some.inj (hposition.symm.trans hq)
  obtain ⟨store, hset⟩ :=
    site.store.set_of_ne "good" (sensor_ne_empty ks p kind index (some "status"))
  simp only [announceSensor, hinit, hfound, hset, attempt, bind, Except.bind, pure, Except.pure]
  by_cases hstart : isNew = true ∧ kind.isIndexed = false
  · obtain ⟨rfl, hkind⟩ := hstart
    cases hstatus : site.store.contains (ks.sensor p kind index (some "status")) with
    | true => exact ⟨site.store, by simp [hkind], by simp⟩
    | false => exact ⟨store, by simp [hkind], by simp [hkind]⟩
  · have hnot : (isNew && !kind.isIndexed) = false := by
      simpa using hstart
    exact ⟨site.store, by simp [hnot], by rw [if_neg fun h => hstart ⟨h.1, h.2.1⟩]⟩

end Found

/-- The sensors of a device are counted, or nothing changes. -/
theorem countSensors_cases {device : String} {kind : SensorKind} {count : Nat} {P : Site → Prop}
    (hsame : P site)
    (hcounted : ∀ p found, site.devices.devices[p]? = some found →
      count ≤ site.devices.maxSensors →
        P (({ site with
            devices := site.devices.replace p (found.withGroup kind (.ofCount count)) } :
              Site).withdraw
          (if kind = .digitalInput then
            (List.range' count (found.contacts - count)).flatMap (ks.contactKeys p)
          else []))) :
    P (countSensors ks site device kind count).site := by
  cases hadd : site.devices.addSensors device kind count with
  | error e =>
    rw [countSensors, hadd]
    exact hsame
  | ok added =>
    obtain ⟨devices, previous⟩ := added
    obtain ⟨p, found, hposition, hp, hcount, hprevious, hdevices⟩ := addSensors_eq_ok hadd
    have hafter := hcounted p found hp hcount
    rw [countSensors_of_addSensors ks hadd hposition, hdevices, hprevious]
    cases kind with
    | digitalInput => exact hafter
    | temperature => exact hafter
    | humidity => exact hafter

/-- A slot without a key gets one, and its status is set where it has none, or nothing changes. -/
theorem announceSensor_cases {device : String} {kind : SensorKind} {index : Nat} {key : String}
    {P : Site → Prop} (hsame : P site)
    (hannounced : ∀ p found sensor, site.devices.Slot p kind index found sensor →
      sensor.key = none → key ≠ "" →
        kind.isIndexed = true ∨
            site.store.contains (ks.sensor p kind index (some "status")) = true →
          P { site with
            devices :=
              site.devices.replace p (found.withSlot kind index { sensor with key := some key }) })
    (hstarted : ∀ p found sensor store, site.devices.Slot p kind index found sensor →
      sensor.key = none → key ≠ "" → kind.isIndexed = false →
        site.store.contains (ks.sensor p kind index (some "status")) = false →
          site.store.set (ks.sensor p kind index (some "status")) "good" = .ok store →
            P { site with
              devices :=
                site.devices.replace p (found.withSlot kind index { sensor with key := some key })
              store }) :
    P (announceSensor ks site device kind index key).site := by
  cases hinit : site.devices.initSensor device kind index key with
  | error e =>
    rw [announceSensor, hinit]
    exact hsame
  | ok keyed =>
    obtain ⟨devices, isNew⟩ := keyed
    obtain ⟨p, found, sensor, hposition, hslot, hcase⟩ := initSensor_eq_ok hinit
    obtain ⟨store, hannounce, hstore⟩ := announceSensor_of_initSensor ks hinit hposition
    rw [hannounce]
    rcases hcase with ⟨rfl, rfl⟩ | ⟨rfl, hnone, hkey, rfl⟩
    · obtain rfl : store = site.store := by simpa using hstore
      exact hsame
    · split at hstore
      · next hstart =>
        exact hstarted p found sensor store hslot hnone hkey hstart.2.1 hstart.2.2 hstore
      · next hstart =>
        subst hstore
        refine hannounced p found sensor hslot hnone hkey ?_
        cases hkind : kind.isIndexed with
        | true => exact .inl rfl
        | false =>
          exact .inr (eq_true_of_ne_false fun hstatus => hstart ⟨rfl, hkind, hstatus⟩)

theorem change_countSensors (device : String) (kind : SensorKind) (count : Nat) :
    Change ks site (countSensors ks site device kind count).site :=
  countSensors_cases .unchanged fun _ _ hp hcount => .sensorsCounted kind hp hcount

theorem change_announceSensor (device : String) (kind : SensorKind) (index : Nat) (key : String) :
    Change ks site (announceSensor ks site device kind index key).site :=
  announceSensor_cases .unchanged
    (fun _ _ _ hslot hnone hkey hstatus => .sensorAnnounced hslot hnone hkey hstatus)
    (fun _ _ _ _ hslot hnone hkey hkind hstatus hset =>
      .sensorStarted hslot hnone hkey hkind hstatus hset)

theorem change_enableSensor (device : String) (kind : SensorKind) (sensor : String)
    (state : SensorState) :
    Change ks site (enableSensor ks site device kind sensor state).site := by
  apply attempt_cases .unchanged
  intro outcome h
  obtain ⟨⟨p, index⟩, hfound, h⟩ := exists_of_bind_eq_ok h
  obtain ⟨⟨devices, previous⟩, hset, h⟩ := exists_of_bind_eq_ok h
  obtain ⟨found, slot, hslot, rfl, rfl⟩ := setState_eq_ok hset
  simp only at h
  split at h
  · next hdisabled =>
    obtain ⟨rfl, hstate⟩ := hdisabled
    obtain rfl := Except.ok.inj h
    obtain ⟨-, owner, howner, hindex⟩ := resolve_eq_ok.mp hfound
    obtain ⟨named, hnamed, hkey⟩ := slot_of_indexOf? howner hindex
    obtain ⟨-, rfl⟩ := hslot.unique hnamed
    exact .sensorDisabled hslot (by rw [hkey]; exact Option.some_ne_none sensor) hstate
  · next hother =>
    obtain rfl := Except.ok.inj h
    refine .sensorSwitched hslot ?_
    rintro rfl
    exact Decidable.byContradiction fun hstate => hother ⟨rfl, hstate⟩

/-! ### Published values -/

theorem change_publish_device {p : Nat} {key field : String}
    (hposition : site.devices.position? key = some p) (hfield : field ∈ deviceFields)
    (hkey : field ≠ "key") (value : String) :
    Change ks site (publish ks site (some (.device field)) (.device p) value).site := by
  obtain ⟨device, hp, -⟩ := device_of_position? hposition
  apply publish_cases .unchanged
  intro name store hname hset
  obtain rfl := Except.ok.inj hname
  exact .devicePublished hp hfield hkey hset

theorem change_publish_sensor {device sensor : String} {kind : SensorKind} {target : KeyTarget}
    {field : Option String}
    (htarget : enabledSensor site device kind sensor = .ok (some target))
    (hfield : kind.publishes field = true) (value : String) :
    Change ks site (publish ks site (some (.sensor field)) target value).site := by
  obtain ⟨p, index, owner, slot, -, hslot, hstate, rfl⟩ := enabledSensor_eq_some htarget
  apply publish_cases .unchanged
  intro name store hname hset
  obtain rfl := Except.ok.inj hname
  exact .sensorPublished hslot hfield (fun hdisabled => absurd hdisabled hstate) hset

/-- How a contact is wired is published even while the contact is disabled. -/
theorem change_publish_config {p index : Nat} {device sensor : String}
    (hfound : site.devices.resolve device .digitalInput sensor = .ok (p, index)) (value : String) :
    Change ks site
      (publish ks site (some (.sensor (some "config"))) (.sensor p .digitalInput index)
        value).site := by
  obtain ⟨-, owner, hp, hindex⟩ := resolve_eq_ok.mp hfound
  obtain ⟨slot, hslot, -⟩ := slot_of_indexOf? hp hindex
  apply publish_cases .unchanged
  intro name store hname hset
  obtain rfl := Except.ok.inj hname
  exact .sensorPublished hslot (by decide) (fun _ => rfl) hset

theorem change_publish_outlet {outlets : OutletRegistry} {index : Nat} {topic field : String}
    (hindex : site.outlets.indexOf topic = .ok index)
    (hlength : outlets.outlets.length = site.outlets.outlets.length)
    (hfield : field ∈ outletFields) (value : String) :
    Change ks site
      (publish ks { site with outlets } (some (.outlet field)) (.outlet index) value).site := by
  have hlt : index < outlets.outlets.length := by
    unfold OutletRegistry.indexOf at hindex
    split at hindex
    · next found hfound =>
      obtain rfl := Except.ok.inj hindex
      rw [hlength]
      exact (List.findIdx?_eq_some_iff_getElem.mp hfound).1
    · cases hindex
  apply publish_cases (.outletsChanged outlets)
  intro name store hname hset
  obtain rfl := Except.ok.inj hname
  exact .outletPublished hlt hfield hset

/-! ### The alarm list that is being received -/

theorem maxAlarms_begin (draft : AlarmDraft) (count : Nat) :
    (draft.begin count).1.maxAlarms = draft.maxAlarms := by
  unfold AlarmDraft.begin
  split
  · rfl
  · rfl

/-! ### What devices do not touch -/

/-- An observation of a site that sees neither the devices nor what is published. -/
def IgnoresDevices {β : Type} (observe : Site → β) : Prop :=
  ∀ (site : Site) (devices : DeviceRegistry) (store : Store),
    observe { site with devices, store } = observe site

section Observation

variable {β : Type} {observe : Site → β} (hblind : IgnoresDevices observe)
include hblind

theorem observe_put (site : Site) (name value : String) (event : Event) :
    observe (put site name value event).site = observe site := by
  unfold put
  split
  · exact hblind site site.devices _
  · rfl

theorem observe_renumber (ks : KeySpace) (site : Site) (before : List (String × Nat)) :
    observe (renumber ks site before).site = observe site := by
  simp only [renumber]
  split
  · rfl
  · split
    · exact hblind site site.devices _
    · exact hblind site site.devices _

theorem observe_settleDevice (ks : KeySpace) (site : Site) (key : String) (position : Nat) :
    observe (settleDevice ks site key position).site = observe site := by
  simp only [settleDevice]
  split
  · split
    · rfl
    · split
      · exact (observe_renumber hblind ks _ _).trans (hblind site _ site.store)
      · exact hblind site _ site.store
      · rfl
  · split
    · split
      · next devices index _ =>
        have hrenumbered : observe (renumber ks { site with devices } site.devices.layout).site =
            observe site :=
          (observe_renumber hblind ks _ _).trans (hblind site devices site.store)
        unfold Outcome.andThen
        split
        · exact (observe_put hblind _ _ key _).trans hrenumbered
        · exact hrenumbered
      · rfl
    · rfl

theorem observe_trimTail (ks : KeySpace) (site : Site) (last : Nat) :
    observe (trimTail ks site last).site = observe site := by
  unfold trimTail
  split
  · rfl
  · refine List.foldlRecOn (motive := fun s : Site => observe s = observe site) _ _
      (hblind site _ site.store) ?_
    intro s hs dropped _
    exact (hblind s s.devices _).trans hs

/-- Devices that come and go leave everything else alone. -/
theorem observe_announceDevice (ks : KeySpace) (site : Site) (key : String) (position : Nat) :
    observe (announceDevice ks site key position).site = observe site := by
  have hsettled := observe_settleDevice hblind ks site key position
  simp only [announceDevice, Outcome.andThen]
  split
  · split
    · exact (observe_trimTail hblind ks _ position).trans hsettled
    · exact hsettled
    · exact hsettled
  · exact hsettled

theorem observe_countDevices (ks : KeySpace) (site : Site) (count : Nat) :
    observe (countDevices ks site count).site = observe site := by
  simp only [countDevices]
  split
  · exact hblind site _ _
  · exact hblind site _ site.store

end Observation

/-- How many alarms a list may have is not changed by any value. -/
theorem Change.maxAlarms {after : Site} (h : Change ks site after) :
    after.draft.maxAlarms = site.draft.maxAlarms := by
  have hblind : IgnoresDevices fun site => site.draft.maxAlarms := fun _ _ _ => rfl
  cases h with
  | devicesCounted count => exact observe_countDevices hblind ks site count
  | deviceAnnounced position _ => exact observe_announceDevice hblind ks site _ position
  | draftChanged hlimit => exact hlimit
  | _ => rfl

/-! ### Every handler, every path -/

variable {rule : TopicRule} {path value : String} {params : List String}

theorem change_process {handler : Handler} (hsound : rule.isSound = true)
    (hhandler : rule.handler = some handler)
    (hparams : rule.pattern.captures? path = some params) :
    Change ks site (handler.process ks rule.template value params site).site := by
  rw [TopicRule.isSound, hhandler] at hsound
  unfold Handler.process
  split
  · refine change_bind fun count _ => ?_
    exact .devicesCounted count
  · refine change_bind fun key hkey => change_bind fun position _ => ?_
    exact .deviceAnnounced position (lastSegment_ne_empty hkey)
  · refine change_bind fun p hp => ?_
    obtain ⟨field, htemplate, hfield⟩ := TopicRule.template_of_onDevice hsound
    obtain ⟨hmem, hkey⟩ := of_decide_eq_true hfield
    rw [htemplate]
    exact change_publish_device (positionOf_eq_ok.mp hp) hmem hkey value
  · refine change_bind fun p hp => change_bind fun code _ => ?_
    obtain ⟨field, htemplate, hfield⟩ := TopicRule.template_of_onDevice hsound
    obtain ⟨hmem, hkey⟩ := of_decide_eq_true hfield
    rw [htemplate]
    exact publishMeaning_cases .unchanged
      (change_publish_device (positionOf_eq_ok.mp hp) hmem hkey)
  · refine change_bind fun kind _ => change_bind fun count _ => ?_
    exact change_countSensors _ kind count
  · refine change_bind fun kind _ => change_bind fun index _ => change_bind fun key _ => ?_
    exact change_announceSensor _ kind index key
  · refine change_bind fun kind hkind => change_bind fun target htarget => ?_
    cases target with
    | none => exact .unchanged
    | some target =>
      obtain ⟨field, htemplate, hfield⟩ := TopicRule.template_of_onSensor hsound
      rw [htemplate]
      exact change_publish_sensor htarget
        (TopicRule.publishes_of_captures hfield hparams hkind) value
  · split
    · exact .unchanged
    · refine change_bind fun target htarget => ?_
      cases target with
      | none => exact .unchanged
      | some target =>
        obtain ⟨field, htemplate, hfield⟩ := TopicRule.template_of_onSensor hsound
        rw [htemplate]
        exact change_publish_sensor htarget hfield _
  · refine change_bind fun kind _ => ?_
    exact change_enableSensor _ kind _ _
  · refine change_bind fun slot hfound => change_bind fun code _ => ?_
    obtain ⟨field, htemplate, hfield⟩ := TopicRule.template_of_onSensor hsound
    obtain rfl := of_decide_eq_true hfield
    rw [htemplate]
    exact publishMeaning_cases .unchanged (change_publish_config hfound)
  · refine change_bind fun target htarget => ?_
    cases target with
    | none =>
      simp only
      split
      · exact .unchanged
      · exact .unchanged
    | some target =>
      obtain ⟨field, htemplate, hfield⟩ := TopicRule.template_of_onSensor hsound
      rw [htemplate]
      refine change_bind fun code _ => ?_
      exact publishMeaning_cases .unchanged (change_publish_sensor htarget hfield)
  · refine change_bind fun count _ => change_bind fun outlets _ => ?_
    exact .outletsChanged outlets
  · refine change_bind fun index _ => change_bind fun outlets _ => ?_
    exact .outletsChanged outlets
  · refine change_bind fun index hindex => ?_
    obtain ⟨field, htemplate, hfield⟩ := TopicRule.template_of_onOutlet hsound
    rw [htemplate]
    exact change_publish_outlet hindex rfl (of_decide_eq_true hfield) value
  · refine change_bind fun index hindex => change_bind fun switchable _ =>
      change_bind fun outlets houtlets => ?_
    obtain ⟨field, htemplate, hfield⟩ := TopicRule.template_of_onOutlet hsound
    rw [htemplate]
    exact change_publish_outlet hindex (OutletRegistry.length_update houtlets)
      (of_decide_eq_true hfield) _
  · refine change_bind fun count _ => ?_
    simp only
    split
    · exact .draftChanged (maxAlarms_begin _ count)
    · exact .draftChanged (maxAlarms_begin _ count)
  · refine change_bind fun index _ => change_bind fun draft hdraft => ?_
    exact .draftChanged (AlarmDraft.maxAlarms_setField hdraft)
  · exact .unchanged

theorem dispatch_handled {table : TopicTable} {handler : Handler}
    (hfind : table.find? path = some (rule, params)) (hhandler : rule.handler = some handler)
    (ks : KeySpace) (site : Site) (value : String) :
    table.dispatch ks path value site =
      (handler.process ks rule.template value params site).andThen fun _ site =>
        ⟨site, [], .ok (.handled handler)⟩ := by
  simp only [TopicTable.dispatch, hfind, hhandler]

theorem site_dispatch {table : TopicTable} {handler : Handler}
    (hfind : table.find? path = some (rule, params)) (hhandler : rule.handler = some handler)
    (ks : KeySpace) (site : Site) (value : String) :
    (table.dispatch ks path value site).site =
      (handler.process ks rule.template value params site).site := by
  rw [dispatch_handled hfind hhandler, Outcome.site_andThen fun _ _ => rfl]

/-- A direct rule publishes its value under one of the fixed names, or nothing happens. -/
theorem direct_cases (hfind : TopicTable.card.find? path = some (rule, params))
    (hhandler : rule.handler = none) {P : Site → Prop} (hsame : P site)
    (hset : ∀ name store, name ∈ TopicTable.globalNames → site.store.set name value = .ok store →
      P { site with store }) :
    P (TopicTable.card.dispatch ks path value site).site := by
  simp only [TopicTable.dispatch, hfind, hhandler]
  apply attempt_cases hsame
  intro outcome h
  split at h
  · cases h
  · next template htemplate =>
    obtain ⟨name, hname, h⟩ := exists_of_bind_eq_ok h
    obtain rfl := Except.ok.inj h
    obtain ⟨hmem, -⟩ := TopicTable.rule_of_find? hfind
    rw [Outcome.site_andThen fun _ _ => rfl, put]
    split
    · next store hstore =>
      exact hset name store (TopicTable.mem_globalNames hmem hhandler htemplate hname) hstore
    · exact hsame

/-- Whatever the path and the value, the rules of the card make one of the changes. -/
theorem change_dispatch (ks : KeySpace) (site : Site) (path value : String) :
    Change ks site (TopicTable.card.dispatch ks path value site).site := by
  cases hfind : TopicTable.card.find? path with
  | none =>
    rw [TopicTable.dispatch, hfind]
    exact .unchanged
  | some found =>
    obtain ⟨rule, params⟩ := found
    cases hhandler : rule.handler with
    | none =>
      exact direct_cases hfind hhandler .unchanged fun _ _ hname hset => .globalPublished hname hset
    | some handler =>
      obtain ⟨hmem, hparams⟩ := TopicTable.rule_of_find? hfind
      rw [site_dispatch hfind hhandler]
      exact change_process (TopicTable.isSound_card rule hmem) hhandler hparams

end Site

end RackTelemetry
