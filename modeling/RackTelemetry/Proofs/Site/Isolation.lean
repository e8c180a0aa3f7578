import RackTelemetry.Proofs.Site.Upkeep
import RackTelemetry.Proofs.Topic.DevicePath

/-!
The handlers of a device look at that device only, and change nothing else. Two sites that agree on
the device are followed side by side: whatever a handler does, it ends in the same way on both, and
they still agree on the device.
-/

namespace RackTelemetry

open KeySpace DeviceRegistry

/-! ### What finding a device depends on -/

namespace DeviceRegistry

variable {r r' : DeviceRegistry}

theorem position?_congr (h : r.keys = r'.keys) (key : String) :
    r.position? key = r'.position? key := by
  rw [position?_eq_findIdx?_keys, position?_eq_findIdx?_keys, h]

theorem length_congr (h : r.keys = r'.keys) : r.devices.length = r'.devices.length := by
  rw [← length_keys, ← length_keys, h]

theorem isEmpty_congr (h : r.keys = r'.keys) : r.devices.isEmpty = r'.devices.isEmpty := by
  have hkeys : ∀ r : DeviceRegistry, r.keys.isEmpty = r.devices.isEmpty := fun _ => List.isEmpty_map
  rw [← hkeys r, ← hkeys r', h]

theorem positionOf_congr (h : r.keys = r'.keys) (key : String) :
    r.positionOf key = r'.positionOf key := by
  rw [positionOf, positionOf, isEmpty_congr h, position?_congr h]

theorem deviceAt_congr (h : r.keys = r'.keys) {p : Nat} (hp : r.devices[p]? = r'.devices[p]?) :
    r.deviceAt p = r'.deviceAt p := by
  rw [deviceAt, deviceAt, isEmpty_congr h, hp, length_congr h]

end DeviceRegistry

namespace Site

/-- Two sites agree on a device: they have the same devices by their keys, the same record of this
one, and the same entries at its position. -/
structure SameDevice (ks : KeySpace) (key : String) (a b : Site) : Prop where
  keys : a.devices.keys = b.devices.keys
  limit : a.devices.maxSensors = b.devices.maxSensors
  record : ∀ p, a.devices.position? key = some p → a.devices.devices[p]? = b.devices.devices[p]?
  entries : ∀ p, a.devices.position? key = some p → ∀ s, a.entry ks p s = b.entry ks p s

/-- At most the record of a device and what is published for it have changed. -/
structure OnlyDevice (ks : KeySpace) (key : String) (before after : Site) : Prop where
  keys : after.devices.keys = before.devices.keys
  declared : after.devices.declared = before.devices.declared
  limit : after.devices.maxSensors = before.devices.maxSensors
  records : ∀ q, before.devices.position? key ≠ some q →
    after.devices.devices[q]? = before.devices.devices[q]?
  published : ∀ name, (∀ p contacts, before.devices.position? key = some p →
    name ∉ ks.deviceObjectKeys p contacts) → after.store.get? name = before.store.get? name
  outlets : after.outlets = before.outlets
  draft : after.draft = before.draft

/-- Two outcomes on sites that agree on a device: they are alike, the sites still agree on the
device, and nothing but the device has changed. -/
structure Isolated {α : Type} (ks : KeySpace) (key : String) (a b : Site) (x y : Outcome α) :
    Prop where
  result : x.result = y.result
  same : SameDevice ks key x.site y.site
  only : OnlyDevice ks key a x.site

variable {ks : KeySpace} {key : String} {a b c : Site} {α β : Type}

theorem SameDevice.refl (ks : KeySpace) (key : String) (a : Site) : SameDevice ks key a a :=
  ⟨rfl, rfl, fun _ _ => rfl, fun _ _ _ => rfl⟩

theorem OnlyDevice.refl (ks : KeySpace) (key : String) (a : Site) : OnlyDevice ks key a a :=
  ⟨rfl, rfl, rfl, fun _ _ => rfl, fun _ _ => rfl, rfl, rfl⟩

theorem OnlyDevice.trans (hab : OnlyDevice ks key a b) (hbc : OnlyDevice ks key b c) :
    OnlyDevice ks key a c := by
  have hposition := position?_congr hab.keys key
  refine ⟨hbc.keys.trans hab.keys, hbc.declared.trans hab.declared, hbc.limit.trans hab.limit,
    ?_, ?_, hbc.outlets.trans hab.outlets, hbc.draft.trans hab.draft⟩
  · intro q hq
    exact (hbc.records q (hposition ▸ hq)).trans (hab.records q hq)
  · intro name hname
    exact (hbc.published name fun p contacts hp => hname p contacts (hposition ▸ hp)).trans
      (hab.published name hname)

/-! ### Chains of work -/

namespace SameDevice

variable (h : SameDevice ks key a b)
include h

theorem leave (first second : List Event) (result : Except Error α) :
    Isolated ks key a b ⟨a, first, result⟩ ⟨b, second, result⟩ :=
  ⟨rfl, h, .refl ks key a⟩

/-- What is found out first is the same on both sites. -/
theorem chain {x y : Except Error β} {f g : β → Except Error (Outcome α)} (hxy : x = y)
    (hnext : ∀ v, x = .ok v → Isolated ks key a b (a.attempt (f v)) (b.attempt (g v))) :
    Isolated ks key a b (a.attempt (x >>= f)) (b.attempt (y >>= g)) := by
  subst hxy
  cases x with
  | ok v => exact hnext v rfl
  | error e => exact h.leave [] [] (.error e)

/-- The record of the device is replaced on both sites, and what is published for it changes in the
same way. -/
theorem replace {p : Nat} {device other : Device} {first second : Store}
    (hposition : a.devices.position? key = some p) (hdevice : a.devices.devices[p]? = some device)
    (hkey : other.key = device.key)
    (hsame : ∀ s, first.get? (ks.device p s) = second.get? (ks.device p s))
    (honly : ∀ name, (∀ contacts, name ∉ ks.deviceObjectKeys p contacts) →
      first.get? name = a.store.get? name) (events events' : List Event)
    (result : Except Error α) :
    Isolated ks key a b
      ⟨{ a with devices := a.devices.replace p other, store := first }, events, result⟩
      ⟨{ b with devices := b.devices.replace p other, store := second }, events', result⟩ := by
  have hdevice' : b.devices.devices[p]? = some device := (h.record p hposition).symm.trans hdevice
  have hkeys := keys_replace hdevice hkey
  have hlength := length_congr h.keys
  have hown : ∀ q, (a.devices.replace p other).position? key = some q → p = q := by
    intro q hq
    rw [position?_replace hdevice hkey, hposition] at hq
    exact Option.some.inj hq
  refine ⟨rfl, ⟨?_, h.limit, ?_, ?_⟩, ⟨hkeys, rfl, rfl, ?_, ?_, rfl, rfl⟩⟩
  · rw [hkeys, keys_replace hdevice' hkey, h.keys]
  · intro q hq
    obtain rfl := hown q hq
    simp only [getElem?_replace, if_true, hlength]
  · intro q hq s
    obtain rfl := hown q hq
    exact hsame s
  · intro q hq
    have hne : p ≠ q := fun hpq => hq (hpq ▸ hposition)
    simp only [getElem?_replace, if_neg hne]
  · intro name hname
    exact honly name fun contacts => hname p contacts hposition

/-- Only what is published for the device changes. -/
theorem restore {p : Nat} {first second : Store} (hposition : a.devices.position? key = some p)
    (hsame : ∀ s, first.get? (ks.device p s) = second.get? (ks.device p s))
    (honly : ∀ name, (∀ contacts, name ∉ ks.deviceObjectKeys p contacts) →
      first.get? name = a.store.get? name) (events events' : List Event)
    (result : Except Error α) :
    Isolated ks key a b ⟨{ a with store := first }, events, result⟩
      ⟨{ b with store := second }, events', result⟩ := by
  obtain ⟨device, hdevice, -⟩ := device_of_position? hposition
  have hdevice' : b.devices.devices[p]? = some device := (h.record p hposition).symm.trans hdevice
  have hreplaced := h.replace hposition hdevice rfl hsame honly events events' result
  rw [replace_self hdevice, replace_self hdevice'] at hreplaced
  exact hreplaced

/-! ### Publishing -/

/-- The same text is set for the same name of the device on both sites. -/
theorem set {p contacts : Nat} {name value : String} {first second : Store}
    (hposition : a.devices.position? key = some p) (hname : name ∈ ks.deviceObjectKeys p contacts)
    (hfirst : a.store.set name value = .ok first) (hsecond : b.store.set name value = .ok second) :
    (∀ s, first.get? (ks.device p s) = second.get? (ks.device p s)) ∧
      ∀ other, (∀ contacts, other ∉ ks.deviceObjectKeys p contacts) →
        first.get? other = a.store.get? other := by
  constructor
  · intro s
    rw [Store.get?_of_set hfirst, Store.get?_of_set hsecond]
    split
    · rfl
    · exact h.entries p hposition s
  · intro other hother
    refine Store.get?_set_other hfirst ?_
    rintro rfl
    exact hother contacts hname

theorem put {p contacts : Nat} {name : String} (hposition : a.devices.position? key = some p)
    (hname : name ∈ ks.deviceObjectKeys p contacts) (value : String) (event : Event) :
    Isolated ks key a b (a.put name value event) (b.put name value event) := by
  obtain ⟨s, -, rfl⟩ := mem_deviceObjectKeys.mp hname
  obtain ⟨first, hfirst⟩ := a.store.set_of_ne value (ks.device_ne_empty p s)
  obtain ⟨second, hsecond⟩ := b.store.set_of_ne value (ks.device_ne_empty p s)
  obtain ⟨hsame, honly⟩ := h.set hposition hname hfirst hsecond
  simp only [Site.put, hfirst, hsecond]
  exact h.restore hposition hsame honly _ _ _

theorem publish {p contacts : Nat} {name : String} {template : KeyTemplate} {target : KeyTarget}
    (hposition : a.devices.position? key = some p) (hrender : template.render ks target = .ok name)
    (hname : name ∈ ks.deviceObjectKeys p contacts) (value : String) :
    Isolated ks key a b (a.publish ks (some template) target value)
      (b.publish ks (some template) target value) := by
  simp only [Site.publish, hrender]
  exact h.put hposition hname value _

theorem publishMeaning {p contacts : Nat} {name : String} {template : KeyTemplate}
    {target : KeyTarget} (hposition : a.devices.position? key = some p)
    (hrender : template.render ks target = .ok name)
    (hname : name ∈ ks.deviceObjectKeys p contacts) (table : List String) (code : Int) :
    Isolated ks key a b (a.publishMeaning ks (some template) target table code)
      (b.publishMeaning ks (some template) target table code) := by
  simp only [Site.publishMeaning]
  split
  · exact h.publish hposition hrender hname _
  · exact h.leave _ _ _

/-! ### Finding the device and its sensors -/

theorem positionOf : a.devices.positionOf key = b.devices.positionOf key :=
  positionOf_congr h.keys key

theorem deviceAt {p : Nat} (hposition : a.devices.position? key = some p) :
    a.devices.deviceAt p = b.devices.deviceAt p :=
  deviceAt_congr h.keys (h.record p hposition)

theorem resolve (kind : SensorKind) (sensor : String) :
    a.devices.resolve key kind sensor = b.devices.resolve key kind sensor := by
  rw [DeviceRegistry.resolve, DeviceRegistry.resolve, ← h.positionOf]
  cases hp : a.devices.positionOf key with
  | error e => rfl
  | ok p =>
    simp only [bind, Except.bind, sensorIndex, h.deviceAt (positionOf_eq_ok.mp hp)]

theorem enabledSensor (kind : SensorKind) (sensor : String) :
    a.enabledSensor key kind sensor = b.enabledSensor key kind sensor := by
  rw [Site.enabledSensor, Site.enabledSensor, ← h.resolve]
  cases hfound : a.devices.resolve key kind sensor with
  | error e => rfl
  | ok found =>
    obtain ⟨p, index⟩ := found
    simp only [bind, Except.bind, stateOf, h.deviceAt (resolve_eq_ok.mp hfound).1]

/-! ### Sensors -/

omit h in
theorem own_sensor (ks : KeySpace) (p index : Nat) {kind : SensorKind} {field : Option String}
    (hfield : kind.publishes field = true) :
    ∃ contacts, ks.sensor p kind index field ∈ ks.deviceObjectKeys p contacts :=
  ⟨index + 1, sensor_mem_deviceObjectKeys hfield fun _ => Nat.lt_succ_self index⟩

omit h in
theorem own_disabled {p index : Nat} {kind : SensorKind} {name : String}
    (hname : name ∈ ks.disabledSensorKeys p kind index) :
    ∃ contacts, name ∈ ks.deviceObjectKeys p contacts :=
  ⟨index + 1, disabledSensorKeys_subset ks p (fun _ => Nat.lt_succ_self index) hname⟩

/-- Names that go belong to the device. -/
theorem replace_withdraw {p : Nat} {device other : Device} {names : List String}
    (hposition : a.devices.position? key = some p) (hdevice : a.devices.devices[p]? = some device)
    (hkey : other.key = device.key)
    (hnames : ∀ name ∈ names, ∃ contacts, name ∈ ks.deviceObjectKeys p contacts)
    (events : List Event) (result : Except Error α) :
    Isolated ks key a b
      ⟨({ a with devices := a.devices.replace p other } : Site).withdraw names, events, result⟩
      ⟨({ b with devices := b.devices.replace p other } : Site).withdraw names, events,
        result⟩ := by
  refine h.replace hposition hdevice hkey ?_ ?_ events events result
  · intro s
    rw [Store.get?_delMany, Store.get?_delMany]
    split
    · rfl
    · exact h.entries p hposition s
  · intro name hname
    refine Store.get?_delMany_of_notMem fun hmem => ?_
    obtain ⟨contacts, hown⟩ := hnames name hmem
    exact hname contacts hown

theorem countSensors (kind : SensorKind) (count : Nat) :
    Isolated ks key a b (a.countSensors ks key kind count) (b.countSensors ks key kind count) := by
  simp only [Site.countSensors, addSensors, h.limit]
  split
  · exact h.leave _ _ _
  · simp only [bind_assoc, pure_bind]
    refine h.chain h.positionOf fun p hp => h.chain (h.deviceAt (positionOf_eq_ok.mp hp)) ?_
    intro device hat
    have hposition := positionOf_eq_ok.mp hp
    have hdevice := deviceAt_eq_ok.mp hat
    have hdevice' := (h.record p hposition).symm.trans hdevice
    have hkey := device.key_withGroup kind (.ofCount count)
    have hfirst := positionOf_eq_ok.mpr ((position?_replace hdevice hkey key).trans hposition)
    have hsecond := positionOf_eq_ok.mpr
      ((position?_replace hdevice' hkey key).trans (position?_congr h.keys key ▸ hposition))
    simp only [hfirst, hsecond]
    split
    · refine h.replace_withdraw hposition hdevice hkey ?_ _ _
      intro name hmem
      obtain ⟨i, -, hname⟩ := List.mem_flatMap.mp hmem
      obtain ⟨field, hfield, rfl⟩ := List.mem_map.mp hname
      exact own_sensor ks p i (decide_eq_true (List.mem_map_of_mem hfield))
    · exact h.replace hposition hdevice hkey (h.entries p hposition) (fun _ _ => rfl) _ _ _

/-- The status of a sensor that gets its key is set, unless there is one. -/
theorem announce_status {p index : Nat} {kind : SensorKind} {device other : Device}
    (hposition : a.devices.position? key = some p) (hdevice : a.devices.devices[p]? = some device)
    (hkey : other.key = device.key) :
    let status := ks.sensor p kind index (some "status")
    let announced (site : Site) : Outcome Unit :=
      let site := { site with devices := site.devices.replace p other }
      site.attempt (if site.store.contains status then pure site.done
        else match site.store.set status "good" with
          | .ok store => pure ({ site with store } : Site).done
          | .error e => pure (site.fail (.store e)))
    Isolated ks key a b (announced a) (announced b) := by
  intro status announced
  obtain ⟨contacts, hown⟩ := own_sensor ks p index (kind.publishes_status)
  have hentries := h.entries p hposition
  have hcontains : a.store.contains status = b.store.contains status := by
    refine Store.contains_congr ?_
    rw [show status = _ from sensor_eq_device ..]
    exact hentries _
  have hne : status ≠ "" := sensor_ne_empty ks p kind index (some "status")
  obtain ⟨first, hfirst⟩ := a.store.set_of_ne "good" hne
  obtain ⟨second, hsecond⟩ := b.store.set_of_ne "good" hne
  obtain ⟨hsame, honly⟩ := h.set hposition hown hfirst hsecond
  simp only [announced, hfirst, hsecond, ← hcontains]
  split
  · exact h.replace hposition hdevice hkey hentries (fun _ _ => rfl) _ _ _
  · exact h.replace hposition hdevice hkey hsame honly _ _ _

theorem announceSensor (kind : SensorKind) (index : Nat) (sensor : String) :
    Isolated ks key a b (a.announceSensor ks key kind index sensor)
      (b.announceSensor ks key kind index sensor) := by
  simp only [Site.announceSensor, initSensor]
  split
  · exact h.leave _ _ _
  · simp only [bind_assoc]
    refine h.chain h.positionOf fun p hp => h.chain (h.deviceAt (positionOf_eq_ok.mp hp)) ?_
    intro device hat
    have hposition := positionOf_eq_ok.mp hp
    have hdevice := deviceAt_eq_ok.mp hat
    have hdevice' := (h.record p hposition).symm.trans hdevice
    cases (device.group kind)[index]? with
    | none => exact h.leave _ _ _
    | some slot =>
      simp only
      cases slot.key with
      | some existing =>
        simp only
        split
        · exact h.leave _ _ _
        · exact h.leave _ _ _
      | none =>
        have hkey := device.key_withGroup kind
          ((device.group kind).set index { slot with key := some sensor })
        have hfirst := positionOf_eq_ok.mpr ((position?_replace hdevice hkey key).trans hposition)
        have hsecond := positionOf_eq_ok.mpr
          ((position?_replace hdevice' hkey key).trans (position?_congr h.keys key ▸ hposition))
        simp only [pure_bind, hfirst, hsecond]
        split
        · exact h.announce_status hposition hdevice hkey
        · exact h.replace hposition hdevice hkey (h.entries p hposition) (fun _ _ => rfl) _ _ _

theorem enableSensor (kind : SensorKind) (sensor : String) (state : SensorState) :
    Isolated ks key a b (a.enableSensor ks key kind sensor state)
      (b.enableSensor ks key kind sensor state) := by
  simp only [Site.enableSensor, setState]
  refine h.chain (h.resolve kind sensor) fun found hfound => ?_
  obtain ⟨p, index⟩ := found
  have hposition := (resolve_eq_ok.mp hfound).1
  simp only [bind_assoc]
  refine h.chain (h.deviceAt hposition) fun device hat => ?_
  have hdevice := deviceAt_eq_ok.mp hat
  cases (device.group kind)[index]? with
  | none => exact h.leave _ _ _
  | some slot =>
    have hkey := device.key_withGroup kind ((device.group kind).set index { slot with state })
    simp only [pure_bind]
    split
    · exact h.replace_withdraw hposition hdevice hkey (fun _ => own_disabled) _ _
    · exact h.replace hposition hdevice hkey (h.entries p hposition) (fun _ _ => rfl) _ _ _

/-! ### Values -/

omit h in
theorem own_device (ks : KeySpace) (p : Nat) {field : String} (hfield : field ∈ deviceFields) :
    ks.device p field ∈ ks.deviceObjectKeys p 0 := device_field_mem_deviceObjectKeys hfield

theorem publish_sensor {kind : SensorKind} {sensor : String} {target : KeyTarget}
    {field : Option String} (htarget : a.enabledSensor key kind sensor = .ok (some target))
    (hfield : kind.publishes field = true) (value : String) :
    Isolated ks key a b (a.publish ks (some (.sensor field)) target value)
      (b.publish ks (some (.sensor field)) target value) := by
  obtain ⟨p, index, owner, slot, hposition, -, -, rfl⟩ := enabledSensor_eq_some htarget
  obtain ⟨contacts, hown⟩ := own_sensor ks p index hfield
  exact h.publish hposition rfl hown value

theorem publishMeaning_sensor {kind : SensorKind} {sensor : String} {target : KeyTarget}
    {field : Option String} (htarget : a.enabledSensor key kind sensor = .ok (some target))
    (hfield : kind.publishes field = true) (table : List String) (code : Int) :
    Isolated ks key a b (a.publishMeaning ks (some (.sensor field)) target table code)
      (b.publishMeaning ks (some (.sensor field)) target table code) := by
  obtain ⟨p, index, owner, slot, hposition, -, -, rfl⟩ := enabledSensor_eq_some htarget
  obtain ⟨contacts, hown⟩ := own_sensor ks p index hfield
  exact h.publishMeaning hposition rfl hown table code

/-- A handler that gets another number of texts than it takes does nothing. -/
theorem process_of_length_ne {handler : Handler} {params : List String}
    (hlength : params.length ≠ handler.expectedParams) (template : Option KeyTemplate)
    (value : String) :
    Isolated ks key a b (handler.process ks template value params a)
      (handler.process ks template value params b) := by
  unfold Handler.process
  split
  all_goals first
    | exact absurd rfl hlength
    | exact h.leave _ _ _

/-- A handler of a device ends in the same way on both sites. -/
theorem process {rule : TopicRule} {handler : Handler} {path : String} {rest : List String}
    (hsound : rule.isSound = true) (hhandler : rule.handler = some handler)
    (hofDevice : handler.isOfDevice = true)
    (hparams : rule.pattern.captures? path = some (key :: rest)) (value : String) :
    Isolated ks key a b (handler.process ks rule.template value (key :: rest) a)
      (handler.process ks rule.template value (key :: rest) b) := by
  by_cases hlength : (key :: rest).length = handler.expectedParams
  case neg => exact h.process_of_length_ne hlength rule.template value
  rw [TopicRule.isSound, hhandler] at hsound
  cases handler with
  | deviceData =>
    obtain rfl := List.length_eq_zero_iff.mp (Nat.succ.inj hlength)
    obtain ⟨field, htemplate, hfield⟩ := TopicRule.template_of_onDevice hsound
    obtain ⟨hmem, -⟩ := of_decide_eq_true hfield
    rw [htemplate]
    refine h.chain h.positionOf fun p hp => ?_
    have hrender : (KeyTemplate.device field).render ks (.device p) = .ok (ks.device p field) :=
      rfl
    exact h.publish (positionOf_eq_ok.mp hp) hrender (own_device ks p hmem) value
  | devicePresence =>
    obtain rfl := List.length_eq_zero_iff.mp (Nat.succ.inj hlength)
    obtain ⟨field, htemplate, hfield⟩ := TopicRule.template_of_onDevice hsound
    obtain ⟨hmem, -⟩ := of_decide_eq_true hfield
    rw [htemplate]
    refine h.chain h.positionOf fun p hp => h.chain rfl fun code _ => ?_
    exact h.publishMeaning (positionOf_eq_ok.mp hp) rfl (own_device ks p hmem) presences code
  | sensorCount =>
    obtain ⟨channel, rfl⟩ := List.length_eq_one_iff.mp (Nat.succ.inj hlength)
    refine h.chain rfl fun kind _ => h.chain rfl fun count _ => ?_
    exact h.countSensors kind count
  | sensorIndex =>
    obtain ⟨channel, index, rfl⟩ := List.length_eq_two.mp (Nat.succ.inj hlength)
    refine h.chain rfl fun kind _ => h.chain rfl fun index _ => h.chain rfl fun sensor _ => ?_
    exact h.announceSensor kind index sensor
  | sensorData =>
    obtain ⟨channel, sensor, rfl⟩ := List.length_eq_two.mp (Nat.succ.inj hlength)
    obtain ⟨field, htemplate, hfield⟩ := TopicRule.template_of_onSensor hsound
    rw [htemplate]
    refine h.chain rfl fun kind hkind => ?_
    refine h.chain (h.enabledSensor kind sensor) fun target htarget => ?_
    cases target with
    | none => exact h.leave _ _ _
    | some target =>
      exact h.publish_sensor htarget (TopicRule.publishes_of_captures hfield hparams hkind) value
  | temperatureValue =>
    obtain ⟨sensor, rfl⟩ := List.length_eq_one_iff.mp (Nat.succ.inj hlength)
    obtain ⟨field, htemplate, hfield⟩ := TopicRule.template_of_onSensor hsound
    rw [htemplate]
    simp only [Handler.process]
    split
    · exact h.leave _ _ _
    · refine h.chain (h.enabledSensor .temperature sensor) fun target htarget => ?_
      cases target with
      | none => exact h.leave _ _ _
      | some target => exact h.publish_sensor htarget hfield _
  | sensorEnable =>
    obtain ⟨channel, sensor, rfl⟩ := List.length_eq_two.mp (Nat.succ.inj hlength)
    refine h.chain rfl fun kind _ => ?_
    exact h.enableSensor kind sensor (.ofFlag value)
  | contactConfig =>
    obtain ⟨sensor, rfl⟩ := List.length_eq_one_iff.mp (Nat.succ.inj hlength)
    obtain ⟨field, htemplate, hfield⟩ := TopicRule.template_of_onSensor hsound
    obtain rfl := of_decide_eq_true hfield
    rw [htemplate]
    refine h.chain (h.resolve .digitalInput sensor) fun found hfound => ?_
    obtain ⟨p, index⟩ := found
    refine h.chain rfl fun code _ => ?_
    have hconfig : SensorKind.digitalInput.publishes (some "config") = true := by decide
    obtain ⟨contacts, hown⟩ := own_sensor ks p index hconfig
    exact h.publishMeaning (resolve_eq_ok.mp hfound).1 rfl hown contactConfigs code
  | contactStatus =>
    obtain ⟨sensor, rfl⟩ := List.length_eq_one_iff.mp (Nat.succ.inj hlength)
    obtain ⟨field, htemplate, hfield⟩ := TopicRule.template_of_onSensor hsound
    rw [htemplate]
    refine h.chain (h.enabledSensor .digitalInput sensor) fun target htarget => ?_
    cases target with
    | none =>
      simp only
      split
      · exact h.leave _ _ _
      · exact h.leave _ _ _
    | some target =>
      refine h.chain rfl fun code _ => ?_
      exact h.publishMeaning_sensor htarget hfield contactStatuses code
  | _ => cases hofDevice

/-- A value at a path below the device ends in the same way on both sites. -/
theorem dispatch {topic path : String} (htopic : DeviceTopic key topic)
    (hpath : topic.toList <+: path.toList) (value : String) :
    Isolated ks key a b (TopicTable.card.dispatch ks path value a)
      (TopicTable.card.dispatch ks path value b) := by
  unfold TopicTable.dispatch
  cases hfind : TopicTable.card.find? path with
  | none => exact h.leave _ _ _
  | some found =>
    obtain ⟨rule, params⟩ := found
    obtain ⟨hmem, hcaptures⟩ := TopicTable.rule_of_find? hfind
    obtain ⟨handler, rest, hhandler, hofDevice, rfl⟩ :=
      TopicTable.find?_below_device htopic hpath hfind
    obtain ⟨hresult, hsame, honly⟩ := h.process (TopicTable.isSound_card rule hmem)
      hhandler hofDevice hcaptures value
    simp only [hhandler, Outcome.andThen, ← hresult]
    split
    · exact ⟨rfl, hsame, honly⟩
    · exact ⟨rfl, hsame, honly⟩

end SameDevice

/-! ### Two devices -/

variable {other : String} {first second both swapped : Site}

theorem position_ne (hne : key ≠ other) {p q : Nat} (hp : a.devices.position? key = some p)
    (hq : a.devices.position? other = some q) : p ≠ q := by
  rintro rfl
  obtain ⟨device, hdevice, rfl⟩ := device_of_position? hp
  obtain ⟨found, hfound, rfl⟩ := device_of_position? hq
  rw [hdevice] at hfound
  exact hne (congrArg Device.key (Option.some.inj hfound))

/-- The names of two devices differ. -/
theorem notMem_deviceObjectKeys (hne : key ≠ other) {p q contacts contacts' : Nat} {name : String}
    (hp : a.devices.position? key = some p) (hq : a.devices.position? other = some q)
    (hname : name ∈ ks.deviceObjectKeys p contacts) : name ∉ ks.deviceObjectKeys q contacts' := by
  obtain ⟨s, -, rfl⟩ := mem_deviceObjectKeys.mp hname
  intro hmem
  exact position_ne hne hp hq (device_mem_deviceObjectKeys.mp hmem).1

/-- A change of one device leaves every other device alone. -/
theorem OnlyDevice.sameDevice (h : OnlyDevice ks key a b) (hne : key ≠ other) :
    SameDevice ks other a b := by
  refine ⟨h.keys.symm, h.limit.symm, ?_, ?_⟩
  · intro q hq
    exact (h.records q fun hp => position_ne hne hp hq rfl).symm
  · intro q hq s
    refine (h.published _ fun p contacts hp hmem => ?_).symm
    exact position_ne hne hp hq (device_mem_deviceObjectKeys.mp hmem).1.symm

/-- A change of one device and a change of another one, made in either order, lead to the same. -/
theorem OnlyDevice.commute (hne : key ≠ other) (hfirst : OnlyDevice ks key a first)
    (hsecond : OnlyDevice ks other a second) (hboth : OnlyDevice ks other first both)
    (hswapped : OnlyDevice ks key second swapped) (hkey : SameDevice ks key first swapped)
    (hother : SameDevice ks other second both) :
    both.devices = swapped.devices ∧ both.outlets = swapped.outlets ∧ both.draft = swapped.draft ∧
      both.store.entries = swapped.store.entries := by
  have hpositionFirst := position?_congr hfirst.keys
  have hpositionSecond := position?_congr hsecond.keys
  refine ⟨?_, ?_, ?_, ?_⟩
  · have hdevices : both.devices.devices = swapped.devices.devices := by
      refine List.ext_getElem? fun q => ?_
      by_cases hq : a.devices.position? key = some q
      · rw [hboth.records q fun hq' => position_ne hne hq (hpositionFirst other ▸ hq') rfl]
        exact hkey.record q (hpositionFirst key ▸ hq)
      · rw [hswapped.records q (hpositionSecond key ▸ hq)]
        by_cases hq' : a.devices.position? other = some q
        · exact (hother.record q (hpositionSecond other ▸ hq')).symm
        · rw [hboth.records q (hpositionFirst other ▸ hq'), hfirst.records q hq,
            hsecond.records q hq']
    have hdeclared : both.devices.declared = swapped.devices.declared := by
      rw [hboth.declared, hfirst.declared, hswapped.declared, hsecond.declared]
    have hlimit : both.devices.maxSensors = swapped.devices.maxSensors := by
      rw [hboth.limit, hfirst.limit, hswapped.limit, hsecond.limit]
    show DeviceRegistry.mk _ _ _ = DeviceRegistry.mk _ _ _
    rw [hdevices, hdeclared, hlimit]
  · rw [hboth.outlets, hfirst.outlets, hswapped.outlets, hsecond.outlets]
  · rw [hboth.draft, hfirst.draft, hswapped.draft, hsecond.draft]
  · apply Std.ExtTreeMap.ext_getElem?
    intro name
    show both.store.get? name = swapped.store.get? name
    by_cases hname : ∃ p contacts, a.devices.position? key = some p ∧
        name ∈ ks.deviceObjectKeys p contacts
    · obtain ⟨p, contacts, hp, hmem⟩ := hname
      rw [hboth.published name fun q _ hq =>
        notMem_deviceObjectKeys hne hp (hpositionFirst other ▸ hq) hmem]
      obtain ⟨s, -, rfl⟩ := mem_deviceObjectKeys.mp hmem
      exact hkey.entries p (hpositionFirst key ▸ hp) s
    · have hnotKey : ∀ p contacts, a.devices.position? key = some p →
          name ∉ ks.deviceObjectKeys p contacts :=
        fun p contacts hp hmem => hname ⟨p, contacts, hp, hmem⟩
      rw [hswapped.published name fun p contacts hp =>
        hnotKey p contacts (hpositionSecond key ▸ hp)]
      by_cases hname' : ∃ q contacts, a.devices.position? other = some q ∧
          name ∈ ks.deviceObjectKeys q contacts
      · obtain ⟨q, contacts, hq, hmem⟩ := hname'
        obtain ⟨s, -, rfl⟩ := mem_deviceObjectKeys.mp hmem
        exact (hother.entries q (hpositionSecond other ▸ hq) s).symm
      · have hnotOther : ∀ q contacts, a.devices.position? other = some q →
            name ∉ ks.deviceObjectKeys q contacts :=
          fun q contacts hq hmem => hname' ⟨q, contacts, hq, hmem⟩
        rw [hboth.published name fun q contacts hq =>
            hnotOther q contacts (hpositionFirst other ▸ hq),
          hfirst.published name hnotKey, hsecond.published name hnotOther]

end Site

end RackTelemetry
