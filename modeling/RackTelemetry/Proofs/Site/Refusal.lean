import RackTelemetry.Proofs.Inventory.Refusal
import RackTelemetry.Proofs.Site.Observation
import RackTelemetry.Proofs.Site.Truncation
import RackTelemetry.Proofs.Topic.Contract
import RackTelemetry.Proofs.Topic.DevicePath

/-!
Refused values. Every handler finds out all that can be wrong with a value before it changes
anything, so a refused value leaves the site as it was; the errors of a handler say what it looks
up. The one exception is a list of alarms that is too long, which closes the list that was open.
-/

namespace RackTelemetry

open KeySpace

/-- The errors with which a handler refuses a value. -/
def Handler.mayAnswer (handler : Handler) : Error → Bool
  | .invalidValue _ _ => handler ∉ [.deviceData, .sensorData, .sensorEnable, .outletData]
  | .emptyRegistry => handler.isOfDevice
  | .deviceNotFound _ => handler.isOfDevice
  | .sensorNotFound _ =>
    handler ∈ [.sensorData, .temperatureValue, .sensorEnable, .contactConfig, .contactStatus]
  | .slotAlreadyKeyed _ _ => handler = .sensorIndex
  | .outletNotFound _ => handler ∈ [.outletData, .outletSwitchable]
  | .emptyKey => handler = .outletIndex
  | .capacityExceeded _ _ => handler ∈ [.sensorCount, .outletCount, .alarmCount]
  | .outOfBounds _ _ => handler ∈ [.sensorIndex, .outletIndex] || handler.isOfAlarmList
  | _ => false

/-- The error says that rules, handlers, templates and positions do not fit together, or it belongs
to something other than a value: to settings, to a whole message, or to the published state. -/
def Error.breaksContract : Error → Bool
  | .invalidParams _ _ | .missingTemplate _ | .templateMismatch _ _ | .unknownSensorKind _
  | .duplicateKey _ | .pattern _ | .store _ | .settings _ | .settingsUnreadable _
  | .malformedPayload _ _ => true
  | _ => false

theorem Handler.not_breaksContract {handler : Handler} {e : Error}
    (h : handler.mayAnswer e = true) : e.breaksContract = false := by
  cases e
  all_goals first
    | rfl
    | cases h

/-- An announced device is only refused where a text cannot be read. -/
theorem Handler.invalidValue_of_deviceIndex {e : Error}
    (h : Handler.deviceIndex.mayAnswer e = true) :
    ∃ text reason, e = .invalidValue text reason := by
  cases e with
  | invalidValue text reason => exact ⟨text, reason, rfl⟩
  | _ => cases h

/-- An outcome that is an error is one of some errors, and the site is as it was. -/
def Outcome.Refuses {α : Type} (outcome : Outcome α) (site : Site) (may : Error → Bool) : Prop :=
  ∀ e, outcome.result = .error e → may e = true ∧ outcome.site = site

namespace Site

variable {ks : KeySpace} {site : Site} {may : Error → Bool}

theorem refuses_of_ok {α : Type} {outcome : Outcome α} {a : α} (h : outcome.result = .ok a) :
    outcome.Refuses site may := by
  intro e he
  rw [h] at he
  cases he

theorem refuses_error {α : Type} {e : Error} (h : may e = true) :
    (site.attempt (.error e : Except Error (Outcome α))).Refuses site may := by
  intro e' he
  obtain rfl := Except.error.inj he
  exact ⟨h, rfl⟩

/-- What has to be found out first may be refused, and so may what follows. -/
theorem refuses_bind {α β : Type} {x : Except Error α} {next : α → Except Error (Outcome β)}
    (herror : ∀ e, x = .error e → may e = true)
    (hnext : ∀ a, x = .ok a → (site.attempt (next a)).Refuses site may) :
    (site.attempt (x >>= next)).Refuses site may := by
  cases x with
  | ok a => exact hnext a rfl
  | error e => exact refuses_error (herror e rfl)

/-- A text that cannot be read is refused, and so may be what follows. -/
theorem refuses_read {α β : Type} {x : Except Error α} {next : α → Except Error (Outcome β)}
    {text reason : String} (hread : ∀ e, x = .error e → e = .invalidValue text reason)
    (hmay : may (.invalidValue text reason) = true)
    (hnext : ∀ a, x = .ok a → (site.attempt (next a)).Refuses site may) :
    (site.attempt (x >>= next)).Refuses site may := by
  refine refuses_bind ?_ hnext
  intro e h
  rw [hread e h]
  exact hmay

/-- Nothing is refused where something was found out before. -/
theorem refuses_found {α β : Type} {x : Except Error α} {next : α → Except Error (Outcome β)}
    {a : α} (hfound : x = .ok a) (hnext : (site.attempt (next a)).Refuses site may) :
    (site.attempt (x >>= next)).Refuses site may := by
  rw [hfound]
  exact hnext

/-! ### Published values -/

theorem put_ok (site : Site) {name : String} (hname : name ≠ "") (value : String) (event : Event) :
    (site.put name value event).result = .ok () := by
  obtain ⟨store, hset⟩ := site.store.set_of_ne value hname
  rw [put, hset]
  rfl

/-- The template has a name for the target. -/
def Suits (ks : KeySpace) (template : Option KeyTemplate) (target : KeyTarget) : Prop :=
  ∃ found name, template = some found ∧ found.render ks target = .ok name ∧ name ≠ ""

theorem suits_device (ks : KeySpace) (field : String) (p : Nat) :
    Suits ks (some (.device field)) (.device p) := ⟨_, _, rfl, rfl, ks.device_ne_empty p field⟩

theorem suits_sensor (ks : KeySpace) (field : Option String) (p : Nat) (kind : SensorKind)
    (index : Nat) : Suits ks (some (.sensor field)) (.sensor p kind index) :=
  ⟨_, _, rfl, rfl, ks.sensor_ne_empty p kind index field⟩

theorem suits_outlet (ks : KeySpace) (field : String) (index : Nat) :
    Suits ks (some (.outlet field)) (.outlet index) :=
  ⟨_, _, rfl, rfl, ks.outlet_ne_empty index field⟩

variable {template : Option KeyTemplate} {target : KeyTarget}

theorem publish_ok (h : Suits ks template target) (site : Site) (value : String) :
    (publish ks site template target value).result = .ok () := by
  obtain ⟨found, name, rfl, hrender, hname⟩ := h
  rw [publish, hrender]
  exact put_ok site hname value _

theorem publishMeaning_ok (h : Suits ks template target) (site : Site) (table : List String)
    (code : Int) : (publishMeaning ks site template target table code).result = .ok () := by
  unfold publishMeaning
  split
  · exact publish_ok h site _
  · rfl

/-! ### Devices and sensors -/

theorem countDevices_ok (ks : KeySpace) (site : Site) (count : Nat) :
    (countDevices ks site count).result = .ok () := by
  unfold countDevices
  simp only
  split
  · rfl
  · rfl

theorem mayAnswer_unknown {handler : Handler} (hdevice : handler.isOfDevice = true) {key : String}
    {e : Error} (h : e = .emptyRegistry ∨ e = .deviceNotFound key) :
    handler.mayAnswer e = true := by
  rcases h with rfl | rfl
  · exact hdevice
  · exact hdevice

/-- A device that is not known is refused, and so may be what follows. -/
theorem refuses_positionOf {handler : Handler} (hdevice : handler.isOfDevice = true)
    {devices : DeviceRegistry} {key : String} {next : Nat → Except Error (Outcome Unit)}
    (hnext : ∀ p, (site.attempt (next p)).Refuses site handler.mayAnswer) :
    (site.attempt (devices.positionOf key >>= next)).Refuses site handler.mayAnswer := by
  refine refuses_bind ?_ fun p _ => hnext p
  intro e h
  exact mayAnswer_unknown hdevice (DeviceRegistry.positionOf_eq_unknown h)

theorem mayAnswer_unresolved {handler : Handler} (hdevice : handler.isOfDevice = true)
    (hsensor : ∀ name, handler.mayAnswer (.sensorNotFound name) = true) {device name : String}
    {e : Error} (h : e = .emptyRegistry ∨ e = .deviceNotFound device ∨ e = .sensorNotFound name) :
    handler.mayAnswer e = true := by
  rcases h with rfl | rfl | rfl
  · exact hdevice
  · exact hdevice
  · exact hsensor name

/-- Whether a sensor is disabled can be told once it is found. -/
theorem enabledSensor_eq_error {device sensor : String} {kind : SensorKind} {e : Error}
    (h : enabledSensor site device kind sensor = .error e) :
    e = .emptyRegistry ∨ e = .deviceNotFound device ∨
      e = .sensorNotFound (kind.channelName ++ "/" ++ sensor) := by
  rcases bind_eq_error h with h | ⟨⟨p, index⟩, hfound, h⟩
  · exact DeviceRegistry.resolve_eq_error h
  · obtain ⟨owner, slot, hslot⟩ := DeviceRegistry.slot_of_resolve hfound
    rcases bind_eq_error h with h | ⟨state, -, h⟩
    · rw [DeviceRegistry.stateOf_eq_ok.mpr ⟨owner, slot, hslot, rfl⟩] at h
      cases h
    · cases h

theorem countSensors_refuses (device : String) (kind : SensorKind) (count : Nat) :
    (countSensors ks site device kind count).Refuses site Handler.sensorCount.mayAnswer := by
  cases hadd : site.devices.addSensors device kind count with
  | error e =>
    rw [countSensors, hadd]
    rcases DeviceRegistry.addSensors_eq_error hadd with rfl | hunknown
    · exact refuses_error rfl
    · exact refuses_error (mayAnswer_unknown rfl hunknown)
  | ok added =>
    obtain ⟨devices, previous⟩ := added
    obtain ⟨p, hposition, -⟩ := DeviceRegistry.positionOf_addSensors hadd
    rw [countSensors_of_addSensors ks hadd hposition]
    exact refuses_of_ok (a := ()) rfl

theorem announceSensor_refuses (device : String) (kind : SensorKind) (index : Nat) {key : String}
    (hkey : key ≠ "") :
    (announceSensor ks site device kind index key).Refuses site
      Handler.sensorIndex.mayAnswer := by
  cases hinit : site.devices.initSensor device kind index key with
  | error e =>
    rw [announceSensor, hinit]
    rcases DeviceRegistry.initSensor_eq_error hkey hinit with
      rfl | rfl | ⟨len, rfl⟩ | ⟨existing, rfl⟩
    · exact refuses_error rfl
    · exact refuses_error rfl
    · exact refuses_error rfl
    · exact refuses_error rfl
  | ok keyed =>
    obtain ⟨devices, isNew⟩ := keyed
    obtain ⟨p, hposition, -⟩ := DeviceRegistry.positionOf_initSensor hinit
    obtain ⟨store, hannounce, -⟩ := announceSensor_of_initSensor ks hinit hposition
    rw [hannounce]
    exact refuses_of_ok (a := ()) rfl

theorem enableSensor_refuses (device : String) (kind : SensorKind) (sensor : String)
    (state : SensorState) :
    (enableSensor ks site device kind sensor state).Refuses site
      Handler.sensorEnable.mayAnswer := by
  refine refuses_bind ?_ ?_
  · intro e h
    exact mayAnswer_unresolved rfl (fun _ => rfl) (DeviceRegistry.resolve_eq_error h)
  · rintro ⟨position, index⟩ hfound
    obtain ⟨owner, slot, hslot⟩ := DeviceRegistry.slot_of_resolve hfound
    obtain ⟨devices, hset⟩ := DeviceRegistry.setState_of_slot hslot state
    refine refuses_found hset ?_
    simp only
    split
    · exact refuses_of_ok (a := ()) rfl
    · exact refuses_of_ok (a := ()) rfl

/-- A value for a sensor is published if the sensor is found and not disabled. -/
theorem refuses_enabledSensor {handler : Handler} (hdevice : handler.isOfDevice = true)
    (hsensor : ∀ name, handler.mayAnswer (.sensorNotFound name) = true) {device sensor : String}
    {kind : SensorKind} {next : Option KeyTarget → Except Error (Outcome Unit)}
    (hdropped : (site.attempt (next none)).Refuses site handler.mayAnswer)
    (hnext : ∀ p index, (site.attempt (next (some (.sensor p kind index)))).Refuses site
      handler.mayAnswer) :
    (site.attempt (enabledSensor site device kind sensor >>= next)).Refuses site
      handler.mayAnswer := by
  refine refuses_bind ?_ fun target htarget => ?_
  · intro e h
    exact mayAnswer_unresolved hdevice hsensor (enabledSensor_eq_error h)
  · cases target with
    | none => exact hdropped
    | some target =>
      obtain ⟨p, index, _, _, -, -, -, rfl⟩ := enabledSensor_eq_some htarget
      exact hnext p index

/-! ### Every handler -/

variable {rule : TopicRule} {path : String} {params : List String}

/-- A handler other than the one that opens the list of alarms refuses a value with one of its
errors, and then leaves the site as it was. -/
theorem process_refuses {handler : Handler} (hsound : rule.isSound = true)
    (hcontract : rule.keepsContract = true) (hhandler : rule.handler = some handler)
    (hparams : rule.pattern.captures? path = some params) (hother : handler ≠ .alarmCount)
    (ks : KeySpace) (site : Site) (value : String) :
    (handler.process ks rule.template value params site).Refuses site handler.mayAnswer := by
  have hlength := TopicRule.length_params hcontract hhandler hparams
  rw [TopicRule.isSound, hhandler] at hsound
  cases handler with
  | deviceCount =>
    obtain rfl := List.length_eq_zero_iff.mp hlength
    simp only [Handler.process]
    refine refuses_read (fun _ => Value.count_eq_error) rfl fun count _ => ?_
    exact refuses_of_ok (countDevices_ok ks site count)
  | deviceIndex =>
    obtain ⟨position, rfl⟩ := List.length_eq_one_iff.mp hlength
    refine refuses_read (fun _ => Value.lastSegment_eq_error) rfl fun key hkey => ?_
    refine refuses_read (fun _ => Value.index_eq_error) rfl fun position _ => ?_
    exact refuses_of_ok (announceDevice_ok ks site (lastSegment_ne_empty hkey) position)
  | deviceData =>
    obtain ⟨device, rfl⟩ := List.length_eq_one_iff.mp hlength
    obtain ⟨field, htemplate, -⟩ := TopicRule.template_of_onDevice hsound
    rw [htemplate]
    refine refuses_positionOf rfl fun p => ?_
    exact refuses_of_ok (publish_ok (suits_device ks field p) site value)
  | devicePresence =>
    obtain ⟨device, rfl⟩ := List.length_eq_one_iff.mp hlength
    obtain ⟨field, htemplate, -⟩ := TopicRule.template_of_onDevice hsound
    rw [htemplate]
    refine refuses_positionOf rfl fun p => ?_
    refine refuses_read (fun _ => Value.code_eq_error) rfl fun code _ => ?_
    exact refuses_of_ok (publishMeaning_ok (suits_device ks field p) site _ code)
  | sensorCount =>
    obtain ⟨device, channel, rfl⟩ := List.length_eq_two.mp hlength
    obtain ⟨kind, hkind⟩ := TopicRule.kind_of_channel hcontract hhandler hparams rfl
    refine refuses_found hkind ?_
    refine refuses_read (fun _ => Value.count_eq_error) rfl fun count _ => ?_
    exact countSensors_refuses device kind count
  | sensorIndex =>
    obtain ⟨device, channel, index, rfl⟩ := List.length_eq_three.mp hlength
    obtain ⟨kind, hkind⟩ := TopicRule.kind_of_channel hcontract hhandler hparams rfl
    refine refuses_found hkind ?_
    refine refuses_read (fun _ => Value.index_eq_error) rfl fun index _ => ?_
    refine refuses_read (fun _ => Value.lastSegment_eq_error) rfl fun key hkey => ?_
    exact announceSensor_refuses device kind index (lastSegment_ne_empty hkey)
  | sensorData =>
    obtain ⟨device, channel, sensor, rfl⟩ := List.length_eq_three.mp hlength
    obtain ⟨kind, hkind⟩ := TopicRule.kind_of_channel hcontract hhandler hparams rfl
    obtain ⟨field, htemplate, -⟩ := TopicRule.template_of_onSensor hsound
    rw [htemplate]
    refine refuses_found hkind (refuses_enabledSensor rfl (fun _ => rfl) ?_ fun p index => ?_)
    · exact refuses_of_ok (a := ()) rfl
    · exact refuses_of_ok (publish_ok (suits_sensor ks field p kind index) site value)
  | temperatureValue =>
    obtain ⟨device, sensor, rfl⟩ := List.length_eq_two.mp hlength
    obtain ⟨field, htemplate, -⟩ := TopicRule.template_of_onSensor hsound
    rw [htemplate]
    simp only [Handler.process]
    split
    · exact refuses_error rfl
    · refine refuses_enabledSensor rfl (fun _ => rfl) ?_ fun p index => ?_
      · exact refuses_of_ok (a := ()) rfl
      · exact refuses_of_ok (publish_ok (suits_sensor ks field p .temperature index) site _)
  | sensorEnable =>
    obtain ⟨device, channel, sensor, rfl⟩ := List.length_eq_three.mp hlength
    obtain ⟨kind, hkind⟩ := TopicRule.kind_of_channel hcontract hhandler hparams rfl
    refine refuses_found hkind ?_
    exact enableSensor_refuses device kind sensor _
  | contactConfig =>
    obtain ⟨device, sensor, rfl⟩ := List.length_eq_two.mp hlength
    obtain ⟨field, htemplate, -⟩ := TopicRule.template_of_onSensor hsound
    rw [htemplate]
    refine refuses_bind ?_ ?_
    · intro e h
      exact mayAnswer_unresolved rfl (fun _ => rfl) (DeviceRegistry.resolve_eq_error h)
    · rintro ⟨p, index⟩ -
      simp only
      refine refuses_read (fun _ => Value.code_eq_error) rfl fun code _ => ?_
      exact refuses_of_ok
        (publishMeaning_ok (suits_sensor ks field p .digitalInput index) site _ code)
  | contactStatus =>
    obtain ⟨device, sensor, rfl⟩ := List.length_eq_two.mp hlength
    obtain ⟨field, htemplate, -⟩ := TopicRule.template_of_onSensor hsound
    rw [htemplate]
    refine refuses_enabledSensor rfl (fun _ => rfl) ?_ fun p index => ?_
    · simp only
      cases hcode : Value.code value with
      | ok code => exact refuses_of_ok (a := ()) rfl
      | error e =>
        -- the value is noted as dropped, and then refused
        obtain rfl := Value.code_eq_error hcode
        intro e h
        obtain rfl := Except.error.inj h
        exact ⟨rfl, rfl⟩
    · simp only
      refine refuses_read (fun _ => Value.code_eq_error) rfl fun code _ => ?_
      exact refuses_of_ok
        (publishMeaning_ok (suits_sensor ks field p .digitalInput index) site _ code)
  | outletCount =>
    obtain rfl := List.length_eq_zero_iff.mp hlength
    simp only [Handler.process]
    refine refuses_read (fun _ => Value.count_eq_error) rfl fun count _ => ?_
    refine refuses_bind ?_ fun outlets _ => refuses_of_ok (a := ()) rfl
    intro e h
    obtain rfl := OutletRegistry.reset_eq_error h
    rfl
  | outletIndex =>
    obtain ⟨index, rfl⟩ := List.length_eq_one_iff.mp hlength
    simp only [Handler.process]
    refine refuses_read (fun _ => Value.index_eq_error) rfl fun index _ => ?_
    refine refuses_bind ?_ fun outlets _ => refuses_of_ok (a := ()) rfl
    intro e h
    rcases OutletRegistry.setTopic_eq_error h with rfl | rfl
    · rfl
    · rfl
  | outletData =>
    obtain ⟨outlet, rfl⟩ := List.length_eq_one_iff.mp hlength
    obtain ⟨field, htemplate, -⟩ := TopicRule.template_of_onOutlet hsound
    rw [htemplate]
    refine refuses_bind ?_ fun index _ => ?_
    · intro e h
      obtain rfl := OutletRegistry.indexOf_eq_error h
      rfl
    · exact refuses_of_ok (publish_ok (suits_outlet ks field index) site value)
  | outletSwitchable =>
    obtain ⟨outlet, rfl⟩ := List.length_eq_one_iff.mp hlength
    obtain ⟨field, htemplate, -⟩ := TopicRule.template_of_onOutlet hsound
    rw [htemplate]
    refine refuses_bind ?_ fun index hindex => ?_
    · intro e h
      obtain rfl := OutletRegistry.indexOf_eq_error h
      rfl
    · refine refuses_read (fun _ => Value.flag_eq_error) rfl fun switchable _ => ?_
      obtain ⟨outlets, hset⟩ := OutletRegistry.setSwitchable_of_indexOf hindex switchable
      refine refuses_found hset ?_
      exact refuses_of_ok (publish_ok (suits_outlet ks field index) { site with outlets } _)
  | alarmCount => exact absurd rfl hother
  | alarmField field =>
    obtain ⟨index, rfl⟩ := List.length_eq_one_iff.mp hlength
    simp only [Handler.process]
    refine refuses_read (fun _ => Value.index_eq_error) rfl fun index _ => ?_
    refine refuses_bind ?_ fun draft _ => refuses_of_ok (a := ()) rfl
    intro e h
    rcases AlarmDraft.setField_eq_error h with ⟨len, rfl⟩ | ⟨reason, rfl⟩
    · rfl
    · rfl

/-! ### Every path -/

/-- The path opens a list of alarms, and the value says that it has more of them than allowed. -/
def Overlong (site : Site) (path value : String) : Prop :=
  ∃ rule params count, TopicTable.card.find? path = some (rule, params) ∧
    rule.handler = some .alarmCount ∧ Value.count value = .ok count ∧ site.draft.maxAlarms < count

/-- No list of alarms is being received any more. -/
def withoutList (site : Site) : Site := { site with draft := { site.draft with slots := none } }

/-- A list of alarms is refused if its length cannot be read, or if it is too long. -/
theorem alarmCount_eq_error {template : Option KeyTemplate} {value : String} {e : Error}
    (h : (Handler.alarmCount.process ks template value [] site).result = .error e) :
    (Value.count value = .error e ∧
        (Handler.alarmCount.process ks template value [] site).site = site) ∨
      ∃ count, Value.count value = .ok count ∧ site.draft.maxAlarms < count ∧
        e = .capacityExceeded count site.draft.maxAlarms ∧
        (Handler.alarmCount.process ks template value [] site).site = site.withoutList := by
  simp only [Handler.process] at h ⊢
  cases hcount : Value.count value with
  | error e' =>
    rw [hcount] at h
    obtain rfl := Except.error.inj h
    exact .inl ⟨rfl, rfl⟩
  | ok count =>
    rw [hcount] at h
    by_cases hlimit : site.draft.maxAlarms < count
    · have hbegin : site.draft.begin count = ({ site.draft with slots := none },
          .error (.capacityExceeded count site.draft.maxAlarms)) := if_pos hlimit
      simp only [bind, Except.bind, hbegin] at h ⊢
      obtain rfl := Except.error.inj h
      exact .inr ⟨count, rfl, hlimit, rfl, rfl⟩
    · have hbegin : site.draft.begin count =
          ({ site.draft with slots := some (List.replicate count {}) }, .ok ()) := if_neg hlimit
      simp only [bind, Except.bind, hbegin] at h
      cases h

theorem andThen_eq_error {α β : Type} {first : Outcome α} {next : α → Site → Outcome β} {e : Error}
    (hnext : ∀ a site, ∃ b, (next a site).result = .ok b)
    (h : (first.andThen next).result = .error e) : first.result = .error e := by
  unfold Outcome.andThen at h
  split at h
  · next a _ =>
    obtain ⟨b, hb⟩ := hnext a first.site
    rw [hb] at h
    cases h
  · next e' he =>
    obtain rfl := Except.error.inj h
    exact he

/-- A direct rule publishes every value. -/
theorem dispatch_direct {rule : TopicRule} {params : List String} {path : String}
    (hfind : TopicTable.card.find? path = some (rule, params)) (hhandler : rule.handler = none)
    (ks : KeySpace) (site : Site) (value : String) :
    ∃ name, (TopicTable.card.dispatch ks path value site).result = .ok (.written name) := by
  obtain ⟨hmem, -⟩ := TopicTable.rule_of_find? hfind
  obtain ⟨name, htemplate, hname⟩ :=
    TopicRule.name_of_direct (TopicTable.keepsContract_card rule hmem) hhandler
  refine ⟨name, ?_⟩
  have hput := put_ok site hname value (.mapped path name value)
  have hrender : (KeyTemplate.fixed name).render ks .global = .ok name := rfl
  simp only [TopicTable.dispatch, hfind, hhandler, htemplate, hrender, bind, Except.bind]
  simp only [pure, Except.pure, attempt, Outcome.andThen, hput]

/-- A value is refused by a handler, with one of its errors. -/
theorem dispatch_eq_error {path value : String} {e : Error}
    (h : (TopicTable.card.dispatch ks path value site).result = .error e) :
    ∃ rule params handler, TopicTable.card.find? path = some (rule, params) ∧
      rule.handler = some handler ∧ handler.mayAnswer e = true ∧
      ((¬ site.Overlong path value ∧
          (TopicTable.card.dispatch ks path value site).site = site) ∨
        ∃ count, e = .capacityExceeded count site.draft.maxAlarms ∧ site.Overlong path value ∧
          (TopicTable.card.dispatch ks path value site).site = site.withoutList) := by
  cases hfind : TopicTable.card.find? path with
  | none =>
    simp only [TopicTable.dispatch, hfind] at h
    cases h
  | some found =>
    obtain ⟨rule, params⟩ := found
    obtain ⟨hmem, hparams⟩ := TopicTable.rule_of_find? hfind
    have hcontract := TopicTable.keepsContract_card rule hmem
    cases hhandler : rule.handler with
    | none =>
      obtain ⟨name, hok⟩ := dispatch_direct hfind hhandler ks site value
      rw [hok] at h
      cases h
    | some handler =>
      have hdispatch := dispatch_handled hfind hhandler ks site value
      rw [hdispatch] at h ⊢
      have hprocess := andThen_eq_error (fun _ _ => ⟨_, rfl⟩) h
      rw [Outcome.site_andThen fun _ _ => rfl]
      refine ⟨rule, params, handler, rfl, hhandler, ?_⟩
      by_cases hcount : handler = .alarmCount
      · subst hcount
        have hlength := TopicRule.length_params hcontract hhandler hparams
        obtain rfl := List.length_eq_zero_iff.mp hlength
        rcases alarmCount_eq_error hprocess with
          ⟨hunread, hsame⟩ | ⟨count, hread, hlimit, rfl, hclosed⟩
        · obtain rfl := Value.count_eq_error hunread
          refine ⟨rfl, .inl ⟨?_, hsame⟩⟩
          rintro ⟨_, _, count, -, -, hread, -⟩
          rw [hunread] at hread
          cases hread
        · exact ⟨rfl, .inr ⟨count, rfl, ⟨rule, [], count, hfind, hhandler, hread, hlimit⟩, hclosed⟩⟩
      · obtain ⟨hmay, hsame⟩ := process_refuses (TopicTable.isSound_card rule hmem) hcontract
          hhandler hparams hcount ks site value e hprocess
        refine ⟨hmay, .inl ⟨?_, hsame⟩⟩
        rintro ⟨other, _, _, hother, halarm, -⟩
        obtain ⟨rfl, -⟩ := Prod.mk.inj (Option.some.inj (hfind.symm.trans hother))
        exact hcount (Option.some.inj (hhandler.symm.trans halarm))

/-- Whatever the devices, the outlets and the published state are, no value makes the rules of the
card break a contract, and an announced device is only refused if its position or its key cannot be
read. -/
theorem dispatch_keeps_contracts (ks : KeySpace) (site : Site) (path value : String) (e : Error)
    (h : (TopicTable.card.dispatch ks path value site).result = .error e) :
    e.breaksContract = false ∧
      ∀ rule ∈ TopicTable.card, rule.handler = some .deviceIndex →
        rule.pattern.isMatch path = true → ∃ text reason, e = .invalidValue text reason := by
  obtain ⟨rule, params, handler, hfind, hhandler, hmay, -⟩ := dispatch_eq_error h
  refine ⟨Handler.not_breaksContract hmay, ?_⟩
  intro other hmem hother hmatch
  obtain ⟨_, hsame⟩ := TopicTable.find?_of_isMatch_deviceIndex hmem hother hmatch
  obtain ⟨rfl, -⟩ := Prod.mk.inj (Option.some.inj (hfind.symm.trans hsame))
  obtain rfl := Option.some.inj (hhandler.symm.trans hother)
  exact Handler.invalidValue_of_deviceIndex hmay

/-- A position that is no number of a position. -/
theorem dispatch_keeps_contracts_far_position :
    let site : Site := { devices := { devices := [{ key := "dev-a" }], declared := 2 } }
    let path := "mbdetnrs/1.0/sensors/devices/members/18446744073709551616/@id"
    let e := Error.invalidValue "18446744073709551616" "not an index"
    (TopicTable.card.dispatch {} path "/dev-b" site).result = .error e ∧
      TopicTable.memberRule.pattern.isMatch path = true ∧ e.breaksContract = false ∧
      ∃ text reason, e = .invalidValue text reason := by
  intro site path e
  have hrefused : (TopicTable.card.dispatch {} path "/dev-b" site).result = .error e := by
    decide +kernel
  have hmatch : TopicTable.memberRule.pattern.isMatch path = true := by decide +kernel
  have hrule : TopicTable.memberRule ∈ TopicTable.card := by
    rw [TopicTable.card_eq_append_memberRule]
    exact List.mem_append_right _ List.mem_cons_self
  obtain ⟨hkept, hdevice⟩ := dispatch_keeps_contracts {} site path "/dev-b" e hrefused
  exact ⟨hrefused, hmatch, hkept, hdevice TopicTable.memberRule hrule rfl hmatch⟩

/-- A refused value changes nothing. Only a list of alarms that is too long closes the list that was
open, and changes nothing else. -/
theorem refused_value_changes_nothing (ks : KeySpace) (site : Site) (path value : String)
    (e : Error) (h : (TopicTable.card.dispatch ks path value site).result = .error e) :
    let after := (TopicTable.card.dispatch ks path value site).site
    (¬ site.Overlong path value → after = site) ∧
      (site.Overlong path value →
        (∃ count, e = .capacityExceeded count site.draft.maxAlarms) ∧
          after = { site with draft := { site.draft with slots := none } }) := by
  obtain ⟨_, _, _, -, -, -, hafter⟩ := dispatch_eq_error h
  intro after
  rcases hafter with ⟨hfits, hsame⟩ | ⟨count, rfl, hoverlong, hclosed⟩
  · exact ⟨fun _ => hsame, fun hoverlong => absurd hoverlong hfits⟩
  · exact ⟨fun hfits => absurd hoverlong hfits, fun _ => ⟨⟨count, rfl⟩, hclosed⟩⟩

/-- A list for at most two alarms is open. A field of an alarm beyond it is refused, and so is a
list of three alarms. -/
theorem refused_value_changes_nothing_in_list :
    let site : Site := { draft := { slots := some [{ id := some "a" }], maxAlarms := 2 } }
    let field := "mbdetnrs/1.0/alarmService/activeAlarms/members/1/id"
    let length := "mbdetnrs/1.0/alarmService/activeAlarms/members@count"
    (TopicTable.card.dispatch {} field "b" site).result = .error (.outOfBounds 1 1) ∧
      (TopicTable.card.dispatch {} field "b" site).site = site ∧
      (TopicTable.card.dispatch {} length "3" site).result = .error (.capacityExceeded 3 2) ∧
      (TopicTable.card.dispatch {} length "3" site).site = { draft := { maxAlarms := 2 } } := by
  intro site field length
  let rule : TopicRule := .handled
    (.whole (topicRoot ++ .lit "alarmService/activeAlarms/members@count")) none .alarmCount
  have hfield : (TopicTable.card.dispatch {} field "b" site).result =
      .error (.outOfBounds 1 1) := by
    decide +kernel
  have hlength : (TopicTable.card.dispatch {} length "3" site).result =
      .error (.capacityExceeded 3 2) := by
    decide +kernel
  have hfits : ¬ site.Overlong field "b" := by
    rintro ⟨_, _, count, -, -, hcount, -⟩
    cases hcount
  have hoverlong : site.Overlong length "3" := by
    have hfind : TopicTable.card.find? length = some (rule, []) := by decide +kernel
    exact ⟨rule, [], 3, hfind, rfl, by decide, by decide⟩
  exact ⟨hfield, (refused_value_changes_nothing {} site field "b" _ hfield).1 hfits, hlength,
    ((refused_value_changes_nothing {} site length "3" _ hlength).2 hoverlong).2⟩

end Site

end RackTelemetry
