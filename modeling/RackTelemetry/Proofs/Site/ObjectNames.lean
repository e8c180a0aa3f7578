import RackTelemetry.Proofs.Alarm.Objects
import RackTelemetry.Proofs.Naming.ObjectKeys
import RackTelemetry.Proofs.Site.Change

/-!
Every name that a rule can give for a device or one of its sensors is in the list of names of that
device. The fields in that list are kept apart from the templates of the rules, so whatever moves
or drops a device goes by the list alone: a name that is missing there would stay behind.
-/

namespace RackTelemetry

open KeySpace DeviceRegistry

/-! ### The names that rules give -/

/-- The object is the device at a position, or a sensor of it. Contacts are among the first ones. -/
def KeyTarget.BelongsTo : KeyTarget → Nat → Nat → Prop
  | .device q, p, _ => q = p
  | .sensor q kind index, p, contacts => q = p ∧ (kind.isIndexed = true → index < contacts)
  | .outlet _, _, _ => False
  | .global, _, _ => False

/-- The objects that a handler publishes for, by the texts of its rule. Where the device stands, and
in which slot the sensor is, depends on the site. -/
inductive Handler.Reaches : Handler → List String → KeyTarget → Prop where
  | deviceData (device : String) (p : Nat) : Reaches .deviceData [device] (.device p)
  | devicePresence (device : String) (p : Nat) : Reaches .devicePresence [device] (.device p)
  | sensorData {channel : String} {kind : SensorKind} (device sensor : String) (p index : Nat)
    (hkind : SensorKind.ofChannel channel = .ok kind) :
    Reaches .sensorData [device, channel, sensor] (.sensor p kind index)
  | temperatureValue (device sensor : String) (p index : Nat) :
    Reaches .temperatureValue [device, sensor] (.sensor p .temperature index)
  | contactConfig (device sensor : String) (p index : Nat) :
    Reaches .contactConfig [device, sensor] (.sensor p .digitalInput index)
  | contactStatus (device sensor : String) (p index : Nat) :
    Reaches .contactStatus [device, sensor] (.sensor p .digitalInput index)
  | outletData (outlet : String) (index : Nat) : Reaches .outletData [outlet] (.outlet index)
  | outletSwitchable (outlet : String) (index : Nat) :
    Reaches .outletSwitchable [outlet] (.outlet index)

/-- The names that a topic rule can give, each with the object it is for. -/
inductive TopicRule.Renders (rule : TopicRule) (ks : KeySpace) : KeyTarget → String → Prop where
  | direct {template : KeyTemplate} {name : String} (hhandler : rule.handler = none)
    (htemplate : rule.template = some template) (hname : template.render ks .global = .ok name) :
    Renders rule ks .global name
  | handled {handler : Handler} {template : KeyTemplate} {path name : String}
    {params : List String} {target : KeyTarget} (hhandler : rule.handler = some handler)
    (hparams : rule.pattern.captures? path = some params) (htarget : handler.Reaches params target)
    (htemplate : rule.template = some template) (hname : template.render ks target = .ok name) :
    Renders rule ks target name

/-- The names that an alarm rule can give, whatever the devices. -/
inductive AlarmRule.Renders (rule : AlarmRule) (ks : KeySpace) : KeyTarget → String → Prop where
  | object (template : KeyTemplate) {raised cleared topic name : String} {params : List String}
    {devices : DeviceRegistry} {target : KeyTarget}
    (haction : .object template raised cleared ∈ rule.actions)
    (hparams : rule.topic.captures? topic = some params)
    (htarget : AlarmPass.objectTarget devices template params = .ok (some target))
    (hname : template.render ks target = .ok name) : Renders rule ks target name

variable {ks : KeySpace} {p contacts : Nat} {name : String} {target : KeyTarget}

theorem KeySpace.device_mem_of_belongsTo {q : Nat} {field : String}
    (hof : (KeyTarget.device q).BelongsTo p contacts) (hfield : field ∈ deviceFields) :
    ks.device q field ∈ ks.deviceObjectKeys p contacts := by
  obtain rfl : q = p := hof
  exact device_field_mem_deviceObjectKeys hfield

theorem KeySpace.sensor_mem_of_belongsTo {q index : Nat} {kind : SensorKind}
    {field : Option String} (hof : (KeyTarget.sensor q kind index).BelongsTo p contacts)
    (hfield : kind.publishes field = true) :
    ks.sensor q kind index field ∈ ks.deviceObjectKeys p contacts := by
  obtain ⟨rfl, hindex⟩ := hof
  exact sensor_mem_deviceObjectKeys hfield hindex

namespace TopicRule

variable {rule : TopicRule} {template : KeyTemplate} {q : Nat}

/-- A rule for devices gives a name of the device, with a field that the rule may have. -/
theorem name_of_onDevice {may : String → Bool} (hsound : rule.onDevice may = true)
    (htemplate : rule.template = some template)
    (hname : template.render ks (.device q) = .ok name) :
    ∃ field, may field = true ∧ name = ks.device q field := by
  obtain ⟨field, hsame, hfield⟩ := template_of_onDevice hsound
  obtain rfl := Option.some.inj (htemplate.symm.trans hsame)
  exact ⟨field, hfield, (Except.ok.inj hname).symm⟩

@[inherit_doc name_of_onDevice]
theorem name_of_onSensor {may : Option String → Bool} {kind : SensorKind} {index : Nat}
    (hsound : rule.onSensor may = true) (htemplate : rule.template = some template)
    (hname : template.render ks (.sensor q kind index) = .ok name) :
    ∃ field, may field = true ∧ name = ks.sensor q kind index field := by
  obtain ⟨field, hsame, hfield⟩ := template_of_onSensor hsound
  obtain rfl := Option.some.inj (htemplate.symm.trans hsame)
  exact ⟨field, hfield, (Except.ok.inj hname).symm⟩

/-- What a rule of the card gives for an object of a device is listed for that device. -/
theorem mem_of_renders (hrule : rule ∈ TopicTable.card) (h : rule.Renders ks target name)
    (hof : target.BelongsTo p contacts) : name ∈ ks.deviceObjectKeys p contacts := by
  have hsound := TopicTable.isSound_card rule hrule
  cases h with
  | direct => cases hof
  | handled hhandler hparams htarget htemplate hname =>
    rw [isSound, hhandler] at hsound
    cases htarget with
    | deviceData device q =>
      obtain ⟨field, hfield, rfl⟩ := name_of_onDevice hsound htemplate hname
      exact device_mem_of_belongsTo hof (of_decide_eq_true hfield).1
    | devicePresence device q =>
      obtain ⟨field, hfield, rfl⟩ := name_of_onDevice hsound htemplate hname
      exact device_mem_of_belongsTo hof (of_decide_eq_true hfield).1
    | sensorData device sensor q index hkind =>
      obtain ⟨field, hfield, rfl⟩ := name_of_onSensor hsound htemplate hname
      exact sensor_mem_of_belongsTo hof (publishes_of_captures hfield hparams hkind)
    | temperatureValue device sensor q index =>
      obtain ⟨field, hfield, rfl⟩ := name_of_onSensor hsound htemplate hname
      exact sensor_mem_of_belongsTo hof hfield
    | contactConfig device sensor q index =>
      obtain ⟨field, hfield, rfl⟩ := name_of_onSensor hsound htemplate hname
      obtain rfl := of_decide_eq_true hfield
      exact sensor_mem_of_belongsTo hof (by decide)
    | contactStatus device sensor q index =>
      obtain ⟨field, hfield, rfl⟩ := name_of_onSensor hsound htemplate hname
      exact sensor_mem_of_belongsTo hof hfield
    | outletData => cases hof
    | outletSwitchable => cases hof

end TopicRule

theorem AlarmRule.mem_of_renders {rule : AlarmRule} (hrule : rule ∈ AlarmTable.card)
    (h : rule.Renders ks target name) (hof : target.BelongsTo p contacts) :
    name ∈ ks.deviceObjectKeys p contacts := by
  obtain ⟨template, haction, -, htarget, hname⟩ := h
  have hsound := AlarmTable.isSound_card rule hrule _ haction
  cases template with
  | device field =>
    obtain rfl : field = "present" := of_decide_eq_true hsound
    obtain ⟨key, q, -, -, rfl⟩ := AlarmPass.objectTarget_device htarget
    obtain rfl := Except.ok.inj hname
    exact device_mem_of_belongsTo hof (by decide)
  | sensor field =>
    obtain ⟨rfl, -⟩ : field = some "status" ∧ _ := of_decide_eq_true hsound
    obtain ⟨-, -, -, kind, q, index, -, -, -, -, -, -, -, rfl⟩ :=
      AlarmPass.objectTarget_sensor htarget
    obtain rfl := Except.ok.inj hname
    exact sensor_mem_of_belongsTo hof kind.publishes_status
  | fixed name => cases hsound
  | outlet field => cases hsound

/-! ### What values and alarms publish -/

/-- The handlers that publish their value for an object. -/
def Handler.publishes : Handler → Bool
  | .deviceData | .devicePresence | .sensorData | .temperatureValue | .contactConfig
  | .contactStatus | .outletData | .outletSwitchable => true
  | _ => false

/-- Only rules for handlers that publish have a template. -/
theorem TopicTable.publishes_card : ∀ rule ∈ card, rule.template ≠ none →
    ∀ handler, rule.handler = some handler → handler.publishes = true := by
  decide

namespace Site

variable {site : Site} {template : Option KeyTemplate} {value : String} {params : List String}

theorem get?_publish
    (hfree : ∀ known, template = some known → known.render ks target ≠ .ok name) (value : String) :
    (publish ks site template target value).site.store.get? name = site.store.get? name := by
  cases template with
  | none => rfl
  | some template =>
    refine publish_cases (P := fun after => after.store.get? name = site.store.get? name) rfl ?_
    intro key store hkey hset
    refine Store.get?_set_other hset ?_
    rintro rfl
    exact hfree template rfl hkey

theorem get?_publishMeaning
    (hfree : ∀ known, template = some known → known.render ks target ≠ .ok name)
    (table : List String) (code : Int) :
    (publishMeaning ks site template target table code).site.store.get? name =
      site.store.get? name :=
  publishMeaning_cases (P := fun after => after.store.get? name = site.store.get? name) rfl
    fun text => get?_publish hfree text

theorem get?_bind {α : Type} {x : Except Error α} {next : α → Except Error (Outcome Unit)}
    (hnext : ∀ a, x = .ok a →
      (site.attempt (next a)).site.store.get? name = site.store.get? name) :
    (site.attempt (x >>= next)).site.store.get? name = site.store.get? name :=
  bind_cases (P := fun after => after.store.get? name = site.store.get? name) rfl hnext

/-- A handler that publishes changes no name but those that its template gives for the objects it
reaches. -/
theorem get?_process {handler : Handler} (hpublishes : handler.publishes = true)
    (hfree : ∀ known target, template = some known → handler.Reaches params target →
      known.render ks target ≠ .ok name) :
    (handler.process ks template value params site).site.store.get? name =
      site.store.get? name := by
  have htarget {target : KeyTarget} (hreaches : handler.Reaches params target) :
      ∀ known, template = some known → known.render ks target ≠ .ok name :=
    fun known htemplate => hfree known target htemplate hreaches
  unfold Handler.process
  split
  · cases hpublishes
  · cases hpublishes
  · refine get?_bind fun q _ => ?_
    exact get?_publish (htarget (.deviceData ..)) value
  · refine get?_bind fun q _ => get?_bind fun code _ => ?_
    exact get?_publishMeaning (htarget (.devicePresence ..)) presences code
  · cases hpublishes
  · cases hpublishes
  · refine get?_bind fun kind hkind => get?_bind fun found hfound => ?_
    cases found with
    | none => rfl
    | some found =>
      obtain ⟨q, index, -, -, -, -, -, rfl⟩ := enabledSensor_eq_some hfound
      exact get?_publish (htarget (.sensorData _ _ q index hkind)) value
  · split
    · rfl
    · refine get?_bind fun found hfound => ?_
      cases found with
      | none => rfl
      | some found =>
        obtain ⟨q, index, -, -, -, -, -, rfl⟩ := enabledSensor_eq_some hfound
        exact get?_publish (htarget (.temperatureValue _ _ q index)) _
  · cases hpublishes
  · refine get?_bind ?_
    rintro ⟨q, index⟩ -
    simp only
    refine get?_bind fun code _ => ?_
    exact get?_publishMeaning (htarget (.contactConfig _ _ q index)) contactConfigs code
  · refine get?_bind fun found hfound => ?_
    cases found with
    | none =>
      simp only
      split
      · rfl
      · rfl
    | some found =>
      obtain ⟨q, index, -, -, -, -, -, rfl⟩ := enabledSensor_eq_some hfound
      simp only
      refine get?_bind fun code _ => ?_
      exact get?_publishMeaning (htarget (.contactStatus _ _ q index)) contactStatuses code
  · cases hpublishes
  · cases hpublishes
  · refine get?_bind fun index _ => ?_
    exact get?_publish (htarget (.outletData ..)) value
  · refine get?_bind fun index _ => get?_bind fun switchable _ =>
      get?_bind fun outlets _ => ?_
    exact get?_publish (htarget (.outletSwitchable ..)) _
  · cases hpublishes
  · cases hpublishes
  · rfl

/-- A value changes no name but those that the rule of its path gives. Rules without a template give
no names: they move and drop what is published, and set the key of a device or a first status. -/
theorem get?_dispatch {rule : TopicRule} {path : String}
    (hfind : TopicTable.card.find? path = some (rule, params)) (htemplate : rule.template ≠ none)
    (hfree : ∀ target, ¬ rule.Renders ks target name) :
    (TopicTable.card.dispatch ks path value site).site.store.get? name = site.store.get? name := by
  obtain ⟨hrule, hparams⟩ := TopicTable.rule_of_find? hfind
  cases hhandler : rule.handler with
  | none =>
    simp only [TopicTable.dispatch, hfind, hhandler]
    refine attempt_cases (P := fun after => after.store.get? name = site.store.get? name) rfl ?_
    intro outcome h
    split at h
    · cases h
    · next template hsome =>
      obtain ⟨key, hkey, h⟩ := exists_of_bind_eq_ok h
      obtain rfl := Except.ok.inj h
      rw [Outcome.site_andThen fun _ _ => rfl, put]
      split
      · next store hset =>
        refine Store.get?_set_other hset ?_
        rintro rfl
        exact hfree .global (.direct hhandler hsome hkey)
      · rfl
  | some handler =>
    rw [site_dispatch hfind hhandler]
    refine get?_process (TopicTable.publishes_card rule hrule htemplate handler hhandler) ?_
    intro template target hsome htarget hname
    exact hfree target (.handled hhandler hparams htarget hsome hname)

end Site

/-- Besides the two channels, a pass changes no name but those that alarm rules give. -/
theorem AlarmTable.get?_reconcile_of_free {table : AlarmTable} (halarm : name ≠ ks.alarmKey)
    (hstatus : name ≠ ks.statusKey) (hfree : ∀ rule ∈ table, ∀ target, ¬ rule.Renders ks target name)
    (known : AlarmRegistry) (devices : DeviceRegistry) (store : Store) (received : List Alarm) :
    (table.reconcile ks known devices store received).store.get? name = store.get? name := by
  refine AlarmPass.get?_reconcile_of_notMem halarm hstatus ?_ known store received
  intro entry value hwrite
  obtain ⟨-, template, raised, cleared, params, target, hmem, htarget, hname, -⟩ :=
    AlarmPass.mem_writesFor.mp hwrite
  obtain ⟨rule, hmatching, haction⟩ := AlarmPass.mem_actionsFor.mp hmem
  obtain ⟨hrule, -, hparams⟩ := AlarmPass.rule_of_mem_matching hmatching
  exact hfree rule hrule target (.object template haction hparams htarget hname)

/-! ### The lists -/

namespace KeySpace

/-- The lists of names under which devices are published: what each of them looks like, how those of
two devices compare, and that nothing the rules give for a device is missing. `published` and
`reported` say that what the rules give is all that their values and alarms change. -/
structure ListsObjects (ks : KeySpace) : Prop where
  distinct : ∀ p contacts, (ks.deviceObjectKeys p contacts).Nodup
  apart : ∀ p q contacts contacts', p ≠ q →
    (ks.deviceObjectKeys p contacts).Disjoint (ks.deviceObjectKeys q contacts')
  extended : ∀ p contacts contacts', contacts ≤ contacts' →
    ks.deviceObjectKeys p contacts' = ks.deviceObjectKeys p contacts ++
      (List.range' contacts (contacts' - contacts)).flatMap (ks.contactKeys p)
  sameLength : ∀ p q contacts,
    (ks.deviceObjectKeys p contacts).length = (ks.deviceObjectKeys q contacts).length
  aligned : ∀ (p q contacts j : Nat) (name : String),
    (ks.deviceObjectKeys p contacts)[j]? = some name → ∃ step, name = ks.device p step ∧
      (ks.deviceObjectKeys q contacts)[j]? = some (ks.device q step)
  ruled : ∀ rule ∈ TopicTable.card, ∀ target name, rule.Renders ks target name →
    ∀ p contacts, target.BelongsTo p contacts → name ∈ ks.deviceObjectKeys p contacts
  alarmed : ∀ rule ∈ AlarmTable.card, ∀ target name, rule.Renders ks target name →
    ∀ p contacts, target.BelongsTo p contacts → name ∈ ks.deviceObjectKeys p contacts
  disabled : ∀ p kind index contacts, (KeyTarget.sensor p kind index).BelongsTo p contacts →
    ks.disabledSensorKeys p kind index ⊆ ks.deviceObjectKeys p contacts
  published : ∀ path rule params, TopicTable.card.find? path = some (rule, params) →
    rule.template ≠ none → ∀ site value name,
      (TopicTable.card.dispatch ks path value site).site.store.get? name ≠ site.store.get? name →
        ∃ target, rule.Renders ks target name
  reported : ∀ known devices store received name, name ≠ ks.alarmKey → name ≠ ks.statusKey →
    (AlarmTable.card.reconcile ks known devices store received).store.get? name ≠
        store.get? name →
      ∃ rule ∈ AlarmTable.card, ∃ target, rule.Renders ks target name

/-- Whatever the roots of the names, points and digits in them included, the lists of names are free
of repetitions, apart from each other, aligned and complete. -/
theorem lists_objects (ks : KeySpace) : ks.ListsObjects where
  distinct := ks.nodup_deviceObjectKeys
  apart := fun _ _ contacts contacts' hne => ks.disjoint_deviceObjectKeys hne contacts contacts'
  extended := fun p _ _ hle => ks.deviceObjectKeys_of_le p hle
  sameLength := by
    intro p q contacts
    rw [length_deviceObjectKeys, length_deviceObjectKeys]
  aligned := by
    intro p q contacts j name h
    obtain ⟨step, hstep, rfl⟩ := getElem?_deviceObjectKeys.mp h
    exact ⟨step, rfl, getElem?_deviceObjectKeys.mpr ⟨step, hstep, rfl⟩⟩
  ruled := fun _ hrule _ _ hname _ _ hof => TopicRule.mem_of_renders hrule hname hof
  alarmed := fun _ hrule _ _ hname _ _ hof => AlarmRule.mem_of_renders hrule hname hof
  disabled := fun p _ _ _ hof => ks.disabledSensorKeys_subset p hof.2
  published := by
    intro path rule params hfind htemplate site value name hne
    by_contra hfree
    exact hne (Site.get?_dispatch hfind htemplate (not_exists.mp hfree))
  reported := by
    intro known devices store received name halarm hstatus hne
    by_contra hfree
    refine hne (AlarmTable.get?_reconcile_of_free halarm hstatus ?_ known devices store received)
    intro rule hrule target hname
    exact hfree ⟨rule, hrule, target, hname⟩

end KeySpace

end RackTelemetry
