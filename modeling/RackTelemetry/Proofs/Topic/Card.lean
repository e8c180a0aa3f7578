import RackTelemetry.Proofs.Pattern.Shape
import RackTelemetry.Topic.Catalogue

/-!
The rules of the card keep to their handlers: what a rule publishes is an entry of the object that
its handler finds, and a sensor's channel only names kinds that have the published field.
-/

namespace RackTelemetry

/-- The names that a device publishes hold this field for a sensor of a kind. -/
def SensorKind.publishes (kind : SensorKind) (field : Option String) : Bool :=
  if kind.isIndexed then field ∈ KeySpace.contactFields.map some
  else field ∈ KeySpace.sensorFields

theorem SensorKind.publishes_status (kind : SensorKind) :
    kind.publishes (some "status") = true := by
  cases kind with
  | temperature => decide
  | humidity => decide
  | digitalInput => decide

theorem SensorKind.of_ofChannel {name : String} {kind : SensorKind}
    (h : ofChannel name = .ok kind) :
    kind ∈ all ∧ kind.channelName = name := by
  unfold ofChannel at h
  split at h
  · next found hfound =>
    obtain rfl := Except.ok.inj h
    exact ⟨List.mem_of_find?_eq_some hfound, by simpa using List.find?_some hfound⟩
  · cases h

def KeySpace.outletFields : List String := ["name", "id", "switchable"]

namespace TopicRule

/-- Every kind whose channel the rule can capture publishes the field. -/
def captures (rule : TopicRule) (field : Option String) : Bool :=
  match rule.pattern.body? with
  | some body =>
    body.isPlain && match body.choices with
      | [_, some channels, _] =>
        SensorKind.all.all fun kind =>
          channels.contains kind.channelName.toList → kind.publishes field
      | _ => false
  | none => false

/-- The template is one for devices, and its field meets a condition. -/
def onDevice (rule : TopicRule) (may : String → Bool) : Bool :=
  match rule.template with
  | some (.device field) => may field
  | _ => false

@[inherit_doc onDevice]
def onSensor (rule : TopicRule) (may : Option String → Bool) : Bool :=
  match rule.template with
  | some (.sensor field) => may field
  | _ => false

@[inherit_doc onDevice]
def onOutlet (rule : TopicRule) (may : String → Bool) : Bool :=
  match rule.template with
  | some (.outlet field) => may field
  | _ => false

theorem template_of_onDevice {rule : TopicRule} {may : String → Bool}
    (h : rule.onDevice may = true) :
    ∃ field, rule.template = some (.device field) ∧ may field = true := by
  unfold onDevice at h
  split at h
  · next field htemplate => exact ⟨field, htemplate, h⟩
  · cases h

theorem template_of_onSensor {rule : TopicRule} {may : Option String → Bool}
    (h : rule.onSensor may = true) :
    ∃ field, rule.template = some (.sensor field) ∧ may field = true := by
  unfold onSensor at h
  split at h
  · next field htemplate => exact ⟨field, htemplate, h⟩
  · cases h

theorem template_of_onOutlet {rule : TopicRule} {may : String → Bool}
    (h : rule.onOutlet may = true) :
    ∃ field, rule.template = some (.outlet field) ∧ may field = true := by
  unfold onOutlet at h
  split at h
  · next field htemplate => exact ⟨field, htemplate, h⟩
  · cases h

/-- The template of a rule fits its handler. -/
def isSound (rule : TopicRule) : Bool :=
  match rule.handler with
  | some .deviceData => rule.onDevice fun field => field ∈ KeySpace.deviceFields ∧ field ≠ "key"
  | some .devicePresence => rule.onDevice fun field => field ∈ KeySpace.deviceFields ∧ field ≠ "key"
  | some .sensorData => rule.onSensor rule.captures
  | some .temperatureValue => rule.onSensor (SensorKind.publishes .temperature)
  | some .contactConfig => rule.onSensor fun field => field = some "config"
  | some .contactStatus => rule.onSensor (SensorKind.publishes .digitalInput)
  | some .outletData => rule.onOutlet fun field => field ∈ KeySpace.outletFields
  | some .outletSwitchable => rule.onOutlet fun field => field ∈ KeySpace.outletFields
  | _ => true

/-- A captured channel names a kind that publishes the field. -/
theorem publishes_of_captures {rule : TopicRule} {field : Option String} {path : String}
    {device channel sensor : String} {kind : SensorKind} (h : rule.captures field = true)
    (hparams : rule.pattern.captures? path = some [device, channel, sensor])
    (hkind : SensorKind.ofChannel channel = .ok kind) : kind.publishes field = true := by
  obtain ⟨hmem, rfl⟩ := SensorKind.of_ofChannel hkind
  unfold captures at h
  split at h
  · next body hbody =>
    rw [Pattern.eq_whole_of_body? hbody] at hparams
    obtain ⟨hplain, hchoices⟩ := Bool.and_eq_true_iff.mp h
    obtain ⟨groups, hfits, hgroups⟩ := Pattern.fits_of_captures? hplain hparams
    have hchosen := hfits.chosen
    split at hchoices
    · next _ channels _ heq =>
      rw [heq] at hchosen
      match groups, hchosen with
      | [first, second, third], .cons _ (.cons hsecond _) =>
        obtain ⟨text, htext, rfl⟩ := hsecond channels rfl
        simp only [List.map_cons, Option.getD_some, List.cons.injEq] at hgroups
        have hcontains : channels.contains kind.channelName.toList = true := by
          rw [hgroups.2.1, String.toList_ofList]
          exact List.contains_iff_mem.mpr htext
        have hall := List.all_eq_true.mp hchoices kind hmem
        exact of_decide_eq_true hall hcontains
    · cases hchoices
  · cases h

end TopicRule

namespace TopicTable

theorem rule_of_find? {table : TopicTable} {path : String} {rule : TopicRule}
    {params : List String} (h : table.find? path = some (rule, params)) :
    rule ∈ table ∧ rule.pattern.captures? path = some params := by
  obtain ⟨found, hmem, hfound⟩ := List.exists_of_findSome?_eq_some h
  obtain ⟨captured, hcaptured, heq⟩ := Option.map_eq_some_iff.mp hfound
  obtain ⟨rfl, rfl⟩ := Prod.mk.inj heq
  exact ⟨hmem, hcaptured⟩

theorem isSound_card : ∀ rule ∈ card, rule.isSound = true := by
  decide

def globalNames : List String :=
  card.filterMap fun rule =>
    match rule.handler, rule.template with
    | none, some (.fixed name) => some name
    | _, _ => none

theorem mem_globalNames {rule : TopicRule} {template : KeyTemplate} {ks : KeySpace} {name : String}
    (h : rule ∈ card) (hhandler : rule.handler = none) (htemplate : rule.template = some template)
    (hname : template.render ks .global = .ok name) : name ∈ globalNames := by
  cases template with
  | fixed fixed =>
    obtain rfl := Except.ok.inj hname
    exact List.mem_filterMap.mpr ⟨rule, h, by rw [hhandler, htemplate]⟩
  | device field => cases hname
  | sensor field => cases hname
  | outlet field => cases hname

end TopicTable

end RackTelemetry
