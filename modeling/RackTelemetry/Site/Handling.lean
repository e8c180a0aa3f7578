import RackTelemetry.Document.Scalar
import RackTelemetry.Number.Real
import RackTelemetry.Site.Devices
import RackTelemetry.Site.Value
import RackTelemetry.Topic.Catalogue

/-!
What the handlers do with a value: each reads its value and the texts of its rule, finds the object
that is meant, and changes the site. What was changed before an error stays changed.
-/

namespace RackTelemetry

namespace Site

/-- The published texts of the codes for how a contact is wired, for its status and for presence. -/
def contactConfigs : List String := ["normal-opened", "normal-closed"]

@[inherit_doc contactConfigs]
def contactStatuses : List String := ["active", "inactive"]

@[inherit_doc contactConfigs]
def presences : List String := ["no", "yes"]

/-- The events of looking up a code: a code without a text is noted and ignored. -/
def codeEvents (table : List String) (code : Int) : List Event :=
  match Value.meaning? table code with
  | some _ => []
  | none => [.codeIgnored code table.length]

/-- Publishes the text that a code stands for, if there is one. -/
def publishMeaning (ks : KeySpace) (site : Site) (template : Option KeyTemplate)
    (target : KeyTarget) (table : List String) (code : Int) : Outcome Unit :=
  match Value.meaning? table code with
  | some text => publish ks site template target text
  | none => site.note [.codeIgnored code table.length]

/-- The target of a value of a sensor; none while the sensor is disabled. -/
def enabledSensor (site : Site) (device : String) (kind : SensorKind) (sensor : String) :
    Except Error (Option KeyTarget) := do
  let (position, index) ← site.devices.resolve device kind sensor
  let state ← site.devices.stateOf position kind index
  return if state = .disabled then none else some (.sensor position kind index)

/-- The number of sensors of a kind is announced. Contacts that go take what was published for them.
The device is looked up for a second time to name them, when its sensors have been counted. -/
def countSensors (ks : KeySpace) (site : Site) (device : String) (kind : SensorKind) (count : Nat) :
    Outcome Unit := site.attempt do
  let (devices, previous) ← site.devices.addSensors device kind count
  let site := { site with devices }
  let counted : Event := .sensorsCounted device count kind
  if kind = .digitalInput ∧ count < previous then
    return site.attempt do
      let position ← devices.positionOf device
      let stale := (List.range' count (previous - count)).flatMap (ks.contactKeys position)
      return (site.withdraw stale).note [counted]
  else return site.note [counted]

/-- A sensor is announced. The first key of a slot of temperature or humidity sets its status,
unless there is one. The device is looked up for a second time for that, when the slot has its key.
-/
def announceSensor (ks : KeySpace) (site : Site) (device : String) (kind : SensorKind) (index : Nat)
    (key : String) : Outcome Unit := site.attempt do
  let (devices, isNew) ← site.devices.initSensor device kind index key
  let site := { site with devices }
  if isNew && !kind.isIndexed then
    return site.attempt do
      let position ← devices.positionOf device
      let status := ks.sensor position kind index (some "status")
      if site.store.contains status then return site.done
      else match site.store.set status "good" with
        | .ok store => return { site with store }.done
        | .error e => return site.fail (.store e)
  else return site.done

/-- A sensor is enabled or disabled. Disabling it withdraws its reading and its status. -/
def enableSensor (ks : KeySpace) (site : Site) (device : String) (kind : SensorKind)
    (sensor : String) (state : SensorState) : Outcome Unit := site.attempt do
  let (position, index) ← site.devices.resolve device kind sensor
  let (devices, previous) ← site.devices.setState position kind index state
  let site := { site with devices }
  if state = .disabled ∧ previous ≠ .disabled then
    return (site.withdraw (ks.disabledSensorKeys position kind index)).note
      [.sensorDisabled kind sensor]
  else return site.done

def outletTopic (key : String) : String := "mbdetnrs/1.0/powerDistributions/1/outlets/" ++ key

end Site

namespace Handler

open Site in
/-- Applies a value to a site. `params` are the texts of the groups of the rule. -/
def process (handler : Handler) (ks : KeySpace) (template : Option KeyTemplate) (value : String)
    (params : List String) (site : Site) : Outcome Unit :=
  match handler, params with
  | .deviceCount, [] => site.attempt do
    return countDevices ks site (← Value.count value)
  | .deviceIndex, [position] => site.attempt do
    let key ← Value.lastSegment value
    let position ← Value.index position
    return announceDevice ks site key position
  | .deviceData, [device] => site.attempt do
    let position ← site.devices.positionOf device
    return publish ks site template (.device position) value
  | .devicePresence, [device] => site.attempt do
    let position ← site.devices.positionOf device
    let code ← Value.code value
    return publishMeaning ks site template (.device position) presences code
  | .sensorCount, [device, kind] => site.attempt do
    let kind ← SensorKind.ofChannel kind
    let count ← Value.count value
    return countSensors ks site device kind count
  | .sensorIndex, [device, kind, index] => site.attempt do
    let kind ← SensorKind.ofChannel kind
    let index ← Value.index index
    let key ← Value.lastSegment value
    return announceSensor ks site device kind index key
  | .sensorData, [device, kind, sensor] => site.attempt do
    let kind ← SensorKind.ofChannel kind
    match ← enabledSensor site device kind sensor with
    | some target => return publish ks site template target value
    | none => return site.note [.valueDropped kind sensor]
  | .temperatureValue, [device, sensor] => site.attempt do
    match Number.readReal (Text.trim value) with
    | none => .error (.invalidValue value "not a number")
    | some kelvin =>
      match ← enabledSensor site device .temperature sensor with
      | some target => return publish ks site template target (Number.celsiusOfKelvin kelvin)
      | none => return site.note [.valueDropped .temperature sensor]
  | .sensorEnable, [device, kind, sensor] => site.attempt do
    let kind ← SensorKind.ofChannel kind
    return enableSensor ks site device kind sensor (.ofFlag value)
  | .contactConfig, [device, sensor] => site.attempt do
    let (position, index) ← site.devices.resolve device .digitalInput sensor
    let code ← Value.code value
    let target : KeyTarget := .sensor position .digitalInput index
    return publishMeaning ks site template target contactConfigs code
  | .contactStatus, [device, sensor] => site.attempt do
    match ← enabledSensor site device .digitalInput sensor with
    | some target =>
      let code ← Value.code value
      return publishMeaning ks site template target contactStatuses code
    | none =>
      let dropped := Event.valueDropped .digitalInput sensor
      match Value.code value with
      | .ok code => return site.note (dropped :: codeEvents contactStatuses code)
      | .error e => return (site.fail e).after [dropped]
  | .outletCount, [] => site.attempt do
    let count ← Value.count value
    let outlets ← site.outlets.reset count
    return { site with outlets }.note [.outletsReset count]
  | .outletIndex, [index] => site.attempt do
    let index ← Value.index index
    let outlets ← site.outlets.setTopic index (Value.normalizeTopic value)
    return { site with outlets }.done
  | .outletData, [outlet] => site.attempt do
    let index ← site.outlets.indexOf (outletTopic outlet)
    return publish ks site template (.outlet index) value
  | .outletSwitchable, [outlet] => site.attempt do
    let index ← site.outlets.indexOf (outletTopic outlet)
    let switchable ← Value.flag value
    let outlets ← site.outlets.setSwitchable index switchable
    return publish ks { site with outlets } template (.outlet index)
      (if switchable then "yes" else "no")
  | .alarmCount, [] => site.attempt do
    let count ← Value.count value
    let (draft, result) := site.draft.begin count
    let site := { site with draft }
    match result with
    | .ok () => return site.note [.draftOpened count]
    | .error e => return site.fail e
  | .alarmField field, [index] => site.attempt do
    let index ← Value.index index
    let value := if field = .topic then Value.normalizeTopic value else value
    let draft ← site.draft.setField index field value
    return { site with draft }.done
  | handler, params => site.fail (.invalidParams handler.expectedParams params.length)

end Handler

inductive Verdict where
  | unmatched
  | written (key : String)
  | handled (handler : Handler)
  deriving Repr, DecidableEq, Inhabited

/-- Applies a value at a path to a site, by the first rule that matches the path. -/
def TopicTable.dispatch (table : TopicTable) (ks : KeySpace) (path value : String) (site : Site) :
    Outcome Verdict :=
  match table.find? path with
  | none => ⟨site, [], .ok .unmatched⟩
  | some (rule, params) =>
    match rule.handler with
    | some handler =>
      (handler.process ks rule.template value params site).andThen fun _ site =>
        ⟨site, [], .ok (.handled handler)⟩
    | none => site.attempt do
      match rule.template with
      | none => .error (.missingTemplate rule.source)
      | some template =>
        let key ← template.render ks .global
        return (site.put key value (.mapped path key value)).andThen fun _ site =>
          ⟨site, [], .ok (.written key)⟩

end RackTelemetry
