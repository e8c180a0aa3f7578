import RackTelemetry.Proofs.Engine.Mirror
import RackTelemetry.Proofs.Site.Concealment

/-!
After any calls of an engine that publishes under the usual roots, disabled sensors are concealed.
The mirrored state goes along with the invariant: it is what keeps the entries of a device with the
device when devices change places.
-/

namespace RackTelemetry

open KeySpace

/-- A pass publishes the statuses of objects that are not disabled, and writes to the channels. -/
theorem Site.Concealed.pass {site : Site} (h : Concealed {} site) (hmirrored : Mirrored {} site)
    (known : AlarmRegistry) (received : List Alarm) :
    Concealed {} { site with
      store := (AlarmTable.card.reconcile {} known site.devices site.store received).store } := by
  have hkeep : ∀ {before after : Site}, Mirrored {} before ∧ Concealed {} before →
      Change {} before after → Mirrored {} after ∧ Concealed {} after := by
    rintro before after ⟨hbefore, hconcealed⟩ hchange
    exact ⟨hbefore.change hchange, hconcealed.change hbefore hchange⟩
  have hpassed := (changes_passed {} site known received).keep hkeep ⟨hmirrored, h⟩
  exact hpassed.2.of_ambient rfl fun _ => site.published_pass known received

namespace Engine

variable (settings : EngineSettings) (calls : List Call)

theorem concealed_start : Site.Concealed {} (start settings).site := by
  refine ⟨?_, ?_⟩
  · intro device hmem
    cases hmem
  · intro p device s hp
    cases hp

theorem mirrored_and_concealed_run :
    let engine := (start settings).run calls
    engine.keyspace = {} ∧ Site.Mirrored {} engine.site ∧ Site.Concealed {} engine.site := by
  refine holds_after_run
    (P := fun ks site _ _ => ks = {} ∧ Site.Mirrored {} site ∧ Site.Concealed {} site) ?_ ?_
    (start settings) calls ⟨rfl, mirrored_start settings, concealed_start settings⟩
  · rintro ks site after known last ⟨rfl, hmirrored, h⟩ hchange
    exact ⟨rfl, hmirrored.change hchange, h.change hmirrored hchange⟩
  · rintro ks site known last received ⟨rfl, hmirrored, h⟩
    exact ⟨rfl, hmirrored.pass known received, h.pass hmirrored known received⟩

/-- After any calls, a disabled contact has no status. If a device has sensors of temperature or
humidity and all of them are disabled, it has no reading and no status of that kind. -/
theorem disabled_sensors_hidden (settings : EngineSettings) (calls : List Call) (p : Nat)
    (device : Device) (hp : ((start settings).run calls).site.devices.devices[p]? = some device) :
    let store := ((start settings).run calls).site.store
    let root := "ambient." ++ toString (Number.ordinal p)
    (∀ i contact, device.digitalInputs[i]? = some contact → contact.state = .disabled →
      store.get? (root ++ ".contacts." ++ toString (Number.ordinal i) ++ ".status") = none) ∧
    (device.temperatures ≠ [] → (∀ sensor ∈ device.temperatures, sensor.state = .disabled) →
      store.get? (root ++ ".temperature") = none ∧
        store.get? (root ++ ".temperature.status") = none) ∧
    (device.humidities ≠ [] → (∀ sensor ∈ device.humidities, sensor.state = .disabled) →
      store.get? (root ++ ".humidity") = none ∧
        store.get? (root ++ ".humidity.status") = none) := by
  obtain ⟨-, -, hconcealed⟩ := mirrored_and_concealed_run settings calls
  intro store root
  have hentry : ∀ name s, name.toList = (({} : KeySpace).device p s).toList →
      ((start settings).run calls).site.entry {} p s = none → store.get? name = none := by
    intro name s heq hnone
    obtain rfl := String.toList_inj.mp heq
    exact hnone
  have hgroup : ∀ kind : SensorKind, kind.isIndexed = false → device.group kind ≠ [] →
      (∀ sensor ∈ device.group kind, sensor.state = .disabled) →
      store.get? (root ++ "." ++ kind.objectName) = none ∧
        store.get? (root ++ "." ++ kind.objectName ++ ".status") = none := by
    intro kind hkind hne hall
    have hstep : sensorStep kind 0 = kind.objectName := if_neg (by simp [hkind])
    refine ⟨hentry _ _ ?_ (hconcealed.group hp hkind hne hall none (.inl rfl)),
      hentry _ _ ?_ (hconcealed.group hp hkind hne hall (some "status") (.inr rfl))⟩
    · simp [KeySpace.device, root, sensorField, hstep]
    · simp [KeySpace.device, root, sensorField, hstep]
  refine ⟨?_, ?_, ?_⟩
  · intro i contact hi hdisabled
    refine hentry _ _ ?_ (hconcealed.contact hp hi hdisabled)
    simp [KeySpace.device, root, sensorField, sensorStep, SensorKind.isIndexed,
      SensorKind.objectName]
  · intro hne hall
    simpa [SensorKind.objectName, String.append_assoc] using hgroup .temperature rfl hne hall
  · intro hne hall
    simpa [SensorKind.objectName, String.append_assoc] using hgroup .humidity rfl hne hall

def silencedDevice : Device :=
  { key := "dev-a", humidities := [{ key := some "H1", state := .disabled }] }

/-- The only humidity sensor of a device is announced and disabled; then a reading of it arrives,
and an alarm about it. -/
def silencingCalls : List Call :=
  [.document "mbdetnrs/1.0/sensors/devices/members/0/@id" (.text "/dev-a"),
    .document "mbdetnrs/1.0/sensors/devices/dev-a/channels/humidities/members@count" (.integer 1),
    .document "mbdetnrs/1.0/sensors/devices/dev-a/channels/humidities/members/0/@id" (.text "/H1"),
    .document "mbdetnrs/1.0/sensors/devices/dev-a/channels/humidities/H1/configuration/enabled"
      (.bool false),
    .document "mbdetnrs/1.0/sensors/devices/dev-a/channels/humidities/H1/measure/current"
      (.text "45"),
    .reconcile [
      { id := "a", level := 1, code := "1300"
        topic := "mbdetnrs/1.0/sensors/devices/dev-a/channels/humidities/H1" }]]

theorem disabled_sensors_hidden_silenced :
    let site := ((start {}).run silencingCalls).site
    site.devices.devices[0]? = some silencedDevice ∧
      site.store.get? "ambient.1.humidity" = none ∧
      site.store.get? "ambient.1.humidity.status" = none := by
  have hdevice :
      ((start {}).run silencingCalls).site.devices.devices[0]? = some silencedDevice := by
    decide +kernel
  obtain ⟨-, -, hhumidities⟩ := disabled_sensors_hidden {} silencingCalls 0 silencedDevice hdevice
  exact ⟨hdevice, hhumidities (by decide) (by decide)⟩

end Engine

end RackTelemetry
