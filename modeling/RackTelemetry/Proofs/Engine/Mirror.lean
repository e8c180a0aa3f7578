import RackTelemetry.Proofs.Alarm.Channels
import RackTelemetry.Proofs.Engine.Run
import RackTelemetry.Proofs.Site.Upkeep

/-!
After any calls of an engine that publishes under the usual roots, the published state mirrors the
devices: every value and every alarm pass keeps it so.
-/

namespace RackTelemetry

open KeySpace

theorem KeySpace.Ambient.ne_channels {name : String} (h : ({} : KeySpace).Ambient name) :
    name ≠ ({} : KeySpace).alarmKey ∧ name ≠ ({} : KeySpace).statusKey := by
  have hchannels : ¬ ({} : KeySpace).Ambient ({} : KeySpace).alarmKey ∧
      ¬ ({} : KeySpace).Ambient ({} : KeySpace).statusKey := by
    unfold KeySpace.Ambient
    decide
  constructor
  · rintro rfl
    exact hchannels.1 h
  · rintro rfl
    exact hchannels.2 h

/-- Below the root of the devices a pass publishes what its rules offer; no channel stands there. -/
theorem Site.published_pass (site : Site) (known : AlarmRegistry) (received : List Alarm)
    {name : String} (hambient : ({} : KeySpace).Ambient name) :
    (AlarmTable.card.reconcile {} known site.devices site.store received).store.get? name =
      (AlarmTable.card.passed {} known site.devices site.store received).store.get? name := by
  rw [AlarmTable.store_reconcile,
    AlarmPass.get?_commit_other hambient.ne_channels.1 hambient.ne_channels.2]

theorem ambient_of_mem_writesFor {ks : KeySpace} {devices : DeviceRegistry}
    {entry : Alarm × AlarmState} {name value : String}
    (h : (name, value) ∈ AlarmPass.writesFor .card ks devices entry) : ks.Ambient name := by
  rcases AlarmPass.name_of_mem_writesFor h with ⟨p, -, -, rfl⟩ | ⟨p, kind, i, -, -, -, -, rfl⟩
  · exact ks.ambient_device p "present"
  · rw [sensor_eq_device]
    exact ks.ambient_device p _

/-- Elsewhere a pass only writes to the channels. -/
theorem published_pass_elsewhere {ks : KeySpace} {name : String} (hambient : ¬ ks.Ambient name)
    (halarm : name ≠ ks.alarmKey) (hstatus : name ≠ ks.statusKey)
    (known : AlarmRegistry) (devices : DeviceRegistry) (store : Store) (received : List Alarm) :
    (AlarmTable.card.reconcile ks known devices store received).store.get? name =
      store.get? name :=
  AlarmPass.get?_reconcile_of_notMem halarm hstatus
    (fun _ _ hwrite => hambient (ambient_of_mem_writesFor hwrite)) known store received

/-- A pass writes to objects of the devices and to the two channels. -/
theorem Site.Mirrored.pass {site : Site} (h : Mirrored {} site) (known : AlarmRegistry)
    (received : List Alarm) :
    Mirrored {} { site with
      store := (AlarmTable.card.reconcile {} known site.devices site.store received).store } :=
  ((changes_passed {} site known received).keep Mirrored.change h).of_ambient rfl
    fun _ => site.published_pass known received

namespace Engine

variable (settings : EngineSettings) (calls : List Call)

theorem mirrored_start : Site.Mirrored {} (start settings).site := by
  refine ⟨.nil, ?_, ?_⟩
  · intro p device hp
    cases hp
  · intro name value _ hvalue
    have hempty : (start settings).site.store.get? name = none := by
      simp [start, ofSettings, Store.get?]
    rw [hempty] at hvalue
    cases hvalue

theorem mirrored_change {ks : KeySpace} {site after : Site} (h : ks = {} ∧ Site.Mirrored {} site)
    (hchange : Site.Change ks site after) : ks = {} ∧ Site.Mirrored {} after := by
  obtain ⟨rfl, hmirrored⟩ := h
  exact ⟨rfl, hmirrored.change hchange⟩

theorem mirrored_pass {ks : KeySpace} {site : Site} {known : AlarmRegistry}
    (received : List Alarm) (h : ks = {} ∧ Site.Mirrored {} site) :
    ks = {} ∧ Site.Mirrored {} { site with
      store := (AlarmTable.card.reconcile ks known site.devices site.store received).store } := by
  obtain ⟨rfl, hmirrored⟩ := h
  exact ⟨rfl, hmirrored.pass known received⟩

theorem mirrored_after {engine : Engine}
    (h : engine.keyspace = {} ∧ Site.Mirrored {} engine.site) (call : Call) :
    (engine.after call).keyspace = {} ∧ Site.Mirrored {} (engine.after call).site :=
  holds_after_call (P := fun ks site _ _ => ks = {} ∧ Site.Mirrored {} site) mirrored_change
    mirrored_pass engine [] call h

theorem keyspace_and_mirrored_run :
    ((start settings).run calls).keyspace = {} ∧
      Site.Mirrored {} ((start settings).run calls).site :=
  holds_after_run (P := fun ks site _ _ => ks = {} ∧ Site.Mirrored {} site) mirrored_change
    mirrored_pass (start settings) calls ⟨rfl, mirrored_start settings⟩

/-- After any calls, each position publishes the key of its device, and every name below the root
of the devices that is published is an entry of a device that is there: of a position of the list,
and of a contact that the device has. -/
theorem published_mirrors_devices (settings : EngineSettings) (calls : List Call) :
    let site := ((start settings).run calls).site
    (∀ p device, site.devices.devices[p]? = some device →
      site.store.get? ("ambient." ++ toString (Number.ordinal p) ++ ".key") = some device.key) ∧
    ∀ name value, "ambient.".toList <+: name.toList → site.store.get? name = some value →
      ∃ p device, site.devices.devices[p]? = some device ∧
        name ∈ ({} : KeySpace).deviceObjectKeys p device.contacts := by
  obtain ⟨-, hmirrored⟩ := keyspace_and_mirrored_run settings calls
  refine ⟨?_, ?_⟩
  · intro p device hp
    have hname : "ambient." ++ toString (Number.ordinal p) ++ ".key" =
        ({} : KeySpace).device p "key" := by
      apply String.toList_inj.mp
      simp [KeySpace.device]
    rw [hname]
    exact hmirrored.keyed p device hp
  · intro name value hname hvalue
    exact hmirrored.owned name value hname hvalue

end Engine

end RackTelemetry
