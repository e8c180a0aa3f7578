import Mathlib.Data.List.Perm.Subperm
import RackTelemetry.Proofs.Alarm.Channels
import RackTelemetry.Proofs.Engine.Run
import RackTelemetry.Proofs.Site.Limits

/-!
An engine stays within its limits: after any messages and documents the registries are sound, and no
more alarms are known than a list may have. The list that a pass goes through is a list that was
taken, which is how the limit of lists becomes one of the known alarms.
-/

namespace RackTelemetry

open AlarmPass AlarmTable

/-- Ids are distinct, and none is blank. -/
structure AlarmRegistry.Sound (r : AlarmRegistry) : Prop where
  distinct : r.ids.Nodup
  named : ∀ id ∈ r.ids, Text.trim id ≠ ""

namespace AlarmPass

variable {known : AlarmRegistry} {received : List Alarm}

/-- A known alarm has the id of an alarm of the list. -/
theorem Reported.exists_id (h : Reported known received) {id : String} (hmem : id ∈ known.ids) :
    ∃ other ∈ received, other.id = id ∧ Text.isBlankText id = false := by
  obtain ⟨alarm, halarm, rfl⟩ := List.mem_map.mp hmem
  obtain ⟨other, hother, hid⟩ := h.reported alarm halarm
  obtain ⟨hreceived, -, hblank⟩ := mem_takenAfter hother
  exact ⟨other, hreceived, hid, hid ▸ hblank⟩

theorem Reported.sound (h : Reported known received) : known.Sound := by
  refine ⟨h.distinct, ?_⟩
  intro id hmem htrim
  obtain ⟨_, -, -, hblank⟩ := h.exists_id hmem
  rw [Text.isBlankText_iff.mpr htrim] at hblank
  cases hblank

/-- No more alarms are known than were reported. -/
theorem Reported.length_le (h : Reported known received) :
    known.alarms.length ≤ received.length := by
  have hsubset : known.ids ⊆ received.map Alarm.id := by
    intro id hmem
    obtain ⟨other, hother, rfl, -⟩ := h.exists_id hmem
    exact List.mem_map_of_mem hother
  have hle := (List.subperm_of_subset h.distinct hsubset).length_le
  simpa [AlarmRegistry.ids] using hle

end AlarmPass

namespace Site

variable {settings : EngineSettings} {ks : KeySpace} {site : Site}

theorem WithinLimits.visit (h : WithinLimits settings site) (met : Visit) :
    WithinLimits settings (site.visit ks met) := by
  unfold Site.visit
  split
  · exact h
  · split
    · exact h
    · exact h.dispatch _ _

theorem WithinLimits.read (h : WithinLimits settings site) (topic : String) (document : Json) :
    WithinLimits settings (site.read ks topic document) := by
  refine List.foldlRecOn (motive := WithinLimits settings) _ _ h ?_
  intro before hbefore met _
  exact hbefore.visit met

end Site

namespace Engine

/-- The site stays within its limits, and so do the known alarms. -/
structure WithinLimits (settings : EngineSettings) (engine : Engine) : Prop where
  site : engine.site.WithinLimits settings
  known : engine.known.Sound
  few : engine.known.alarms.length ≤ settings.maxAlarms

/-- A call with a message or a document. -/
def Call.isMessage : Call → Bool
  | .reconcile _ => false
  | _ => true

variable {settings : EngineSettings} {engine : Engine}

theorem WithinLimits.readDocument (h : engine.WithinLimits settings) (topic : String)
    (document : Json) : (engine.readDocument topic document).WithinLimits settings := by
  have hread : (engine.site.read engine.keyspace topic document).WithinLimits settings :=
    h.site.read topic document
  have htaken := hread.of_draft hread.draft.takeComplete (maxAlarms_takeComplete _)
  exact ⟨htaken, h.known, h.few⟩

/-- A pass over a list that is not too long. -/
theorem WithinLimits.reconcile (h : engine.WithinLimits settings) {received : List Alarm}
    (hlength : received.length ≤ settings.maxAlarms) :
    (engine.reconcile received).engine.WithinLimits settings := by
  have hreported : Reported (AlarmTable.card.reconcile engine.keyspace engine.known
      engine.site.devices engine.site.store received).known received := by
    rw [known_reconcile]
    exact reported_reconcile h.known.distinct received
  rw [engine_reconcile]
  refine ⟨h.site.of_store _, hreported.sound, ?_⟩
  exact Nat.le_trans hreported.length_le hlength

theorem WithinLimits.document (h : engine.WithinLimits settings) (topic : String)
    (document : Json) : (engine.processDocument topic document).engine.WithinLimits settings := by
  have hread : (engine.site.read engine.keyspace topic document).WithinLimits settings :=
    h.site.read topic document
  rw [engine_processDocument]
  cases hcompleted : engine.completed? topic document with
  | none => exact h.readDocument topic document
  | some received =>
    have hlength := hread.draft.length_takeComplete hcompleted
    rw [hread.maxAlarms] at hlength
    exact (h.readDocument topic document).reconcile hlength

theorem WithinLimits.after (h : engine.WithinLimits settings) {call : Call}
    (hcall : call.isMessage = true) : (engine.after call).WithinLimits settings := by
  refine after_cases engine call h h.document ?_
  rintro received rfl
  cases hcall

theorem withinLimits_ofSettings (settings : EngineSettings) :
    (ofSettings settings).WithinLimits settings := by
  have hdevices : (ofSettings settings).site.devices.Sound Value.IsSegment := by
    refine ⟨.nil, ?_, ?_⟩
    · intro device hmem
      cases hmem
    · intro device hmem
      cases hmem
  have hoffered : (ofSettings settings).site.draft.Sound := by
    intro slots hslots
    cases hslots
  refine ⟨⟨hdevices, Nat.zero_le _, hoffered, rfl, rfl, rfl⟩, ⟨.nil, ?_⟩, Nat.zero_le _⟩
  intro id hmem
  cases hmem

theorem withinLimits_run (settings : EngineSettings) {calls : List Call}
    (hcalls : ∀ call ∈ calls, call.isMessage = true) :
    ((ofSettings settings).run calls).WithinLimits settings := by
  refine List.foldlRecOn (motive := WithinLimits settings) _ _ (withinLimits_ofSettings settings) ?_
  intro before hbefore call hmem
  exact hbefore.after (hcalls call hmem)

/-- No call takes the site beyond its limits, a pass over a list from elsewhere neither. -/
theorem site_withinLimits_after (h : engine.site.WithinLimits settings) (call : Call) :
    (engine.after call).site.WithinLimits settings := by
  refine after_cases (P := fun after => after.site.WithinLimits settings) engine call h ?_ ?_
  · intro topic document
    have hread : (engine.site.read engine.keyspace topic document).WithinLimits settings :=
      h.read topic document
    have htaken : (engine.readDocument topic document).site.WithinLimits settings :=
      hread.of_draft hread.draft.takeComplete (maxAlarms_takeComplete _)
    rw [engine_processDocument]
    split
    · exact htaken
    · rw [engine_reconcile]
      exact htaken.of_store _
  · intro received _
    rw [engine_reconcile]
    exact h.of_store _

theorem site_withinLimits_run (settings : EngineSettings) (calls : List Call) :
    ((ofSettings settings).run calls).site.WithinLimits settings := by
  refine List.foldlRecOn (motive := fun engine : Engine => engine.site.WithinLimits settings) _ _
    (withinLimits_ofSettings settings).site ?_
  intro before hbefore call _
  exact site_withinLimits_after hbefore call

/-- After any messages and documents, the keys of the devices are distinct, not empty and without a
slash, no device has more sensors of a kind than allowed, and there are not too many outlets. The
alarm list that is being received is not too long and not complete. The known alarms have distinct
ids that are not blank, and are not more than a list may have. -/
theorem registries_well_formed (settings : EngineSettings) (calls : List Call)
    (hcalls : ∀ call ∈ calls, call.isMessage = true) :
    let engine := (ofSettings settings).run calls
    let site := engine.site
    (site.devices.keys.Nodup ∧ ∀ key ∈ site.devices.keys, key ≠ "" ∧ '/' ∉ key.toList) ∧
    (∀ device ∈ site.devices.devices, ∀ kind,
      (device.group kind).length ≤ settings.maxSensors) ∧
    site.outlets.outlets.length ≤ settings.maxOutlets ∧
    (∀ slots, site.draft.slots = some slots →
      slots.length ≤ settings.maxAlarms ∧ ∃ slot ∈ slots, slot.isComplete = false) ∧
    (engine.known.ids.Nodup ∧ ∀ id ∈ engine.known.ids, Text.trim id ≠ "") ∧
    engine.known.alarms.length ≤ settings.maxAlarms := by
  have hlimits := withinLimits_run settings hcalls
  have hincomplete := incomplete_ofSettings settings calls
  intro engine site
  have hdevices := hlimits.site.devices
  refine ⟨⟨hdevices.distinct, ?_⟩, ?_, ?_, ?_, ⟨hlimits.known.distinct, hlimits.known.named⟩,
    hlimits.few⟩
  · intro key hmem
    obtain ⟨device, hdevice, rfl⟩ := List.mem_map.mp hmem
    exact hdevices.named device hdevice
  · intro device hmem kind
    rw [← hlimits.site.maxSensors]
    exact hdevices.bounded device hmem kind
  · rw [← hlimits.site.maxOutlets]
    exact hlimits.site.outlets
  · intro slots hslots
    rw [← hlimits.site.maxAlarms]
    refine ⟨hlimits.site.draft slots hslots, ?_⟩
    rw [AlarmDraft.isComplete, hslots] at hincomplete
    simpa using hincomplete

/-- A device is announced twice, on two paths; then more sensors are announced than it may have. -/
def excessiveCalls : List Call :=
  [.document "mbdetnrs/1.0/sensors/devices"
      (.object [("members",
        .list [.object [("@id", .text "x/dev-a")], .object [("@id", .text "y/dev-a")]])]),
    .document "mbdetnrs/1.0/sensors/devices/dev-a/channels/temperatures"
      (.object [("members@count", .integer 33)])]

theorem registries_well_formed_excessive :
    ((ofSettings {}).run excessiveCalls).site.devices.devices = [{ key := "dev-a" }] ∧
      ((ofSettings {}).run excessiveCalls).site.devices.keys.Nodup ∧
      ∀ device ∈ ((ofSettings {}).run excessiveCalls).site.devices.devices, ∀ kind,
        (device.group kind).length ≤ 32 := by
  have hdevices :
      ((ofSettings {}).run excessiveCalls).site.devices.devices = [{ key := "dev-a" }] := by
    decide +kernel
  obtain ⟨⟨hdistinct, -⟩, hbounded, -⟩ := registries_well_formed {} excessiveCalls (by decide)
  exact ⟨hdevices, hdistinct, hbounded⟩

end Engine

end RackTelemetry
