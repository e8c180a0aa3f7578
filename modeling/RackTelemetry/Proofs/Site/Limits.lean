import RackTelemetry.Proofs.Inventory.Limits
import RackTelemetry.Proofs.Site.Change
import RackTelemetry.Proofs.Site.Truncation
import RackTelemetry.Settings.Basic

/-!
A site stays within its limits: whatever the path and the value, the registries are sound afterwards
and the limits are the same. Where a value can be refused midway, what was done before is sound too.
-/

namespace RackTelemetry

open DeviceRegistry

namespace Site

/-- The registries of a site are sound, with the limits that the settings give. -/
structure WithinLimits (settings : EngineSettings) (site : Site) : Prop where
  devices : site.devices.Sound Value.IsSegment
  outlets : site.outlets.Sound
  draft : site.draft.Sound
  maxSensors : site.devices.maxSensors = settings.maxSensors
  maxOutlets : site.outlets.maxOutlets = settings.maxOutlets
  maxAlarms : site.draft.maxAlarms = settings.maxAlarms

variable {settings : EngineSettings} {ks : KeySpace} {site : Site}

/-- What is published does not matter. -/
theorem WithinLimits.of_store (h : WithinLimits settings site) (store : Store) :
    WithinLimits settings { site with store } :=
  ⟨h.devices, h.outlets, h.draft, h.maxSensors, h.maxOutlets, h.maxAlarms⟩

theorem WithinLimits.of_devices (h : WithinLimits settings site) {devices : DeviceRegistry}
    (hsound : devices.Sound Value.IsSegment)
    (hlimit : devices.maxSensors = site.devices.maxSensors) :
    WithinLimits settings { site with devices } :=
  ⟨hsound, h.outlets, h.draft, hlimit.trans h.maxSensors, h.maxOutlets, h.maxAlarms⟩

theorem WithinLimits.of_outlets (h : WithinLimits settings site) {outlets : OutletRegistry}
    (hsound : outlets.Sound ∧ outlets.maxOutlets = site.outlets.maxOutlets) :
    WithinLimits settings { site with outlets } :=
  ⟨h.devices, hsound.1, h.draft, h.maxSensors, hsound.2.trans h.maxOutlets, h.maxAlarms⟩

theorem WithinLimits.of_draft (h : WithinLimits settings site) {draft : AlarmDraft}
    (hsound : draft.Sound) (hlimit : draft.maxAlarms = site.draft.maxAlarms) :
    WithinLimits settings { site with draft } :=
  ⟨h.devices, h.outlets, hsound, h.maxSensors, h.maxOutlets, hlimit.trans h.maxAlarms⟩

/-! ### Devices -/

theorem WithinLimits.settle (h : WithinLimits settings site) {key : String}
    (hkey : Value.IsSegment key) (position : Nat) :
    WithinLimits settings (settleDevice ks site key position).site := by
  rcases settleDevice_cases ks site hkey.1 position with
    hstays | ⟨current, target, devices, hmove, -, hsite⟩ |
      ⟨hnew, index, store, hindex, -, -, hsite⟩
  · rw [hstays]
    exact h
  · obtain ⟨hperm, -, hlimit, -⟩ := perm_of_move hmove
    have hmoved := h.of_devices (h.devices.of_perm hperm hlimit) hlimit
    rw [hsite, (renumber_eq ks { site with devices } site.devices.layout).2]
    exact hmoved.of_store _
  · have hadded := h.of_devices (h.devices.inserted hkey hnew hindex) rfl
    rw [hsite]
    exact hadded.of_store store

theorem WithinLimits.trimTail (h : WithinLimits settings site) (last : Nat) :
    WithinLimits settings (trimTail ks site last).site := by
  unfold Site.trimTail
  cases htrim : site.devices.trimAfter last with
  | none => exact h
  | some trimmed =>
    obtain ⟨after, dropped⟩ := trimmed
    obtain ⟨-, hafter, -⟩ := DeviceRegistry.trimAfter_eq_some htrim
    have hkept : after.Sound Value.IsSegment := by
      rw [hafter]
      exact h.devices.of_sublist (List.take_sublist _ _) rfl
    have hlimit : after.maxSensors = site.devices.maxSensors := by rw [hafter]
    simp only [note, foldl_withdraw]
    exact (h.of_devices hkept hlimit).of_store _

theorem WithinLimits.announce (h : WithinLimits settings site) {key : String}
    (hkey : Value.IsSegment key) (position : Nat) :
    WithinLimits settings (announceDevice ks site key position).site := by
  have hsettled : WithinLimits settings (settleDevice ks site key position).site :=
    h.settle hkey position
  rw [(announceDevice_eq (settleDevice_ok ks site hkey.1 position)).2]
  split
  · exact hsettled.trimTail position
  · exact hsettled

theorem WithinLimits.countDevices (h : WithinLimits settings site) (count : Nat) :
    WithinLimits settings (countDevices ks site count).site := by
  have hnone : (site.devices.declare count).removeAll.1.Sound Value.IsSegment :=
    h.devices.of_sublist (List.nil_sublist _) rfl
  have hsame : (site.devices.declare count).Sound Value.IsSegment :=
    h.devices.of_sublist (List.Sublist.refl _) rfl
  unfold Site.countDevices
  simp only
  split
  · exact (h.of_devices hnone rfl).of_store _
  · exact h.of_devices hsame rfl

/-! ### Sensors -/

theorem WithinLimits.bind (h : WithinLimits settings site) {α : Type} {x : Except Error α}
    {next : α → Except Error (Outcome Unit)}
    (hnext : ∀ a, x = .ok a → WithinLimits settings (site.attempt (next a)).site) :
    WithinLimits settings (site.attempt (x >>= next)).site :=
  bind_cases h hnext

theorem WithinLimits.countSensors (h : WithinLimits settings site) (device : String)
    (kind : SensorKind) (count : Nat) :
    WithinLimits settings (countSensors ks site device kind count).site := by
  refine countSensors_cases h fun p found hp hcount => ?_
  have hlength : (SensorGroup.ofCount count).length ≤ site.devices.maxSensors := by
    rw [SensorGroup.ofCount, List.length_replicate]
    exact hcount
  exact (h.of_devices (h.devices.withGroup hp hlength) rfl).of_store _

theorem WithinLimits.announceSensor (h : WithinLimits settings site) (device : String)
    (kind : SensorKind) (index : Nat) (key : String) :
    WithinLimits settings (announceSensor ks site device kind index key).site := by
  refine announceSensor_cases h ?_ ?_
  · intro p found sensor hslot _ _ _
    exact h.of_devices (h.devices.withSlot hslot.stands _) rfl
  · intro p found sensor store hslot _ _ _ _ _
    exact (h.of_devices (h.devices.withSlot hslot.stands _) rfl).of_store store

theorem WithinLimits.enableSensor (h : WithinLimits settings site) (device : String)
    (kind : SensorKind) (sensor : String) (state : SensorState) :
    WithinLimits settings (enableSensor ks site device kind sensor state).site := by
  refine h.bind ?_
  rintro ⟨p, index⟩ -
  refine h.bind ?_
  rintro ⟨devices, previous⟩ hset
  obtain ⟨found, slot, hslot, -, rfl⟩ := setState_eq_ok hset
  have hswitched : WithinLimits settings { site with
      devices := site.devices.replace p (found.withSlot kind index { slot with state }) } :=
    h.of_devices (h.devices.withSlot hslot.stands _) rfl
  simp only
  split
  · exact hswitched.of_store _
  · exact hswitched

/-! ### Published values -/

theorem WithinLimits.publish (h : WithinLimits settings site) (template : Option KeyTemplate)
    (target : KeyTarget) (value : String) :
    WithinLimits settings (publish ks site template target value).site := by
  cases template with
  | none => exact h
  | some template => exact publish_cases h fun _ store _ _ => h.of_store store

theorem WithinLimits.publishMeaning (h : WithinLimits settings site)
    (template : Option KeyTemplate) (target : KeyTarget) (table : List String) (code : Int) :
    WithinLimits settings (publishMeaning ks site template target table code).site :=
  publishMeaning_cases h fun text => h.publish template target text

/-! ### Every handler, every path -/

theorem WithinLimits.process (h : WithinLimits settings site) (handler : Handler)
    (template : Option KeyTemplate) (value : String) (params : List String) :
    WithinLimits settings (handler.process ks template value params site).site := by
  unfold Handler.process
  split
  · exact h.bind fun count _ => h.countDevices count
  · exact h.bind fun key hkey => h.bind fun position _ =>
      h.announce (Value.isSegment_lastSegment hkey) position
  · exact h.bind fun p _ => h.publish template _ value
  · exact h.bind fun p _ => h.bind fun code _ => h.publishMeaning template _ _ code
  · exact h.bind fun kind _ => h.bind fun count _ => h.countSensors _ kind count
  · exact h.bind fun kind _ => h.bind fun index _ => h.bind fun key _ =>
      h.announceSensor _ kind index key
  · refine h.bind fun kind _ => h.bind fun target _ => ?_
    cases target with
    | none => exact h
    | some target => exact h.publish template target value
  · split
    · exact h
    · refine h.bind fun target _ => ?_
      cases target with
      | none => exact h
      | some target => exact h.publish template target _
  · exact h.bind fun kind _ => h.enableSensor _ kind _ _
  · refine h.bind ?_
    rintro ⟨p, index⟩ -
    exact h.bind fun code _ => h.publishMeaning template _ _ code
  · refine h.bind fun target _ => ?_
    cases target with
    | none =>
      simp only
      split
      · exact h
      · exact h
    | some target => exact h.bind fun code _ => h.publishMeaning template target _ code
  · exact h.bind fun count _ => h.bind fun outlets hreset =>
      h.of_outlets (OutletRegistry.sound_reset hreset)
  · exact h.bind fun index _ => h.bind fun outlets houtlets =>
      h.of_outlets (h.outlets.setTopic houtlets)
  · exact h.bind fun index _ => h.publish template _ value
  · exact h.bind fun index _ => h.bind fun switchable _ => h.bind fun outlets houtlets =>
      (h.of_outlets (h.outlets.update houtlets)).publish template _ _
  · refine h.bind fun count _ => ?_
    have hbegun := h.of_draft (site.draft.sound_begin count) (maxAlarms_begin site.draft count)
    simp only
    split
    · exact hbegun
    · exact hbegun
  · exact h.bind fun index _ => h.bind fun draft hdraft =>
      h.of_draft (h.draft.setField hdraft) (AlarmDraft.maxAlarms_setField hdraft)
  · exact h

/-- Whatever the path and the value, a site stays within its limits. -/
theorem WithinLimits.dispatch (h : WithinLimits settings site) (path value : String) :
    WithinLimits settings (TopicTable.card.dispatch ks path value site).site := by
  cases hfind : TopicTable.card.find? path with
  | none =>
    rw [TopicTable.dispatch, hfind]
    exact h
  | some found =>
    obtain ⟨rule, params⟩ := found
    cases hhandler : rule.handler with
    | none => exact direct_cases hfind hhandler h fun _ store _ _ => h.of_store store
    | some handler =>
      rw [site_dispatch hfind hhandler]
      exact h.process handler rule.template value params

end Site

end RackTelemetry
