import RackTelemetry.Proofs.Site.Agreement

/-!
Where only lists of devices and of sensors have been announced, the status of temperature and of
humidity is good wherever there is one: it is set with the first key of a sensor, and nothing else
is published for it. No sensor is disabled, and every sensor with a key has its status.
-/

namespace RackTelemetry

open KeySpace DeviceRegistry

namespace Site

/-- The statuses are those of sensors that have just got their keys. -/
structure Seeded (ks : KeySpace) (site : Site) : Prop where
  mirrored : Mirrored ks site
  inUse : ∀ {p kind i device sensor}, site.devices.Slot p kind i device sensor →
    sensor.state ≠ .disabled
  good : ∀ {p kind i device sensor}, site.devices.Slot p kind i device sensor →
    kind.isIndexed = false → sensor.key ≠ none → site.entry ks p (statusStep kind) = some "good"
  only : ∀ {p kind value}, kind.isIndexed = false → site.entry ks p (statusStep kind) = some value →
    value = "good"

variable {ks : KeySpace} {site after : Site}

namespace Seeded

variable (h : Seeded ks site)
include h

theorem of_carried (hmirrored : Mirrored ks after) (hcarried : Carried ks site after) :
    Seeded ks after := by
  have hslots : ∀ {p kind i device sensor}, after.devices.Slot p kind i device sensor →
      ∃ o, site.devices.Slot o kind i device sensor ∧
        ∀ s, after.entry ks p s = site.entry ks o s := by
    intro p kind i device sensor hslot
    rcases hcarried p device hslot.stands with ⟨o, ho, hentries⟩ | ⟨-, hempty, -⟩
    · exact ⟨o, ⟨ho, hslot.holds⟩, hentries⟩
    · have hholds := hslot.holds
      rw [hempty] at hholds
      cases kind <;> cases hholds
  refine ⟨hmirrored, ?_, ?_, ?_⟩
  · intro p kind i device sensor hslot
    obtain ⟨o, hold, -⟩ := hslots hslot
    exact h.inUse hold
  · intro p kind i device sensor hslot hkind hkey
    obtain ⟨o, hold, hentries⟩ := hslots hslot
    rw [hentries]
    exact h.good hold hkind hkey
  · intro p kind value hkind hvalue
    obtain ⟨device, hp, -⟩ := hmirrored.owner hvalue
    rcases hcarried p device hp with ⟨o, -, hentries⟩ | ⟨-, -, hentries⟩
    · rw [hentries] at hvalue
      exact h.only hkind hvalue
    · rw [hentries, statusStep, if_neg (sensorField_ne_key kind 0 _)] at hvalue
      cases hvalue

/-- A device is replaced, and statuses stay or become good. -/
theorem replace {p : Nat} {device other : Device} (hp : site.devices.devices[p]? = some device)
    (hmirrored : Mirrored ks after) (hdevices : after.devices = site.devices.replace p other)
    (hstatus : ∀ q kind, kind.isIndexed = false →
      after.entry ks q (statusStep kind) = site.entry ks q (statusStep kind) ∨
        after.entry ks q (statusStep kind) = some "good")
    (hslots : ∀ (kind : SensorKind) (i : Nat) (sensor : Sensor),
      (other.group kind)[i]? = some sensor → sensor.state ≠ .disabled ∧
        (kind.isIndexed = false → sensor.key ≠ none →
          after.entry ks p (statusStep kind) = some "good")) : Seeded ks after := by
  have hlt : p < site.devices.devices.length := (List.getElem?_eq_some_iff.mp hp).1
  have hcases : ∀ {q kind i found sensor}, after.devices.Slot q kind i found sensor →
      q = p ∧ (other.group kind)[i]? = some sensor ∨
        site.devices.Slot q kind i found sensor := by
    rintro q kind i found sensor ⟨hstands, hholds⟩
    rw [hdevices, getElem?_replace] at hstands
    split at hstands
    · next heq =>
      subst heq
      rw [if_pos hlt] at hstands
      obtain rfl := Option.some.inj hstands
      exact .inl ⟨rfl, hholds⟩
    · exact .inr ⟨hstands, hholds⟩
  refine ⟨hmirrored, ?_, ?_, ?_⟩
  · intro q kind i found sensor hslot
    rcases hcases hslot with ⟨-, hholds⟩ | hold
    · exact (hslots kind i sensor hholds).1
    · exact h.inUse hold
  · intro q kind i found sensor hslot hkind hkey
    rcases hcases hslot with ⟨rfl, hholds⟩ | hold
    · exact (hslots kind i sensor hholds).2 hkind hkey
    · rcases hstatus q kind hkind with hsame | hgood
      · rw [hsame]
        exact h.good hold hkind hkey
      · exact hgood
  · intro q kind value hkind hvalue
    rcases hstatus q kind hkind with hsame | hgood
    · rw [hsame] at hvalue
      exact h.only hkind hvalue
    · rw [hgood] at hvalue
      exact (Option.some.inj hvalue).symm

/-! ### The list of devices -/

theorem announceDevice {key : String} (hkey : key ≠ "") (position : Nat) :
    Seeded ks (announceDevice ks site key position).site :=
  h.of_carried (h.mirrored.announce hkey position).1 (h.mirrored.carried_announce hkey position)

theorem countDevices (count : Nat) : Seeded ks (countDevices ks site count).site := by
  by_cases hcount : count = 0
  · subst hcount
    have htruncated := truncated_countDevices_zero ks site
    exact h.of_carried (h.mirrored.truncated htruncated) htruncated.carried
  · rw [Site.countDevices, if_neg hcount]
    exact h.of_carried (h.mirrored.of_ambient rfl fun _ _ => rfl) (.refl ks site)

/-! ### The lists of sensors -/

/-- Counted sensors have no keys yet. -/
theorem countSensors (device : String) (kind : SensorKind) (count : Nat) :
    Seeded ks (countSensors ks site device kind count).site := by
  refine countSensors_cases h ?_
  intro p found hp _
  have hkept : ∀ q other, other.isIndexed = false → ks.device q (statusStep other) ∉
      (if kind = .digitalInput then
        (List.range' count (found.contacts - count)).flatMap (ks.contactKeys p)
      else []) := by
    intro q other hother hmem
    obtain ⟨i, field, hname⟩ := contact_of_mem_dropped hmem
    obtain rfl := kind_of_sensorField (device_inj.mp hname).2
    cases hother
  refine h.replace hp (h.mirrored.sensorsCounted kind count hp) rfl ?_ ?_
  · intro q other hother
    exact .inl (Store.get?_delMany_of_notMem (hkept q other hother))
  · intro other i sensor hholds
    rw [Device.group_withGroup] at hholds
    split at hholds
    · obtain rfl := List.eq_of_mem_replicate (List.mem_of_getElem? hholds)
      exact ⟨nofun, fun _ hkey => absurd rfl hkey⟩
    · have hslot : site.devices.Slot p other i found sensor := ⟨hp, hholds⟩
      refine ⟨h.inUse hslot, fun hother hkey => ?_⟩
      exact (Store.get?_delMany_of_notMem (hkept p other hother)).trans (h.good hslot hother hkey)

/-- A sensor gets its key, and its status is good then. -/
theorem withKey {p index : Nat} {kind : SensorKind} {device : Device} {sensor : Sensor}
    {key : String} (hslot : site.devices.Slot p kind index device sensor)
    (hmirrored : Mirrored ks after)
    (hdevices : after.devices =
      site.devices.replace p (device.withSlot kind index { sensor with key := some key }))
    (hstatus : ∀ q other, other.isIndexed = false →
      after.entry ks q (statusStep other) = site.entry ks q (statusStep other) ∨
        after.entry ks q (statusStep other) = some "good")
    (hgood : kind.isIndexed = false → after.entry ks p (statusStep kind) = some "good") :
    Seeded ks after := by
  refine h.replace hslot.stands hmirrored hdevices hstatus ?_
  intro other i found hholds
  by_cases hkind : other = kind
  · subst hkind
    refine ⟨?_, fun hplain _ => hgood hplain⟩
    rw [Device.withSlot, Device.group_withGroup, if_pos rfl] at hholds
    by_cases hi : index = i
    · subst hi
      rw [List.getElem?_set_self (List.getElem?_eq_some_iff.mp hslot.holds).1] at hholds
      obtain rfl := Option.some.inj hholds
      have hstate : sensor.state ≠ .disabled := h.inUse hslot
      exact hstate
    · rw [List.getElem?_set_ne hi] at hholds
      exact h.inUse ⟨hslot.stands, hholds⟩
  · rw [Device.withSlot, Device.group_withGroup, if_neg hkind] at hholds
    have hold : site.devices.Slot p other i device found := ⟨hslot.stands, hholds⟩
    refine ⟨h.inUse hold, fun hplain hkey => ?_⟩
    rcases hstatus p other hplain with hsame | hset
    · rw [hsame]
      exact h.good hold hplain hkey
    · exact hset

theorem announceSensor (device : String) (kind : SensorKind) (index : Nat) (key : String) :
    Seeded ks (announceSensor ks site device kind index key).site := by
  refine announceSensor_cases h ?_ ?_
  · intro p found sensor hslot _ _ hpresent
    refine h.withKey hslot ?_ rfl (fun _ _ _ => .inl rfl) ?_
    · exact h.mirrored.replace_same hslot.stands (Device.key_withSlot ..)
        (Device.contacts_withSlot ..)
    · intro hplain
      have hcontains : site.store.contains (ks.device p (statusStep kind)) = true := by
        rw [← sensor_status ks p index hplain]
        exact hpresent.resolve_left (by rw [hplain]; exact Bool.false_ne_true)
      rw [Store.contains_eq_isSome, Option.isSome_iff_exists] at hcontains
      obtain ⟨value, hvalue⟩ := hcontains
      obtain rfl := h.only hplain hvalue
      exact hvalue
  · intro p found sensor store hslot _ _ hplain _ hset
    refine h.withKey hslot ?_ rfl ?_ ?_
    · exact (h.mirrored.set_sensor hslot kind.publishes_status hset).replace_same hslot.stands
        (Device.key_withSlot ..) (Device.contacts_withSlot ..)
    · intro q other _
      rw [sensor_status ks p index hplain] at hset
      by_cases hname : ks.device q (statusStep other) = ks.device p (statusStep kind)
      · refine .inr ?_
        rw [entry, hname]
        exact Store.get?_set_self hset
      · exact .inl (Store.get?_set_other hset hname)
    · intro _
      rw [sensor_status ks p index hplain] at hset
      exact Store.get?_set_self hset

/-! ### Values -/

theorem process {handler : Handler} {params : List String}
    (hannounces : handler.announces = true) (hlength : params.length = handler.expectedParams)
    (template : Option KeyTemplate) (value : String) :
    Seeded ks (handler.process ks template value params site).site := by
  cases handler with
  | deviceCount =>
    obtain rfl := List.length_eq_zero_iff.mp hlength
    exact bind_cases h fun count _ => h.countDevices count
  | deviceIndex =>
    obtain ⟨position, rfl⟩ := List.length_eq_one_iff.mp hlength
    exact bind_cases h fun key hkey => bind_cases h fun position _ =>
      h.announceDevice (lastSegment_ne_empty hkey) position
  | sensorCount =>
    obtain ⟨device, channel, rfl⟩ := List.length_eq_two.mp hlength
    exact bind_cases h fun kind _ => bind_cases h fun count _ => h.countSensors device kind count
  | sensorIndex =>
    obtain ⟨device, channel, index, rfl⟩ := List.length_eq_three.mp hlength
    exact bind_cases h fun kind _ => bind_cases h fun index _ => bind_cases h fun key _ =>
      h.announceSensor device kind index key
  | _ => cases hannounces

/-- An announcement publishes no status but a good one. -/
theorem dispatch {path : String} (hpath : TopicTable.card.announces path = true)
    (value : String) : Seeded ks (TopicTable.card.dispatch ks path value site).site := by
  rcases TopicTable.announces_cases hpath with
    hfind | ⟨rule, params, handler, hfind, hhandler, hannounces⟩
  · rw [TopicTable.dispatch, hfind]
    exact h
  · obtain ⟨hmem, hcaptures⟩ := TopicTable.rule_of_find? hfind
    have hlength := TopicRule.length_params (TopicTable.keepsContract_card rule hmem) hhandler
      hcaptures
    rw [site_dispatch hfind hhandler]
    exact h.process hannounces hlength rule.template value

end Seeded

end Site

end RackTelemetry
