import Mathlib.Logic.Relation
import RackTelemetry.Proofs.Alarm.Channels
import RackTelemetry.Proofs.Site.Change

/-!
What a pass with the rules of the card publishes: the presence of devices and the status of sensors
that are not disabled, each a change that a value could have made, and then the two channels.
-/

namespace RackTelemetry

open KeySpace DeviceRegistry AlarmPass

/-- The objects of the card's rules are the presence of a device and the status of a sensor, and a
raised status differs from the status of a sensor without alarms. -/
def AlarmAction.isSound : AlarmAction → Bool
  | .object (.device field) _ _ => field = "present"
  | .object (.sensor field) raised cleared =>
    field = some "status" ∧ raised ≠ "good" ∧ cleared = "good"
  | .object .. => false
  | .alarm _ => true
  | .status _ => true

theorem AlarmTable.isSound_card :
    ∀ rule ∈ AlarmTable.card, ∀ action ∈ rule.actions, action.isSound = true := by
  decide

namespace AlarmPass

theorem mem_actionsFor {table : AlarmTable} {alarm : Alarm} {action : AlarmAction}
    {params : List String} :
    (action, params) ∈ actionsFor table alarm ↔
      ∃ rule, (rule, params) ∈ table.matching alarm.code alarm.topic ∧ action ∈ rule.actions := by
  simp only [actionsFor, List.mem_flatMap, List.mem_map, Prod.mk.injEq, Prod.exists]
  constructor
  · rintro ⟨rule, params, hmem, action, haction, rfl, rfl⟩
    exact ⟨rule, hmem, haction⟩
  · rintro ⟨rule, hmem, haction⟩
    exact ⟨rule, params, hmem, action, haction, rfl, rfl⟩

theorem rule_of_mem_matching {table : AlarmTable} {code topic : String} {rule : AlarmRule}
    {params : List String} (h : (rule, params) ∈ table.matching code topic) :
    rule ∈ table ∧ codeListed rule.codes code = true ∧
      rule.topic.captures? topic = some params := by
  obtain ⟨found, hmem, hfound⟩ := List.mem_filterMap.mp h
  split at hfound
  · next hcode =>
    obtain ⟨captured, hcaptured, heq⟩ := Option.map_eq_some_iff.mp hfound
    obtain ⟨rfl, rfl⟩ := Prod.mk.inj heq
    exact ⟨hmem, hcode, hcaptured⟩
  · cases hfound

variable {ks : KeySpace} {devices : DeviceRegistry} {params : List String}

/-- The device of a device template is found by the one text of the rule. -/
theorem objectTarget_device {field : String} {target : KeyTarget}
    (h : objectTarget devices (.device field) params = .ok (some target)) :
    ∃ key p, params = [key] ∧ devices.position? key = some p ∧ target = .device p := by
  match params, h with
  | [key], h =>
    obtain ⟨p, hp, h⟩ := exists_of_bind_eq_ok h
    exact ⟨key, p, rfl, positionOf_eq_ok.mp hp, (Option.some.inj (Except.ok.inj h)).symm⟩
  | [], h => cases h
  | _ :: _ :: _, h => cases h

/-- The sensor of a sensor template is found by the three texts of the rule, and is not disabled. -/
theorem objectTarget_sensor {field : Option String} {target : KeyTarget}
    (h : objectTarget devices (.sensor field) params = .ok (some target)) :
    ∃ key channel sensorKey kind p i device sensor, params = [key, channel, sensorKey] ∧
      SensorKind.ofChannel channel = .ok kind ∧ devices.resolve key kind sensorKey = .ok (p, i) ∧
      devices.Slot p kind i device sensor ∧ sensor.state ≠ .disabled ∧
      target = .sensor p kind i := by
  match params, h with
  | [key, channel, sensorKey], h =>
    obtain ⟨kind, hkind, h⟩ := exists_of_bind_eq_ok h
    obtain ⟨⟨p, i⟩, hfound, h⟩ := exists_of_bind_eq_ok h
    obtain ⟨state, hstate, h⟩ := exists_of_bind_eq_ok h
    obtain ⟨device, sensor, hslot, rfl⟩ := stateOf_eq_ok.mp hstate
    simp only [pure, Except.pure] at h
    split at h
    · cases Except.ok.inj h
    · next henabled =>
      exact ⟨key, channel, sensorKey, kind, p, i, device, sensor, rfl, hkind, hfound, hslot,
        henabled, (Option.some.inj (Except.ok.inj h)).symm⟩
  | [], h => cases h
  | [_], h => cases h
  | [_, _], h => cases h
  | _ :: _ :: _ :: _ :: _, h => cases h

/-- A write of a pass belongs to an object action of an alarm that appears or goes. -/
theorem mem_writesFor {table : AlarmTable} {entry : Alarm × AlarmState} {name value : String} :
    (name, value) ∈ writesFor table ks devices entry ↔
      entry.2 ≠ .active ∧ ∃ template raised cleared params target,
        (AlarmAction.object template raised cleared, params) ∈ actionsFor table entry.1 ∧
          objectTarget devices template params = .ok (some target) ∧
          template.render ks target = .ok name ∧
          value = if entry.2 = .new then raised else cleared := by
  constructor
  · intro h
    obtain ⟨⟨action, params⟩, hmem, hwrite⟩ := List.mem_filterMap.mp h
    unfold write? at hwrite
    split at hwrite
    · next template raised cleared params heq =>
      obtain ⟨rfl, rfl⟩ := Prod.mk.inj heq
      split at hwrite
      · cases hwrite
      · next hstate =>
        split at hwrite
        · next target htarget =>
          split at hwrite
          · next name hname =>
            obtain ⟨rfl, rfl⟩ := Prod.mk.inj (Option.some.inj hwrite)
            exact ⟨hstate, template, raised, cleared, params, target, hmem, htarget, hname, rfl⟩
          · cases hwrite
        · cases hwrite
    · cases hwrite
  · rintro ⟨hstate, template, raised, cleared, params, target, hmem, htarget, hname, rfl⟩
    refine List.mem_filterMap.mpr ⟨_, hmem, ?_⟩
    simp only [write?, if_neg hstate, htarget, hname]

/-- The rules of the card write whether a device is present, or the status of a sensor that is not
disabled. -/
theorem name_of_mem_writesFor {entry : Alarm × AlarmState} {name value : String}
    (h : (name, value) ∈ writesFor .card ks devices entry) :
    (∃ p device, devices.devices[p]? = some device ∧ name = ks.device p "present") ∨
      ∃ p kind i device sensor, devices.Slot p kind i device sensor ∧ sensor.state ≠ .disabled ∧
        name = ks.sensor p kind i (some "status") := by
  obtain ⟨-, template, raised, cleared, params, target, hmem, htarget, hname, -⟩ :=
    mem_writesFor.mp h
  obtain ⟨rule, hrule, haction⟩ := mem_actionsFor.mp hmem
  have hsound := AlarmTable.isSound_card rule (rule_of_mem_matching hrule).1 _ haction
  cases template with
  | device field =>
    obtain rfl : field = "present" := of_decide_eq_true hsound
    obtain ⟨key, p, -, hp, rfl⟩ := objectTarget_device htarget
    obtain ⟨device, hdevice, -⟩ := device_of_position? hp
    exact .inl ⟨p, device, hdevice, (Except.ok.inj hname).symm⟩
  | sensor field =>
    obtain ⟨rfl, -⟩ : field = some "status" ∧ _ := of_decide_eq_true hsound
    obtain ⟨-, -, -, kind, p, i, device, sensor, -, -, -, hslot, hstate, rfl⟩ :=
      objectTarget_sensor htarget
    exact .inr ⟨p, kind, i, device, sensor, hslot, hstate, (Except.ok.inj hname).symm⟩
  | fixed name => cases hsound
  | outlet field => cases hsound

/-- The writes of the card's rules are changes of a site. -/
theorem change_offer {site : Site} {entry : Alarm × AlarmState} {write : String × String}
    (h : write ∈ writesFor .card ks site.devices entry) :
    Site.Change ks site { site with store := site.store.offer write } := by
  obtain ⟨name, value⟩ := write
  unfold Store.offer
  cases hset : site.store.set name value with
  | error e => exact .unchanged
  | ok store =>
    rcases name_of_mem_writesFor h with
      ⟨p, device, hp, rfl⟩ | ⟨p, kind, i, device, sensor, hslot, hstate, rfl⟩
    · exact .devicePublished hp (by decide) (by decide) hset
    · exact .sensorPublished hslot (SensorKind.publishes_status kind)
        (fun hdisabled => absurd hdisabled hstate) hset

/-- A name that is no channel and that no alarm writes holds what it held. -/
theorem get?_reconcile_of_notMem {table : AlarmTable} {name : String}
    (halarm : name ≠ ks.alarmKey) (hstatus : name ≠ ks.statusKey)
    (h : ∀ entry value, (name, value) ∉ writesFor table ks devices entry) (known : AlarmRegistry)
    (store : Store) (received : List Alarm) :
    (table.reconcile ks known devices store received).store.get? name = store.get? name := by
  rw [AlarmTable.store_reconcile, get?_commit_other halarm hstatus, AlarmTable.passed,
    store_foldl_applyRules]
  apply Store.get?_foldl_offer_of_notMem
  rintro ⟨_, value⟩ hmem rfl
  obtain ⟨entry, -, hwrite⟩ := List.mem_flatMap.mp hmem
  exact h entry value hwrite

end AlarmPass

namespace Site

abbrev Changes (ks : KeySpace) : Site → Site → Prop := Relation.ReflTransGen (Change ks)

/-- Up to the channels, a pass with the rules of the card is a run of changes. -/
theorem changes_passed (ks : KeySpace) (site : Site) (known : AlarmRegistry)
    (received : List Alarm) :
    Changes ks site
      { site with
        store := (AlarmTable.card.passed ks known site.devices site.store received).store } := by
  rw [AlarmTable.passed, store_foldl_applyRules]
  have hchanges : ∀ (writes : List (String × String)) (store : Store),
      (∀ write ∈ writes, ∃ entry, write ∈ writesFor .card ks site.devices entry) →
        Changes ks { site with store } { site with store := writes.foldl Store.offer store } := by
    intro writes
    induction writes with
    | nil =>
      intro store _
      exact .refl
    | cons write rest ih =>
      intro store hwrites
      obtain ⟨entry, hwrite⟩ := hwrites write List.mem_cons_self
      have hchange : Change ks { site with store } { site with store := store.offer write } :=
        change_offer hwrite
      exact .head hchange
        (ih (store.offer write) fun other hmem => hwrites other (List.mem_cons_of_mem _ hmem))
  refine hchanges _ site.store ?_
  intro write hmem
  obtain ⟨entry, -, hwrite⟩ := List.mem_flatMap.mp hmem
  exact ⟨entry, hwrite⟩

end Site

end RackTelemetry
