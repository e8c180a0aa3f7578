import RackTelemetry.Proofs.Alarm.Channels
import RackTelemetry.Proofs.Alarm.Objects

/-!
The status of a sensor over a run of passes. An alarm sets it when it appears and clears it when it
goes, and in between leaves it alone. So the status tells of the alarm that came last, unless one
has gone since: then it is cleared, even where other alarms about the sensor stay.
-/

namespace RackTelemetry

open KeySpace DeviceRegistry AlarmPass AlarmTable

/-- A temperature or humidity sensor that is not disabled, the only one of its kind on the device at
a position. -/
structure DeviceRegistry.Sole (r : DeviceRegistry) (p : Nat) (kind : SensorKind) (device : Device)
    (sensor : Sensor) : Prop where
  stands : r.devices[p]? = some device
  only : device.group kind = [sensor]
  inUse : sensor.state ≠ .disabled
  plain : kind.isIndexed = false

namespace AlarmTable

/-- The values that the rules publish for an object when an alarm appears. -/
def raisedOn (table : AlarmTable) (devices : DeviceRegistry) (target : KeyTarget) (alarm : Alarm) :
    List String :=
  (actionsFor table alarm).filterMap fun
    | (.object template raised _, params) =>
      match objectTarget devices template params with
      | .ok (some found) => if found = target then some raised else none
      | _ => none
    | _ => none

/-- Reconciles lists one after another, with no alarm known before the first. -/
def reconcileAll (table : AlarmTable) (ks : KeySpace) (devices : DeviceRegistry) (store : Store)
    (snapshots : List (List Alarm)) : AlarmRegistry × Store :=
  snapshots.foldl (fun (known, store) received =>
    let pass := table.reconcile ks known devices store received
    (pass.known, pass.store)) ({}, store)

def knownAfter (snapshots : List (List Alarm)) : AlarmRegistry :=
  snapshots.foldl (fun known received => ⟨staying known received ++ appearing known received⟩) {}

section

variable (table : AlarmTable) (devices : DeviceRegistry) (target : KeyTarget)

/-- Some of the alarms are about an object. -/
def Concerns (alarms : List Alarm) : Prop :=
  ∃ alarm ∈ alarms, table.raisedOn devices target alarm ≠ []

/-- An alarm about the object has gone, and since that pass none has appeared. -/
inductive ClearedLast : List (List Alarm) → Prop where
  | goes {snapshots : List (List Alarm)} {received : List Alarm} :
    Concerns table devices target (leaving (knownAfter snapshots) received) →
      ClearedLast (snapshots ++ [received])
  | stays {snapshots : List (List Alarm)} {received : List Alarm} :
    ClearedLast snapshots →
      ¬ Concerns table devices target (appearing (knownAfter snapshots) received) →
        ClearedLast (snapshots ++ [received])

end

/-! ### Runs of passes -/

variable {table : AlarmTable} {ks : KeySpace} {devices : DeviceRegistry} {target : KeyTarget}

theorem knownAfter_concat (snapshots : List (List Alarm)) (received : List Alarm) :
    knownAfter (snapshots ++ [received]) =
      ⟨staying (knownAfter snapshots) received ++ appearing (knownAfter snapshots) received⟩ := by
  rw [knownAfter, List.foldl_append]
  rfl

theorem reconcileAll_concat (store : Store) (snapshots : List (List Alarm))
    (received : List Alarm) :
    table.reconcileAll ks devices store (snapshots ++ [received]) =
      let before := table.reconcileAll ks devices store snapshots
      let pass := table.reconcile ks before.1 devices before.2 received
      (pass.known, pass.store) := by
  rw [reconcileAll, List.foldl_append]
  rfl

/-- Which alarms are known depends on the lists alone. -/
theorem known_reconcileAll (table : AlarmTable) (ks : KeySpace) (devices : DeviceRegistry)
    (store : Store) (snapshots : List (List Alarm)) :
    (table.reconcileAll ks devices store snapshots).1 = knownAfter snapshots := by
  induction snapshots using List.reverseRecOn with
  | nil => rfl
  | append_singleton snapshots received ih =>
    rw [reconcileAll_concat, knownAfter_concat, ← ih]
    exact known_reconcile table ks _ devices _ received

theorem not_clearedLast_nil : ¬ ClearedLast table devices target [] := by
  intro h
  generalize hnil : ([] : List (List Alarm)) = snapshots at h
  cases h with
  | goes => exact List.append_ne_nil_of_right_ne_nil _ (List.cons_ne_nil _ _) hnil.symm
  | stays => exact List.append_ne_nil_of_right_ne_nil _ (List.cons_ne_nil _ _) hnil.symm

theorem clearedLast_concat {snapshots : List (List Alarm)} {received : List Alarm} :
    ClearedLast table devices target (snapshots ++ [received]) ↔
      Concerns table devices target (leaving (knownAfter snapshots) received) ∨
        ClearedLast table devices target snapshots ∧
          ¬ Concerns table devices target (appearing (knownAfter snapshots) received) := by
  constructor
  · intro h
    generalize hlast : snapshots ++ [received] = all at h
    cases h with
    | goes hgoes =>
      obtain ⟨rfl, heq⟩ := List.append_inj' hlast rfl
      obtain rfl := (List.cons.inj heq).1
      exact .inl hgoes
    | stays hcleared hstays =>
      obtain ⟨rfl, heq⟩ := List.append_inj' hlast rfl
      obtain rfl := (List.cons.inj heq).1
      exact .inr ⟨hcleared, hstays⟩
  · rintro (hgoes | ⟨hcleared, hstays⟩)
    · exact .goes hgoes
    · exact .stays hcleared hstays

theorem mem_raisedOn {alarm : Alarm} {raised : String} :
    raised ∈ table.raisedOn devices target alarm ↔
      ∃ template cleared params,
        (AlarmAction.object template raised cleared, params) ∈ actionsFor table alarm ∧
          objectTarget devices template params = .ok (some target) := by
  rw [raisedOn, List.mem_filterMap]
  constructor
  · rintro ⟨⟨action, params⟩, hmem, hraised⟩
    split at hraised
    · next template value cleared params' heq =>
      obtain ⟨rfl, rfl⟩ := Prod.mk.inj heq
      split at hraised
      · next found htarget =>
        split at hraised
        · next hfound =>
          obtain rfl := Option.some.inj hraised
          exact ⟨template, cleared, params, hmem, hfound ▸ htarget⟩
        · cases hraised
      · cases hraised
    · cases hraised
  · rintro ⟨template, cleared, params, hmem, htarget⟩
    refine ⟨_, hmem, ?_⟩
    simp only [htarget, if_true]

end AlarmTable

/-! ### One pass -/

namespace AlarmPass

variable {ks : KeySpace} {devices : DeviceRegistry} {p : Nat} {kind : SensorKind} {device : Device}
  {sensor : Sensor} {alarm : Alarm} {template : KeyTemplate} {raised cleared : String}
  {params : List String}

/-- An action of the card's rules on a sensor sets its status, and never raises the status that it
is cleared to. -/
theorem sensorAction_eq {target : KeyTarget} {i : Nat}
    (hmem : (AlarmAction.object template raised cleared, params) ∈ actionsFor .card alarm)
    (htarget : objectTarget devices template params = .ok (some target))
    (hsensor : target = .sensor p kind i) :
    template = .sensor (some "status") ∧ raised ≠ "good" ∧ cleared = "good" := by
  obtain ⟨rule, hrule, haction⟩ := mem_actionsFor.mp hmem
  have hsound := AlarmTable.isSound_card rule (rule_of_mem_matching hrule).1 _ haction
  cases template with
  | device field =>
    obtain ⟨key, q, -, -, hdevice⟩ := objectTarget_device htarget
    rw [hsensor] at hdevice
    cases hdevice
  | sensor field =>
    obtain ⟨rfl, hraised, hcleared⟩ :
        field = some "status" ∧ raised ≠ "good" ∧ cleared = "good" := of_decide_eq_true hsound
    exact ⟨rfl, hraised, hcleared⟩
  | fixed name => cases hsound
  | outlet field => cases hsound

/-- Only an action on a sensor of the kind is published under the status of the kind. -/
theorem target_of_render (hplain : kind.isIndexed = false) {target : KeyTarget}
    (hmem : (AlarmAction.object template raised cleared, params) ∈ actionsFor .card alarm)
    (htarget : objectTarget devices template params = .ok (some target))
    (hname : template.render ks target = .ok (ks.sensor p kind 0 (some "status"))) :
    ∃ i, target = .sensor p kind i := by
  obtain ⟨rule, hrule, haction⟩ := mem_actionsFor.mp hmem
  have hsound := AlarmTable.isSound_card rule (rule_of_mem_matching hrule).1 _ haction
  rw [sensor_eq_device] at hname
  cases template with
  | device field =>
    obtain rfl : field = "present" := of_decide_eq_true hsound
    obtain ⟨key, q, -, -, rfl⟩ := objectTarget_device htarget
    have hstep := (device_inj.mp (Except.ok.inj hname)).2
    cases kind with
    | temperature => exact absurd hstep (by decide)
    | humidity => exact absurd hstep (by decide)
    | digitalInput => exact absurd hplain (by decide)
  | sensor field =>
    obtain ⟨-, -, -, other, q, i, found, slot, -, -, -, hslot, -, rfl⟩ :=
      objectTarget_sensor htarget
    have hsame : ks.sensor q other i field = ks.device p (sensorField kind 0 (some "status")) :=
      Except.ok.inj hname
    rw [sensor_eq_device, device_inj] at hsame
    obtain ⟨rfl, hstep⟩ := hsame
    obtain rfl := kind_of_sensorField hstep
    exact ⟨i, rfl⟩
  | fixed name => cases hsound
  | outlet field => cases hsound

/-- What an alarm that appears or goes publishes as the status of temperature or humidity. -/
theorem mem_writesFor_kind (hplain : kind.isIndexed = false) {state : AlarmState} {value : String} :
    (ks.sensor p kind 0 (some "status"), value) ∈ writesFor .card ks devices (alarm, state) ↔
      state ≠ .active ∧
        ∃ i, ∃ raised ∈ AlarmTable.card.raisedOn devices (.sensor p kind i) alarm,
          value = if state = .new then raised else "good" := by
  rw [mem_writesFor]
  constructor
  · rintro ⟨hstate, template, raised, cleared, params, target, hmem, htarget, hname, rfl⟩
    obtain ⟨i, rfl⟩ := target_of_render hplain hmem htarget hname
    obtain ⟨-, -, rfl⟩ := sensorAction_eq hmem htarget rfl
    exact ⟨hstate, i, raised, mem_raisedOn.mpr ⟨template, "good", params, hmem, htarget⟩, rfl⟩
  · rintro ⟨hstate, i, raised, hraised, rfl⟩
    obtain ⟨template, cleared, params, hmem, htarget⟩ := mem_raisedOn.mp hraised
    obtain ⟨rfl, -, rfl⟩ := sensorAction_eq hmem htarget rfl
    have hname : ks.sensor p kind i (some "status") = ks.sensor p kind 0 (some "status") := by
      rw [sensor_status ks p i hplain, sensor_status ks p 0 hplain]
    exact ⟨hstate, _, raised, "good", params, _, hmem, htarget, congrArg Except.ok hname, rfl⟩

/-- What an alarm that appears or goes publishes as the status of a sensor. -/
theorem mem_writesFor_status (h : devices.Sole p kind device sensor) {state : AlarmState}
    {value : String} :
    (ks.sensor p kind 0 (some "status"), value) ∈ writesFor .card ks devices (alarm, state) ↔
      state ≠ .active ∧ ∃ raised ∈ AlarmTable.card.raisedOn devices (.sensor p kind 0) alarm,
        value = if state = .new then raised else "good" := by
  rw [mem_writesFor_kind h.plain]
  constructor
  · rintro ⟨hstate, i, raised, hraised, rfl⟩
    -- the sensor is the only one of its kind
    obtain ⟨template, cleared, params, hmem, htarget⟩ := mem_raisedOn.mp hraised
    obtain ⟨rfl, -, -⟩ := sensorAction_eq hmem htarget rfl
    obtain ⟨-, -, -, other, q, j, found, slot, -, -, -, hslot, -, htarget⟩ :=
      objectTarget_sensor htarget
    cases htarget
    obtain rfl := Option.some.inj (h.stands.symm.trans hslot.stands)
    have hlt : i < (device.group kind).length := (List.getElem?_eq_some_iff.mp hslot.holds).1
    rw [h.only, List.length_singleton, Nat.lt_one_iff] at hlt
    exact ⟨hstate, raised, hlt ▸ hraised, rfl⟩
  · rintro ⟨hstate, hraised⟩
    exact ⟨hstate, 0, hraised⟩

/-- What a pass offers for the alarms that are there. -/
def presentWrites (ks : KeySpace) (devices : DeviceRegistry) (known : AlarmRegistry)
    (received : List Alarm) : List (String × String) :=
  ((distinctAlarms received).map (classify known)).flatMap (writesFor .card ks devices)

def leavingWrites (ks : KeySpace) (devices : DeviceRegistry) (known : AlarmRegistry)
    (received : List Alarm) : List (String × String) :=
  ((leaving known received).map fun alarm => (alarm, AlarmState.inactive)).flatMap
    (writesFor .card ks devices)

theorem store_passed (ks : KeySpace) (devices : DeviceRegistry) (known : AlarmRegistry)
    (store : Store) (received : List Alarm) :
    (AlarmTable.card.passed ks known devices store received).store =
      (leavingWrites ks devices known received).foldl Store.offer
        ((presentWrites ks devices known received).foldl Store.offer store) := by
  rw [passed, store_foldl_applyRules, passEntries, List.flatMap_append, List.foldl_append]
  rfl

variable {known : AlarmRegistry} {received : List Alarm}

/-- Of the alarms that are there, those that appear publish what they raise. -/
theorem mem_presentWrites (h : devices.Sole p kind device sensor) {value : String} :
    (ks.sensor p kind 0 (some "status"), value) ∈ presentWrites ks devices known received ↔
      ∃ alarm ∈ appearing known received,
        value ∈ AlarmTable.card.raisedOn devices (.sensor p kind 0) alarm := by
  simp only [presentWrites, List.mem_flatMap, List.mem_map, appearing, List.mem_filter]
  constructor
  · rintro ⟨entry, ⟨alarm, hmem, rfl⟩, hwrite⟩
    cases hknown : known.contains alarm.id with
    | false =>
      rw [classify_of_unknown hknown, mem_writesFor_status h] at hwrite
      obtain ⟨-, raised, hraised, rfl⟩ := hwrite
      exact ⟨alarm, ⟨hmem, by rw [hknown]; rfl⟩, hraised⟩
    | true =>
      rw [contains_eq_isSome, Option.isSome_iff_exists] at hknown
      obtain ⟨existing, hfound⟩ := hknown
      rw [classify, hfound] at hwrite
      exact absurd rfl ((mem_writesFor_status h).mp hwrite).1
  · rintro ⟨alarm, ⟨hmem, hunknown⟩, hraised⟩
    have hknown : known.contains alarm.id = false := by simpa using hunknown
    refine ⟨_, ⟨alarm, hmem, rfl⟩, ?_⟩
    rw [classify_of_unknown hknown]
    exact (mem_writesFor_status h).mpr ⟨by decide, value, hraised, rfl⟩

/-- The alarms that have gone clear the status. -/
theorem mem_leavingWrites (h : devices.Sole p kind device sensor) {value : String} :
    (ks.sensor p kind 0 (some "status"), value) ∈ leavingWrites ks devices known received ↔
      value = "good" ∧
        Concerns .card devices (.sensor p kind 0) (leaving known received) := by
  simp only [leavingWrites, List.mem_flatMap, List.mem_map, Concerns]
  constructor
  · rintro ⟨entry, ⟨alarm, hmem, rfl⟩, hwrite⟩
    obtain ⟨-, raised, hraised, rfl⟩ := (mem_writesFor_status h).mp hwrite
    exact ⟨rfl, alarm, hmem, List.ne_nil_of_mem hraised⟩
  · rintro ⟨rfl, alarm, hmem, hne⟩
    obtain ⟨raised, hraised⟩ := List.exists_mem_of_ne_nil _ hne
    exact ⟨_, ⟨alarm, hmem, rfl⟩, (mem_writesFor_status h).mpr ⟨by decide, raised, hraised, rfl⟩⟩

section

variable (h : devices.Sole p kind device sensor)
  (halarm : ks.sensor p kind 0 (some "status") ≠ ks.alarmKey)
  (hstatus : ks.sensor p kind 0 (some "status") ≠ ks.statusKey)
  (store : Store)

include halarm hstatus in
/-- The status is what the writes of a pass make it: it is not a channel. -/
theorem status_reconcile :
    (AlarmTable.card.reconcile ks known devices store received).store.get?
        (ks.sensor p kind 0 (some "status")) =
      ((leavingWrites ks devices known received).foldl Store.offer
        ((presentWrites ks devices known received).foldl Store.offer store)).get?
          (ks.sensor p kind 0 (some "status")) := by
  rw [store_reconcile, get?_commit_other halarm hstatus, store_passed]

include h halarm hstatus

/-- Where an alarm about the sensor goes, the status is cleared, whatever appears. -/
theorem status_of_leaving
    (hgoes : Concerns .card devices (.sensor p kind 0) (leaving known received)) :
    (AlarmTable.card.reconcile ks known devices store received).store.get?
      (ks.sensor p kind 0 (some "status")) = some "good" := by
  have hne := sensor_ne_empty ks p kind 0 (some "status")
  rw [status_reconcile halarm hstatus]
  obtain ⟨last, hlast, hget⟩ := Store.get?_foldl_offer_of_mem _ _ hne
    ((mem_leavingWrites h).mpr ⟨rfl, hgoes⟩)
  rw [hget, ((mem_leavingWrites h).mp hlast).1]

/-- Where none goes and one appears, the status is what one of those raises. -/
theorem status_of_appearing
    (hstays : ¬ Concerns .card devices (.sensor p kind 0) (leaving known received))
    (happears : Concerns .card devices (.sensor p kind 0) (appearing known received)) :
    ∃ alarm ∈ appearing known received,
      ∃ raised ∈ AlarmTable.card.raisedOn devices (.sensor p kind 0) alarm,
        (AlarmTable.card.reconcile ks known devices store received).store.get?
          (ks.sensor p kind 0 (some "status")) = some raised := by
  have hne := sensor_ne_empty ks p kind 0 (some "status")
  rw [status_reconcile halarm hstatus, Store.get?_foldl_offer_of_notMem]
  · obtain ⟨alarm, hmem, hraises⟩ := happears
    obtain ⟨raised, hraised⟩ := List.exists_mem_of_ne_nil _ hraises
    obtain ⟨last, hlast, hget⟩ := Store.get?_foldl_offer_of_mem store _ hne
      ((mem_presentWrites h).mpr ⟨alarm, hmem, hraised⟩)
    obtain ⟨alarm, hmem, hraised⟩ := (mem_presentWrites h).mp hlast
    exact ⟨alarm, hmem, last, hraised, hget⟩
  · rintro ⟨name, value⟩ hwrite rfl
    exact hstays ((mem_leavingWrites h).mp hwrite).2

/-- Where none goes and none appears, the status stays. -/
theorem status_of_neither
    (hstays : ¬ Concerns .card devices (.sensor p kind 0) (leaving known received))
    (hnone : ¬ Concerns .card devices (.sensor p kind 0) (appearing known received)) :
    (AlarmTable.card.reconcile ks known devices store received).store.get?
      (ks.sensor p kind 0 (some "status")) = store.get? (ks.sensor p kind 0 (some "status")) := by
  rw [status_reconcile halarm hstatus, Store.get?_foldl_offer_of_notMem,
    Store.get?_foldl_offer_of_notMem]
  · rintro ⟨name, value⟩ hwrite rfl
    obtain ⟨alarm, hmem, hraised⟩ := (mem_presentWrites h).mp hwrite
    exact hnone ⟨alarm, hmem, List.ne_nil_of_mem hraised⟩
  · rintro ⟨name, value⟩ hwrite rfl
    exact hstays ((mem_leavingWrites h).mp hwrite).2

end

end AlarmPass

/-! ### All passes -/

namespace AlarmTable

variable {ks : KeySpace} {devices : DeviceRegistry} {p : Nat} {kind : SensorKind} {device : Device}
  {sensor : Sensor}

/-- After some lists the status tells what a known alarm about the sensor raises, or is cleared. -/
structure StatusTells (ks : KeySpace) (devices : DeviceRegistry) (p : Nat) (kind : SensorKind)
    (snapshots : List (List Alarm)) (store : Store) : Prop where
  cleared : ClearedLast card devices (.sensor p kind 0) snapshots →
    store.get? (ks.sensor p kind 0 (some "status")) = some "good"
  raised : ¬ ClearedLast card devices (.sensor p kind 0) snapshots →
    Concerns card devices (.sensor p kind 0) (knownAfter snapshots).alarms →
      ∃ alarm ∈ (knownAfter snapshots).alarms,
        ∃ raised ∈ card.raisedOn devices (.sensor p kind 0) alarm,
          store.get? (ks.sensor p kind 0 (some "status")) = some raised

theorem statusTells_nil (store : Store) : StatusTells ks devices p kind [] store := by
  refine ⟨fun hcleared => absurd hcleared not_clearedLast_nil, ?_⟩
  rintro - ⟨alarm, hmem, -⟩
  cases hmem

section

variable {snapshots : List (List Alarm)} {received : List Alarm} {store after : Store}

/-- Where no alarm about the sensor goes or appears, the known ones are those from before. -/
theorem StatusTells.keep (h : StatusTells ks devices p kind snapshots store)
    (hstays : ¬ Concerns card devices (.sensor p kind 0) (leaving (knownAfter snapshots) received))
    (hnone : ¬ Concerns card devices (.sensor p kind 0)
      (appearing (knownAfter snapshots) received))
    (hkept : after.get? (ks.sensor p kind 0 (some "status")) =
      store.get? (ks.sensor p kind 0 (some "status"))) :
    StatusTells ks devices p kind (snapshots ++ [received]) after := by
  have hcleared : ClearedLast card devices (.sensor p kind 0) (snapshots ++ [received]) ↔
      ClearedLast card devices (.sensor p kind 0) snapshots := by
    rw [clearedLast_concat]
    constructor
    · rintro (hleft | ⟨hbefore, -⟩)
      · exact absurd hleft hstays
      · exact hbefore
    · intro hbefore
      exact .inr ⟨hbefore, hnone⟩
  refine ⟨?_, ?_⟩
  · rw [hcleared, hkept]
    exact h.cleared
  · rw [hcleared, hkept, knownAfter_concat]
    rintro hnot ⟨alarm, hmem, hne⟩
    have hbefore : alarm ∈ (knownAfter snapshots).alarms := by
      rcases List.mem_append.mp hmem with hstaying | happearing
      · exact (List.mem_filter.mp hstaying).1
      · exact absurd ⟨alarm, happearing, hne⟩ hnone
    obtain ⟨other, hother, raised, hraised, htells⟩ := h.raised hnot ⟨alarm, hbefore, hne⟩
    refine ⟨other, List.mem_append_left _ ?_, raised, hraised, htells⟩
    rcases mem_staying_or_leaving received hother with hstaying | hleaving
    · exact hstaying
    · exact absurd ⟨other, hleaving, List.ne_nil_of_mem hraised⟩ hstays

theorem StatusTells.pass (hsole : devices.Sole p kind device sensor)
    (halarm : ks.sensor p kind 0 (some "status") ≠ ks.alarmKey)
    (hstatus : ks.sensor p kind 0 (some "status") ≠ ks.statusKey)
    (h : StatusTells ks devices p kind snapshots store) (received : List Alarm) :
    StatusTells ks devices p kind (snapshots ++ [received])
      (card.reconcile ks (knownAfter snapshots) devices store received).store := by
  by_cases hgoes : Concerns card devices (.sensor p kind 0)
      (leaving (knownAfter snapshots) received)
  · have hcleared := status_of_leaving hsole halarm hstatus store hgoes
    exact ⟨fun _ => hcleared, fun hnot => absurd (.goes hgoes) hnot⟩
  by_cases happears : Concerns card devices (.sensor p kind 0)
      (appearing (knownAfter snapshots) received)
  · refine ⟨?_, fun _ _ => ?_⟩
    · rw [clearedLast_concat]
      rintro (hleft | ⟨-, hnone⟩)
      · exact absurd hleft hgoes
      · exact absurd happears hnone
    · obtain ⟨alarm, hmem, hraised⟩ :=
        status_of_appearing hsole halarm hstatus store hgoes happears
      rw [knownAfter_concat]
      exact ⟨alarm, List.mem_append_right _ hmem, hraised⟩
  · exact h.keep hgoes happears (status_of_neither hsole halarm hstatus store hgoes happears)

end

theorem statusTells_reconcileAll (h : devices.Sole p kind device sensor)
    (halarm : ks.sensor p kind 0 (some "status") ≠ ks.alarmKey)
    (hstatus : ks.sensor p kind 0 (some "status") ≠ ks.statusKey) (store : Store)
    (snapshots : List (List Alarm)) :
    StatusTells ks devices p kind snapshots (card.reconcileAll ks devices store snapshots).2 := by
  induction snapshots using List.reverseRecOn with
  | nil => exact statusTells_nil store
  | append_singleton snapshots received ih =>
    have hpass := ih.pass h halarm hstatus received
    rw [reconcileAll_concat]
    simp only [known_reconcileAll]
    exact hpass

/-- After every pass the status of a sensor tells what a known alarm about it raises, unless an
alarm about it has gone since one appeared; then it is cleared. -/
theorem sensor_status_follows_alarms (h : devices.Sole p kind device sensor)
    (halarm : ks.sensor p kind 0 (some "status") ≠ ks.alarmKey)
    (hstatus : ks.sensor p kind 0 (some "status") ≠ ks.statusKey) (store : Store)
    (snapshots : List (List Alarm)) :
    let target : KeyTarget := .sensor p kind 0
    let after := card.reconcileAll ks devices store snapshots
    let status := after.2.get? (ks.sensor p kind 0 (some "status"))
    (Concerns card devices target after.1.alarms → ¬ ClearedLast card devices target snapshots →
      ∃ alarm ∈ after.1.alarms, ∃ raised ∈ card.raisedOn devices target alarm,
        raised ≠ "good" ∧ status = some raised) ∧
    (ClearedLast card devices target snapshots → status = some "good") ∧
    (∀ earlier received, snapshots = earlier ++ [received] →
      Concerns card devices target (leaving (knownAfter earlier) received) →
        status = some "good") := by
  intro target after status
  have htells := statusTells_reconcileAll h halarm hstatus store snapshots
  have hknown : after.1 = knownAfter snapshots := known_reconcileAll card ks devices store snapshots
  refine ⟨?_, htells.cleared, ?_⟩
  · intro hconcerns hnot
    rw [hknown] at hconcerns ⊢
    obtain ⟨alarm, hmem, raised, hraised, hget⟩ := htells.raised hnot hconcerns
    obtain ⟨template, cleared, params, haction, htarget⟩ := mem_raisedOn.mp hraised
    exact ⟨alarm, hmem, raised, hraised, (sensorAction_eq haction htarget rfl).2.1, hget⟩
  · rintro earlier received rfl hgoes
    exact htells.cleared (.goes hgoes)

def oneSensor : DeviceRegistry :=
  { devices := [{ key := "dev-a", temperatures := [{ key := some "T1" }] }] }

def sensorAlarm (id code : String) : Alarm :=
  { id, level := 1, code
    topic := "mbdetnrs/1.0/sensors/devices/dev-a/channels/temperatures/T1" }

theorem sole_oneSensor :
    oneSensor.Sole 0 .temperature { key := "dev-a", temperatures := [{ key := some "T1" }] }
      { key := some "T1" } :=
  ⟨rfl, rfl, by decide, rfl⟩

/-- Two alarms about one sensor, the second of which goes. -/
theorem sensor_status_follows_two_alarms :
    let snapshots := [[sensorAlarm "w" "1202", sensorAlarm "c" "1203"], [sensorAlarm "w" "1202"]]
    let name := ({} : KeySpace).sensor 0 .temperature 0 (some "status")
    let target : KeyTarget := .sensor 0 .temperature 0
    let after := card.reconcileAll {} oneSensor {} snapshots
    let status := after.2.get? name
    (∃ device sensor, oneSensor.Sole 0 .temperature device sensor) ∧
    name ≠ ({} : KeySpace).alarmKey ∧ name ≠ ({} : KeySpace).statusKey ∧
    (Concerns card oneSensor target after.1.alarms → ¬ ClearedLast card oneSensor target snapshots →
      ∃ alarm ∈ after.1.alarms, ∃ raised ∈ card.raisedOn oneSensor target alarm,
        raised ≠ "good" ∧ status = some raised) ∧
    (ClearedLast card oneSensor target snapshots → status = some "good") ∧
    (∀ earlier received, snapshots = earlier ++ [received] →
      Concerns card oneSensor target (leaving (knownAfter earlier) received) →
        status = some "good") :=
  ⟨⟨_, _, sole_oneSensor⟩, by decide, by decide,
    sensor_status_follows_alarms sole_oneSensor (by decide) (by decide) {}
      [[sensorAlarm "w" "1202", sensorAlarm "c" "1203"], [sensorAlarm "w" "1202"]]⟩

/-- An alarm about a sensor can be known while the status is cleared: another one has gone. And
where a channel has the name of the status, the status is not what an alarm raises either. -/
theorem known_alarm_beside_cleared_status :
    let warning := sensorAlarm "w" "1202"
    let critical := sensorAlarm "c" "1203"
    let after := card.reconcileAll {} oneSensor {} [[warning, critical], [warning]]
    let hidden := card.reconcileAll { alarmKey := "ambient.1.temperature.status" } oneSensor {}
      [[warning]]
    (∃ device sensor, oneSensor.Sole 0 .temperature device sensor) ∧
      oneSensor.resolve "dev-a" .temperature "T1" = .ok (0, 0) ∧
      card.raisedOn oneSensor (.sensor 0 .temperature 0) warning = ["warning-high"] ∧
      after.1.alarms = [warning] ∧
      after.2.get? "ambient.1.temperature.status" = some "good" ∧
      hidden.1.alarms = [warning] ∧
      hidden.2.get? "ambient.1.temperature.status" =
        some "[Ambient temperature high warning]" := by
  refine ⟨⟨_, _, sole_oneSensor⟩, by decide, by decide, by decide, by decide +kernel, by decide,
    by decide +kernel⟩

end AlarmTable

end RackTelemetry
