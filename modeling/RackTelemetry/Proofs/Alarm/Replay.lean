import RackTelemetry.Proofs.Alarm.Conservation

/-!
A list that is reported again changes nothing. By the second pass every reported alarm is known and
every known alarm is reported, so all of them are active; they leave the objects alone, and they
contribute to the channels what they contributed before.
-/

namespace RackTelemetry

open AlarmPass AlarmTable

namespace AlarmPass

variable {ks : KeySpace} {known : AlarmRegistry} {devices : DeviceRegistry} {store : Store}
  {received : List Alarm}

/-! ### Nothing appears and nothing goes -/

theorem Reported.leaving_eq (h : Reported known received) : leaving known received = [] := by
  refine List.filter_eq_nil_iff.mpr ?_
  intro alarm hmem
  obtain ⟨other, hother, hid⟩ := h.reported alarm hmem
  rw [List.any_eq_true.mpr ⟨other, hother, decide_eq_true hid⟩]
  exact Bool.false_ne_true

theorem Reported.appearing_eq (h : Reported known received) : appearing known received = [] := by
  refine List.filter_eq_nil_iff.mpr ?_
  intro alarm hmem
  rw [(known.contains_iff alarm.id).mpr (h.known alarm hmem)]
  exact Bool.false_ne_true

theorem Reported.staying_eq (h : Reported known received) :
    staying known received = known.alarms := by
  refine List.filter_eq_self.mpr ?_
  intro alarm hmem
  obtain ⟨other, hother, hid⟩ := h.reported alarm hmem
  exact List.any_eq_true.mpr ⟨other, hother, decide_eq_true hid⟩

theorem Reported.snd_passEntries (h : Reported known received) :
    ∀ entry ∈ passEntries known received, entry.2 = .active := by
  intro entry hmem
  rw [passEntries, h.leaving_eq, List.map_nil, List.append_nil] at hmem
  obtain ⟨alarm, halarm, rfl⟩ := List.mem_map.mp hmem
  rw [snd_classify, if_pos (h.known alarm halarm)]

/-- A list that reports what is known leaves it known. -/
theorem Reported.known_reconcile (h : Reported known received) (table : AlarmTable)
    (ks : KeySpace) (devices : DeviceRegistry) (store : Store) :
    (table.reconcile ks known devices store received).known = known := by
  rw [AlarmTable.known_reconcile, h.staying_eq, h.appearing_eq, List.append_nil]

/-! ### Active alarms -/

theorem writesFor_active (table : AlarmTable) (ks : KeySpace) (devices : DeviceRegistry)
    (alarm : Alarm) : writesFor table ks devices (alarm, .active) = [] := by
  refine List.filterMap_eq_nil_iff.mpr ?_
  rintro ⟨action, params⟩ -
  cases action <;> rfl

/-- A pass over active alarms publishes nothing before the channels. -/
theorem store_passed_of_active (table : AlarmTable)
    (h : ∀ entry ∈ passEntries known received, entry.2 = .active) :
    (table.passed ks known devices store received).store = store := by
  have hwrites : (passEntries known received).flatMap (writesFor table ks devices) = [] := by
    rw [List.flatMap_eq_nil_iff]
    rintro ⟨alarm, state⟩ hmem
    obtain rfl : state = .active := h _ hmem
    exact writesFor_active table ks devices alarm
  rw [passed, store_foldl_applyRules, hwrites, List.foldl_nil]

theorem tolerated_passed_of_active (table : AlarmTable)
    (h : ∀ entry ∈ passEntries known received, entry.2 = .active) :
    (table.passed ks known devices store received).summary.tolerated = 0 := by
  refine List.foldlRecOn (motive := fun p : Progress => p.summary.tolerated = 0) _ _ rfl ?_
  rintro p hp ⟨alarm, state⟩ hmem
  obtain rfl : state = .active := h _ hmem
  simp only [applyRules]
  split
  · exact hp
  · refine foldl_rules_keep (P := fun q => q.summary.tolerated = 0) ?_ _ hp
    intro params q action hq
    rw [tolerated_act_active, hq]

/-- The account tells whether all alarms of a pass were active. -/
theorem count_passed_eq_zero_iff (table : AlarmTable) :
    (table.passed ks known devices store received).summary.new = 0 ∧
        (table.passed ks known devices store received).summary.inactive = 0 ↔
      ∀ entry ∈ passEntries known received, entry.2 = .active := by
  have hcount := count_passed table ks known devices store received
  have hnew := hcount .new
  have hinactive := hcount .inactive
  simp only [AlarmSummary.count] at hnew hinactive
  rw [hnew, hinactive, List.countP_eq_zero, List.countP_eq_zero]
  simp only [decide_eq_true_eq]
  constructor
  · rintro ⟨hnone, hstay⟩ ⟨alarm, state⟩ hmem
    cases state with
    | new => exact absurd rfl (hnone _ hmem)
    | active => rfl
    | inactive => exact absurd rfl (hstay _ hmem)
  · intro h
    refine ⟨?_, ?_⟩
    · intro entry hmem
      rw [h entry hmem]
      exact nofun
    · intro entry hmem
      rw [h entry hmem]
      exact nofun

/-- A list that reports what is known writes nothing but the channels. -/
theorem Reported.get?_reconcile (h : Reported known received) (table : AlarmTable)
    (halarm : ks.alarmKey ≠ "") (hstatus : ks.statusKey ≠ "") (devices : DeviceRegistry)
    (store : Store) (name : String) :
    (table.reconcile ks known devices store received).store.get? name =
      if name = ks.statusKey then
        statusEntry (table.contributed AlarmAction.text? known received)
          (table.contributed AlarmAction.flag? known received)
      else if name = ks.alarmKey then
        alarmEntry (table.contributed AlarmAction.text? known received)
      else store.get? name := by
  have hget := AlarmPass.get?_reconcile table halarm hstatus h.distinct devices store received name
  simp only [h.known_reconcile table, store_passed_of_active table h.snd_passEntries] at hget
  exact hget

end AlarmPass

/-! ### Replay -/

namespace AlarmTable

/-- A list that is reconciled twice in a row is known after the first pass as it is after the
second, and the published values stay the same; the second account has no alarm that appears, goes,
or misses its object. Whatever was published before, a pass without alarms that appear or go writes
nothing but the channels. -/
theorem reconcile_replay (table : AlarmTable) {ks : KeySpace} (halarm : ks.alarmKey ≠ "")
    (hstatus : ks.statusKey ≠ "") {known : AlarmRegistry} (hnodup : known.ids.Nodup)
    (devices : DeviceRegistry) (store : Store) (received : List Alarm) :
    let first := table.reconcile ks known devices store received
    let second := table.reconcile ks first.known devices first.store received
    second.known = first.known ∧ second.store.entries = first.store.entries ∧
      (∃ summary, second.result = .ok summary ∧
        summary.new = 0 ∧ summary.inactive = 0 ∧ summary.tolerated = 0) ∧
      ∀ summary, first.result = .ok summary → summary.new = 0 → summary.inactive = 0 →
        ∀ name, name ≠ ks.alarmKey → name ≠ ks.statusKey →
          first.store.get? name = store.get? name := by
  intro first second
  have hknown : first.known = ⟨staying known received ++ appearing known received⟩ :=
    known_reconcile table ks known devices store received
  have hreported : Reported first.known received := by
    rw [hknown]
    exact reported_reconcile hnodup received
  have hagain : second.known = first.known := hreported.known_reconcile table ks devices first.store
  have hactive := hreported.snd_passEntries
  obtain ⟨-, hresult⟩ := reconcile_ok table halarm hstatus first.known devices first.store received
  have hcount : (table.passed ks first.known devices first.store received).summary.new = 0 ∧
      (table.passed ks first.known devices first.store received).summary.inactive = 0 :=
    (count_passed_eq_zero_iff table).mpr hactive
  refine ⟨hagain, ?_, ?_, ?_⟩
  · apply Std.ExtTreeMap.ext_getElem?
    intro name
    show second.store.get? name = first.store.get? name
    have hfirst := get?_reconcile table halarm hstatus hnodup devices store received name
    rw [hreported.get?_reconcile table halarm hstatus]
    split
    · next hname => rw [hfirst, if_pos hname]
    · next hother =>
      split
      · next hname => rw [hfirst, if_neg hother, if_pos hname]
      · rfl
  · exact ⟨_, hresult, hcount.1, hcount.2, tolerated_passed_of_active table hactive⟩
  · intro summary hfirst hnew hinactive name hnameAlarm hnameStatus
    obtain rfl : (table.passed ks known devices store received).summary = summary :=
      Except.ok.inj ((reconcile_ok table halarm hstatus known devices store received).2.symm.trans
        hfirst)
    show (table.reconcile ks known devices store received).store.get? name = _
    rw [store_reconcile, get?_commit_other hnameAlarm hnameStatus,
      store_passed_of_active table ((count_passed_eq_zero_iff table).mp ⟨hnew, hinactive⟩)]

/-- The channels have one name here, and the list has blank ids and a repeated one. -/
theorem reconcile_replay_one_channel :
    let ks : KeySpace := { alarmKey := "ups.status" }
    let first := card.reconcile ks twoKnown {} {} mixedReport
    let second := card.reconcile ks first.known {} first.store mixedReport
    ks.alarmKey ≠ "" ∧ ks.statusKey ≠ "" ∧ twoKnown.ids.Nodup ∧
      second.known = first.known ∧ second.store.entries = first.store.entries ∧
      (∃ summary, second.result = .ok summary ∧
        summary.new = 0 ∧ summary.inactive = 0 ∧ summary.tolerated = 0) ∧
      ∀ summary, first.result = .ok summary → summary.new = 0 → summary.inactive = 0 →
        ∀ name, name ≠ ks.alarmKey → name ≠ ks.statusKey →
          first.store.get? name = ({} : Store).get? name :=
  ⟨by decide, by decide, by decide,
    reconcile_replay card (by decide) (by decide) (by decide) {} {} mixedReport⟩

end AlarmTable

end RackTelemetry
