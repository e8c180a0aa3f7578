import RackTelemetry.Proofs.Alarm.Attempts

/-!
The channels are committed by every pass, whatever becomes of the objects. Which alarms are known
afterwards and what the channels hold is settled by the rules, the alarms that were known and the
list that is reconciled; the devices and the published state have no part in it. An object that
cannot be written adds one to a count, and its name keeps what it held.
-/

namespace RackTelemetry

open AlarmPass

namespace AlarmTable

/-- What a pass enters into a channel: what the alarms contribute that it finds present, each entry
once. -/
def entered (table : AlarmTable) (item? : AlarmAction → Option String) (known : AlarmRegistry)
    (received : List Alarm) : List String :=
  ((passEntries known received).flatMap (contributionsFor table item?)).eraseDups

variable (table : AlarmTable) {ks : KeySpace} (known : AlarmRegistry) (devices : DeviceRegistry)
  (store : Store) (received : List Alarm)

theorem texts_passed_eq : (table.passed ks known devices store received).texts =
    table.entered AlarmAction.text? known received :=
  (texts_foldl_applyRules _ table _).trans (foldl_enter _)

theorem flags_passed_eq : (table.passed ks known devices store received).flags =
    table.entered AlarmAction.flag? known received :=
  (flags_foldl_applyRules _ table _).trans (foldl_enter _)

/-- After a pass the channels hold what was entered, and every other name what was written last
under it, or what it held. -/
theorem get?_reconcile_eq (halarm : ks.alarmKey ≠ "") (hstatus : ks.statusKey ≠ "")
    (name : String) :
    (table.reconcile ks known devices store received).store.get? name =
      if name = ks.statusKey then
        statusEntry (table.entered AlarmAction.text? known received)
          (table.entered AlarmAction.flag? known received)
      else if name = ks.alarmKey then alarmEntry (table.entered AlarmAction.text? known received)
      else (((table.written ks known devices received).filter fun write =>
        write.1 = name).getLast?.map Prod.snd).or (store.get? name) := by
  rw [store_reconcile, get?_commit halarm hstatus, texts_passed_eq, flags_passed_eq, get?_passed]

/-- A pass ends well with every table. The alarms that are known afterwards, the texts and flags of
the channels and the counts of alarms are the same for all devices and every published state. The
failures of objects are counted, and a name that is no channel holds what was written last under it
by an action that did not fail, or else what it held. -/
theorem channels_always_committed (halarm : ks.alarmKey ≠ "") (hstatus : ks.statusKey ≠ "")
    (hne : ks.alarmKey ≠ ks.statusKey) :
    ∃ (after : AlarmRegistry) (texts flags : List String) (counted : AlarmSummary),
      ∀ (devices : DeviceRegistry) (store : Store),
        let pass := table.reconcile ks known devices store received
        let failures := table.failures ks known devices received
        pass.known = after ∧
          pass.store.get? ks.alarmKey = alarmEntry texts ∧
          pass.store.get? ks.statusKey = statusEntry texts flags ∧
          pass.result = .ok { counted with
            tolerated := failures.countP Error.isNotFound
            failed := (blankAlarms received).length + failures.countP fun e => !e.isNotFound } ∧
          ∀ name, name ≠ ks.alarmKey → name ≠ ks.statusKey → pass.store.get? name =
            (((table.written ks known devices received).filter fun write =>
              write.1 = name).getLast?.map Prod.snd).or (store.get? name) := by
  refine ⟨⟨staying known received ++ appearing known received⟩,
    table.entered AlarmAction.text? known received, table.entered AlarmAction.flag? known received,
    { new := (passEntries known received).countP fun entry => entry.2 = .new
      active := (passEntries known received).countP fun entry => entry.2 = .active
      inactive := (passEntries known received).countP fun entry => entry.2 = .inactive
      unmatched := (passEntries known received).countP fun entry =>
        (table.matching entry.1.code entry.1.topic).isEmpty }, fun devices store => ?_⟩
  have hget := get?_reconcile_eq table known devices store received halarm hstatus
  refine ⟨known_reconcile table ks known devices store received, ?_, ?_, ?_, ?_⟩
  · rw [hget, if_neg hne, if_pos rfl]
  · rw [hget, if_pos rfl]
  · rw [(reconcile_ok table halarm hstatus known devices store received).2, summary_passed]
  · intro name hnotAlarm hnotStatus
    rw [hget, if_neg hnotStatus, if_neg hnotAlarm]

/-- Rules whose objects cannot be written: an empty name, a sensor whose texts the topic does not
have, an outlet, which no alarm is about, and a device that may not be there. -/
def unwritable : AlarmTable :=
  [{ codes := "1100"
     topic := .whole deviceTopic
     actions := [.object (.fixed "") "on" "off", .object (.sensor none) "on" "off",
       .object (.outlet "name") "on" "off", .object (.device "present") "no" "yes",
       .alarm "Lost", .status "LOST"] }]

def lostDevice : Alarm :=
  { id := "a", level := 1, code := "1100", topic := "mbdetnrs/1.0/sensors/devices/d" }

example : unwritable.failures {} {} {} [lostDevice] =
    [.store (.invalidKey ""), .invalidParams 3 1, .templateMismatch "Outlet(\"name\")" "global",
      .emptyRegistry] := by
  decide +kernel

/-- With these rules the channels are the same for all devices and every published state. -/
theorem channels_always_committed_unwritable :
    ∃ (after : AlarmRegistry) (texts flags : List String) (counted : AlarmSummary),
      ∀ (devices : DeviceRegistry) (store : Store),
        let pass := unwritable.reconcile {} {} devices store [lostDevice]
        let failures := unwritable.failures {} {} devices [lostDevice]
        pass.known = after ∧
          pass.store.get? "ups.alarm" = alarmEntry texts ∧
          pass.store.get? "ups.status" = statusEntry texts flags ∧
          pass.result = .ok { counted with
            tolerated := failures.countP Error.isNotFound
            failed := (blankAlarms [lostDevice]).length +
              failures.countP fun e => !e.isNotFound } ∧
          ∀ name, name ≠ "ups.alarm" → name ≠ "ups.status" → pass.store.get? name =
            (((unwritable.written {} {} devices [lostDevice]).filter fun write =>
              write.1 = name).getLast?.map Prod.snd).or (store.get? name) := by
  have halarm : ({} : KeySpace).alarmKey ≠ "" := by decide
  exact channels_always_committed unwritable {} [lostDevice] halarm (by decide) (by decide)

end AlarmTable

end RackTelemetry
