import RackTelemetry.Proofs.Alarm.Effects
import RackTelemetry.Proofs.Alarm.Tracking
import RackTelemetry.Proofs.Pattern.Fits

/-!
What a pass leaves in the two channels: what the alarms that are known afterwards contribute, each
entry once, in the order of the list that was reconciled.
-/

namespace RackTelemetry

open AlarmPass AlarmTable

/-- The rule lists the code, and its topic matches. -/
def AlarmRule.appliesTo (rule : AlarmRule) (code topic : String) : Bool :=
  codeListed rule.codes code && rule.topic.isMatch topic

namespace AlarmTable

/-- A pass applies the rules that apply to an alarm, in order. -/
theorem map_fst_matching (table : AlarmTable) (code topic : String) :
    (table.matching code topic).map Prod.fst =
      table.filter fun rule => rule.appliesTo code topic := by
  rw [matching, List.map_filterMap, ← List.filterMap_eq_filter]
  refine List.filterMap_congr fun rule _ => ?_
  have hmatch := rule.topic.isSome_captures? topic
  rw [Option.guard, AlarmRule.appliesTo, ← hmatch]
  cases codeListed rule.codes code with
  | false => rfl
  | true =>
    cases rule.topic.captures? topic with
    | none => rfl
    | some params => rfl

/-- What the rules that apply to an alarm contribute to a channel, in order. -/
def entriesOf (table : AlarmTable) (item? : AlarmAction → Option String) (alarm : Alarm) :
    List String :=
  (table.filter fun rule => rule.appliesTo alarm.code alarm.topic).flatMap fun rule =>
    rule.actions.filterMap item?

/-- The known alarms in the order of a list that reports them. -/
def inOrder (known : AlarmRegistry) (received : List Alarm) : List Alarm :=
  (distinctAlarms received).filterMap fun alarm => known.find? alarm.id

/-- What the known alarms contribute to a channel: each entry once, where it comes up first in the
order of a list that reports them. -/
def contributed (table : AlarmTable) (item? : AlarmAction → Option String) (known : AlarmRegistry)
    (received : List Alarm) : List String :=
  ((inOrder known received).flatMap (table.entriesOf item?)).eraseDups

end AlarmTable

namespace AlarmPass

/-- The known alarms are those that a list reports. -/
structure Reported (known : AlarmRegistry) (received : List Alarm) : Prop where
  distinct : known.ids.Nodup
  reported : ∀ alarm ∈ known.alarms, ∃ other ∈ distinctAlarms received, other.id = alarm.id
  known : ∀ other ∈ distinctAlarms received, other.id ∈ known.ids

theorem reported_nil : Reported {} [] := by
  refine ⟨.nil, ?_, ?_⟩
  · intro alarm hmem
    cases hmem
  · intro other hmem
    cases hmem

theorem Reported.mem_inOrder {known : AlarmRegistry} {received : List Alarm}
    (h : Reported known received) {alarm : Alarm} :
    alarm ∈ inOrder known received ↔ alarm ∈ known.alarms := by
  rw [inOrder, List.mem_filterMap]
  constructor
  · rintro ⟨other, -, hfound⟩
    exact (id_of_find? hfound).1
  · intro hmem
    obtain ⟨other, hother, hid⟩ := h.reported alarm hmem
    exact ⟨other, hother, hid ▸ find?_of_mem h.distinct hmem⟩

theorem Reported.mem_contributed {table : AlarmTable} {item? : AlarmAction → Option String}
    {known : AlarmRegistry} {received : List Alarm} (h : Reported known received) {entry : String} :
    entry ∈ table.contributed item? known received ↔
      ∃ alarm ∈ known.alarms, entry ∈ table.entriesOf item? alarm := by
  rw [contributed, List.mem_eraseDups, List.mem_flatMap]
  constructor
  · rintro ⟨alarm, hmem, hentry⟩
    exact ⟨alarm, h.mem_inOrder.mp hmem, hentry⟩
  · rintro ⟨alarm, hmem, hentry⟩
    exact ⟨alarm, h.mem_inOrder.mpr hmem, hentry⟩

theorem nodup_eraseDups (entries : List String) : entries.eraseDups.Nodup := by
  rw [← foldl_enter]
  induction entries using List.reverseRecOn with
  | nil => exact .nil
  | append_singleton entries entry ih =>
    rw [List.foldl_append, List.foldl_cons, List.foldl_nil, enter]
    split
    · exact ih
    · next hnew =>
      rw [← List.concat_eq_append]
      exact List.Nodup.concat hnew ih

/-! ### The known alarms after a pass -/

variable {table : AlarmTable} {known : AlarmRegistry}

theorem reported_reconcile (hnodup : known.ids.Nodup) (received : List Alarm) :
    Reported ⟨staying known received ++ appearing known received⟩ received := by
  refine ⟨?_, ?_, ?_⟩
  · rw [AlarmRegistry.ids, List.map_append, List.nodup_append']
    refine ⟨hnodup.sublist (List.filter_sublist.map Alarm.id),
      (nodup_ids_distinctAlarms received).sublist (List.filter_sublist.map Alarm.id), ?_⟩
    intro id hstaying happearing
    obtain ⟨alarm, halarm, rfl⟩ := List.mem_map.mp hstaying
    obtain ⟨other, hother, hid⟩ := List.mem_map.mp happearing
    have hunknown := (List.mem_filter.mp hother).2
    have hknown : known.contains other.id = true := by
      rw [known.contains_iff, hid]
      exact List.mem_map_of_mem (List.mem_filter.mp halarm).1
    rw [hknown] at hunknown
    cases hunknown
  · intro alarm hmem
    rcases List.mem_append.mp hmem with hstaying | happearing
    · obtain ⟨other, hother, hid⟩ := List.any_eq_true.mp (List.mem_filter.mp hstaying).2
      exact ⟨other, hother, of_decide_eq_true hid⟩
    · exact ⟨alarm, (List.mem_filter.mp happearing).1, rfl⟩
  · intro other hother
    rw [AlarmRegistry.ids, List.map_append, List.mem_append]
    cases hfound : known.find? other.id with
    | some existing =>
      obtain ⟨hmem, hid⟩ := id_of_find? hfound
      refine .inl (hid ▸ List.mem_map_of_mem (List.mem_filter.mpr ⟨hmem, ?_⟩))
      exact List.any_eq_true.mpr ⟨other, hother, decide_eq_true hid.symm⟩
    | none =>
      refine .inr (List.mem_map_of_mem (List.mem_filter.mpr ⟨hother, ?_⟩))
      rw [contains_eq_isSome, hfound]
      rfl

theorem classify_mem {received : List Alarm} {alarm : Alarm} (h : alarm ∈ distinctAlarms received) :
    (classify known alarm).1 ∈ staying known received ++ appearing known received := by
  unfold classify
  split
  · next existing hfound =>
    obtain ⟨hmem, hid⟩ := id_of_find? hfound
    refine List.mem_append_left _ (List.mem_filter.mpr ⟨hmem, ?_⟩)
    exact List.any_eq_true.mpr ⟨alarm, h, decide_eq_true hid.symm⟩
  · next hfound =>
    refine List.mem_append_right _ (List.mem_filter.mpr ⟨h, ?_⟩)
    rw [contains_eq_isSome, hfound]
    rfl

theorem inOrder_reconcile (hnodup : known.ids.Nodup) (received : List Alarm) :
    inOrder ⟨staying known received ++ appearing known received⟩ received =
      (distinctAlarms received).map fun alarm => (classify known alarm).1 := by
  rw [inOrder, ← List.filterMap_eq_map']
  apply List.filterMap_congr
  intro alarm hmem
  have hfound := find?_of_mem (reported_reconcile hnodup received).distinct (classify_mem hmem)
  rw [classify_fst_id] at hfound
  exact hfound

theorem classify_ne_inactive (known : AlarmRegistry) (alarm : Alarm) :
    (classify known alarm).2 ≠ .inactive := by
  unfold classify
  split
  · exact nofun
  · exact nofun

/-! ### What the pass enters -/

theorem contributionsFor_eq (table : AlarmTable) (item? : AlarmAction → Option String)
    (entry : Alarm × AlarmState) :
    contributionsFor table item? entry =
      if entry.2 = .inactive then [] else table.entriesOf item? entry.1 := by
  unfold contributionsFor present?
  split
  · exact List.filterMap_eq_nil_iff.mpr fun _ _ => rfl
  · rw [entriesOf, ← map_fst_matching]
    simp only [actionsFor, List.filterMap_flatMap, List.filterMap_map, List.flatMap_map,
      Function.comp_def]

/-- Going through the alarms of a pass enters what the alarms known afterwards contribute. -/
theorem foldl_enter_passEntries (table : AlarmTable) (item? : AlarmAction → Option String)
    (hnodup : known.ids.Nodup) (received : List Alarm) :
    ((passEntries known received).flatMap (contributionsFor table item?)).foldl enter [] =
      table.contributed item? ⟨staying known received ++ appearing known received⟩ received := by
  have hpresent : ∀ alarm, contributionsFor table item? (classify known alarm) =
      table.entriesOf item? (classify known alarm).1 := by
    intro alarm
    rw [contributionsFor_eq, if_neg (classify_ne_inactive known alarm)]
  have hgone : ((leaving known received).map fun alarm => (alarm, AlarmState.inactive)).flatMap
      (contributionsFor table item?) = [] := by
    rw [List.flatMap_eq_nil_iff]
    intro entry hmem
    obtain ⟨alarm, -, rfl⟩ := List.mem_map.mp hmem
    rw [contributionsFor_eq, if_pos rfl]
  rw [foldl_enter, contributed, inOrder_reconcile hnodup, passEntries, List.flatMap_append, hgone,
    List.append_nil]
  simp only [List.flatMap_map, hpresent]

/-! ### The channels -/

def alarmEntry (texts : List String) : Option String :=
  if texts = [] then none else some (" ".intercalate (texts.map fun text => "[" ++ text ++ "]"))

def statusEntry (texts flags : List String) : Option String :=
  if texts = [] ∧ flags = [] then none
  else some (" ".intercalate (flags ++ if texts = [] then [] else ["ALARM"]))

theorem get?_writeChannel_self {store after : Store} {key : String} {value : Option String}
    (h : writeChannel store key value = .ok after) : after.get? key = value := by
  cases value with
  | none =>
    obtain rfl := Except.ok.inj h
    rw [Store.get?_erase, if_pos rfl]
  | some value => exact Store.get?_set_self h

theorem get?_writeChannel_other {store after : Store} {key name : String} {value : Option String}
    (h : writeChannel store key value = .ok after) (hne : name ≠ key) :
    after.get? name = store.get? name := by
  cases value with
  | none =>
    obtain rfl := Except.ok.inj h
    rw [Store.get?_erase, if_neg (Ne.symm hne)]
  | some value => exact Store.get?_set_other h hne

theorem writeChannel_ok (store : Store) {key : String} (value : Option String) (hkey : key ≠ "") :
    ∃ after, writeChannel store key value = .ok after := by
  cases value with
  | none => exact ⟨_, rfl⟩
  | some value => exact store.set_of_ne value hkey

/-- The channels are the only names that writing the channels touches. -/
theorem get?_commit_other {ks : KeySpace} {store : Store} {texts flags : List String}
    {name : String} (halarm : name ≠ ks.alarmKey) (hstatus : name ≠ ks.statusKey) :
    (commit ks store texts flags).1.get? name = store.get? name := by
  unfold commit
  split
  · rfl
  · next first hfirst =>
    have hkept := get?_writeChannel_other hfirst halarm
    simp only
    split
    · exact hkept
    · next second hsecond => exact (get?_writeChannel_other hsecond hstatus).trans hkept

/-- Both channels are written one after the other. -/
theorem commit_eq {ks : KeySpace} (halarm : ks.alarmKey ≠ "") (hstatus : ks.statusKey ≠ "")
    (store : Store) (texts flags : List String) :
    ∃ first after, writeChannel store ks.alarmKey (alarmEntry texts) = .ok first ∧
      writeChannel first ks.statusKey (statusEntry texts flags) = .ok after ∧
      commit ks store texts flags = (after, .ok ()) := by
  obtain ⟨first, hfirst⟩ := writeChannel_ok store (alarmEntry texts) halarm
  obtain ⟨after, hafter⟩ := writeChannel_ok first (statusEntry texts flags) hstatus
  have htexts : (if texts.isEmpty then none else some (alarmChannel texts)) = alarmEntry texts := by
    simp only [alarmEntry, alarmChannel, List.isEmpty_iff]
  have hflags : (if (statusFlags texts flags).isEmpty then none
      else some (" ".intercalate (statusFlags texts flags))) = statusEntry texts flags := by
    cases texts with
    | nil => cases flags <;> simp [statusEntry, statusFlags]
    | cons text texts => simp [statusEntry, statusFlags]
  refine ⟨first, after, hfirst, hafter, ?_⟩
  simp only [commit, htexts, hfirst, hflags, hafter]

/-- Both channels are written, whatever stood there. Where they have one name, the status stands
there. -/
theorem get?_commit {ks : KeySpace} (halarm : ks.alarmKey ≠ "") (hstatus : ks.statusKey ≠ "")
    (store : Store) (texts flags : List String) (name : String) :
    (commit ks store texts flags).1.get? name =
      if name = ks.statusKey then statusEntry texts flags
      else if name = ks.alarmKey then alarmEntry texts
      else store.get? name := by
  obtain ⟨first, after, hfirst, hafter, hcommit⟩ := commit_eq halarm hstatus store texts flags
  rw [hcommit]
  split
  · next hname => rw [hname, get?_writeChannel_self hafter]
  · next hother =>
    rw [get?_writeChannel_other hafter hother]
    split
    · next hname => rw [hname, get?_writeChannel_self hfirst]
    · next hother => exact get?_writeChannel_other hfirst hother

variable {ks : KeySpace}

theorem texts_passed (table : AlarmTable) (ks : KeySpace) (hnodup : known.ids.Nodup)
    (devices : DeviceRegistry) (store : Store) (received : List Alarm) :
    (table.passed ks known devices store received).texts =
      table.contributed AlarmAction.text?
        ⟨staying known received ++ appearing known received⟩ received := by
  rw [passed, texts_foldl_applyRules]
  exact foldl_enter_passEntries table _ hnodup received

theorem flags_passed (table : AlarmTable) (ks : KeySpace) (hnodup : known.ids.Nodup)
    (devices : DeviceRegistry) (store : Store) (received : List Alarm) :
    (table.passed ks known devices store received).flags =
      table.contributed AlarmAction.flag?
        ⟨staying known received ++ appearing known received⟩ received := by
  rw [passed, flags_foldl_applyRules]
  exact foldl_enter_passEntries table _ hnodup received

/-- After a pass the channels hold what the alarms known by then contribute, and every other name
holds what the alarms wrote on the way. -/
theorem get?_reconcile (table : AlarmTable) (halarm : ks.alarmKey ≠ "")
    (hstatus : ks.statusKey ≠ "") (hnodup : known.ids.Nodup) (devices : DeviceRegistry)
    (store : Store) (received : List Alarm) (name : String) :
    let pass := table.reconcile ks known devices store received
    let texts := table.contributed AlarmAction.text? pass.known received
    let flags := table.contributed AlarmAction.flag? pass.known received
    pass.store.get? name =
      if name = ks.statusKey then statusEntry texts flags
      else if name = ks.alarmKey then alarmEntry texts
      else (table.passed ks known devices store received).store.get? name := by
  simp only [store_reconcile, known_reconcile, get?_commit halarm hstatus,
    texts_passed table ks hnodup, flags_passed table ks hnodup]

theorem channels_reconcile (table : AlarmTable) (halarm : ks.alarmKey ≠ "")
    (hstatus : ks.statusKey ≠ "") (hne : ks.alarmKey ≠ ks.statusKey) (hnodup : known.ids.Nodup)
    (devices : DeviceRegistry) (store : Store) (received : List Alarm) :
    let pass := table.reconcile ks known devices store received
    let texts := table.contributed AlarmAction.text? pass.known received
    let flags := table.contributed AlarmAction.flag? pass.known received
    pass.store.get? ks.alarmKey = alarmEntry texts ∧
      pass.store.get? ks.statusKey = statusEntry texts flags := by
  have hget := get?_reconcile table halarm hstatus hnodup devices store received
  refine ⟨?_, ?_⟩
  · rw [hget, if_neg hne, if_pos rfl]
  · rw [hget, if_pos rfl]

end AlarmPass

end RackTelemetry
