import Mathlib.Data.Finset.Card
import Mathlib.Data.Finset.Dedup
import RackTelemetry.Proofs.Alarm.Account
import RackTelemetry.Proofs.Alarm.Channels

/-!
A pass conserves alarms. With the ids that a list reports as one set and the ids that were known as
the other, the alarms of both sets stay as they are known, those of the first alone are added as
they are first reported, and those of the second alone are dropped; the account says how many.
-/

namespace RackTelemetry

open AlarmPass AlarmTable

/-! ### Registries of alarms -/

namespace AlarmRegistry

/-- The registries that operations lead to from the empty one. -/
inductive Built : AlarmRegistry → Prop where
  | empty : Built {}
  | added {r after : AlarmRegistry} {alarm : Alarm} :
    Built r → r.add alarm = .ok after → Built after
  | removed {r : AlarmRegistry} (id : String) : Built r → Built (r.remove id).1
  | cleared {r : AlarmRegistry} : Built r → Built r.removeAll.1
  | drained {r : AlarmRegistry} (keep : Alarm → Bool) : Built r → Built (r.drain keep).1

theorem notMem_ids_of_add {r after : AlarmRegistry} {alarm : Alarm}
    (h : r.add alarm = .ok after) : alarm.id ∉ r.ids := by
  unfold add at h
  split at h
  · cases h
  · split at h
    · cases h
    · next hcontains => rwa [contains_iff] at hcontains

theorem Built.nodup_ids {r : AlarmRegistry} (h : r.Built) : r.ids.Nodup := by
  induction h with
  | empty => exact .nil
  | added _ hadd ih =>
    rw [ids_of_add hadd, ← List.concat_eq_append]
    exact ih.concat (notMem_ids_of_add hadd)
  | removed id _ ih =>
    rw [ids_remove]
    exact ih.erase id
  | cleared => exact .nil
  | drained keep _ ih => exact ih.sublist (List.filter_sublist.map Alarm.id)

end AlarmRegistry

/-! ### The ids that a list reports -/

namespace AlarmPass

/-- The ids of the alarms of a list, without those that are blank. -/
def reportedIds (received : List Alarm) : List String :=
  (received.map Alarm.id).filter fun id => Text.trim id ≠ ""

theorem reportedIds_cons (first : Alarm) (rest : List Alarm) :
    reportedIds (first :: rest) =
      if Text.isBlankText first.id then reportedIds rest else first.id :: reportedIds rest := by
  rw [reportedIds, List.map_cons, List.filter_cons]
  by_cases h : Text.isBlankText first.id
  · simp [h, Text.isBlankText_iff.mp h, reportedIds]
  · simp [h, mt Text.isBlankText_iff.mpr h, reportedIds]

theorem ids_takenAfter (seen : List String) (received : List Alarm) :
    (takenAfter seen received).map Alarm.id =
      ((reportedIds received).filter fun id => id ∉ seen).eraseDups := by
  induction received generalizing seen with
  | nil => rfl
  | cons first rest ih =>
    rw [takenAfter_cons, reportedIds_cons]
    by_cases hblank : Text.isBlankText first.id
    · rw [if_pos (.inl hblank), if_pos hblank, ih]
    · rw [if_neg hblank]
      by_cases hseen : first.id ∈ seen
      · rw [if_pos (.inr hseen), ih, List.filter_cons_of_neg (by simpa using hseen)]
      · have hfilter : (reportedIds rest).filter (fun id => id ∉ first.id :: seen) =
            ((reportedIds rest).filter fun id => id ∉ seen).filter fun id => !id == first.id := by
          rw [List.filter_filter]
          refine List.filter_congr fun id _ => ?_
          rw [Bool.eq_iff_iff]
          simp
        rw [if_neg (not_or.mpr ⟨hblank, hseen⟩), List.map_cons, ih,
          List.filter_cons_of_pos (by simpa using hseen), List.eraseDups_cons, hfilter]

theorem ids_distinctAlarms (received : List Alarm) :
    (distinctAlarms received).map Alarm.id = (reportedIds received).eraseDups := by
  refine (ids_takenAfter [] received).trans (congrArg List.eraseDups ?_)
  exact List.filter_eq_self.mpr fun id _ => by simp

/-- Of the alarms with one id the first one counts. -/
theorem find?_of_mem_takenAfter {seen : List String} {received : List Alarm} {alarm : Alarm}
    (h : alarm ∈ takenAfter seen received) :
    (received.find? fun other => other.id = alarm.id) = some alarm := by
  induction received generalizing seen with
  | nil => cases h
  | cons first rest ih =>
    rw [takenAfter_cons] at h
    split at h
    · next hskipped =>
      obtain ⟨-, hunseen, hnotBlank⟩ := mem_takenAfter h
      have hne : first.id ≠ alarm.id := by
        intro heq
        rw [heq, hnotBlank] at hskipped
        exact hunseen (hskipped.resolve_left Bool.false_ne_true)
      rw [List.find?_cons_of_neg (by simpa using hne)]
      exact ih h
    · rcases List.mem_cons.mp h with rfl | hrest
      · exact List.find?_cons_of_pos (by simp)
      · have hne : first.id ≠ alarm.id := by
          intro heq
          exact (mem_takenAfter hrest).2.1 (heq ▸ List.mem_cons_self)
        rw [List.find?_cons_of_neg (by simpa using hne)]
        exact ih hrest

/-- Alarms that count are found again by their ids. -/
theorem filterMap_find?_ids {received alarms : List Alarm}
    (h : ∀ alarm ∈ alarms, alarm ∈ distinctAlarms received) :
    (alarms.map Alarm.id).filterMap (fun id => received.find? fun alarm => alarm.id = id) =
      alarms := by
  rw [List.filterMap_map]
  refine (List.filterMap_congr fun alarm hmem => ?_).trans (List.filterMap_some)
  exact find?_of_mem_takenAfter (h alarm hmem)

/-! ### Staying, appearing and leaving alarms -/

variable (known : AlarmRegistry) (received : List Alarm)

theorem any_distinctAlarms (alarm : Alarm) :
    ((distinctAlarms received).any fun other => other.id = alarm.id) =
      decide (alarm.id ∈ reportedIds received) := by
  rw [Bool.eq_iff_iff, decide_eq_true_eq, ← List.mem_eraseDups, ← ids_distinctAlarms,
    List.any_eq_true, List.mem_map]
  simp only [decide_eq_true_eq]

theorem staying_eq : staying known received =
    known.alarms.filter fun alarm => alarm.id ∈ reportedIds received :=
  List.filter_congr fun alarm _ => any_distinctAlarms received alarm

theorem leaving_eq : leaving known received =
    known.alarms.filter fun alarm => alarm.id ∉ reportedIds received := by
  refine List.filter_congr fun alarm _ => ?_
  rw [any_distinctAlarms, decide_not]

theorem ids_appearing : (appearing known received).map Alarm.id =
    (reportedIds received).eraseDups.filter fun id => id ∉ known.ids := by
  have hfilter : appearing known received =
      (distinctAlarms received).filter ((fun id => decide (id ∉ known.ids)) ∘ Alarm.id) := by
    refine List.filter_congr fun alarm _ => ?_
    rw [Function.comp_apply, decide_not, Bool.not_inj_iff, Bool.eq_iff_iff, known.contains_iff,
      decide_eq_true_eq]
  rw [hfilter, ← List.filter_map, ids_distinctAlarms]

theorem appearing_eq : appearing known received =
    ((reportedIds received).eraseDups.filter fun id => id ∉ known.ids).filterMap fun id =>
      received.find? fun alarm => alarm.id = id := by
  rw [← ids_appearing, filterMap_find?_ids]
  exact fun alarm hmem => (List.mem_filter.mp hmem).1

theorem snd_classify (alarm : Alarm) :
    (classify known alarm).2 = if alarm.id ∈ known.ids then .active else .new := by
  unfold classify
  split
  · next existing hfound =>
    obtain ⟨hmem, hid⟩ := id_of_find? hfound
    rw [if_pos (hid ▸ List.mem_map_of_mem hmem)]
  · next hfound => rw [if_neg (find?_eq_none_iff.mp hfound)]

/-! ### How many there are -/

/-- Alarms with distinct ids are as many as their ids. -/
theorem card_eq_length {alarms : List Alarm} {ids : Finset String}
    (hnodup : (alarms.map Alarm.id).Nodup) (hmem : ∀ id, id ∈ ids ↔ id ∈ alarms.map Alarm.id) :
    ids.card = alarms.length := by
  have hsame : ids = (alarms.map Alarm.id).toFinset := by
    ext id
    rw [List.mem_toFinset, hmem]
  rw [hsame, List.toFinset_card_of_nodup hnodup, List.length_map]

theorem countP_distinctAlarms (P : String → Prop) [DecidablePred P] :
    (distinctAlarms received).countP (fun alarm => P alarm.id) =
      ((reportedIds received).toFinset.filter P).card := by
  rw [List.countP_eq_length_filter, card_eq_length]
  · exact (nodup_ids_distinctAlarms received).sublist (List.filter_sublist.map Alarm.id)
  · intro id
    have hfilter : ((distinctAlarms received).filter fun alarm => P alarm.id).map Alarm.id =
        ((distinctAlarms received).map Alarm.id).filter fun id => P id := by
      rw [List.filter_map]
      rfl
    rw [hfilter, ids_distinctAlarms, Finset.mem_filter, List.mem_toFinset, List.mem_filter,
      List.mem_eraseDups, decide_eq_true_eq]

/-- The alarms of a pass are counted among those that the list reports, or among those that go. -/
theorem countP_passEntries (state : AlarmState) :
    ((passEntries known received).countP fun entry => entry.2 = state) =
      ((distinctAlarms received).countP fun alarm =>
          (if alarm.id ∈ known.ids then AlarmState.active else .new) = state) +
        if state = .inactive then (leaving known received).length else 0 := by
  rw [passEntries, List.countP_append, List.countP_map, List.countP_map]
  congr 1
  · refine List.countP_congr fun alarm _ => ?_
    rw [Function.comp_apply, snd_classify]
  · cases state with
    | new => simp
    | active => simp
    | inactive => simp

theorem countP_passEntries_new :
    ((passEntries known received).countP fun entry => entry.2 = .new) =
      ((reportedIds received).toFinset \ known.ids.toFinset).card := by
  rw [countP_passEntries, if_neg nofun, Nat.add_zero, Finset.sdiff_eq_filter,
    ← countP_distinctAlarms]
  refine List.countP_congr fun alarm _ => ?_
  by_cases h : alarm.id ∈ known.ids <;> simp [h]

theorem countP_passEntries_active :
    ((passEntries known received).countP fun entry => entry.2 = .active) =
      ((reportedIds received).toFinset ∩ known.ids.toFinset).card := by
  rw [countP_passEntries, if_neg nofun, Nat.add_zero, ← Finset.filter_mem_eq_inter,
    ← countP_distinctAlarms]
  refine List.countP_congr fun alarm _ => ?_
  by_cases h : alarm.id ∈ known.ids <;> simp [h]

theorem countP_passEntries_inactive {known : AlarmRegistry} (hnodup : known.ids.Nodup) :
    ((passEntries known received).countP fun entry => entry.2 = .inactive) =
      (known.ids.toFinset \ (reportedIds received).toFinset).card := by
  have hnone : ((distinctAlarms received).countP fun alarm =>
      (if alarm.id ∈ known.ids then AlarmState.active else .new) = .inactive) = 0 := by
    rw [List.countP_eq_zero]
    intro alarm _
    split <;> simp
  rw [countP_passEntries, hnone, if_pos rfl, Nat.zero_add, leaving_eq, card_eq_length]
  · exact hnodup.sublist (List.filter_sublist.map Alarm.id)
  · intro id
    simp only [Finset.mem_sdiff, List.mem_toFinset, AlarmRegistry.ids, List.mem_map,
      List.mem_filter, decide_eq_true_eq]
    constructor
    · rintro ⟨⟨alarm, hmem, rfl⟩, hgone⟩
      exact ⟨alarm, ⟨hmem, hgone⟩, rfl⟩
    · rintro ⟨alarm, ⟨hmem, hgone⟩, rfl⟩
      exact ⟨⟨alarm, hmem, rfl⟩, hgone⟩

end AlarmPass

/-! ### Conservation -/

namespace AlarmTable

/-- After a pass the known alarms that are reported stand first, as they were; then each id that is
reported for the first time stands once, as it was first reported. The account counts the ids that
appear, stay and go, and no alarm is refused. -/
theorem reconcile_conserves_alarms (table : AlarmTable) {ks : KeySpace}
    (halarm : ks.alarmKey ≠ "") (hstatus : ks.statusKey ≠ "") {known : AlarmRegistry}
    (hknown : known.Built) (devices : DeviceRegistry) (store : Store) (received : List Alarm) :
    let pass := table.reconcile ks known devices store received
    let reported := reportedIds received
    let appeared := reported.eraseDups.filter fun id => id ∉ known.ids
    pass.known.alarms =
        (known.alarms.filter fun alarm => alarm.id ∈ reported) ++
          appeared.filterMap (fun id => received.find? fun alarm => alarm.id = id) ∧
      pass.known.ids = (known.ids.filter fun id => id ∈ reported) ++ appeared ∧
      pass.known.ids.Nodup ∧
      (∃ summary, pass.result = .ok summary ∧
        summary.new = (reported.toFinset \ known.ids.toFinset).card ∧
        summary.active = (reported.toFinset ∩ known.ids.toFinset).card ∧
        summary.inactive = (known.ids.toFinset \ reported.toFinset).card) ∧
      ∀ id e, Event.alarmNotTracked id e ∉ pass.events := by
  intro pass reported appeared
  have hpass : pass.known = ⟨staying known received ++ appearing known received⟩ :=
    known_reconcile table ks known devices store received
  obtain ⟨hevents, hresult⟩ := reconcile_ok table halarm hstatus known devices store received
  have hcount := count_passed table ks known devices store received
  refine ⟨?_, ?_, ?_, ⟨_, hresult, ?_, ?_, ?_⟩, ?_⟩
  · rw [hpass, staying_eq, appearing_eq]
  · have hstaying : (staying known received).map Alarm.id =
        known.ids.filter fun id => id ∈ reported := by
      rw [staying_eq, AlarmRegistry.ids, List.filter_map]
      rfl
    rw [hpass, AlarmRegistry.ids, List.map_append, hstaying, ids_appearing]
  · rw [hpass]
    exact (reported_reconcile hknown.nodup_ids received).distinct
  · exact (hcount .new).trans (countP_passEntries_new known received)
  · exact (hcount .active).trans (countP_passEntries_active known received)
  · exact (hcount .inactive).trans (countP_passEntries_inactive received hknown.nodup_ids)
  · have hpassed := noRefusal_passed table ks known devices store received
    show NoRefusal pass.events
    rw [hevents]
    refine hpassed.append (noRefusal_singleton ?_)
    unfold summaryEvent
    split
    · intro _ _ h
      cases h
    · intro _ _ h
      cases h

def sensorWarning (id : String) : Alarm :=
  { id, level := 1, code := "1202"
    topic := "mbdetnrs/1.0/sensors/devices/a/channels/temperatures/T" }

def inputOverload (id : String) : Alarm :=
  { id, level := 2, code := "2000", topic := "mbdetnrs/1.0/powerDistributions/1/inputs/1" }

def twoKnown : AlarmRegistry := { alarms := [sensorWarning "a", inputOverload "b"] }

theorem built_twoKnown : twoKnown.Built := by
  have hfirst : AlarmRegistry.add {} (sensorWarning "a") = .ok { alarms := [sensorWarning "a"] } :=
    rfl
  have hsecond : AlarmRegistry.add { alarms := [sensorWarning "a"] } (inputOverload "b") =
      .ok twoKnown := rfl
  exact .added (.added .empty hfirst) hsecond

/-- A report with blank ids, a known id under another code, and two alarms of one new id. -/
def mixedReport : List Alarm :=
  [inputOverload "", inputOverload "c", sensorWarning "b", sensorWarning "\u00a0 ",
    sensorWarning "c"]

theorem reconcile_conserves_mixed_report :
    let pass := card.reconcile {} twoKnown {} {} mixedReport
    let reported := reportedIds mixedReport
    let appeared := reported.eraseDups.filter fun id => id ∉ twoKnown.ids
    twoKnown.Built ∧ ({} : KeySpace).alarmKey ≠ "" ∧ ({} : KeySpace).statusKey ≠ "" ∧
    pass.known.alarms =
        (twoKnown.alarms.filter fun alarm => alarm.id ∈ reported) ++
          appeared.filterMap (fun id => mixedReport.find? fun alarm => alarm.id = id) ∧
      pass.known.ids = (twoKnown.ids.filter fun id => id ∈ reported) ++ appeared ∧
      pass.known.ids.Nodup ∧
      (∃ summary, pass.result = .ok summary ∧
        summary.new = (reported.toFinset \ twoKnown.ids.toFinset).card ∧
        summary.active = (reported.toFinset ∩ twoKnown.ids.toFinset).card ∧
        summary.inactive = (twoKnown.ids.toFinset \ reported.toFinset).card) ∧
      ∀ id e, Event.alarmNotTracked id e ∉ pass.events :=
  ⟨built_twoKnown, by decide, by decide,
    reconcile_conserves_alarms card (by decide) (by decide) built_twoKnown {} {} mixedReport⟩

end AlarmTable

end RackTelemetry
