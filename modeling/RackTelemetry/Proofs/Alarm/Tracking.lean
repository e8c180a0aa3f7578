import Mathlib.Data.List.Nodup
import RackTelemetry.Alarm.Pass

/-!
Which alarms are known after a pass: those known before that are still reported, then those reported
for the first time, in the order of the report. No alarm of a report is refused, since the alarms
that count have distinct ids that are not blank.
-/

namespace RackTelemetry

namespace AlarmPass

/-! ### The alarms that count -/

/-- The alarms that count after some ids were seen. -/
def takenAfter (seen : List String) (received : List Alarm) : List Alarm :=
  (intake seen received).filterMap fun (alarm, verdict) =>
    if verdict = .taken then some alarm else none

theorem takenAfter_cons (seen : List String) (alarm : Alarm) (rest : List Alarm) :
    takenAfter seen (alarm :: rest) =
      if Text.isBlankText alarm.id = true ∨ alarm.id ∈ seen then takenAfter seen rest
      else alarm :: takenAfter (alarm.id :: seen) rest := by
  simp only [takenAfter, intake]
  by_cases hblank : Text.isBlankText alarm.id = true
  · simp [hblank]
  · by_cases hseen : alarm.id ∈ seen
    · simp [hblank, hseen]
    · simp [hblank, hseen]

theorem mem_takenAfter {seen : List String} {received : List Alarm} {alarm : Alarm}
    (h : alarm ∈ takenAfter seen received) :
    alarm ∈ received ∧ alarm.id ∉ seen ∧ Text.isBlankText alarm.id = false := by
  induction received generalizing seen with
  | nil => cases h
  | cons first rest ih =>
    rw [takenAfter_cons] at h
    split at h
    · obtain ⟨hmem, hids⟩ := ih h
      exact ⟨List.mem_cons_of_mem _ hmem, hids⟩
    · next hfirst =>
      rw [not_or] at hfirst
      rcases List.mem_cons.mp h with rfl | hrest
      · exact ⟨List.mem_cons_self, hfirst.2, by simpa using hfirst.1⟩
      · obtain ⟨hmem, hids, hblank⟩ := ih hrest
        refine ⟨List.mem_cons_of_mem _ hmem, ?_, hblank⟩
        exact fun hseen => hids (List.mem_cons_of_mem _ hseen)

theorem nodup_ids_takenAfter (seen : List String) (received : List Alarm) :
    ((takenAfter seen received).map Alarm.id).Nodup := by
  induction received generalizing seen with
  | nil => exact .nil
  | cons first rest ih =>
    rw [takenAfter_cons]
    split
    · exact ih seen
    · rw [List.map_cons, List.nodup_cons]
      refine ⟨?_, ih _⟩
      intro hmem
      obtain ⟨other, hother, hid⟩ := List.mem_map.mp hmem
      exact (mem_takenAfter hother).2.1 (hid ▸ List.mem_cons_self)

theorem nodup_ids_distinctAlarms (received : List Alarm) :
    ((distinctAlarms received).map Alarm.id).Nodup := nodup_ids_takenAfter [] received

theorem id_ne_empty_of_mem_distinctAlarms {received : List Alarm} {alarm : Alarm}
    (h : alarm ∈ distinctAlarms received) : alarm.id ≠ "" := by
  have hblank := (mem_takenAfter h).2.2
  intro hempty
  rw [hempty] at hblank
  exact absurd hblank (by decide)

/-! ### What is known of them -/

variable {known : AlarmRegistry} {alarm : Alarm}

theorem find?_eq_none_iff {id : String} : known.find? id = none ↔ id ∉ known.ids := by
  simp [AlarmRegistry.find?, AlarmRegistry.ids, List.find?_eq_none]

theorem contains_eq_isSome (known : AlarmRegistry) (id : String) :
    known.contains id = (known.find? id).isSome := by
  rw [Bool.eq_iff_iff, known.contains_iff, Option.isSome_iff_ne_none, ne_eq, find?_eq_none_iff,
    not_not]

theorem id_of_find? {id : String} (h : known.find? id = some alarm) :
    alarm ∈ known.alarms ∧ alarm.id = id :=
  ⟨List.mem_of_find?_eq_some h, by simpa using List.find?_some h⟩

theorem find?_of_mem (hnodup : known.ids.Nodup) (h : alarm ∈ known.alarms) :
    known.find? alarm.id = some alarm := by
  cases hfound : known.find? alarm.id with
  | none => exact absurd (List.mem_map_of_mem h) (find?_eq_none_iff.mp hfound)
  | some other =>
    obtain ⟨hmem, hid⟩ := id_of_find? hfound
    rw [List.inj_on_of_nodup_map hnodup hmem h hid]

theorem classify_fst_id (known : AlarmRegistry) (alarm : Alarm) :
    (classify known alarm).1.id = alarm.id := by
  unfold classify
  split
  · next existing hfound => exact (id_of_find? hfound).2
  · rfl

theorem classify_of_unknown (h : known.contains alarm.id = false) :
    classify known alarm = (alarm, .new) := by
  rw [contains_eq_isSome, Option.isSome_eq_false_iff, Option.isNone_iff_eq_none] at h
  rw [classify, h]

theorem classify_eq_new {entry : Alarm × AlarmState} (h : classify known alarm = entry)
    (hnew : entry.2 = .new) : entry.1 = alarm ∧ alarm.id ∉ known.ids := by
  subst h
  unfold classify at hnew ⊢
  split at hnew
  · cases hnew
  · next hfound => exact ⟨rfl, find?_eq_none_iff.mp hfound⟩

/-! ### Tracking -/

/-- New alarms with distinct ids that are not known are all tracked. -/
theorem track_eq (known : AlarmRegistry) (entries : List (Alarm × AlarmState))
    (hnew : ∀ entry ∈ entries, entry.2 = .new → entry.1.id ≠ "" ∧ entry.1.id ∉ known.ids)
    (hnodup : (((entries.filter fun entry => entry.2 = .new).map Prod.fst).map Alarm.id).Nodup) :
    track known entries =
      (⟨known.alarms ++ (entries.filter fun entry => entry.2 = .new).map Prod.fst⟩, entries,
        []) := by
  induction entries generalizing known with
  | nil => simp [track]
  | cons entry rest ih =>
    obtain ⟨alarm, state⟩ := entry
    have hrest : ∀ entry ∈ rest, entry.2 = .new → entry.1.id ≠ "" ∧ entry.1.id ∉ known.ids :=
      fun entry hmem => hnew entry (List.mem_cons_of_mem _ hmem)
    by_cases hstate : state = .new
    · subst hstate
      obtain ⟨hid, hknown⟩ := hnew (alarm, .new) List.mem_cons_self rfl
      simp only [decide_true, List.filter_cons_of_pos, List.map_cons, List.nodup_cons] at hnodup
      have hadd : known.add alarm = .ok ⟨known.alarms ++ [alarm]⟩ := by
        have hcontains : known.contains alarm.id = false := by
          rw [Bool.eq_false_iff]
          exact fun h => hknown ((known.contains_iff alarm.id).mp h)
        simp [AlarmRegistry.add, hid, hcontains]
      have htrack := ih ⟨known.alarms ++ [alarm]⟩ (by
        intro entry hmem hentry
        obtain ⟨hne, hids⟩ := hrest entry hmem hentry
        refine ⟨hne, ?_⟩
        simp only [AlarmRegistry.ids, List.map_append, List.map_cons, List.map_nil, List.mem_append,
          List.mem_singleton, not_or]
        refine ⟨hids, fun heq => hnodup.1 ?_⟩
        rw [← heq]
        exact List.mem_map_of_mem (List.mem_map_of_mem
          (List.mem_filter.mpr ⟨hmem, decide_eq_true hentry⟩))) hnodup.2
      simp only [track, if_true, hadd, htrack, decide_true, List.filter_cons_of_pos, List.map_cons,
        List.append_assoc, List.singleton_append]
    · have hfilter : ((alarm, state) :: rest).filter (fun entry => entry.2 = .new) =
          rest.filter fun entry => entry.2 = .new := by
        rw [List.filter_cons_of_neg]
        simpa using hstate
      rw [hfilter] at hnodup ⊢
      simp only [track, if_neg hstate, ih known hrest hnodup]

end AlarmPass

open AlarmPass

namespace AlarmTable

variable (table : AlarmTable) (ks : KeySpace) (known : AlarmRegistry) (devices : DeviceRegistry)
  (store : Store) (received : List Alarm)

/-- The known alarms that are reported again. -/
def staying (known : AlarmRegistry) (received : List Alarm) : List Alarm :=
  known.alarms.filter fun alarm => (distinctAlarms received).any fun other => other.id = alarm.id

/-- The known alarms that are not reported any more. -/
def leaving (known : AlarmRegistry) (received : List Alarm) : List Alarm :=
  known.alarms.filter fun alarm => !(distinctAlarms received).any fun other => other.id = alarm.id

def appearing (known : AlarmRegistry) (received : List Alarm) : List Alarm :=
  (distinctAlarms received).filter fun alarm => !known.contains alarm.id

theorem mem_staying_or_leaving {known : AlarmRegistry} (received : List Alarm) {alarm : Alarm}
    (h : alarm ∈ known.alarms) :
    alarm ∈ staying known received ∨ alarm ∈ leaving known received := by
  cases hreported : (distinctAlarms received).any fun other => other.id = alarm.id with
  | true => exact .inl (List.mem_filter.mpr ⟨h, hreported⟩)
  | false => exact .inr (List.mem_filter.mpr ⟨h, by rw [hreported]; rfl⟩)

/-- The alarms that a pass goes through, in order, with their states. -/
def passEntries (known : AlarmRegistry) (received : List Alarm) : List (Alarm × AlarmState) :=
  (distinctAlarms received).map (classify known) ++
    (leaving known received).map fun alarm => (alarm, AlarmState.inactive)

theorem filter_classify (known : AlarmRegistry) (alarms : List Alarm) :
    ((alarms.map (classify known)).filter fun entry => entry.2 = .new).map Prod.fst =
      alarms.filter fun alarm => !known.contains alarm.id := by
  induction alarms with
  | nil => rfl
  | cons alarm rest ih =>
    rw [List.map_cons]
    cases hfound : known.find? alarm.id with
    | none =>
      have hcontains : known.contains alarm.id = false := by
        rw [contains_eq_isSome, hfound, Option.isSome_none]
      rw [classify_of_unknown hcontains, List.filter_cons_of_pos (by rfl), List.map_cons, ih,
        List.filter_cons_of_pos (by rw [hcontains]; rfl)]
    | some existing =>
      have hcontains : known.contains alarm.id = true := by
        rw [contains_eq_isSome, hfound, Option.isSome_some]
      have hclassify : classify known alarm = (existing, .active) := by rw [classify, hfound]
      rw [hclassify, List.filter_cons_of_neg (by simp), ih,
        List.filter_cons_of_neg (by rw [hcontains]; simp)]

/-- No reported alarm is refused. -/
theorem track_classify (known : AlarmRegistry) (received : List Alarm) :
    track ⟨staying known received⟩ ((distinctAlarms received).map (classify known)) =
      (⟨staying known received ++ appearing known received⟩,
        (distinctAlarms received).map (classify known), []) := by
  rw [track_eq, filter_classify]
  · rfl
  · intro entry hmem hnew
    obtain ⟨alarm, halarm, hclassify⟩ := List.mem_map.mp hmem
    obtain ⟨heq, hunknown⟩ := classify_eq_new hclassify hnew
    rw [heq]
    refine ⟨id_ne_empty_of_mem_distinctAlarms halarm, fun hids => hunknown ?_⟩
    obtain ⟨other, hother, hid⟩ := List.mem_map.mp hids
    exact hid ▸ List.mem_map_of_mem (List.mem_filter.mp hother).1
  · rw [filter_classify]
    exact (nodup_ids_distinctAlarms received).sublist (List.filter_sublist.map Alarm.id)

/-- What a pass has done before it writes the channels. -/
def passed : Progress :=
  (passEntries known received).foldl (applyRules table ks devices)
    { store
      summary := { failed := (blankAlarms received).length }
      events := (intake [] received).filterMap intakeEvent? }

theorem reconcile_eq :
    table.reconcile ks known devices store received =
      let p := table.passed ks known devices store received
      let known : AlarmRegistry := ⟨staying known received ++ appearing known received⟩
      match commit ks p.store p.texts p.flags with
      | (store, .ok ()) => ⟨known, store, p.events ++ [summaryEvent p.summary], .ok p.summary⟩
      | (store, .error e) => ⟨known, store, p.events, .error (.store e)⟩ := by
  have htrack := track_classify known received
  rw [staying] at htrack
  simp only [AlarmTable.reconcile, AlarmRegistry.drain, htrack, List.map_nil, List.append_nil,
    List.length_nil, Nat.add_zero]
  rfl

theorem known_reconcile :
    (table.reconcile ks known devices store received).known =
      ⟨staying known received ++ appearing known received⟩ := by
  rw [reconcile_eq]
  simp only
  split <;> rfl

theorem store_reconcile :
    (table.reconcile ks known devices store received).store =
      (commit ks (table.passed ks known devices store received).store
        (table.passed ks known devices store received).texts
        (table.passed ks known devices store received).flags).1 := by
  rw [reconcile_eq]
  simp only
  split
  · next hcommit => rw [hcommit]
  · next hcommit => rw [hcommit]

end AlarmTable

end RackTelemetry
