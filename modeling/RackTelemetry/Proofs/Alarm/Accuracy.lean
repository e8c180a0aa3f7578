import RackTelemetry.Proofs.Alarm.Conservation
import RackTelemetry.Proofs.Alarm.Contract

/-!
The account of a pass with the rules of the card, counted on the list that was received, the alarms
that are tracked and the devices: nothing but blank ids fails, the alarms without a rule are those
whose tracked code and topic no rule matches, and what is tolerated is that the object of an alarm
that appears or goes is not there.
-/

namespace RackTelemetry

open AlarmPass AlarmTable

namespace AlarmPass

/-- The action sets an object that is not there. -/
def isMissing (devices : DeviceRegistry) : AlarmAction × List String → Bool
  | (.object template _ _, params) => !devices.resolves template params
  | _ => false

end AlarmPass

/-- An object that the rules for an alarm set is not there. -/
def AlarmTable.missesObject (table : AlarmTable) (devices : DeviceRegistry) (alarm : Alarm) :
    Bool :=
  (actionsFor table alarm).any (isMissing devices)

namespace AlarmPass

variable {ks : KeySpace} {devices : DeviceRegistry} {alarm : Alarm} {state : AlarmState}
  {action : AlarmAction × List String}

/-! ### One alarm -/

theorem countP_isObject_actionsFor (alarm : Alarm) :
    (actionsFor card alarm).countP (fun action => action.1.isObject) ≤ 1 := by
  rw [actionsFor]
  rcases Nat.le_one_iff_eq_zero_or_eq_one.mp (matching_card alarm.code alarm.topic) with
    hnone | hone
  · rw [List.length_eq_zero_iff.mp hnone]
    exact Nat.zero_le 1
  · obtain ⟨⟨rule, params⟩, hmatching⟩ := List.length_eq_one_iff.mp hone
    have hrule : rule ∈ card := (rule_of_mem_matching (hmatching ▸ List.mem_singleton_self _)).1
    rw [hmatching, List.flatMap_singleton, List.countP_map]
    exact countP_isObject hrule

theorem isNotFound_of_failure {e : Error} (hmem : action ∈ actionsFor card alarm)
    (h : failure? (attempt ks devices state action) = some e) : e.isNotFound = true := by
  obtain ⟨action, params⟩ := action
  cases action with
  | alarm text => cases h
  | status flag => cases h
  | object template raised cleared =>
    obtain ⟨rule, hrule, haction⟩ := mem_actionsFor.mp hmem
    obtain ⟨hcard, -, hparams⟩ := rule_of_mem_matching hrule
    have htakes := takes_of_captures? hcard haction hparams
    cases hattempt : attempt ks devices state (.object template raised cleared, params) with
    | ok write =>
      rw [hattempt] at h
      cases h
    | error found =>
      rw [hattempt] at h
      obtain rfl := Option.some.inj h
      exact isNotFound_of_attempt htakes hattempt

theorem isSome_failure? (hnodup : devices.keys.Nodup) (hmem : action ∈ actionsFor card alarm) :
    (failure? (attempt ks devices state action)).isSome =
      (state ≠ .active && isMissing devices action) := by
  obtain ⟨action, params⟩ := action
  cases action with
  | alarm text => exact (Bool.and_false _).symm
  | status flag => exact (Bool.and_false _).symm
  | object template raised cleared =>
    obtain ⟨rule, hrule, haction⟩ := mem_actionsFor.mp hmem
    obtain ⟨hcard, -, hparams⟩ := rule_of_mem_matching hrule
    exact isSome_failure?_attempt hnodup (takes_of_captures? hcard haction hparams) raised cleared

theorem countP_eq_of_le_one {α : Type} {p : α → Bool} {xs : List α} (h : xs.countP p ≤ 1) :
    xs.countP p = if xs.any p then 1 else 0 := by
  split
  · next hany =>
    obtain ⟨x, hmem, hx⟩ := List.any_eq_true.mp hany
    have hpositive : 0 < xs.countP p := List.countP_pos_iff.mpr ⟨x, hmem, hx⟩
    omega
  · next hnone =>
    rw [List.countP_eq_zero]
    intro x hmem hx
    exact hnone (List.any_eq_true.mpr ⟨x, hmem, hx⟩)

/-- The one failure of an alarm that appears or goes is that its object is not there. -/
theorem length_failures_attemptsFor (hnodup : devices.keys.Nodup) (entry : Alarm × AlarmState) :
    ((attemptsFor card ks devices entry).filterMap failure?).length =
      if entry.2 ≠ .active && card.missesObject devices entry.1 then 1 else 0 := by
  obtain ⟨alarm, state⟩ := entry
  have hcount : ((attemptsFor card ks devices (alarm, state)).filterMap failure?).length =
      (actionsFor card alarm).countP fun action => state ≠ .active && isMissing devices action := by
    rw [List.length_filterMap_eq_countP, attemptsFor, List.countP_map]
    refine List.countP_congr fun action hmem => ?_
    rw [Function.comp_apply, isSome_failure? hnodup hmem]
  have hle : ((actionsFor card alarm).countP fun action =>
      state ≠ .active && isMissing devices action) ≤ 1 := by
    refine Nat.le_trans (List.countP_mono_left ?_) (countP_isObject_actionsFor alarm)
    rintro ⟨action, params⟩ - hmissing
    cases action with
    | object template raised cleared => rfl
    | alarm text => simp [isMissing] at hmissing
    | status flag => simp [isMissing] at hmissing
  rw [hcount, countP_eq_of_le_one hle, missesObject]
  cases state with
  | new => rfl
  | active => simp
  | inactive => rfl

/-! ### All alarms of a pass -/

theorem length_failures (hnodup : devices.keys.Nodup) (entries : List (Alarm × AlarmState)) :
    ((entries.flatMap (attemptsFor card ks devices)).filterMap failure?).length =
      entries.countP fun entry => entry.2 ≠ .active && card.missesObject devices entry.1 := by
  induction entries with
  | nil => rfl
  | cons entry rest ih =>
    rw [List.flatMap_cons, List.filterMap_append, List.length_append, ih, List.countP_cons,
      length_failures_attemptsFor hnodup, Nat.add_comm]

variable (ks devices) (known : AlarmRegistry) (received : List Alarm)

theorem isNotFound_of_mem_failures {e : Error}
    (h : e ∈ card.failures ks known devices received) : e.isNotFound = true := by
  obtain ⟨result, hmem, hfailure⟩ := List.mem_filterMap.mp h
  obtain ⟨entry, -, hmem⟩ := List.mem_flatMap.mp hmem
  obtain ⟨action, haction, rfl⟩ := List.mem_map.mp hmem
  exact isNotFound_of_failure haction hfailure

variable {known} in
/-- A pass goes through the alarms that are tracked afterwards, and those that go. -/
theorem perm_passEntries (hnodup : known.ids.Nodup) :
    ((passEntries known received).map Prod.fst).Perm
      (staying known received ++ appearing known received ++ leaving known received) := by
  have hreported := reported_reconcile hnodup received
  have hdistinct : ((distinctAlarms received).map fun alarm => (classify known alarm).1).Nodup := by
    refine List.Nodup.of_map Alarm.id ?_
    simp only [List.map_map, Function.comp_def, classify_fst_id]
    exact nodup_ids_distinctAlarms received
  have hpresent : ((distinctAlarms received).map fun alarm => (classify known alarm).1).Perm
      (staying known received ++ appearing known received) := by
    refine (List.perm_ext_iff_of_nodup hdistinct (hreported.distinct.of_map _)).mpr ?_
    intro alarm
    rw [← inOrder_reconcile hnodup]
    exact hreported.mem_inOrder
  have hgone : ((leaving known received).map fun alarm => (alarm, AlarmState.inactive)).map
      Prod.fst = leaving known received := by
    rw [List.map_map]
    exact List.map_id _
  rw [passEntries, List.map_append, hgone, List.map_map]
  exact hpresent.append_right _

variable {known} in
theorem countP_passEntries_tracked (hnodup : known.ids.Nodup) (p : Alarm → Bool) :
    ((passEntries known received).countP fun entry => p entry.1) =
      (staying known received ++ appearing known received ++ leaving known received).countP p := by
  rw [← (perm_passEntries received hnodup).countP_eq, List.countP_map]
  rfl

/-- Those that a pass does not find active are the alarms that appear, and those that go. -/
theorem countP_passEntries_changed (p : Alarm → Bool) :
    ((passEntries known received).countP fun entry => entry.2 ≠ .active && p entry.1) =
      (appearing known received ++ leaving known received).countP p := by
  rw [passEntries, List.countP_append, List.countP_append, List.countP_map, List.countP_map,
    appearing, List.countP_filter]
  congr 1
  refine List.countP_congr fun alarm _ => ?_
  rw [Function.comp_apply, contains_eq_isSome]
  unfold classify
  cases known.find? alarm.id with
  | none => simp
  | some existing => simp

theorem filter_appeared :
    (staying known received ++ appearing known received).filter (fun alarm =>
      alarm.id ∉ known.ids) = appearing known received := by
  have hstaying : (staying known received).filter (fun alarm => alarm.id ∉ known.ids) = [] := by
    rw [List.filter_eq_nil_iff]
    intro alarm hmem hunknown
    have hknown : alarm.id ∈ known.ids := List.mem_map_of_mem (List.mem_filter.mp hmem).1
    exact of_decide_eq_true hunknown hknown
  have happearing : (appearing known received).filter (fun alarm => alarm.id ∉ known.ids) =
      appearing known received := by
    rw [List.filter_eq_self]
    intro alarm hmem
    have hunknown := (List.mem_filter.mp hmem).2
    rw [Bool.not_eq_true', Bool.eq_false_iff, ne_eq, known.contains_iff] at hunknown
    exact decide_eq_true hunknown
  rw [List.filter_append, hstaying, happearing, List.nil_append]

theorem length_blankAlarms : (blankAlarms received).length =
    received.countP fun alarm => Text.trim alarm.id = "" := by
  rw [blankAlarms, ← List.countP_eq_length_filter]
  refine List.countP_congr fun alarm _ => ?_
  rw [Text.isBlankText_iff, decide_eq_true_eq]

end AlarmPass

namespace AlarmTable

/-- A pass with the rules of the card counts as failed the blank ids of the list, as unmatched the
alarms that are tracked or go and that no rule matches, and as tolerated those that appear or go and
whose object is not there. At most one rule matches an alarm, and what keeps the object of a rule
from being published is only that it is not known. -/
theorem card_accounts_exactly {ks : KeySpace} (halarm : ks.alarmKey ≠ "")
    (hstatus : ks.statusKey ≠ "") {known : AlarmRegistry} (hknown : known.ids.Nodup)
    {devices : DeviceRegistry} (hdevices : devices.keys.Nodup) (store : Store)
    (received : List Alarm) :
    let pass := card.reconcile ks known devices store received
    let appeared := pass.known.alarms.filter fun alarm => alarm.id ∉ known.ids
    let gone := known.alarms.filter fun alarm => alarm.id ∉ reportedIds received
    (∃ summary, pass.result = .ok summary ∧
      summary.failed = received.countP (fun alarm => Text.trim alarm.id = "") ∧
      summary.unmatched = (pass.known.alarms ++ gone).countP (fun alarm =>
        !card.any fun rule => rule.appliesTo alarm.code alarm.topic) ∧
      summary.tolerated = (appeared ++ gone).countP (card.missesObject devices)) ∧
    (∀ code topic, (card.matching code topic).length ≤ 1) ∧
    ∀ rule ∈ card, ∀ template raised cleared,
      AlarmAction.object template raised cleared ∈ rule.actions → ∀ topic params,
        rule.topic.captures? topic = some params → ∀ devices value store e,
          publishObject ks devices template value params store = .error e →
            e.isNotFound = true := by
  intro pass appeared gone
  have hpass : pass.known = ⟨staying known received ++ appearing known received⟩ :=
    known_reconcile card ks known devices store received
  have hgone : gone = leaving known received := (leaving_eq known received).symm
  have happeared : appeared = appearing known received := by
    show pass.known.alarms.filter _ = _
    rw [hpass, filter_appeared]
  have hfound : (card.failures ks known devices received).countP (fun e => !e.isNotFound) = 0 := by
    rw [List.countP_eq_zero]
    intro e hmem
    simp [isNotFound_of_mem_failures ks devices known received hmem]
  have hall : (card.failures ks known devices received).countP Error.isNotFound =
      (card.failures ks known devices received).length := by
    rw [List.countP_eq_length]
    exact fun e hmem => isNotFound_of_mem_failures ks devices known received hmem
  obtain ⟨-, hresult⟩ := reconcile_ok card halarm hstatus known devices store received
  rw [summary_passed] at hresult
  refine ⟨⟨_, hresult, ?_, ?_, ?_⟩, matching_card, ?_⟩
  · simp only [hfound, Nat.add_zero, length_blankAlarms]
  · simp only [isEmpty_matching]
    rw [hpass, hgone]
    exact countP_passEntries_tracked received hknown fun alarm =>
      !card.any fun rule => rule.appliesTo alarm.code alarm.topic
  · rw [happeared, hgone, ← countP_passEntries_changed]
    exact hall.trans (length_failures hdevices _)
  · intro rule hrule template raised cleared hmem topic params hparams devices value store e he
    exact isNotFound_of_publishObject (takes_of_captures? hrule hmem hparams) he

/-- A blank id, an alarm about a device that is not there, one that stays and one with a code that
no rule has. The alarm about a sensor goes. -/
def brokenReport : List Alarm :=
  [inputOverload " ",
    { id := "c", level := 1, code := "1100", topic := "mbdetnrs/1.0/sensors/devices/x" },
    inputOverload "b", { inputOverload "d" with code := "9999" }]

/-- The device of the sensor is there, the sensor is not. -/
theorem card_accounts_exactly_broken :
    let devices : DeviceRegistry := { devices := [{ key := "a" }] }
    ∃ summary, (card.reconcile {} twoKnown devices {} brokenReport).result = .ok summary ∧
      summary.failed = 1 ∧ summary.unmatched = 1 ∧ summary.tolerated = 2 := by
  intro devices
  have halarm : ({} : KeySpace).alarmKey ≠ "" := by decide
  have hknown : twoKnown.ids.Nodup := by decide
  have hdevices : devices.keys.Nodup := by decide
  obtain ⟨⟨summary, hresult, hfailed, hunmatched, htolerated⟩, -, -⟩ :=
    card_accounts_exactly halarm (by decide) hknown hdevices {} brokenReport
  exact ⟨summary, hresult, hfailed.trans (by decide +kernel), hunmatched.trans (by decide +kernel),
    htolerated.trans (by decide +kernel)⟩

end AlarmTable

end RackTelemetry
