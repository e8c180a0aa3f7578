import RackTelemetry.Proofs.Alarm.Channels
import RackTelemetry.Proofs.Inventory.Slots

/-!
The account of a pass: every alarm is counted once, in the state in which the pass goes through it,
and no action of a rule counts it again. No alarm is refused on the way.
-/

namespace RackTelemetry

/-- How many alarms were in a state. -/
def AlarmSummary.count (s : AlarmSummary) : AlarmState → Nat
  | .new => s.new
  | .active => s.active
  | .inactive => s.inactive

namespace AlarmPass

theorem count_tally (summary : AlarmSummary) (state other : AlarmState) :
    (tally summary state).count other = summary.count other + if state = other then 1 else 0 := by
  cases state <;> cases other <;> rfl

variable {ks : KeySpace} {devices : DeviceRegistry} {alarm : Alarm} {state : AlarmState}

/-- What every action keeps is kept by the rules that match an alarm. -/
theorem foldl_rules_keep {P : Progress → Prop}
    (hact : ∀ params p action, P p → P (act ks devices alarm state params p action))
    (rules : List (AlarmRule × List String)) {p : Progress} (h : P p) :
    P (rules.foldl
      (fun p (rule, params) => rule.actions.foldl (act ks devices alarm state params) p) p) := by
  induction rules generalizing p with
  | nil => exact h
  | cons rule rest ih =>
    have hrule : P (rule.1.actions.foldl (act ks devices alarm state rule.2) p) :=
      List.foldlRecOn rule.1.actions _ h fun p hp action _ => hact rule.2 p action hp
    exact ih hrule

theorem count_act (params : List String) (p : Progress) (action : AlarmAction)
    (other : AlarmState) :
    (act ks devices alarm state params p action).summary.count other = p.summary.count other := by
  cases action with
  | alarm text =>
    simp only [act]
    split <;> rfl
  | status flag =>
    simp only [act]
    split <;> rfl
  | object template raised cleared =>
    simp only [act]
    split
    · rfl
    · split
      · rfl
      · split
        · cases other <;> rfl
        · cases other <;> rfl

theorem count_applyRules (table : AlarmTable) (p : Progress) (entry : Alarm × AlarmState)
    (other : AlarmState) :
    (applyRules table ks devices p entry).summary.count other =
      p.summary.count other + if entry.2 = other then 1 else 0 := by
  obtain ⟨alarm, state⟩ := entry
  rw [← count_tally]
  simp only [applyRules]
  split
  · cases other <;> rfl
  · refine foldl_rules_keep (P := fun q => q.summary.count other = _) ?_ _ rfl
    intro params q action hq
    rw [count_act, hq]

theorem count_foldl_applyRules (table : AlarmTable) (entries : List (Alarm × AlarmState))
    (p : Progress) (other : AlarmState) :
    (entries.foldl (applyRules table ks devices) p).summary.count other =
      p.summary.count other + entries.countP fun entry => entry.2 = other := by
  induction entries generalizing p with
  | nil => rfl
  | cons entry rest ih =>
    rw [List.foldl_cons, ih, count_applyRules, List.countP_cons, Nat.add_assoc,
      Nat.add_comm (ite ..)]
    simp only [decide_eq_true_eq]

/-- Active alarms leave the objects alone, so no object of theirs can be missing. -/
theorem tolerated_act_active (params : List String) (p : Progress) (action : AlarmAction) :
    (act ks devices alarm .active params p action).summary.tolerated = p.summary.tolerated := by
  cases action <;> rfl

/-! ### Refusals -/

/-- None of the events says that an alarm was refused. -/
def NoRefusal (events : List Event) : Prop := ∀ id e, Event.alarmNotTracked id e ∉ events

theorem NoRefusal.append {first second : List Event} (hfirst : NoRefusal first)
    (hsecond : NoRefusal second) : NoRefusal (first ++ second) := by
  intro id e hmem
  rcases List.mem_append.mp hmem with h | h
  · exact hfirst id e h
  · exact hsecond id e h

theorem noRefusal_singleton {event : Event} (h : ∀ id e, event ≠ .alarmNotTracked id e) :
    NoRefusal [event] := by
  intro id e hmem
  exact h id e (List.mem_singleton.mp hmem).symm

theorem noRefusal_publishObject {template : KeyTemplate} {value : String} {params : List String}
    {store after : Store} {events : List Event}
    (h : publishObject ks devices template value params store = .ok (after, events)) :
    NoRefusal events := by
  obtain ⟨target, -, h⟩ := exists_of_bind_eq_ok h
  cases target with
  | none =>
    obtain ⟨-, rfl⟩ := Prod.mk.inj (Except.ok.inj h)
    unfold leftAloneEvents
    split
    · split
      · exact noRefusal_singleton nofun
      · exact nofun
    · exact nofun
  | some target =>
    obtain ⟨name, -, h⟩ := exists_of_bind_eq_ok h
    split at h
    · obtain ⟨-, rfl⟩ := Prod.mk.inj (Except.ok.inj h)
      exact noRefusal_singleton nofun
    · cases h

theorem noRefusal_act (params : List String) {p : Progress} (action : AlarmAction)
    (h : NoRefusal p.events) : NoRefusal (act ks devices alarm state params p action).events := by
  cases action with
  | alarm text =>
    simp only [act]
    split <;> exact h
  | status flag =>
    simp only [act]
    split <;> exact h
  | object template raised cleared =>
    simp only [act]
    split
    · exact h
    · split
      · next hpublish => exact h.append (noRefusal_publishObject hpublish)
      · split
        · exact h.append (noRefusal_singleton fun _ _ h => by cases h)
        · exact h.append (noRefusal_singleton fun _ _ h => by cases h)

theorem noRefusal_applyRules (table : AlarmTable) {p : Progress} (entry : Alarm × AlarmState)
    (h : NoRefusal p.events) : NoRefusal (applyRules table ks devices p entry).events := by
  obtain ⟨alarm, state⟩ := entry
  simp only [applyRules]
  split
  · exact h.append (noRefusal_singleton fun _ _ h => by cases h)
  · exact foldl_rules_keep (P := fun q => NoRefusal q.events)
      (fun params _ action hq => noRefusal_act params action hq) _ h

theorem noRefusal_passed (table : AlarmTable) (ks : KeySpace) (known : AlarmRegistry)
    (devices : DeviceRegistry) (store : Store) (received : List Alarm) :
    NoRefusal (table.passed ks known devices store received).events := by
  refine List.foldlRecOn (motive := fun p : Progress => NoRefusal p.events) _ _ ?_
    fun p hp entry _ => noRefusal_applyRules table entry hp
  intro id e hmem
  obtain ⟨⟨alarm, verdict⟩, -, hevent⟩ := List.mem_filterMap.mp hmem
  cases verdict <;> cases hevent

/-! ### The outcome of a pass -/

/-- A pass that can write its channels ends with the account of what it went through. -/
theorem reconcile_ok {ks : KeySpace} (table : AlarmTable) (halarm : ks.alarmKey ≠ "")
    (hstatus : ks.statusKey ≠ "") (known : AlarmRegistry) (devices : DeviceRegistry)
    (store : Store) (received : List Alarm) :
    let p := table.passed ks known devices store received
    (table.reconcile ks known devices store received).events =
        p.events ++ [summaryEvent p.summary] ∧
      (table.reconcile ks known devices store received).result = .ok p.summary := by
  intro p
  obtain ⟨-, after, -, -, hcommit⟩ := commit_eq halarm hstatus p.store p.texts p.flags
  rw [AlarmTable.reconcile_eq]
  simp only
  rw [hcommit]
  exact ⟨rfl, rfl⟩

theorem count_passed (table : AlarmTable) (ks : KeySpace) (known : AlarmRegistry)
    (devices : DeviceRegistry) (store : Store) (received : List Alarm) (state : AlarmState) :
    (table.passed ks known devices store received).summary.count state =
      (AlarmTable.passEntries known received).countP fun entry => entry.2 = state := by
  rw [AlarmTable.passed, count_foldl_applyRules]
  cases state <;> exact Nat.zero_add _

end AlarmPass

end RackTelemetry
