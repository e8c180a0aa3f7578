import RackTelemetry.Alarm.Pass
import RackTelemetry.Proofs.Store.Batch

/-!
What the rules do for the alarms of a pass, as lists: the writes that are offered to the published
state, and what is entered into the channels. A pass offers and enters them one
after another, in the order of the alarms, of their rules, and of the actions of each rule.
-/

namespace RackTelemetry

def AlarmAction.text? : AlarmAction → Option String
  | .alarm text => some text
  | _ => none

def AlarmAction.flag? : AlarmAction → Option String
  | .status flag => some flag
  | _ => none

namespace AlarmPass

/-- The actions of the rules that match an alarm, each with the texts of its rule. -/
def actionsFor (table : AlarmTable) (alarm : Alarm) : List (AlarmAction × List String) :=
  (table.matching alarm.code alarm.topic).flatMap fun (rule, params) =>
    rule.actions.map fun action => (action, params)

def write? (ks : KeySpace) (devices : DeviceRegistry) (state : AlarmState) :
    AlarmAction × List String → Option (String × String)
  | (.object template raised cleared, params) =>
    if state = .active then none
    else
      match objectTarget devices template params with
      | .ok (some target) =>
        match template.render ks target with
        | .ok name => some (name, if state = .new then raised else cleared)
        | .error _ => none
      | _ => none
  | _ => none

/-- What an action contributes to a channel while its alarm is there. -/
def present? (item? : AlarmAction → Option String) (state : AlarmState)
    (action : AlarmAction × List String) : Option String :=
  if state = .inactive then none else item? action.1

section

variable (table : AlarmTable)

def writesFor (ks : KeySpace) (devices : DeviceRegistry) (entry : Alarm × AlarmState) :
    List (String × String) :=
  (actionsFor table entry.1).filterMap (write? ks devices entry.2)

/-- What an alarm in a state contributes to a channel. -/
def contributionsFor (item? : AlarmAction → Option String) (entry : Alarm × AlarmState) :
    List String :=
  (actionsFor table entry.1).filterMap (present? item? entry.2)

end

/-! ### One action -/

variable {ks : KeySpace} {devices : DeviceRegistry} {alarm : Alarm} {state : AlarmState}
  (params : List String) (p : Progress) (action : AlarmAction)

theorem store_act :
    (act ks devices alarm state params p action).store =
      (write? ks devices state (action, params)).elim p.store p.store.offer := by
  cases action with
  | alarm text =>
    simp only [act, write?]
    split <;> rfl
  | status flag =>
    simp only [act, write?]
    split <;> rfl
  | object template raised cleared =>
    simp only [act, write?]
    split
    · rfl
    · cases htarget : objectTarget devices template params with
      | error e =>
        simp only [publishObject, htarget, bind, Except.bind]
        split <;> rfl
      | ok target =>
        cases target with
        | none =>
          simp only [publishObject, htarget, bind, Except.bind, pure, Except.pure, Option.elim_none]
        | some target =>
          cases hname : template.render ks target with
          | error e =>
            simp only [publishObject, htarget, hname, bind, Except.bind]
            split <;> rfl
          | ok name =>
            simp only [publishObject, htarget, hname, bind, Except.bind, Option.elim_some,
              Store.offer]
            cases p.store.set name (if state = .new then raised else cleared) with
            | ok store => rfl
            | error e =>
              simp only
              split <;> rfl

/-- A channel is changed only by the actions that contribute to it, and only while the alarm is
there. -/
theorem channel_act (channel : Progress → List String) (item? : AlarmAction → Option String)
    (hobject : ∀ template raised cleared, item? (.object template raised cleared) = none)
    (hkeep : ∀ (p : Progress) (store : Store) (summary : AlarmSummary) (events : List Event),
      channel { p with store, summary, events } = channel p)
    (halarm : ∀ (p : Progress) (text : String),
      channel { p with texts := enter p.texts text } =
        (item? (.alarm text)).elim (channel p) (enter (channel p)))
    (hstatus : ∀ (p : Progress) (flag : String),
      channel { p with flags := enter p.flags flag } =
        (item? (.status flag)).elim (channel p) (enter (channel p))) :
    channel (act ks devices alarm state params p action) =
      (present? item? state (action, params)).elim (channel p) (enter (channel p)) := by
  cases action with
  | alarm text =>
    simp only [act, present?]
    split
    · rfl
    · exact halarm p text
  | status flag =>
    simp only [act, present?]
    split
    · rfl
    · exact hstatus p flag
  | object template raised cleared =>
    simp only [act, present?, hobject, ite_self, Option.elim_none]
    split
    · rfl
    · split
      · exact hkeep p _ p.summary _
      · split
        · exact hkeep p p.store _ _
        · exact hkeep p p.store _ _

theorem texts_act :
    (act ks devices alarm state params p action).texts =
      (present? AlarmAction.text? state (action, params)).elim p.texts (enter p.texts) :=
  channel_act params p action Progress.texts AlarmAction.text? (fun _ _ _ => rfl)
    (fun _ _ _ _ => rfl) (fun _ _ => rfl) (fun _ _ => rfl)

theorem flags_act :
    (act ks devices alarm state params p action).flags =
      (present? AlarmAction.flag? state (action, params)).elim p.flags (enter p.flags) :=
  channel_act params p action Progress.flags AlarmAction.flag? (fun _ _ _ => rfl)
    (fun _ _ _ _ => rfl) (fun _ _ => rfl) (fun _ _ => rfl)

/-! ### All alarms of a pass -/

/-- A part of the progress that every action changes by one item, if at all, and that no count of
alarms is part of, is changed by a pass by the items of all its actions. -/
theorem foldl_applyRules (table : AlarmTable) {β γ : Type} (part : Progress → γ)
    (item? : AlarmState → AlarmAction × List String → Option β) (take : γ → β → γ)
    (hact : ∀ alarm state params p action,
      part (act ks devices alarm state params p action) =
        (item? state (action, params)).elim (part p) (take (part p)))
    (hpart : ∀ (p : Progress) (state : AlarmState) (unmatched : Nat) (events : List Event),
      part { p with summary := { tally p.summary state with unmatched }, events } = part p)
    (p : Progress) (entries : List (Alarm × AlarmState)) :
    part (entries.foldl (applyRules table ks devices) p) =
      (entries.flatMap fun entry => (actionsFor table entry.1).filterMap (item? entry.2)).foldl take
        (part p) := by
  rw [List.foldl_flatMap]
  refine (List.foldl_hom part fun p entry => ?_).symm
  obtain ⟨alarm, state⟩ := entry
  have hactions : ∀ p : Progress, part ((actionsFor table alarm).foldl
      (fun p action => act ks devices alarm state action.2 p action.1) p) =
      ((actionsFor table alarm).filterMap (item? state)).foldl take (part p) := by
    intro p
    rw [List.foldl_filterMap]
    refine (List.foldl_hom part fun p action => ?_).symm
    obtain ⟨action, params⟩ := action
    rw [hact alarm state params p action]
    cases item? state (action, params) with
    | none => rfl
    | some item => rfl
  simp only [applyRules]
  split
  · next hempty =>
    have hnone : actionsFor table alarm = [] := by
      rw [actionsFor, List.isEmpty_iff.mp hempty, List.flatMap_nil]
    rw [hnone]
    exact (hpart p state _ _).symm
  · have hfold := hactions { p with summary := tally p.summary state }
    rw [actionsFor, List.foldl_flatMap] at hfold
    simp only [List.foldl_map] at hfold
    rw [← hpart p state (tally p.summary state).unmatched p.events]
    exact hfold.symm

variable (table : AlarmTable) (entries : List (Alarm × AlarmState))

theorem store_foldl_applyRules :
    (entries.foldl (applyRules table ks devices) p).store =
      (entries.flatMap (writesFor table ks devices)).foldl Store.offer p.store :=
  foldl_applyRules table Progress.store (write? ks devices) Store.offer
    (fun _ _ => store_act) (fun _ _ _ _ => rfl) p entries

theorem texts_foldl_applyRules :
    (entries.foldl (applyRules table ks devices) p).texts =
      (entries.flatMap (contributionsFor table AlarmAction.text?)).foldl enter p.texts :=
  foldl_applyRules table Progress.texts (present? AlarmAction.text?) enter (fun _ _ => texts_act)
    (fun _ _ _ _ => rfl) p entries

theorem flags_foldl_applyRules :
    (entries.foldl (applyRules table ks devices) p).flags =
      (entries.flatMap (contributionsFor table AlarmAction.flag?)).foldl enter p.flags :=
  foldl_applyRules table Progress.flags (present? AlarmAction.flag?) enter (fun _ _ => flags_act)
    (fun _ _ _ _ => rfl) p entries

/-- Entering entries one by one keeps the first of each. -/
theorem foldl_enter (entries : List String) : entries.foldl enter [] = entries.eraseDups := by
  induction entries using List.reverseRecOn with
  | nil => rfl
  | append_singleton entries entry ih =>
    rw [List.foldl_append, ih, List.eraseDups_append]
    simp only [List.foldl_cons, List.foldl_nil, enter, List.mem_eraseDups]
    by_cases h : entry ∈ entries
    · simp [h, List.removeAll]
    · simp [h, List.removeAll, List.eraseDups_cons]

end AlarmPass

end RackTelemetry
