import RackTelemetry.Proofs.Alarm.Account

/-!
What becomes of the object actions of a pass. Each is attempted once: it writes a value under a
name, leaves a disabled sensor alone, or fails, and which of these it is depends on the devices and
not on what is published. A failure is counted and changes nothing else, so the account of a pass
can be read off its alarms and its attempts.
-/

namespace RackTelemetry

open AlarmPass AlarmTable

namespace AlarmPass

/-- What an action comes to: a write, nothing that has to be written, or a failure. -/
def attempt (ks : KeySpace) (devices : DeviceRegistry) (state : AlarmState) :
    AlarmAction × List String → Except Error (Option (String × String))
  | (.object template raised cleared, params) =>
    if state = .active then .ok none
    else do
      match ← objectTarget devices template params with
      | none => return none
      | some target =>
        let name ← template.render ks target
        if name.isEmpty then .error (.store (.invalidKey name))
        else return some (name, if state = .new then raised else cleared)
  | _ => .ok none

def failure? : Except Error (Option (String × String)) → Option Error
  | .ok _ => none
  | .error e => some e

def written? : Except Error (Option (String × String)) → Option (String × String)
  | .ok write => write
  | .error _ => none

/-- A write that is made has a name. -/
theorem name_ne_empty_of_attempt {ks : KeySpace} {devices : DeviceRegistry} {state : AlarmState}
    {action : AlarmAction × List String} {write : String × String}
    (h : attempt ks devices state action = .ok (some write)) : write.1 ≠ "" := by
  unfold attempt at h
  split at h
  · split at h
    · cases h
    · obtain ⟨target, -, h⟩ := exists_of_bind_eq_ok h
      cases target with
      | none => cases h
      | some target =>
        obtain ⟨name, -, h⟩ := exists_of_bind_eq_ok h
        split at h
        · cases h
        · next hname =>
          obtain rfl := Option.some.inj (Except.ok.inj h)
          simpa using hname
  · cases h

/-- The account after a failure: tolerated where it names something that is not known. -/
def withFailure (summary : AlarmSummary) (e : Error) : AlarmSummary :=
  if e.isNotFound then { summary with tolerated := summary.tolerated + 1 }
  else { summary with failed := summary.failed + 1 }

/-- The failures that are tolerated, and the others. -/
def failureCounts (summary : AlarmSummary) : Nat × Nat := (summary.tolerated, summary.failed)

def countFailure (counts : Nat × Nat) (e : Error) : Nat × Nat :=
  if e.isNotFound then (counts.1 + 1, counts.2) else (counts.1, counts.2 + 1)

theorem failureCounts_withFailure (summary : AlarmSummary) (e : Error) :
    failureCounts (withFailure summary e) = countFailure (failureCounts summary) e := by
  unfold withFailure countFailure
  split <;> rfl

theorem foldl_countFailure (failures : List Error) (counts : Nat × Nat) :
    failures.foldl countFailure counts =
      (counts.1 + failures.countP Error.isNotFound,
        counts.2 + failures.countP fun e => !e.isNotFound) := by
  induction failures generalizing counts with
  | nil => rfl
  | cons e rest ih =>
    rw [List.foldl_cons, ih, countFailure, List.countP_cons, List.countP_cons]
    cases e.isNotFound <;> simp <;> omega

/-! ### One action -/

variable {ks : KeySpace} {devices : DeviceRegistry} {alarm : Alarm} {state : AlarmState}

/-- Publishing a value for an object is the attempt, followed by the write. -/
theorem publishObject_eq (ks : KeySpace) (devices : DeviceRegistry) (hstate : state ≠ .active)
    (template : KeyTemplate) (raised cleared : String) (params : List String) (store : Store) :
    publishObject ks devices template (if state = .new then raised else cleared) params store =
      match attempt ks devices state (.object template raised cleared, params) with
      | .error e => .error e
      | .ok none => .ok (store, leftAloneEvents params)
      | .ok (some write) => .ok (store.offer write, [.objectPublished write.1 write.2]) := by
  rw [publishObject, attempt, if_neg hstate]
  cases objectTarget devices template params with
  | error e => rfl
  | ok target =>
    cases target with
    | none => rfl
    | some target =>
      simp only [bind, Except.bind]
      cases template.render ks target with
      | error e => rfl
      | ok name =>
        by_cases hname : name = ""
        · simp [Store.set, hname]
        · obtain ⟨after, hset⟩ := store.set_of_ne (if state = .new then raised else cleared) hname
          simp [hset, Store.offer, hname, pure, Except.pure]

variable (params : List String) (p : Progress) (action : AlarmAction)

/-- An action writes what it attempts, and is counted where it fails. -/
theorem act_attempt :
    (act ks devices alarm state params p action).store =
        (written? (attempt ks devices state (action, params))).elim p.store p.store.offer ∧
      (act ks devices alarm state params p action).summary =
        (failure? (attempt ks devices state (action, params))).elim p.summary
          (withFailure p.summary) := by
  cases action with
  | alarm text =>
    simp only [act]
    split <;> exact ⟨rfl, rfl⟩
  | status flag =>
    simp only [act]
    split <;> exact ⟨rfl, rfl⟩
  | object template raised cleared =>
    by_cases hstate : state = .active
    · subst hstate
      exact ⟨rfl, rfl⟩
    · simp only [act, if_neg hstate, publishObject_eq ks devices hstate]
      cases attempt ks devices state (.object template raised cleared, params) with
      | error e =>
        simp only [failure?, Option.elim_some, withFailure]
        split <;> exact ⟨rfl, rfl⟩
      | ok write => cases write <;> exact ⟨rfl, rfl⟩

theorem unmatched_act :
    (act ks devices alarm state params p action).summary.unmatched = p.summary.unmatched := by
  rw [(act_attempt params p action).2]
  cases failure? (attempt ks devices state (action, params)) with
  | none => rfl
  | some e =>
    rw [Option.elim_some, withFailure]
    split <;> rfl

/-! ### All alarms of a pass -/

/-- What the actions come to that the rules have for an alarm. -/
def attemptsFor (table : AlarmTable) (ks : KeySpace) (devices : DeviceRegistry)
    (entry : Alarm × AlarmState) : List (Except Error (Option (String × String))) :=
  (actionsFor table entry.1).map (attempt ks devices entry.2)

variable (table : AlarmTable) (entries : List (Alarm × AlarmState))

theorem written_foldl_applyRules :
    (entries.foldl (applyRules table ks devices) p).store =
      ((entries.flatMap (attemptsFor table ks devices)).filterMap written?).foldl Store.offer
        p.store := by
  rw [foldl_applyRules table Progress.store (fun state action =>
    written? (attempt ks devices state action)) Store.offer
    (fun _ _ params p action => (act_attempt params p action).1) (fun _ _ _ _ => rfl)]
  simp only [List.filterMap_flatMap, attemptsFor, List.filterMap_map, Function.comp_def]

theorem failures_foldl_applyRules :
    failureCounts (entries.foldl (applyRules table ks devices) p).summary =
      ((entries.flatMap (attemptsFor table ks devices)).filterMap failure?).foldl countFailure
        (failureCounts p.summary) := by
  rw [foldl_applyRules table (fun p => failureCounts p.summary) (fun state action =>
    failure? (attempt ks devices state action)) countFailure]
  · simp only [List.filterMap_flatMap, attemptsFor, List.filterMap_map, Function.comp_def]
  · intro alarm state params p action
    rw [(act_attempt params p action).2]
    cases failure? (attempt ks devices state (action, params)) with
    | none => rfl
    | some e => exact failureCounts_withFailure p.summary e
  · intro p state unmatched events
    cases state <;> rfl

theorem unmatched_applyRules (entry : Alarm × AlarmState) :
    (applyRules table ks devices p entry).summary.unmatched =
      p.summary.unmatched +
        if (table.matching entry.1.code entry.1.topic).isEmpty then 1 else 0 := by
  obtain ⟨alarm, state⟩ := entry
  have htally : (tally p.summary state).unmatched = p.summary.unmatched := by cases state <;> rfl
  simp only [applyRules]
  split
  · rw [← htally]
  · rw [Nat.add_zero]
    refine foldl_rules_keep (P := fun q => q.summary.unmatched = _) ?_ _ htally
    intro params q action hq
    rw [unmatched_act, hq]

theorem unmatched_foldl_applyRules :
    (entries.foldl (applyRules table ks devices) p).summary.unmatched =
      p.summary.unmatched +
        entries.countP fun entry => (table.matching entry.1.code entry.1.topic).isEmpty := by
  induction entries generalizing p with
  | nil => rfl
  | cons entry rest ih =>
    rw [List.foldl_cons, ih, unmatched_applyRules, List.countP_cons, Nat.add_assoc,
      Nat.add_comm (ite ..)]

end AlarmPass

/-! ### The account -/

namespace AlarmTable

variable (table : AlarmTable) (ks : KeySpace) (known : AlarmRegistry) (devices : DeviceRegistry)
  (received : List Alarm)

/-- What the actions of a pass come to, in order. -/
def attempts : List (Except Error (Option (String × String))) :=
  (passEntries known received).flatMap (attemptsFor table ks devices)

def failures : List Error := (table.attempts ks known devices received).filterMap failure?

/-- The writes of a pass that are made. -/
def written : List (String × String) :=
  (table.attempts ks known devices received).filterMap written?

theorem written_passed (store : Store) :
    (table.passed ks known devices store received).store =
      (table.written ks known devices received).foldl Store.offer store :=
  written_foldl_applyRules _ table _

theorem name_ne_empty_of_mem_written {write : String × String}
    (h : write ∈ table.written ks known devices received) : write.1 ≠ "" := by
  obtain ⟨result, hmem, hresult⟩ := List.mem_filterMap.mp h
  obtain ⟨entry, -, hmem⟩ := List.mem_flatMap.mp hmem
  obtain ⟨action, -, rfl⟩ := List.mem_map.mp hmem
  unfold written? at hresult
  split at hresult
  · next hattempt => exact name_ne_empty_of_attempt (hresult ▸ hattempt)
  · cases hresult

/-- Before the channels are written, a name holds what was written last under it, if anything was,
and otherwise what it held before. -/
theorem get?_passed (store : Store) (name : String) :
    (table.passed ks known devices store received).store.get? name =
      (((table.written ks known devices received).filter fun write => write.1 = name).getLast?.map
        Prod.snd).or (store.get? name) := by
  rw [written_passed]
  rcases eq_or_ne name "" with rfl | hne
  · have hnone : (table.written ks known devices received).filter (fun write => write.1 = "") =
        [] := by
      rw [List.filter_eq_nil_iff]
      intro write hmem
      simpa using name_ne_empty_of_mem_written table ks known devices received hmem
    rw [hnone, Store.get?_foldl_offer_of_notMem]
    · rfl
    · exact fun write hmem => name_ne_empty_of_mem_written table ks known devices received hmem
  · exact Store.get?_foldl_offer store _ hne

/-- The account of a pass: the alarms by their states, those that no rule matches, the failures
that are tolerated, and the blank ids together with the other failures. -/
theorem summary_passed (store : Store) :
    (table.passed ks known devices store received).summary =
      { new := (passEntries known received).countP fun entry => entry.2 = .new
        active := (passEntries known received).countP fun entry => entry.2 = .active
        inactive := (passEntries known received).countP fun entry => entry.2 = .inactive
        unmatched := (passEntries known received).countP fun entry =>
          (table.matching entry.1.code entry.1.topic).isEmpty
        tolerated := (table.failures ks known devices received).countP Error.isNotFound
        failed := (blankAlarms received).length +
          (table.failures ks known devices received).countP fun e => !e.isNotFound } := by
  have hcount := count_passed table ks known devices store received
  have hfailures : failureCounts (table.passed ks known devices store received).summary = _ :=
    failures_foldl_applyRules _ table (passEntries known received)
  rw [foldl_countFailure] at hfailures
  obtain ⟨htolerated, hfailed⟩ := Prod.mk.inj hfailures
  have hunmatched : (table.passed ks known devices store received).summary.unmatched = _ :=
    unmatched_foldl_applyRules _ table (passEntries known received)
  rw [AlarmSummary.mk.injEq]
  exact ⟨hcount .new, hcount .active, hcount .inactive, hunmatched.trans (Nat.zero_add _),
    htolerated.trans (Nat.zero_add _), hfailed⟩

end AlarmTable

end RackTelemetry
