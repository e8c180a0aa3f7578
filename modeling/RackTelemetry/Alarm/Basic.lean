import RackTelemetry.Error

/-!
Alarms, and the alarms that are known to be active. Known alarms have distinct ids and stand in the
order in which they were first seen.
-/

namespace RackTelemetry

/-- An alarm as it is reported. -/
structure Alarm where
  id : String
  level : Int
  code : String
  topic : String
  deriving Repr, DecidableEq, Inhabited

/-- The alarms known to be active. -/
structure AlarmRegistry where
  alarms : List Alarm := []
  deriving Repr, DecidableEq, Inhabited

namespace AlarmRegistry

def find? (r : AlarmRegistry) (id : String) : Option Alarm :=
  r.alarms.find? fun alarm => alarm.id = id

def contains (r : AlarmRegistry) (id : String) : Bool := r.alarms.any fun alarm => alarm.id = id

def ids (r : AlarmRegistry) : List String := r.alarms.map Alarm.id

def add (r : AlarmRegistry) (alarm : Alarm) : Except Error AlarmRegistry :=
  if alarm.id.isEmpty then .error .emptyKey
  else if r.contains alarm.id then .error (.duplicateKey alarm.id)
  else .ok { alarms := r.alarms ++ [alarm] }

/-- Forgets the alarm with this id, and returns it. -/
def remove (r : AlarmRegistry) (id : String) : AlarmRegistry × Option Alarm :=
  ({ alarms := r.alarms.eraseP fun alarm => alarm.id = id }, r.find? id)

def removeAll (r : AlarmRegistry) : AlarmRegistry × List Alarm := ({}, r.alarms)

/-- Forgets the alarms that `keep` does not hold for, and returns them in order. -/
def drain (r : AlarmRegistry) (keep : Alarm → Bool) : AlarmRegistry × List Alarm :=
  ({ alarms := r.alarms.filter keep }, r.alarms.filter fun alarm => !keep alarm)

theorem contains_iff (r : AlarmRegistry) (id : String) : r.contains id = true ↔ id ∈ r.ids := by
  simp [contains, ids]

theorem ids_of_add {r after : AlarmRegistry} {alarm : Alarm} (h : r.add alarm = .ok after) :
    after.ids = r.ids ++ [alarm.id] := by
  unfold add at h
  split at h
  · simp at h
  · split at h
    · simp at h
    · simp only [Except.ok.injEq] at h
      subst h
      simp [ids]

@[simp] theorem ids_remove (r : AlarmRegistry) (id : String) :
    (r.remove id).1.ids = r.ids.erase id := by
  obtain ⟨alarms⟩ := r
  simp only [remove, ids]
  induction alarms with
  | nil => rfl
  | cons alarm rest ih =>
    by_cases h : alarm.id = id
    · simp [h]
    · simp [h, ih]

end AlarmRegistry

end RackTelemetry
