import RackTelemetry.Alarm.Basic
import RackTelemetry.Number.Integer

/-!
The alarm list that is being received. A list opens with its length; the fields of its alarms then
come in any order, and may be corrected. It is complete when every alarm has an id, a code and a
topic.
-/

namespace RackTelemetry

/-- The fields of an alarm that arrive on their own. -/
inductive AlarmField where
  | id
  | level
  | code
  | topic
  deriving Repr, DecidableEq, Inhabited

structure PartialAlarm where
  id : Option String := none
  level : Option Int := none
  code : Option String := none
  topic : Option String := none
  deriving Repr, DecidableEq, Inhabited

namespace PartialAlarm

def isComplete (p : PartialAlarm) : Bool := p.id.isSome && p.code.isSome && p.topic.isSome

/-- The alarm, once enough has arrived. A missing level is zero. -/
def alarm? (p : PartialAlarm) : Option Alarm := do
  let id ← p.id
  let code ← p.code
  let topic ← p.topic
  return { id, level := p.level.getD 0, code, topic }

def withField (p : PartialAlarm) (field : AlarmField) (value : String) :
    Except Error PartialAlarm :=
  match field with
  | .id => .ok { p with id := some value }
  | .code => .ok { p with code := some value }
  | .topic => .ok { p with topic := some value }
  | .level =>
    match Number.readInt value with
    | .ok level => .ok { p with level := some level }
    | .error fault => .error (.invalidValue value fault.message)

end PartialAlarm

/-- The list that is being received, if there is one, and how many alarms it may have. -/
structure AlarmDraft where
  slots : Option (List PartialAlarm) := none
  maxAlarms : Nat := 256
  deriving Repr, DecidableEq, Inhabited

namespace AlarmDraft

/-- Opens a list. A list that is too long is refused, and closes the one that was open. -/
def begin (d : AlarmDraft) (count : Nat) : AlarmDraft × Except Error Unit :=
  if d.maxAlarms < count then
    ({ d with slots := none }, .error (.capacityExceeded count d.maxAlarms))
  else ({ d with slots := some (List.replicate count {}) }, .ok ())

def setField (d : AlarmDraft) (index : Nat) (field : AlarmField) (value : String) :
    Except Error AlarmDraft := do
  match d.slots with
  | none => .error (.outOfBounds index 0)
  | some slots =>
    match slots[index]? with
    | none => .error (.outOfBounds index slots.length)
    | some slot =>
      let slot ← slot.withField field value
      return { d with slots := some (slots.set index slot) }

def isPending (d : AlarmDraft) : Bool := d.slots.isSome

def isComplete (d : AlarmDraft) : Bool :=
  match d.slots with
  | some slots => slots.all PartialAlarm.isComplete
  | none => false

/-- Takes the open list if it has arrived as a whole. -/
def takeComplete (d : AlarmDraft) : AlarmDraft × Option (List Alarm) :=
  match d.slots with
  | some slots =>
    if d.isComplete then ({ d with slots := none }, some (slots.filterMap PartialAlarm.alarm?))
    else (d, none)
  | none => (d, none)

end AlarmDraft

end RackTelemetry
