import RackTelemetry.Alarm.Basic
import RackTelemetry.Alarm.Catalogue
import RackTelemetry.Journal
import RackTelemetry.Text.Blank

/-!
An alarm pass compares a list of active alarms with the alarms known before. Alarms that appear set
the status of their objects, alarms that are gone clear it, and those that stay leave it alone. The
two global channels are written anew on every pass. An alarm that is known keeps the code and the
topic it had when it appeared.
-/

namespace RackTelemetry

/-- How an alarm stands in a pass. -/
inductive AlarmState where
  | new
  | active
  | inactive
  deriving Repr, DecidableEq, Inhabited

/-- What becomes of an alarm of the received list. -/
inductive Intake where
  | blankId
  | repeatedId
  | taken
  deriving Repr, DecidableEq, Inhabited

namespace AlarmPass

/-- Judges the alarms of a received list: those with a blank id and those whose id stood in the list
before are left out. `seen` are the ids that stood before. -/
def intake (seen : List String) : List Alarm → List (Alarm × Intake)
  | [] => []
  | alarm :: rest =>
    if Text.isBlankText alarm.id then (alarm, .blankId) :: intake seen rest
    else if alarm.id ∈ seen then (alarm, .repeatedId) :: intake seen rest
    else (alarm, .taken) :: intake (alarm.id :: seen) rest

/-- The alarms of a received list that count, in order. -/
def distinctAlarms (received : List Alarm) : List Alarm :=
  (intake [] received).filterMap fun (alarm, verdict) =>
    if verdict = .taken then some alarm else none

def blankAlarms (received : List Alarm) : List Alarm :=
  received.filter fun alarm => Text.isBlankText alarm.id

def intakeEvent? : Alarm × Intake → Option Event
  | (alarm, .blankId) => some (.alarmWithoutId alarm.code alarm.topic)
  | (alarm, .repeatedId) => some (.alarmRepeated alarm.id)
  | (_, .taken) => none

/-- A received alarm next to what is known of it. -/
def classify (known : AlarmRegistry) (alarm : Alarm) : Alarm × AlarmState :=
  match known.find? alarm.id with
  | some existing => (existing, .active)
  | none => (alarm, .new)

/-- What a pass has done so far: the published state, the texts and flags of the channels, and the
account of it. -/
structure Progress where
  store : Store
  texts : List String := []
  flags : List String := []
  summary : AlarmSummary := {}
  events : List Event := []
  deriving Inhabited

/-- Adds an entry to a channel, unless it is there. -/
def enter (entries : List String) (entry : String) : List String :=
  if entry ∈ entries then entries else entries ++ [entry]

/-- Starts to track the alarms that appear. The alarms that go on through the pass are returned. -/
def track : AlarmRegistry → List (Alarm × AlarmState) →
    AlarmRegistry × List (Alarm × AlarmState) × List (Alarm × Error)
  | known, [] => (known, [], [])
  | known, (alarm, state) :: rest =>
    if state = .new then
      match known.add alarm with
      | .ok known =>
        let (known, kept, refused) := track known rest
        (known, (alarm, state) :: kept, refused)
      | .error e =>
        let (known, kept, refused) := track known rest
        (known, kept, (alarm, e) :: refused)
    else
      let (known, kept, refused) := track known rest
      (known, (alarm, state) :: kept, refused)

/-- The target that the texts of an alarm rule name for a template; none for a disabled sensor. -/
def objectTarget (devices : DeviceRegistry) (template : KeyTemplate) (params : List String) :
    Except Error (Option KeyTarget) :=
  match template, params with
  | .device _, [device] => do
    let position ← devices.positionOf device
    return some (.device position)
  | .device _, params => .error (.invalidParams 1 params.length)
  | .sensor _, [device, kind, sensor] => do
    let kind ← SensorKind.ofChannel kind
    let (position, index) ← devices.resolve device kind sensor
    let state ← devices.stateOf position kind index
    return if state = .disabled then none else some (.sensor position kind index)
  | .sensor _, params => .error (.invalidParams 3 params.length)
  | .fixed _, _ | .outlet _, _ => return some .global

/-- The event of leaving the status of a disabled sensor alone. -/
def leftAloneEvents (params : List String) : List Event :=
  match params with
  | [_, kind, sensor] =>
    match SensorKind.ofChannel kind with
    | .ok kind => [.statusLeftAlone kind sensor]
    | .error _ => []
  | _ => []

/-- Publishes a value for the object that an alarm is about. -/
def publishObject (ks : KeySpace) (devices : DeviceRegistry) (template : KeyTemplate)
    (value : String) (params : List String) (store : Store) :
    Except Error (Store × List Event) := do
  match ← objectTarget devices template params with
  | none => return (store, leftAloneEvents params)
  | some target =>
    let key ← template.render ks target
    match store.set key value with
    | .ok store => return (store, [.objectPublished key value])
    | .error e => .error (.store e)

/-- Carries out one action of a rule for an alarm. -/
def act (ks : KeySpace) (devices : DeviceRegistry) (alarm : Alarm) (state : AlarmState)
    (params : List String) (p : Progress) : AlarmAction → Progress
  | .object template raised cleared =>
    if state = .active then p
    else
      match publishObject ks devices template (if state = .new then raised else cleared) params
          p.store with
      | .ok (store, events) => { p with store, events := p.events ++ events }
      | .error e =>
        if e.isNotFound then
          { p with
            summary := { p.summary with tolerated := p.summary.tolerated + 1 }
            events := p.events ++ [.objectSkipped alarm.id e] }
        else
          { p with
            summary := { p.summary with failed := p.summary.failed + 1 }
            events := p.events ++ [.objectFailed alarm.id e] }
  | .alarm text => if state = .inactive then p else { p with texts := enter p.texts text }
  | .status flag => if state = .inactive then p else { p with flags := enter p.flags flag }

def tally (summary : AlarmSummary) : AlarmState → AlarmSummary
  | .new => { summary with new := summary.new + 1 }
  | .active => { summary with active := summary.active + 1 }
  | .inactive => { summary with inactive := summary.inactive + 1 }

def applyRules (table : AlarmTable) (ks : KeySpace) (devices : DeviceRegistry) (p : Progress)
    (entry : Alarm × AlarmState) : Progress :=
  let (alarm, state) := entry
  let p := { p with summary := tally p.summary state }
  let rules := table.matching alarm.code alarm.topic
  if rules.isEmpty then
    { p with
      summary := { p.summary with unmatched := p.summary.unmatched + 1 }
      events := p.events ++ [.noAlarmRule alarm.id alarm.code alarm.topic] }
  else
    rules.foldl (fun p (rule, params) => rule.actions.foldl (act ks devices alarm state params) p) p

/-- The list of active alarms as it is published. -/
def alarmChannel (texts : List String) : String :=
  " ".intercalate (texts.map fun text => "[" ++ text ++ "]")

/-- The status flags as they are published. The last flag says that there are active alarms. -/
def statusFlags (texts flags : List String) : List String :=
  if texts.isEmpty then flags else flags ++ ["ALARM"]

/-- Writes a channel, or withdraws it when it is empty. -/
def writeChannel (store : Store) (key : String) (value : Option String) : Except StoreError Store :=
  match value with
  | none => .ok (store.erase key)
  | some value => store.set key value

def commit (ks : KeySpace) (store : Store) (texts flags : List String) :
    Store × Except StoreError Unit :=
  match writeChannel store ks.alarmKey
      (if texts.isEmpty then none else some (alarmChannel texts)) with
  | .error e => (store, .error e)
  | .ok store =>
    let flags := statusFlags texts flags
    match writeChannel store ks.statusKey
        (if flags.isEmpty then none else some (" ".intercalate flags)) with
    | .error e => (store, .error e)
    | .ok store => (store, .ok ())

def summaryEvent (s : AlarmSummary) : Event :=
  if 0 < s.new ∨ 0 < s.inactive then .alarmsChanged s.new s.active s.inactive
  else .alarmsUnchanged s.active

end AlarmPass

structure AlarmPassOutcome where
  known : AlarmRegistry
  store : Store
  events : List Event
  result : Except Error AlarmSummary

open AlarmPass in
/-- Reconciles the known alarms and the published state with a received list of active alarms. -/
def AlarmTable.reconcile (table : AlarmTable) (ks : KeySpace) (known : AlarmRegistry)
    (devices : DeviceRegistry) (store : Store) (received : List Alarm) : AlarmPassOutcome :=
  let judged := intake [] received
  let distinct := distinctAlarms received
  let present := distinct.map (classify known)
  let (known, gone) := known.drain fun alarm => distinct.any fun other => other.id = alarm.id
  let (known, kept, refused) := track known present
  let begun : Progress :=
    { store
      summary := { failed := (blankAlarms received).length + refused.length }
      events := judged.filterMap intakeEvent? ++
        refused.map fun (alarm, e) => .alarmNotTracked alarm.id e }
  let p := (kept ++ gone.map fun alarm => (alarm, AlarmState.inactive)).foldl
    (applyRules table ks devices) begun
  match commit ks p.store p.texts p.flags with
  | (store, .ok ()) => ⟨known, store, p.events ++ [summaryEvent p.summary], .ok p.summary⟩
  | (store, .error e) => ⟨known, store, p.events, .error (.store e)⟩

end RackTelemetry
