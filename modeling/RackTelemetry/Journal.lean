import RackTelemetry.Inventory.Device
import RackTelemetry.Report

/-!
The journal: what is worth noting while telemetry is applied. An event is a value; its level, the
part of the service it comes from and its wording are functions of it.
-/

namespace RackTelemetry

/-- How important an event is. -/
inductive Level where
  | trace
  | debug
  | info
  | warn
  | error
  deriving Repr, DecidableEq, Inhabited

/-- The parts of the service that write to the journal. -/
inductive JournalSource where
  | service
  | logging
  | engine
  | capture
  | walk
  | table
  | handlers
  | alarmTable
  | alarmPass
  deriving Repr, DecidableEq, Inhabited

def JournalSource.path : JournalSource → String
  | .service => "nm2srv"
  | .logging => "common::logging"
  | .engine => "nm2srv::engine"
  | .capture => "nm2srv::replay"
  | .walk => "nm2srv::dispatch::walker"
  | .table => "nm2srv::dispatch::table"
  | .handlers => "nm2srv::dispatch::handlers"
  | .alarmTable => "nm2srv::alarm::rules"
  | .alarmPass => "nm2srv::alarm::reconciler"

/-- The signals that end a replay early. -/
inductive StopSignal where
  | interrupt
  | terminate
  deriving Repr, DecidableEq, Inhabited

def StopSignal.name : StopSignal → String
  | .interrupt => "SIGINT"
  | .terminate => "SIGTERM"

/-- How many lines of a capture were records, and what became of them. -/
structure ReplayStats where
  lines : Nat := 0
  invalid : Nat := 0
  accepted : Nat := 0
  rejected : Nat := 0
  reconciliations : Nat := 0
  deriving Repr, DecidableEq, Inhabited

/-- Something worth noting. An overflow is the last thing that happens in a program that checks its
arithmetic. -/
inductive Event where
  -- the service
  | loggingToFiles (service dir : String)
  | loggingToConsole (service : String)
  | settingsValid
  | tableReady (rules : Nat)
  | alarmTableReady (rules : Nat)
  | engineReady (rules alarmRules : Nat)
  | started (service : String) (subscriptions : Nat)
  | stopped (signal : StopSignal)
  | replayFinished (stats : ReplayStats)
  -- capture lines
  | notARecord (line : Nat) (detail : String)
  | reported (topic : String) (report : MessageReport)
  | messageRejected (e : Error)
  -- messages and their leaves
  | topicIgnored (topic : String)
  | truncated (limit : Nat) (path : String)
  | notConverted (path : String)
  | noRule (path : String)
  | notApplied (path value : String) (e : Error)
  | leafFailed (path value : String) (e : Error)
  | documentDone (topic : String) (paths matched failed : Nat)
  | mapped (path key value : String)
  -- devices, sensors and outlets
  | devicesCleared (devices keys : Nat)
  | deviceMoved (key : String) (source : Nat) (target : Position)
  | deviceAdded (key : String) (position : Nat)
  | deviceDropped (key : String) (position : Nat)
  | overflowed (index : Nat)
  | renumbered (keys : Nat)
  | sensorsCounted (device : String) (count : Nat) (kind : SensorKind)
  | sensorDisabled (kind : SensorKind) (key : String)
  | valueDropped (kind : SensorKind) (key : String)
  | codeIgnored (code : Int) (size : Nat)
  | outletsReset (count : Nat)
  | published (key value : String)
  | draftOpened (count : Nat)
  -- alarm passes
  | alarmWithoutId (code topic : String)
  | alarmRepeated (id : String)
  | alarmNotTracked (id : String) (e : Error)
  | objectSkipped (id : String) (e : Error)
  | objectFailed (id : String) (e : Error)
  | objectPublished (key value : String)
  | statusLeftAlone (kind : SensorKind) (key : String)
  | noAlarmRule (id code topic : String)
  | alarmsChanged (new active cleared : Nat)
  | alarmsUnchanged (active : Nat)
  deriving Inhabited

namespace Event

def level : Event → Level
  | .topicIgnored _ | .notConverted _ | .noRule _ => .trace
  | .loggingToConsole _ | .tableReady _ | .alarmTableReady _ | .reported .. | .notApplied ..
  | .documentDone .. | .mapped .. | .deviceMoved .. | .renumbered _ | .sensorsCounted ..
  | .sensorDisabled .. | .valueDropped .. | .codeIgnored .. | .outletsReset _ | .published ..
  | .draftOpened _ | .objectSkipped .. | .objectPublished .. | .statusLeftAlone .. | .noAlarmRule ..
  | .alarmsUnchanged _ => .debug
  | .loggingToFiles .. | .settingsValid | .engineReady .. | .started .. | .replayFinished _
  | .devicesCleared .. | .deviceAdded .. | .deviceDropped .. | .alarmsChanged .. => .info
  | .stopped _ | .notARecord .. | .messageRejected _ | .truncated .. | .leafFailed ..
  | .alarmWithoutId .. | .alarmRepeated _ | .alarmNotTracked .. | .objectFailed .. => .warn
  | .overflowed _ => .error

/-- The part of the service that an event comes from. -/
def source : Event → JournalSource
  | .loggingToFiles .. | .loggingToConsole _ => .logging
  | .settingsValid | .started .. | .stopped _ | .replayFinished _ => .service
  | .tableReady _ | .mapped .. => .table
  | .alarmTableReady _ => .alarmTable
  | .engineReady .. | .topicIgnored _ | .notConverted _ | .noRule _ | .notApplied ..
  | .leafFailed .. | .documentDone .. => .engine
  | .notARecord .. | .reported .. | .messageRejected _ => .capture
  | .truncated .. => .walk
  | .devicesCleared .. | .deviceMoved .. | .deviceAdded .. | .deviceDropped .. | .overflowed _
  | .renumbered _ | .sensorsCounted .. | .sensorDisabled .. | .valueDropped .. | .codeIgnored ..
  | .outletsReset _ | .published .. | .draftOpened _ => .handlers
  | .alarmWithoutId .. | .alarmRepeated _ | .alarmNotTracked .. | .objectSkipped ..
  | .objectFailed .. | .objectPublished .. | .statusLeftAlone .. | .noAlarmRule ..
  | .alarmsChanged .. | .alarmsUnchanged _ => .alarmPass

def text : Event → String
  | .loggingToFiles service dir => "Logging: " ++ service ++ " @ " ++ Text.quotePath dir
  | .loggingToConsole service => s!"Logging: {service} (console only)"
  | .settingsValid => "Configuration is valid"
  | .tableReady rules => s!"Dispatch table: {rules} rules"
  | .alarmTableReady rules => s!"Alarm table: {rules} rules"
  | .engineReady rules alarmRules =>
    s!"Engine ready: {rules} dispatch rules, {alarmRules} alarm rules"
  | .started service subscriptions => s!"{service} started, {subscriptions} subscription filters"
  | .stopped signal => signal.name ++ " received, printing current state"
  | .replayFinished stats =>
    s!"Replay finished: {stats.lines} records, {stats.accepted} accepted, " ++
      s!"{stats.rejected} rejected, {stats.invalid} invalid, {stats.reconciliations} alarm passes"
  | .notARecord line detail => s!"Line {line}: not a record: {detail}"
  | .reported topic report => topic ++ ": " ++ report.text
  | .messageRejected e => e.message
  | .topicIgnored topic => s!"Ignoring topic {topic}"
  | .truncated limit path => s!"Payload nested deeper than {limit} at {path}, truncated"
  | .notConverted path => s!"No conversion for {path}"
  | .noRule path => s!"No rule for {path}"
  | .notApplied path value e => s!"{path} = {value} not applied: " ++ e.message
  | .leafFailed path value e => s!"{path} = {value} failed: " ++ e.message
  | .documentDone topic paths matched failed =>
    s!"{topic}: {paths} paths, {matched} matched, {failed} failed"
  | .mapped path key value => s!"Mapped {path} to {key} = {value}"
  | .devicesCleared devices keys => s!"All {devices} sensor devices removed ({keys} keys)"
  | .deviceMoved key source target => s!"Device {key} moved from {source} to " ++ target.text
  | .deviceAdded key position =>
    s!"Sensor device {key} added at " ++ toString (Number.ordinal position)
  | .deviceDropped key position =>
    s!"Sensor device {key} removed from " ++ toString (Number.ordinal position)
  | .overflowed _ => "attempt to add with overflow"
  | .renumbered keys => s!"Renumbered {keys} device keys"
  | .sensorsCounted device count kind => s!"Device {device} has {count} " ++ kind.channelName
  | .sensorDisabled kind key => "Sensor " ++ kind.channelName ++ s!"/{key} disabled"
  | .valueDropped kind key => "Sensor " ++ kind.channelName ++ s!"/{key} disabled, value dropped"
  | .codeIgnored code size => s!"Code {code} outside table of {size}, ignored"
  | .outletsReset count => s!"Outlet table reset to {count} slots"
  | .published key value => s!"{key} = {value}"
  | .draftOpened count => s!"Alarm snapshot of {count} opened"
  | .alarmWithoutId code topic => s!"Alarm without id (code {code} on {topic}) ignored"
  | .alarmRepeated id => s!"Duplicate alarm id {id} in snapshot, ignored"
  | .alarmNotTracked id e => s!"Alarm {id} not tracked: " ++ e.message
  | .objectSkipped id e => s!"Alarm {id} object skipped: " ++ e.message
  | .objectFailed id e => s!"Alarm {id} object update failed: " ++ e.message
  | .objectPublished key value => s!"Alarm object {key} = {value}"
  | .statusLeftAlone kind key =>
    "Sensor " ++ kind.channelName ++ s!"/{key} disabled, status left alone"
  | .noAlarmRule id code topic => s!"No rule for alarm {id} code {code} on {topic}"
  | .alarmsChanged new active cleared => s!"Alarms: {new} new, {active} active, {cleared} cleared"
  | .alarmsUnchanged active => s!"Alarms unchanged: {active} active"

/-- The arithmetic has no result. -/
def isOverflow : Event → Bool
  | .overflowed _ => true
  | _ => false

end Event

end RackTelemetry
