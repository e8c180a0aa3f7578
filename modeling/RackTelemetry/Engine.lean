import RackTelemetry.Alarm.Pass
import RackTelemetry.Document.Leaf
import RackTelemetry.Json.Reader
import RackTelemetry.Settings.Basic
import RackTelemetry.Site.Handling
import RackTelemetry.Topic.Filter

/-!
The engine takes messages. The leaves of a document are applied one after another; when an alarm
list has arrived as a whole by the end of a message, an alarm pass follows.
-/

namespace RackTelemetry

structure Engine where
  keyspace : KeySpace
  acceptAllTopics : Bool
  site : Site
  known : AlarmRegistry
  deriving Inhabited

namespace Engine

/-- What a call of the engine led to. -/
structure Response (α : Type) where
  engine : Engine
  events : List Event
  result : Except Error α

/-- A fresh engine with an empty published state. -/
def ofSettings (settings : EngineSettings) : Engine :=
  { keyspace := settings.keyspace
    acceptAllTopics := settings.acceptAllTopics
    site :=
      { devices := { maxSensors := settings.maxSensors }
        outlets := { maxOutlets := settings.maxOutlets }
        draft := { maxAlarms := settings.maxAlarms } }
    known := {} }

def readyEvents : List Event :=
  let rules := TopicTable.card.length
  let alarmRules := AlarmTable.card.length
  [.tableReady rules, .alarmTableReady alarmRules, .engineReady rules alarmRules]

/-- A message that is being applied: the site and the account so far. -/
structure Progress where
  site : Site
  report : MessageReport
  events : List Event

def applyValue (ks : KeySpace) (p : Progress) (path value : String) : Progress :=
  let outcome := TopicTable.card.dispatch ks path value p.site
  let r := p.report
  let (report, events) : MessageReport × List Event :=
    match outcome.result with
    | .ok .unmatched => (r, [.noRule path])
    | .ok (.written _) => ({ r with matched := r.matched + 1, written := r.written + 1 }, [])
    | .ok (.handled _) => ({ r with matched := r.matched + 1, handled := r.handled + 1 }, [])
    | .error e =>
      if e.isNotFound then
        ({ r with matched := r.matched + 1, tolerated := r.tolerated + 1 },
          [.notApplied path value e])
      else ({ r with matched := r.matched + 1, failed := r.failed + 1 }, [.leafFailed path value e])
  { site := outcome.site, report, events := p.events ++ outcome.events ++ events }

def applyVisit (ks : KeySpace) (p : Progress) : Visit → Progress
  | .truncated path => { p with events := p.events ++ [.truncated Json.maxDepth path] }
  | .leaf path value =>
    let p := { p with report := { p.report with paths := p.report.paths + 1 } }
    match value.scalarText? with
    | none =>
      { p with
        report := { p.report with skipped := p.report.skipped + 1 }
        events := p.events ++ [.notConverted path] }
    | some text => applyValue ks p path text

def applyDocument (ks : KeySpace) (site : Site) (topic : String) (document : Json) : Progress :=
  (document.visits Json.maxDepth topic).foldl (applyVisit ks)
    { site, report := { accepted := true }, events := [] }

/-- An alarm pass over the alarms of the card. -/
def reconcile (engine : Engine) (received : List Alarm) : Response AlarmSummary :=
  let pass := AlarmTable.card.reconcile engine.keyspace engine.known engine.site.devices
    engine.site.store received
  { engine := { engine with known := pass.known, site := { engine.site with store := pass.store } }
    events := pass.events
    result := pass.result }

/-- Applies a document on a topic, whether or not messages on that topic are taken. -/
def processDocument (engine : Engine) (topic : String) (document : Json) : Response MessageReport :=
  let p := applyDocument engine.keyspace engine.site topic document
  let doneEvent : Event := .documentDone topic p.report.paths p.report.matched p.report.failed
  let (draft, received) := p.site.draft.takeComplete
  let engine := { engine with site := { p.site with draft } }
  match received with
  | none => ⟨engine, p.events ++ [doneEvent], .ok p.report⟩
  | some received =>
    let response := engine.reconcile received
    match response.result with
    | .ok summary =>
      ⟨response.engine, p.events ++ response.events ++ [doneEvent],
        .ok { p.report with reconciliation := some summary }⟩
    | .error e => ⟨response.engine, p.events ++ response.events, .error e⟩

def accepts (engine : Engine) (topic : String) : Bool :=
  engine.acceptAllTopics || TopicFilter.card.accepts topic

/-- The contents of a message, as they arrive. -/
structure Payload where
  raw ::
  bytes : ByteArray
  deriving Inhabited

def Payload.document? (payload : Payload) : Option Json := Json.ofBytes? payload.bytes

/-- Applies a message. A message on another topic is ignored before its payload is read. -/
def processMessage (engine : Engine) (topic : String) (payload : Payload) :
    Response MessageReport :=
  if engine.accepts topic then
    match payload.document? with
    | some document => engine.processDocument topic document
    | none => ⟨engine, [], .error (.malformedPayload topic "not a JSON document")⟩
  else ⟨engine, [.topicIgnored topic], .ok {}⟩

end Engine

end RackTelemetry
