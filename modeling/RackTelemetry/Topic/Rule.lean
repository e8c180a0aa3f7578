import RackTelemetry.Alarm.Draft
import RackTelemetry.Naming.Template
import RackTelemetry.Pattern.Reader

/-!
Topic rules: what a value at a path means. A direct rule publishes the value under a fixed name, a
handled rule hands it to a handler together with the texts of the groups of its pattern. The first
rule whose pattern matches a path decides.
-/

namespace RackTelemetry

inductive Handler where
  | deviceCount
  | deviceIndex
  | deviceData
  | devicePresence
  | sensorCount
  | sensorIndex
  | sensorData
  | temperatureValue
  | sensorEnable
  | contactConfig
  | contactStatus
  | outletCount
  | outletIndex
  | outletData
  | outletSwitchable
  | alarmCount
  | alarmField (field : AlarmField)
  deriving Repr, DecidableEq, Inhabited

/-- The number of groups that a rule for a handler must have. -/
def Handler.expectedParams : Handler → Nat
  | .deviceCount | .outletCount | .alarmCount => 0
  | .deviceIndex | .deviceData | .devicePresence | .outletIndex | .outletData | .outletSwitchable
  | .alarmField _ => 1
  | .sensorCount | .temperatureValue | .contactConfig | .contactStatus => 2
  | .sensorIndex | .sensorData | .sensorEnable => 3

/-- A rule; `source` is the written form of its pattern. A rule without a handler is direct. -/
structure TopicRule where
  source : String
  pattern : Pattern
  template : Option KeyTemplate
  handler : Option Handler
  deriving Repr, DecidableEq, Inhabited

namespace TopicRule

def direct (pattern : Pattern) (name : String) : TopicRule :=
  { source := pattern.text, pattern, template := some (.fixed name), handler := none }

/-- A rule that hands its value to a handler. -/
def handled (pattern : Pattern) (template : Option KeyTemplate) (handler : Handler) : TopicRule :=
  { source := pattern.text, pattern, template, handler := some handler }

/-- A rule without a handler needs a fixed name to publish its value under. -/
def isUsable (rule : TopicRule) : Bool :=
  match rule.handler, rule.template with
  | some _, _ => true
  | none, some (.fixed _) => true
  | none, _ => false

end TopicRule

/-- A rule whose pattern is still text. -/
structure TopicRuleSpec where
  pattern : String
  template : Option KeyTemplate
  handler : Option Handler
  deriving Repr, DecidableEq, Inhabited

abbrev TopicTable := List TopicRule

namespace TopicTable

def readPattern (source : String) : Except Error Pattern :=
  match Pattern.ofString? source with
  | some pattern => .ok pattern
  | none => .error (.pattern source)

/-- The table of rules that are given as text. All patterns are read before any rule is judged. -/
def ofSpecs (specs : List TopicRuleSpec) : Except Error TopicTable := do
  let rules : TopicTable ← specs.mapM fun spec => do
    let pattern ← readPattern spec.pattern
    return { source := spec.pattern, pattern, template := spec.template, handler := spec.handler }
  match rules.find? fun rule => !rule.isUsable with
  | some rule => .error (.missingTemplate rule.source)
  | none => return rules

/-- The first rule that matches a path, with the texts of the groups of its pattern. -/
def find? (table : TopicTable) (path : String) : Option (TopicRule × List String) :=
  table.findSome? fun rule => (rule.pattern.captures? path).map fun params => (rule, params)

end TopicTable

end RackTelemetry
