import RackTelemetry.Naming.Template
import RackTelemetry.Pattern.Basic

/-!
Alarm rules: what an alarm with one of some codes on a matching topic does to the published state.
It can set the status of an object while it lasts, and it can contribute to the two global channels.
-/

namespace RackTelemetry

/-- One effect of an alarm. -/
inductive AlarmAction where
  /-- Publishes `raised` for an object when the alarm appears, and `cleared` when it goes. -/
  | object (template : KeyTemplate) (raised cleared : String)
  | alarm (text : String)
  | status (flag : String)
  deriving Repr, DecidableEq, Inhabited

/-- A code stands in a list of codes separated by commas. The empty code stands in none. -/
def codeListed (list code : String) : Bool :=
  !code.isEmpty && (list.toList.splitOn ',').contains code.toList

/-- The effects of alarms with certain codes on certain topics. -/
structure AlarmRule where
  codes : String
  topic : Pattern
  actions : List AlarmAction
  deriving Repr, DecidableEq, Inhabited

/-- The rules in force. All rules that match an alarm apply, in order. -/
abbrev AlarmTable := List AlarmRule

/-- The rules that match an alarm, with the texts of the groups of their topic patterns. -/
def AlarmTable.matching (table : AlarmTable) (code topic : String) :
    List (AlarmRule × List String) :=
  table.filterMap fun rule =>
    if codeListed rule.codes code then (rule.topic.captures? topic).map fun params => (rule, params)
    else none

end RackTelemetry
