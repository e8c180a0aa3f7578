/-!
What a message and an alarm pass did, in numbers.
-/

namespace RackTelemetry

/-- What one alarm pass did: alarms by state, alarms without a rule, and object updates that named
something unknown or failed. -/
structure AlarmSummary where
  new : Nat := 0
  active : Nat := 0
  inactive : Nat := 0
  unmatched : Nat := 0
  tolerated : Nat := 0
  failed : Nat := 0
  deriving Repr, DecidableEq, Inhabited

/-- What one message did: leaves visited, leaves with a rule, and what became of those. -/
structure MessageReport where
  accepted : Bool := false
  paths : Nat := 0
  matched : Nat := 0
  written : Nat := 0
  handled : Nat := 0
  skipped : Nat := 0
  tolerated : Nat := 0
  failed : Nat := 0
  reconciliation : Option AlarmSummary := none
  deriving Repr, DecidableEq, Inhabited

namespace AlarmSummary

def text (s : AlarmSummary) : String :=
  "ReconcileSummary \x7b new: " ++ toString s.new ++ ", active: " ++ toString s.active ++
    ", inactive: " ++ toString s.inactive ++ ", unmatched: " ++ toString s.unmatched ++
    ", tolerated: " ++ toString s.tolerated ++ ", failed: " ++ toString s.failed ++ " \x7d"

end AlarmSummary

namespace MessageReport

def text (r : MessageReport) : String :=
  let reconciliation := match r.reconciliation with
    | none => "None"
    | some s => "Some(" ++ s.text ++ ")"
  "MessageReport \x7b accepted: " ++ toString r.accepted ++ ", paths: " ++ toString r.paths ++
    ", matched: " ++ toString r.matched ++ ", written: " ++ toString r.written ++ ", handled: " ++
    toString r.handled ++ ", skipped: " ++ toString r.skipped ++ ", tolerated: " ++
    toString r.tolerated ++ ", failed: " ++ toString r.failed ++ ", reconciliation: " ++
    reconciliation ++ " \x7d"

end MessageReport

end RackTelemetry
