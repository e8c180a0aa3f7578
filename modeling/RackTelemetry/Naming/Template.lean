import RackTelemetry.Naming.KeySpace

/-!
Templates say which published name a value goes to, targets say which object it belongs to. A
template is rendered for a target of its kind; a device template also serves a sensor, and a fixed
name any target.
-/

namespace RackTelemetry

/-- The name that a value is published under, up to the object it belongs to. -/
inductive KeyTemplate where
  | fixed (name : String)
  | device (field : String)
  | sensor (field : Option String)
  | outlet (field : String)
  deriving Repr, DecidableEq, Inhabited

/-- The object that a value belongs to. -/
inductive KeyTarget where
  | global
  | device (position : Nat)
  | sensor (position : Nat) (kind : SensorKind) (index : Nat)
  | outlet (index : Nat)
  deriving Repr, DecidableEq, Inhabited

namespace KeyTarget

def name : KeyTarget → String
  | .global => "global"
  | .device _ => "device"
  | .sensor .. => "sensor"
  | .outlet _ => "outlet"

def text : KeyTarget → String
  | .global => "Global"
  | .device position => "Device(" ++ toString position ++ ")"
  | .sensor position kind index =>
    "Sensor \x7b position: " ++ toString position ++ ", kind: " ++ kind.label ++ ", index: " ++
      toString index ++ " \x7d"
  | .outlet index => "Outlet(" ++ toString index ++ ")"

end KeyTarget

namespace KeyTemplate

def text : KeyTemplate → String
  | .fixed name => "Fixed(" ++ Text.quote name ++ ")"
  | .device field => "Device(" ++ Text.quote field ++ ")"
  | .sensor none => "Sensor(None)"
  | .sensor (some field) => "Sensor(Some(" ++ Text.quote field ++ "))"
  | .outlet field => "Outlet(" ++ Text.quote field ++ ")"

def render (template : KeyTemplate) (ks : KeySpace) (target : KeyTarget) : Except Error String :=
  match template, target with
  | .fixed name, _ => .ok name
  | .device field, .device position => .ok (ks.device position field)
  | .device field, .sensor position _ _ => .ok (ks.device position field)
  | .sensor field, .sensor position kind index => .ok (ks.sensor position kind index field)
  | .outlet field, .outlet index => .ok (ks.outlet index field)
  | template, target => .error (.templateMismatch template.text target.name)

end KeyTemplate

end RackTelemetry
