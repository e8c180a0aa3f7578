import RackTelemetry.Store

/-!
Everything that can go wrong while telemetry is applied, by cause. `Error.message` is the one place
for the wording; `Error.category` says how a caller should take an error.
-/

namespace RackTelemetry

/-- How an error is to be taken. -/
inductive ErrorCategory where
  | malformedInput
  | contractViolation
  | resourceExhaustion
  | notFound
  | internal
  deriving Repr, DecidableEq, Inhabited

inductive Error where
  | malformedPayload (topic detail : String)
  | invalidValue (value reason : String)
  | invalidParams (expected got : Nat)
  | outOfBounds (index len : Nat)
  | emptyKey
  | duplicateKey (key : String)
  | slotAlreadyKeyed (index : Nat) (existing : String)
  | unknownSensorKind (name : String)
  | templateMismatch (template target : String)
  | missingTemplate (rule : String)
  | capacityExceeded (requested limit : Nat)
  | emptyRegistry
  | deviceNotFound (key : String)
  | sensorNotFound (name : String)
  | outletNotFound (topic : String)
  | pattern (detail : String)
  | store (e : StoreError)
  | settings (detail : String)
  | settingsUnreadable (detail : String)
  deriving Repr, DecidableEq, Inhabited

namespace Error

def message : Error → String
  | .malformedPayload topic detail => s!"Malformed payload on {topic}: {detail}"
  | .invalidValue value reason => "Invalid value " ++ Text.quote value ++ ": " ++ reason
  | .invalidParams expected got => s!"Invalid parameter count: expected {expected}, got {got}"
  | .outOfBounds index len => s!"Index {index} out of bounds (len {len})"
  | .emptyKey => "Empty key"
  | .duplicateKey key => s!"Duplicate key: {key}"
  | .slotAlreadyKeyed index existing => s!"Sensor slot {index} already keyed as {existing}"
  | .unknownSensorKind name => s!"Unknown sensor type: {name}"
  | .templateMismatch template target => s!"Output template {template} cannot render {target}"
  | .missingTemplate rule => s!"Rule for {rule} has no output template"
  | .capacityExceeded requested limit => s!"Capacity exceeded: requested {requested}, limit {limit}"
  | .emptyRegistry => "Device registry is empty"
  | .deviceNotFound key => s!"Device not found: {key}"
  | .sensorNotFound name => s!"Sensor not found: {name}"
  | .outletNotFound topic => s!"Outlet not found: {topic}"
  | .pattern detail => s!"Invalid pattern: {detail}"
  | .store e => "Store error: " ++ e.message
  | .settings detail => s!"Configuration error: {detail}"
  | .settingsUnreadable detail =>
    s!"Configuration error: Failed to load configuration: {detail}"

def category : Error → ErrorCategory
  | .malformedPayload .. | .invalidValue .. => .malformedInput
  | .invalidParams .. | .outOfBounds .. | .emptyKey | .duplicateKey _ | .slotAlreadyKeyed ..
  | .unknownSensorKind _ | .templateMismatch .. | .missingTemplate _ => .contractViolation
  | .capacityExceeded .. => .resourceExhaustion
  | .emptyRegistry | .deviceNotFound _ | .sensorNotFound _ | .outletNotFound _ => .notFound
  | .pattern _ | .store _ | .settings _ | .settingsUnreadable _ => .internal

/-- The error names something that is not known (yet), which telemetry in any order must tolerate.
-/
def isNotFound (e : Error) : Bool := e.category = .notFound

end Error

end RackTelemetry
