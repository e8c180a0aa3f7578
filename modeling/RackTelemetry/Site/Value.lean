import RackTelemetry.Error
import RackTelemetry.Number.Integer
import RackTelemetry.Text.Blank

/-!
How the texts of values and of path steps are read.
-/

namespace RackTelemetry.Value

/-- A number that tells how many items a list has. -/
def count (value : String) : Except Error Nat :=
  match Number.readNat (Text.trim value) with
  | .ok n => .ok n
  | .error _ => .error (.invalidValue value "not a count")

/-- A number that tells which item of a list is meant, counted from zero. -/
def index (value : String) : Except Error Nat :=
  match Number.readNat (Text.trim value) with
  | .ok n => .ok n
  | .error _ => .error (.invalidValue value "not an index")

def afterSlash? (cs : List Char) : Option (List Char) :=
  if cs.contains '/' then some (cs.reverse.takeWhile (· != '/')).reverse else none

/-- The key at the end of a path. A path has at least one slash, and a key is not empty. -/
def lastSegment (value : String) : Except Error String :=
  match afterSlash? value.toList with
  | some (c :: cs) => .ok (String.ofList (c :: cs))
  | _ => .error (.invalidValue value "expected a path ending in a key")

def normalizeTopic (value : String) : String :=
  String.ofList (value.toList.dropWhile (· == '/'))

def flag (value : String) : Except Error Bool :=
  if value ∈ ["1", "true", "yes"] then .ok true
  else if value ∈ ["0", "false", "no"] then .ok false
  else .error (.invalidValue value "expected a boolean")

def code (value : String) : Except Error Int :=
  match Number.readInt (Text.trim value) with
  | .ok code => .ok code
  | .error _ => .error (.invalidValue value "not an integer code")

/-- The text that a code stands for in a table; codes outside of it have none. -/
def meaning? (table : List String) (code : Int) : Option String :=
  if code < 0 then none else table[code.toNat]?

end RackTelemetry.Value
