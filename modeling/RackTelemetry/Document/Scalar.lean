import RackTelemetry.Json.Basic
import RackTelemetry.Number.Fixed
import RackTelemetry.Number.Integer

/-!
The text that a leaf of a document is published as. Truth values are published as digits,
double-precision numbers with two places, integers and strings as they are; null and containers are
not published.
-/

namespace RackTelemetry

/-- A value that can be published. -/
inductive Scalar where
  | bool (b : Bool)
  /-- An integer within 64 bits with a sign. -/
  | int (i : Int)
  /-- A larger integer, within 64 bits without a sign. -/
  | word (n : Int)
  | double (x : Float)
  | text (s : String)
  deriving Inhabited

namespace Scalar

/-- The scalar that a document is, if it is one. -/
def ofJson? : Json → Option Scalar
  | .bool b => some (.bool b)
  | .integer i => some (if i ≤ Number.maxInt then .int i else .word i)
  | .real x => some (.double x)
  | .text s => some (.text s)
  | .null | .list _ | .object _ => none

def render : Scalar → String
  | .bool b => if b then "1" else "0"
  | .int i => toString i
  | .word n => toString n
  | .double x => Number.fixedTwo x
  | .text s => s

end Scalar

/-- The published text of a document, if it has one. -/
def Json.scalarText? (document : Json) : Option String :=
  (Scalar.ofJson? document).map Scalar.render

end RackTelemetry
