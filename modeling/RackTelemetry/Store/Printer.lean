import RackTelemetry.Json.Printer
import RackTelemetry.Store

/-!
Printing the published state, as lines or as a JSON object.
-/

namespace RackTelemetry

inductive OutputFormat where
  | text
  | json
  deriving Repr, DecidableEq, Inhabited

namespace Store

/-- Everything published, as lines of a name and a value. -/
def renderText (store : Store) : String :=
  String.join (store.toList.map fun (key, value) => key ++ ": " ++ value ++ "\n")

/-- Everything published, as an object with a member on each line. -/
def renderJson (store : Store) : String :=
  match store.toList with
  | [] => "\x7b\x7d"
  | entries =>
    "\x7b\n" ++ ",\n".intercalate (entries.map fun (key, value) =>
      "  " ++ Json.quote key ++ ": " ++ Json.quote value) ++ "\n\x7d"

def render (store : Store) : OutputFormat → String
  | .text => store.renderText
  | .json => store.renderJson

end Store

end RackTelemetry
