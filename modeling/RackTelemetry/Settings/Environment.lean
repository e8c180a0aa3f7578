import RackTelemetry.Settings.Variable

/-!
Settings from environment variables. A variable that begins with `NM2SRV_`, in any case, sets the
member that the rest of its name spells: two underscores, or a point, lead one level down.
-/

namespace RackTelemetry.Environment

def mark : List Char := "nm2srv_".toList

/-- The parts between double underscores and points, in which `part` is, reversed, the one begun. -/
def splitPath (part : List Char) : List Char → List (List Char)
  | [] => [part.reverse]
  | '_' :: '_' :: rest => part.reverse :: splitPath [] rest
  | '.' :: rest => part.reverse :: splitPath [] rest
  | c :: rest => splitPath (c :: part) rest

/-- The member that a variable sets, by the names that lead to it. `none` if the name of the
variable begins otherwise, or one of the names is empty. -/
def memberPath? (name : String) : Option (List String) :=
  let name := (Text.trimChars name.toList).map Char.toLower
  if mark.isPrefixOf name then
    let path := splitPath [] (Text.trimChars (name.drop mark.length))
    if path.any List.isEmpty then none else some (path.map String.ofList)
  else none

def nest (path : List String) (v : Json) : Json :=
  path.foldr (fun name inner => .object [(name, inner)]) v

/-- The document that the variables set. Of two variables for one member the later one counts. -/
def document (environment : List (String × String)) : Json :=
  environment.foldl (fun doc (name, written) =>
    match memberPath? name with
    | some path => doc.merge (nest path (Variable.valueOf written))
    | none => doc) (.object [])

end RackTelemetry.Environment
