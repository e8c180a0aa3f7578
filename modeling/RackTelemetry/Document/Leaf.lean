import RackTelemetry.Json.Basic

/-!
The leaves of a document with their paths. A path is the root followed by a slash and the name or
index of every step. Leaves come in the order of the document, null among them; a container that
lies too deep is cut off as a whole.
-/

namespace RackTelemetry

/-- What is met on the way through a document. -/
inductive Visit where
  | leaf (path : String) (value : Json)
  /-- A container with more containers around it than allowed. -/
  | truncated (path : String)
  deriving Inhabited

namespace Visit

def leaf? : Visit → Option (String × Json)
  | .leaf path value => some (path, value)
  | .truncated _ => none

end Visit

namespace Json

def step (path name : String) : String := path ++ "/" ++ name

/-- What is met in a document, in order, with `depth` more containers allowed. -/
def visits : Nat → String → Json → List Visit
  | 0, path, .object _ => [.truncated path]
  | 0, path, .list _ => [.truncated path]
  | depth + 1, path, .object members =>
    members.flatMap fun (name, value) => visits depth (step path name) value
  | depth + 1, path, .list items =>
    items.zipIdx.flatMap fun (value, index) => visits depth (step path (toString index)) value
  | _, path, value => [.leaf path value]

def leaves (depth : Nat) (root : String) (document : Json) : List (String × Json) :=
  (document.visits depth root).filterMap Visit.leaf?

/-- How many containers may lie around a leaf. -/
def maxDepth : Nat := 64

end Json

end RackTelemetry
