import RackTelemetry.Yaml.Node
import RackTelemetry.Yaml.Scalar

/-!
The value of a YAML document: a mapping whose names are the texts of scalars. Of two members with
one name the later one counts. Collections may be nested 128 deep, and aliases may be followed a
hundred times as often as the document has events, a collection counting two and another node one.
-/

namespace RackTelemetry.Yaml

namespace Node

mutual

def events : Node → Nat
  | .alias _ => 1
  | .scalar .. => 1
  | .sequence _ items => itemEvents items + 2
  | .mapping _ members => memberEvents members + 2

def itemEvents : List Node → Nat
  | [] => 0
  | item :: items => item.events + itemEvents items

def memberEvents : List (Node × Node) → Nat
  | [] => 0
  | (name, value) :: members => name.events + value.events + memberEvents members

end

/-- The entry of a node that has a number. -/
def entry (node : Node) : List (Nat × Node) :=
  match node with
  | .alias _ => []
  | .scalar marks .. | .sequence marks _ | .mapping marks _ =>
    marks.number.toList.map fun n => (n, node)

mutual

def numbered : Node → List (Nat × Node)
  | .alias n => (Node.alias n).entry
  | .scalar marks isPlain text => (Node.scalar marks isPlain text).entry
  | .sequence marks items => (Node.sequence marks items).entry ++ numberedItems items
  | .mapping marks members => (Node.mapping marks members).entry ++ numberedMembers members

def numberedItems : List Node → List (Nat × Node)
  | [] => []
  | item :: items => item.numbered ++ numberedItems items

def numberedMembers : List (Node × Node) → List (Nat × Node)
  | [] => []
  | (name, value) :: members => name.numbered ++ value.numbered ++ numberedMembers members

end

end Node

/-- Whether a node has a tag of an application. -/
def Marks.isForeign (marks : Marks) : Bool := marks.tag.any fun tag => tag.startsWith "!"

/-- Evaluation with a number of aliases that may still be followed. -/
abbrev Evaluation := StateT Nat Option

/-- The node that an alias stands for, and any other node itself. -/
def follow (numbered : List (Nat × Node)) : Node → Evaluation Node
  | .alias n => do
    match ← get, numbered.lookup n with
    | left + 1, some node =>
      set left
      return node
    | _, _ => failure
  | node => return node

/-- The text of a scalar, which names a member. -/
def nameOf : Node → Evaluation String
  | .scalar _ _ text => return text
  | _ => failure

/-- The value of a node in which collections are nested up to a depth. -/
def valueOf (numbered : List (Nat × Node)) : Nat → Node → Evaluation Json
  | 0, node => do
    match ← follow numbered node with
    | .scalar marks isPlain text => scalarValue? marks.tag isPlain text
    | _ => failure
  | depth + 1, node => do
    match ← follow numbered node with
    | .scalar marks isPlain text => scalarValue? marks.tag isPlain text
    | .sequence marks items =>
      if marks.isForeign then failure else return .list (← items.mapM (valueOf numbered depth))
    | .mapping marks members =>
      if marks.isForeign then failure
      else
        return .object (← members.foldlM (fun before (name, value) => do
          let name ← nameOf (← follow numbered name)
          return Json.put name (← valueOf numbered depth value) before) [])
    | .alias _ => failure

/-- The mapping that a text writes. A text without a document, or with an empty one, writes an empty
mapping. A tag of the mapping does not count. -/
def ofString? (s : String) : Option Json :=
  match Node.ofString? s with
  | some none => some (.object [])
  | some (some (.scalar _ true "")) => some (.object [])
  | some (some (.mapping marks members)) =>
    let root := Node.mapping { marks with tag := none } members
    (valueOf root.numbered.reverse 128 root).run' (100 * root.events)
  | _ => none

end RackTelemetry.Yaml
