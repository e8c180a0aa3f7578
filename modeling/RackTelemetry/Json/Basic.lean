/-!
Documents: the values of RFC 8259 text. Numbers written as integers of 64 bits stay integers, all
others are double-precision. The members of an object keep the order of the text and have distinct
names.
-/

namespace RackTelemetry

/-- A JSON document. An `integer` lies between `-2 ^ 63` and `2 ^ 64 - 1`. -/
inductive Json where
  | null
  | bool (b : Bool)
  | integer (i : Int)
  | real (x : Float)
  | text (s : String)
  | list (items : List Json)
  | object (members : List (String × Json))
  deriving Inhabited

namespace Json

/-- Gives the member `name` a value. A new member goes to the end, a known one keeps its place. -/
def put (name : String) (value : Json) : List (String × Json) → List (String × Json)
  | [] => [(name, value)]
  | (n, v) :: rest => if n = name then (n, value) :: rest else (n, v) :: put name value rest

theorem map_fst_put (name : String) (value : Json) (members : List (String × Json)) :
    (put name value members).map Prod.fst =
      if name ∈ members.map Prod.fst then members.map Prod.fst
      else members.map Prod.fst ++ [name] := by
  induction members with
  | nil => simp [put]
  | cons m rest ih =>
    obtain ⟨n, v⟩ := m
    by_cases h : n = name
    · simp [put, h]
    · have h' : name ≠ n := fun e => h e.symm
      simp only [put, h, if_false, List.map_cons, ih, List.mem_cons, h', false_or]
      split <;> simp

def member? (name : String) : Json → Option Json
  | .object members => members.lookup name
  | _ => none

/-- What `upper` says stands above what `lower` says, member by member. Only objects are merged, any
other value replaces the one below it. -/
def merge (lower upper : Json) : Json :=
  match lower, upper with
  | .object below, .object above => .object (mergeMembers below above)
  | _, other => other
termination_by structural upper
where
  /-- Merges the members of one object into those of another, in order. -/
  mergeMembers (below : List (String × Json)) : List (String × Json) → List (String × Json)
    | [] => below
    | (name, value) :: rest =>
      let value := match below.lookup name with
        | some old => merge old value
        | none => value
      mergeMembers (put name value below) rest
  termination_by structural above => above

end Json

end RackTelemetry
