import RackTelemetry.Pattern.Basic

/-!
Reading patterns. A pattern is a sequence of parts with `|` between alternatives: groups in
parentheses, sets in brackets, a point for any character, `^` and `$` for the two ends, and every
other character for itself. `*` and `+` repeat a single character or a set, `?` makes any part
optional.
-/

namespace RackTelemetry.Pattern

/-- The ranges of a set up to its closing bracket, and the input after it. -/
def readRanges : List Char → Option (List (Char × Char) × List Char)
  | [] => none
  | ']' :: rest => some ([], rest)
  | a :: '-' :: ']' :: rest => some ([(a, a), ('-', '-')], rest)
  | a :: '-' :: b :: rest =>
    if b < a then none else (readRanges rest).map fun (rs, rest) => ((a, b) :: rs, rest)
  | a :: rest => (readRanges rest).map fun (rs, rest) => ((a, a) :: rs, rest)

/-- A set after its opening bracket, and the input after it. A closing bracket that comes first is a
character of the set. -/
def readSet (cs : List Char) : Option (CharSet × List Char) :=
  let (negated, cs) : Bool × List Char :=
    match cs with
    | '^' :: rest => (true, rest)
    | rest => (false, rest)
  match cs with
  | ']' :: rest =>
    (readRanges rest).map fun (rs, rest) => (.ranges negated ((']', ']') :: rs), rest)
  | rest => (readRanges rest).map fun (rs, rest) => (.ranges negated rs, rest)

/-- The set that a repetition sign repeats, if the part is a single character or a set. -/
def repeated? : Pattern → Option CharSet
  | .literal [c] => some (.ranges false [(c, c)])
  | .one set => some set
  | _ => none

/-- A part with the sign that may follow it, and the input after both. -/
def readSign (p : Pattern) : List Char → Option (Pattern × List Char)
  | '*' :: rest => (repeated? p).map fun set => (.many set 0, rest)
  | '+' :: rest => (repeated? p).map fun set => (.many set 1, rest)
  | '?' :: rest => some (.optional p, rest)
  | rest => some (p, rest)

mutual

/-- Alternatives up to a closing parenthesis or the end, and the input from there. -/
def readAlternatives : Nat → List Char → Option (Pattern × List Char)
  | 0, _ => none
  | fuel + 1, cs => do
    let (first, rest) ← readSequence fuel cs
    match rest with
    | '|' :: rest =>
      let (others, rest) ← readAlternatives fuel rest
      return (.alt first others, rest)
    | rest => return (first, rest)

/-- Parts up to a bar, a closing parenthesis or the end, and the input from there. -/
def readSequence : Nat → List Char → Option (Pattern × List Char)
  | 0, _ => none
  | fuel + 1, cs =>
    match cs with
    | [] => some (.empty, [])
    | '|' :: _ => some (.empty, cs)
    | ')' :: _ => some (.empty, cs)
    | cs => do
      let (p, rest) ← readPart fuel cs
      let (q, rest) ← readSign p rest
      let (others, rest) ← readSequence fuel rest
      return (match others with
        | .empty => (q, rest)
        | others => (.seq q others, rest))

def readPart : Nat → List Char → Option (Pattern × List Char)
  | 0, _ => none
  | fuel + 1, cs =>
    match cs with
    | [] => none
    | '(' :: rest =>
      match readAlternatives fuel rest with
      | some (p, ')' :: rest) => some (.group p, rest)
      | _ => none
    | '[' :: rest => (readSet rest).map fun (set, rest) => (.one set, rest)
    | '.' :: rest => some (.one .any, rest)
    | '^' :: rest => some (.start, rest)
    | '$' :: rest => some (.finish, rest)
    | c :: rest =>
      if c ∈ ['*', '+', '?', '\\'] ∨ c = '\x7b' then none else some (.literal [c], rest)

end

def ofString? (s : String) : Option Pattern :=
  match readAlternatives (3 * s.length + 3) s.toList with
  | some (p, []) => some p
  | _ => none

end RackTelemetry.Pattern
