import RackTelemetry.Journal
import RackTelemetry.Number.Integer
import RackTelemetry.Text.Alphanumeric
import RackTelemetry.Text.Blank

/-!
Log directives: which events are shown. A directive is a list with commas between its rules. A rule
is a level, the name of a part of the service, or a name, an equals sign and a level; behind the
name brackets may hold the name of a span, and the names of fields in braces. For each part the rule
with the longest name that its path begins with decides, and a part without such a rule is silent.
-/

namespace RackTelemetry.Journal

/-- How much is shown at a level: nothing at 0, everything at 5. -/
def verbosity : Level → Nat
  | .error => 1
  | .warn => 2
  | .info => 3
  | .debug => 4
  | .trace => 5

/-- The verbosity that a word names: a level in any case, `off`, or a number up to five. -/
def verbosity? (word : List Char) : Option Nat :=
  match Number.readNat (String.ofList word) with
  | .ok n => if n ≤ 5 then some n else none
  | .error _ =>
    match String.ofList (word.map Char.toLower) with
    | "off" => some 0
    | "error" => some 1
    | "warn" => some 2
    | "info" => some 3
    | "debug" => some 4
    | "trace" => some 5
    | _ => none

inductive Rule where
  /-- Shows the events of the parts whose path begins with a name, the empty name standing for all
  parts, if they have all the fields. -/
  | events (target : List Char) (fields : List (List Char)) (verbosity : Nat)
  /-- Is about spans, of which the service has none. -/
  | spans
  deriving Repr, DecidableEq, Inhabited

/-- Characters that a rule without brackets begins with: letters, digits, a hyphen, a colon, an
underscore. -/
def beginsRule (c : Char) : Bool := Text.isAlphanumeric c || c = '-' || c = ':' || c = '_'

/-- The verbosity at the end of a rule: after an equals sign, or the largest one. White space around
the rule would belong to a level. -/
def verbosityOfEnd? (padded : Bool) : List Char → Option Nat
  | [] => some 5
  | '=' :: word =>
    if padded then none else if word.isEmpty then some 5 else verbosity? word
  | _ => none

/-- Reads the rest of a rule after an opening bracket: the name of a span, perhaps a field in
braces, the closing bracket, and perhaps a level. -/
def Rule.ofBracket? (padded : Bool) (target rest : List Char) : Option Rule := do
  let span := rest.takeWhile fun c => c != ']' && c != '\x7b'
  match rest.drop span.length with
  | ']' :: rest =>
    let _ ← verbosityOfEnd? padded rest
    return .spans
  | '\x7b' :: rest =>
    let field := rest.takeWhile (· != '\x7d')
    match rest.drop field.length with
    | '\x7d' :: ']' :: rest =>
      let verbosity ← verbosityOfEnd? padded rest
      if field.isEmpty then none
      else if padded || !span.isEmpty || field.contains '=' then return .spans
      else return .events target [field] verbosity
    | _ => none
  | _ => none

/-- Reads a rule. A lone name shows everything. White space around a lone word belongs to it, so
that the word is a name and no level; around a level there must be none. -/
def Rule.ofChars? (cs : List Char) : Option Rule :=
  let inner := Text.trimChars cs
  let padded := inner != cs
  match inner with
  | [] => none
  | '[' :: rest => Rule.ofBracket? padded [] rest
  | c :: _ =>
    if beginsRule c then
      let target := inner.takeWhile fun c => c != '=' && c != '['
      match inner.drop target.length with
      | [] =>
        match verbosity? cs with
        | some v => some (.events [] [] v)
        | none => some (.events cs [] 5)
      | '[' :: rest => Rule.ofBracket? padded target rest
      | rest => (verbosityOfEnd? padded rest).map (.events target [])
    else none

/-- The rules of a directive. Nothing between two commas is no rule, and without a rule errors are
shown. -/
def rules? (directive : String) : Option (List Rule) :=
  match (directive.toList.splitOn ',').filter fun cs => !cs.isEmpty with
  | [] => some [.events [] [] 1]
  | parts => parts.mapM Rule.ofChars?

/-- Whether a rule is about the events of a path. Events have a message and no other field. -/
def Rule.concerns (path : String) : Rule → Bool
  | .events target fields _ => target.isPrefixOf path.toList && fields.all (· = "message".toList)
  | .spans => false

/-- How closely a rule describes the events that it concerns: by its name, then by its fields. -/
def Rule.precision : Rule → Nat × Nat
  | .events target fields _ => (target.length, fields.length)
  | .spans => (0, 0)

/-- The rule that decides on a path: of those that concern it the most precise one, and of several
the last one. -/
def deciding? (rules : List Rule) (path : String) : Option Rule :=
  rules.foldl (fun best rule =>
    if rule.concerns path && best.all fun b =>
        b.precision.1 < rule.precision.1 ||
          (b.precision.1 = rule.precision.1 && b.precision.2 ≤ rule.precision.2) then some rule
    else best) none

def shows (rules : List Rule) (event : Event) : Bool :=
  match deciding? rules event.source.path with
  | some (.events _ _ limit) => verbosity event.level ≤ limit
  | _ => false

end RackTelemetry.Journal
