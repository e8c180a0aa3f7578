import RackTelemetry.Yaml.Token

/-!
The tree of a YAML document. Nodes can be numbered by anchors, and aliases stand for the nodes that
have a number. A text may hold one document.
-/

namespace RackTelemetry.Yaml

/-- What a node is marked with: the number of its anchor, and its tag in full. -/
structure Marks where
  number : Option Nat := none
  tag : Option String := none
  deriving Repr, DecidableEq, Inhabited

inductive Node where
  | alias (number : Nat)
  | scalar (marks : Marks) (isPlain : Bool) (text : String)
  | sequence (marks : Marks) (items : List Node)
  | mapping (marks : Marks) (members : List (Node × Node))
  deriving Inhabited

/-- A node that is not written. -/
def Node.empty (marks : Marks) : Node := .scalar marks true ""

/-- Tokens that are being read, with what the handles of tags stand for and the numbers of the
anchors met. -/
structure Parsing where
  tokens : List Token
  handles : List (String × String) := []
  anchors : List (String × Nat) := []
  deriving Inhabited

/-- A step of reading tokens, which may fail. -/
abbrev Parser := StateT Parsing Option

namespace Parser

def peek : Parser (Option Token) := do return (← get).tokens.head?

def skip : Parser Unit := modify fun p => { p with tokens := p.tokens.drop 1 }

def accept (token : Token) : Parser Bool := do
  if (← peek) = some token then
    skip
    return true
  else return false

def isNext (tokens : List Token) : Parser Bool := do
  match ← peek with
  | some token => return token ∈ tokens
  | none => return false

/-- Numbers an anchor. The number counts the names before it, so a name that is used again gives its
node the same number as the next new name. -/
def number (name : String) : Parser Nat := do
  let p ← get
  let n := p.anchors.length
  set { p with anchors := (name, n) :: p.anchors.filter fun entry => entry.1 != name }
  return n

def tagName (tag : Tag) : Parser String := do
  if tag.handle.isEmpty then return tag.suffix
  else
    match (← get).handles.lookup tag.handle with
    | some stem => return stem ++ tag.suffix
    | none => failure

def marks : Parser Marks := do
  match ← peek with
  | some (.anchor name) =>
    skip
    match ← peek with
    | some (.tag tag) =>
      skip
      let tag ← tagName tag
      return { number := some (← number name), tag := some tag }
    | _ => return { number := some (← number name) }
  | some (.tag tag) =>
    skip
    match ← peek with
    | some (.anchor name) =>
      skip
      let tag ← tagName tag
      return { number := some (← number name), tag := some tag }
    | _ => return { tag := some (← tagName tag) }
  | _ => return {}

mutual

/-- Reads a node. Block collections are read where `block` allows them. Where `sameColumn` tells so,
a sequence may begin at the column of the key that it belongs to. -/
def node : Nat → (block sameColumn : Bool) → Parser Node
  | 0, _, _ => failure
  | fuel + 1, block, sameColumn => do
    match ← peek with
    | some (.alias name) =>
      skip
      match (← get).anchors.lookup name with
      | some n => return .alias n
      | none => failure
    | _ =>
      let marks ← marks
      match ← peek with
      | some (.scalar isPlain text) =>
        skip
        return .scalar { marks with tag := marks.tag.filter (· != "!") } isPlain text
      | some .openSequence =>
        skip
        return .sequence marks (← flowItems fuel true)
      | some .openMapping =>
        skip
        return .mapping marks (← flowMembers fuel true)
      | token =>
        if token = some .item && sameColumn then
          return .sequence marks (← blockItems fuel [.item, .key, .value, .blockEnd])
        else if token = some .blockSequence && block then
          skip
          let items ← blockItems fuel [.item, .blockEnd]
          if ← accept .blockEnd then return .sequence marks items else failure
        else if token = some .blockMapping && block then
          skip
          return .mapping marks (← blockMembers fuel)
        else if marks = {} then failure
        else return .empty marks

def blockItems : Nat → (closing : List Token) → Parser (List Node)
  | 0, _ => failure
  | fuel + 1, closing => do
    if ← accept .item then
      let item ← if ← isNext closing then pure (.empty {}) else node fuel true false
      return item :: (← blockItems fuel closing)
    else return []

/-- Reads the members of a block mapping up to its end. -/
def blockMembers : Nat → Parser (List (Node × Node))
  | 0 => failure
  | fuel + 1 => do
    if ← accept .key then
      let name ← blockPart fuel
      let value ← if ← accept .value then blockPart fuel else pure (.empty {})
      return (name, value) :: (← blockMembers fuel)
    else if ← accept .blockEnd then return []
    else failure

def blockPart : Nat → Parser Node
  | 0 => failure
  | fuel + 1 => do
    if ← isNext [.key, .value, .blockEnd] then return .empty {} else node fuel true true

/-- Reads the items of a sequence in brackets, up to its end. A key makes a one-member mapping. -/
def flowItems : Nat → (first : Bool) → Parser (List Node)
  | 0, _ => failure
  | fuel + 1, first => do
    if ← accept .closeSequence then return []
    else if !first && !(← accept .comma) then failure
    else if ← accept .key then
      let name ←
        if ← isNext [.value, .comma, .closeSequence] then
          skip
          pure (.empty {})
        else node fuel false false
      let value ← flowValue fuel [.comma, .closeSequence]
      return .mapping {} [(name, value)] :: (← flowItems fuel false)
    else if ← accept .closeSequence then return []
    else
      let item ← node fuel false false
      return item :: (← flowItems fuel false)

/-- Reads the members of a mapping in braces, up to its end. -/
def flowMembers : Nat → (first : Bool) → Parser (List (Node × Node))
  | 0, _ => failure
  | fuel + 1, first => do
    if ← accept .closeMapping then return []
    else if !first && !(← accept .comma) then failure
    else if ← accept .key then
      let name ←
        if ← isNext [.value, .comma, .closeMapping] then pure (.empty {}) else node fuel false false
      let value ← flowValue fuel [.comma, .closeMapping]
      return (name, value) :: (← flowMembers fuel false)
    else if ← accept .closeMapping then return []
    else
      let name ← node fuel false false
      return (name, .empty {}) :: (← flowMembers fuel false)

/-- Reads the value of a member between brackets, if there is one before a `closing` token. -/
def flowValue : Nat → (closing : List Token) → Parser Node
  | 0, _ => failure
  | fuel + 1, closing => do
    if ← accept .value then
      if ← isNext closing then return .empty {} else node fuel false false
    else return .empty {}

end

/-- Reads the directives of a document. The version must be 1.1 or 1.2 and be given once, and so
must what a handle stands for. -/
def directives (versionGiven : Bool) (handles : List (String × String)) :
    List Token → Option (List (String × String) × List Token)
  | .directive (.version major minor) :: rest =>
    if versionGiven || major != 1 || (minor != 1 && minor != 2) then none
    else directives true handles rest
  | .directive (.handle handle stem) :: rest =>
    if (handles.lookup handle).isSome then none
    else directives versionGiven ((handle, stem) :: handles) rest
  | rest => some (handles, rest)

/-- What handles stand for unless a directive says otherwise. -/
def standardHandles : List (String × String) := [("!", "!"), ("!!", "tag:yaml.org,2002:")]

/-- Reads a document, which directives and a mark may begin and a mark may end. -/
def document (fuel : Nat) : Parser Node := do
  match ← peek with
  | some (.directive _) | some .documentStart =>
    let p ← get
    let (handles, tokens) ← directives false [] p.tokens
    set { p with tokens, handles := handles ++ standardHandles }
    if ← accept .documentStart then
      match ← peek with
      | none | some (.directive _) | some .documentStart | some .documentEnd => return .empty {}
      | _ => node fuel true false
    else failure
  | _ =>
    modify fun p => { p with handles := standardHandles }
    node fuel true false

end Parser

/-- Steps that are enough to read a document: each token takes at most two, and each empty node one
more. -/
def stepsFor (tokens : List Token) : Nat := 4 * tokens.length + 4

/-- The document of a text; `some none` is a text without one. -/
def Node.ofString? (s : String) : Option (Option Node) := do
  let tokens ← Token.ofString? s
  if tokens.isEmpty then return none
  else
    let (node, p) ← (Parser.document (stepsFor tokens)).run { tokens }
    if (p.tokens.dropWhile (· = .documentEnd)).isEmpty then return some node else none

end RackTelemetry.Yaml
