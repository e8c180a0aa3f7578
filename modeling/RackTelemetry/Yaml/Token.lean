import RackTelemetry.Yaml.Block
import RackTelemetry.Yaml.Plain
import RackTelemetry.Yaml.Quoted
import RackTelemetry.Yaml.Tag

/-!
The tokens of a YAML text. Outside brackets the indentation of lines opens and closes collections. A
key is only recognised by the colon after it, so its token is put in front of what was read already;
it must end on the line that it begins on, and within 1024 characters.
-/

namespace RackTelemetry.Yaml

/-- A token. A scalar tells whether it is plain. -/
inductive Token where
  | directive (d : Directive)
  | documentStart
  | documentEnd
  | blockSequence
  | blockMapping
  | blockEnd
  | openSequence
  | closeSequence
  | openMapping
  | closeMapping
  | item
  | comma
  | key
  | value
  | alias (name : String)
  | anchor (name : String)
  | tag (tag : Tag)
  | scalar (isPlain : Bool) (text : String)
  deriving Repr, DecidableEq, Inhabited

/-- A place where a key may have begun, with the number of tokens before it. A required one must
turn out to be a key, because its line belongs to a block mapping. -/
structure PossibleKey where
  pos : Position
  tokens : Nat
  required : Bool
  deriving Repr, DecidableEq, Inhabited

/-- A text that is being read: the tokens so far, the indentations of the open block collections
from the inside out, and for each level of brackets the key that may have begun there. `keyAllowed`
tells that a key may begin here. -/
structure Layout where
  cur : Cursor
  tokens : Array Token := #[]
  indents : List Nat := []
  keys : List (Option PossibleKey) := [none]
  keyAllowed : Bool := true
  deriving Inhabited

namespace Layout

def inFlow (l : Layout) : Bool := 1 < l.keys.length

def column (l : Layout) : Nat := l.cur.pos.column

def push (l : Layout) (token : Token) (width : Nat) : Layout :=
  { l with tokens := l.tokens.push token, cur := l.cur.skip width }

/-- Gives up the key that may have begun on this level of brackets. -/
def dropKey (l : Layout) : Option Layout :=
  match l.keys with
  | some key :: outer => if key.required then none else some { l with keys := none :: outer }
  | _ => some l

def saveKey (l : Layout) : Option Layout :=
  if l.keyAllowed then do
    let l ← l.dropKey
    let required := !l.inFlow && l.indents.head? = some l.column
    return { l with
      keys := some { pos := l.cur.pos, tokens := l.tokens.size, required } :: l.keys.drop 1 }
  else some l

/-- Gives up the keys that would be too long, or go on over the end of a line. -/
def dropStaleKeys (l : Layout) : Option Layout := do
  let keys ← l.keys.mapM fun key? =>
    match key? with
    | none => some none
    | some key =>
      if key.pos.line < l.cur.pos.line || key.pos.index + 1024 < l.cur.pos.index then
        if key.required then none else some none
      else some (some key)
  return { l with keys }

/-- Opens a block collection whose entries begin at a column, unless one is open there. Its token is
put after `before` tokens. -/
def openBlock (l : Layout) (column before : Nat) (token : Token) : Layout :=
  if l.inFlow || l.indents.head?.any (column ≤ ·) then l
  else
    { l with
      indents := column :: l.indents
      tokens := l.tokens.insertIdxIfInBounds before token }

/-- Closes the block collections whose entries begin further to the right than a column, or all. -/
def closeBlocks (l : Layout) (column : Option Nat) : Layout :=
  if l.inFlow then l
  else
    let isClosed (indent : Nat) : Bool := column.all (· < indent)
    { l with
      tokens := l.tokens ++ (l.indents.takeWhile isClosed).map fun _ => Token.blockEnd
      indents := l.indents.dropWhile isClosed }

/-- The layout behind white space, line ends and comments. Where a key may begin, a tab is no white
space. A key may begin on every line outside brackets. -/
def skipSpace (inFlow keyAllowed inComment : Bool) (pos : Position) :
    List Char → Bool × Cursor
  | [] => (keyAllowed, { pos, rest := [] })
  | c :: rest =>
    if c = '\r' then
      match rest with
      | '\n' :: rest => skipSpace inFlow (keyAllowed || !inFlow) false (pos.newLine 2) rest
      | rest => skipSpace inFlow (keyAllowed || !inFlow) false (pos.newLine 1) rest
    else if isBreak c then skipSpace inFlow (keyAllowed || !inFlow) false (pos.newLine 1) rest
    else if inComment || c = ' ' || (c = '\t' && (inFlow || !keyAllowed)) ||
        (pos.index = 0 && c = '\ufeff') then
      skipSpace inFlow keyAllowed inComment (pos.skip 1) rest
    else if c = '#' then skipSpace inFlow keyAllowed true (pos.skip 1) rest
    else (keyAllowed, { pos, rest := c :: rest })

def readMark (l : Layout) (token : Token) : Option Layout := do
  let l ← (l.closeBlocks none).dropKey
  return { l with keyAllowed := false }.push token 3

def openBracket (l : Layout) (token : Token) : Option Layout := do
  let l ← l.saveKey
  return { l with keys := none :: l.keys, keyAllowed := true }.push token 1

def closeBracket (l : Layout) (token : Token) : Option Layout := do
  let l ← l.dropKey
  return { l with keys := if l.inFlow then l.keys.drop 1 else l.keys, keyAllowed := false }.push
    token 1

def readComma (l : Layout) : Option Layout := do
  let l ← l.dropKey
  return { l with keyAllowed := true }.push .comma 1

def readItem (l : Layout) : Option Layout := do
  if !l.inFlow && !l.keyAllowed then none
  else
    let l ← (l.openBlock l.column l.tokens.size .blockSequence).dropKey
    return { l with keyAllowed := true }.push .item 1

/-- Adds the question mark before a key. -/
def readKey (l : Layout) : Option Layout := do
  if !l.inFlow && !l.keyAllowed then none
  else
    let l ← (l.openBlock l.column l.tokens.size .blockMapping).dropKey
    return { l with keyAllowed := !l.inFlow }.push .key 1

/-- Adds the colon before a value. What may have been a key is one. -/
def readValue (l : Layout) : Option Layout :=
  match l.keys with
  | some key :: outer =>
    let l := { l with
      tokens := l.tokens.insertIdxIfInBounds key.tokens .key
      keys := none :: outer
      keyAllowed := false }
    some ((l.openBlock key.pos.column key.tokens .blockMapping).push .value 1)
  | _ =>
    if !l.inFlow && !l.keyAllowed then none
    else
      let l := l.openBlock l.column l.tokens.size .blockMapping
      some ({ l with keyAllowed := !l.inFlow }.push .value 1)

/-- Adds an anchor or an alias: a name of at least one character, not followed by other text. -/
def readReference (l : Layout) (token : String → Token) : Option Layout := do
  let l ← l.saveKey
  let (name, cur) := (l.cur.skip 1).takeWhile isNameChar
  let ends := endsWord cur.rest || cur.rest.head?.any fun c =>
    c ∈ ['?', ':', ',', ']', '\x7d', '%', '@'] || c.toNat = 0x60
  if name.isEmpty || !ends then none
  else
    return { l with
      cur, keyAllowed := false, tokens := l.tokens.push (token (String.ofList name)) }

def readTag (l : Layout) : Option Layout := do
  let l ← l.saveKey
  let (tag, cur) ← Yaml.readTag l.inFlow l.cur
  return { l with cur, keyAllowed := false, tokens := l.tokens.push (.tag tag) }

def readDirective (l : Layout) : Option Layout := do
  let l ← (l.closeBlocks none).dropKey
  let (directive, cur) ← Yaml.readDirective (l.cur.skip 1)
  return { l with cur, keyAllowed := false, tokens := l.tokens.push (.directive directive) }

def readBlock (l : Layout) (folded : Bool) : Option Layout := do
  let l ← l.dropKey
  let (text, cur) ← Yaml.readBlock folded l.indents.head? (l.cur.skip 1)
  return { l with
    cur, keyAllowed := true, tokens := l.tokens.push (.scalar false (String.ofList text)) }

def readQuoted (l : Layout) (double : Bool) : Option Layout := do
  let l ← l.saveKey
  let start := l.cur.skip 1
  let (text, cur) ←
    if double then readDouble start.pos [] {} start.rest else readSingle start.pos [] {} start.rest
  return { l with
    cur, keyAllowed := false, tokens := l.tokens.push (.scalar false (String.ofList text)) }

/-- Adds a plain scalar. Behind a line break a key may begin. -/
def readPlain (l : Layout) : Option Layout := do
  let l ← l.saveKey
  let indent := match l.indents.head? with
    | some n => n + 1
    | none => 0
  let scalar ← Yaml.readPlain l.inFlow indent l.cur.pos [] {} l.cur.rest
  return { l with
    cur := scalar.cur
    keyAllowed := scalar.broken
    tokens := l.tokens.push (.scalar true (String.ofList scalar.text)) }

/-- Adds the next token, which begins with the character `c` before `rest`. -/
def readToken (l : Layout) (c : Char) (rest : List Char) : Option Layout :=
  let standsAlone := l.inFlow || endsWord rest
  if c = '%' && l.column = 0 then l.readDirective
  else if isMark l.cur.pos (c :: rest) then
    l.readMark (if c = '-' then .documentStart else .documentEnd)
  else if c = '[' then l.openBracket .openSequence
  else if c = '\x7b' then l.openBracket .openMapping
  else if c = ']' then l.closeBracket .closeSequence
  else if c = '\x7d' then l.closeBracket .closeMapping
  else if c = ',' then l.readComma
  else if c = '-' && endsWord rest then l.readItem
  else if c = '?' && standsAlone then l.readKey
  else if c = ':' && standsAlone then l.readValue
  else if c = '*' then l.readReference .alias
  else if c = '&' then l.readReference .anchor
  else if c = '!' then l.readTag
  else if c = '|' && !l.inFlow then l.readBlock false
  else if c = '>' && !l.inFlow then l.readBlock true
  else if c = '\'' then l.readQuoted false
  else if c = '"' then l.readQuoted true
  else if beginsPlain l.inFlow (c :: rest) then l.readPlain
  else none

/-- Reads the tokens up to the end of the text. -/
def readAll : Nat → Layout → Option (Array Token)
  | 0, _ => none
  | fuel + 1, l => do
    let (keyAllowed, cur) := skipSpace l.inFlow l.keyAllowed false l.cur.pos l.cur.rest
    let l ← { l with keyAllowed, cur }.dropStaleKeys
    let l := l.closeBlocks (some l.column)
    match l.cur.rest with
    | [] => return (← (l.closeBlocks none).dropKey).tokens
    | c :: rest => readAll fuel (← l.readToken c rest)

end Layout

/-- The tokens of a text. A byte order mark in front of it does not belong to it. -/
def Token.ofString? (s : String) : Option (List Token) :=
  let cs := match s.toList with
    | '\ufeff' :: rest => rest
    | cs => cs
  if cs.all isAllowed then
    (Layout.readAll (cs.length + 1) { cur := { rest := cs } }).map Array.toList
  else none

end RackTelemetry.Yaml
