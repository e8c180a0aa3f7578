import RackTelemetry.Yaml.Cursor

/-!
Block scalars: lines below an indicator, indented alike. A bar keeps the line breaks, an angle folds
those between lines that begin without blanks. The last breaks are kept, cut to one, or dropped.
-/

namespace RackTelemetry.Yaml

/-- What happens to the line breaks at the end of a block scalar. -/
inductive Chomping where
  | strip
  | clip
  | keep
  deriving Repr, DecidableEq, Inhabited

def Chomping.ofSign? : Char → Option Chomping
  | '+' => some .keep
  | '-' => some .strip
  | _ => none

/-- The first line of a block scalar after its indicator: a sign, a digit for the indentation, in
either order, and perhaps a comment. -/
def readHeader? (cur : Cursor) : Option (Chomping × Option Nat × Cursor) := do
  let sign? (cur : Cursor) : Option (Chomping × Cursor) :=
    (cur.rest.head?.bind Chomping.ofSign?).map fun chomping => (chomping, cur.skip 1)
  let digit? (cur : Cursor) : Option Nat :=
    (cur.rest.head?.filter Char.isDigit).map fun c => c.toNat - '0'.toNat
  let (chomping, width, cur) : Chomping × Option Nat × Cursor :=
    match sign? cur with
    | some (chomping, cur) =>
      match digit? cur with
      | some width => (chomping, some width, cur.skip 1)
      | none => (chomping, none, cur)
    | none =>
      match digit? cur with
      | some width =>
        match sign? (cur.skip 1) with
        | some (chomping, cur) => (chomping, some width, cur)
        | none => (.clip, some width, cur.skip 1)
      | none => (.clip, none, cur)
  if width = some 0 then none else return (chomping, width, ← cur.endLine?)

/-- Reads the indentation of a line and the empty lines before it. `indent` is the indentation of
the scalar, if it is known, and `widest` the largest one met. Returns the breaks in order. -/
def readIndentation (indent : Option Nat) (widest : Nat) (breaks : List Char) (pos : Position) :
    List Char → Option (List Char × Nat × Cursor)
  | [] => some (breaks.reverse, max widest pos.column, { pos, rest := [] })
  | c :: rest =>
    let inside := indent.all fun n => pos.column < n
    if inside && c = ' ' then readIndentation indent widest breaks (pos.skip 1) rest
    else
      let widest := max widest pos.column
      if inside && c = '\t' then none
      else if c = '\r' then
        match rest with
        | '\n' :: rest => readIndentation indent widest ('\n' :: breaks) (pos.newLine 2) rest
        | rest => readIndentation indent widest ('\n' :: breaks) (pos.newLine 1) rest
      else if isBreak c then
        readIndentation indent widest (breakText c :: breaks) (pos.newLine 1) rest
      else some (breaks.reverse, widest, { pos, rest := c :: rest })

/-- The part of a block scalar that was read: its text, reversed, the break at the end of the last
line, the empty lines after it, and whether the last line began with a blank. -/
structure BlockText where
  text : List Char := []
  lastBreak : List Char := []
  breaks : List Char := []
  blankLine : Bool := false
  deriving Repr, DecidableEq, Inhabited

/-- Puts a line below what was read. Where lines are folded, a break between two lines without
blanks in front counts as a space, or as nothing before empty lines. -/
def BlockText.addLine (block : BlockText) (folded : Bool) (line lastBreak breaks : List Char) :
    BlockText :=
  let blankLine := line.head?.any isBlank
  let joint :=
    if folded && block.lastBreak = ['\n'] && !block.blankLine && !blankLine then
      if block.breaks.isEmpty then [' '] else []
    else block.lastBreak
  let text := line.reverse ++ (block.breaks.reverse ++ (joint ++ block.text))
  { text, lastBreak, breaks, blankLine }

def readLines (folded : Bool) (indent : Nat) :
    Nat → BlockText → Cursor → Option (BlockText × Cursor)
  | 0, _, _ => none
  | fuel + 1, block, cur =>
    if cur.pos.column = indent && !cur.rest.isEmpty then do
      let (line, cur) := cur.takeWhile fun c => !isBreak c
      let (lastBreak, cur) : List Char × Cursor :=
        match leadingBreak? cur.rest with
        | some (c, width) => ([c], { pos := cur.pos.newLine width, rest := cur.rest.drop width })
        | none => ([], cur)
      let (breaks, _, cur) ← readIndentation (some indent) 0 [] cur.pos cur.rest
      readLines folded indent fuel (block.addLine folded line lastBreak breaks) cur
    else some (block, cur)

/-- Reads a block scalar after its indicator. Its lines are indented further than `parent`, the
indentation of what it belongs to, by the given width or as its first line is. -/
def readBlock (folded : Bool) (parent : Option Nat) (cur : Cursor) :
    Option (List Char × Cursor) := do
  let (chomping, width, cur) ← readHeader? cur
  let given := width.map fun n => parent.getD 0 + n
  let (breaks, widest, cur) ← readIndentation given 0 [] cur.pos cur.rest
  let indent := given.getD (max widest (match parent with
    | some n => n + 1
    | none => 1))
  let (block, cur) ← readLines folded indent (cur.rest.length + 1) { breaks } cur
  let tail :=
    match chomping with
    | .strip => []
    | .clip => block.lastBreak
    | .keep => block.lastBreak ++ block.breaks
  return (block.text.reverse ++ tail, cur)

end RackTelemetry.Yaml
