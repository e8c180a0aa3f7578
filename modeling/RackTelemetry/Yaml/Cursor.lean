/-!
Positions in YAML text, the classes of its characters, and the gaps between the words of a scalar. A
gap of blanks is kept as it is; a gap with line breaks is folded: one break counts as a space, and
of more breaks the first one does not count.
-/

namespace RackTelemetry.Yaml

/-- A place in a text, counted in characters. -/
structure Position where
  index : Nat := 0
  line : Nat := 0
  column : Nat := 0
  deriving Repr, DecidableEq, Inhabited

def Position.skip (pos : Position) (count : Nat) : Position :=
  { pos with index := pos.index + count, column := pos.column + count }

/-- The place at the beginning of the next line, after a line break of some characters. -/
def Position.newLine (pos : Position) (width : Nat) : Position :=
  { index := pos.index + width, line := pos.line + 1, column := 0 }

/-- A place, and the text that begins there. -/
structure Cursor where
  pos : Position := {}
  rest : List Char
  deriving Repr, DecidableEq, Inhabited

def Cursor.skip (cur : Cursor) (count : Nat) : Cursor :=
  { pos := cur.pos.skip count, rest := cur.rest.drop count }

/-- The characters up to the first one that is not wanted, and the cursor after them. Line breaks
must not be wanted. -/
def Cursor.takeWhile (cur : Cursor) (wanted : Char → Bool) : List Char × Cursor :=
  let taken := cur.rest.takeWhile wanted
  (taken, cur.skip taken.length)

def isAllowed (c : Char) : Bool :=
  let n := c.toNat
  n = 0x9 || n = 0xa || n = 0xd || (0x20 ≤ n && n ≤ 0x7e) || n = 0x85 || (0xa0 ≤ n && n ≤ 0xd7ff) ||
    (0xe000 ≤ n && n ≤ 0xfffd) || 0x10000 ≤ n

def isBlank (c : Char) : Bool := c = ' ' || c = '\t'

/-- A line break: carriage return, line feed, next line, line separator, paragraph separator. -/
def isBreak (c : Char) : Bool :=
  c = '\n' || c = '\r' || c = '\x85' || c = '\u2028' || c = '\u2029'

/-- The text of a line break. The two separators stay what they are. -/
def breakText (c : Char) : Char := if c = '\u2028' || c = '\u2029' then c else '\n'

/-- Letters, digits, hyphens and underscores, which names are made of. -/
def isNameChar (c : Char) : Bool := c.isAlphanum || c = '-' || c = '_'

/-- Whether a word cannot go on: a blank, a line break or the end of the text is next. -/
def endsWord (cs : List Char) : Bool := cs.head?.all fun c => isBlank c || isBreak c

/-- The line break that a text begins with, and how many characters it takes. -/
def leadingBreak? : List Char → Option (Char × Nat)
  | '\r' :: '\n' :: _ => some ('\n', 2)
  | c :: _ => if isBreak c then some (breakText c, 1) else none
  | [] => none

/-- Whether a line begins with three hyphens or three points that stand alone: a document begins or
ends. -/
def isMark (pos : Position) (cs : List Char) : Bool :=
  pos.column = 0 && (cs.take 3 = ['-', '-', '-'] || cs.take 3 = ['.', '.', '.']) &&
    endsWord (cs.drop 3)

/-- The cursor behind blanks, a comment and the line break after them; `none` if something else
stands there. -/
def Cursor.endLine? (cur : Cursor) : Option Cursor :=
  let (_, cur) := cur.takeWhile isBlank
  let cur := if cur.rest.head? = some '#' then (cur.takeWhile fun c => !isBreak c).2 else cur
  match leadingBreak? cur.rest with
  | some (_, width) => some { pos := cur.pos.newLine width, rest := cur.rest.drop width }
  | none => if cur.rest.isEmpty then some cur else none

/-- White space between the words of a scalar, up to here. Lists are reversed. A line break that is
escaped leaves no trace. -/
structure Gap where
  blanks : List Char := []
  broken : Bool := false
  firstBreak : Option Char := none
  moreBreaks : List Char := []
  deriving Repr, DecidableEq, Inhabited

namespace Gap

def isEmpty (gap : Gap) : Bool := gap.blanks.isEmpty && !gap.broken

/-- A blank at the end of a gap. At the beginning of a line it does not count. -/
def addBlank (gap : Gap) (c : Char) : Gap :=
  if gap.broken then gap else { gap with blanks := c :: gap.blanks }

def addBreak (gap : Gap) (c : Char) : Gap :=
  if gap.broken then { gap with moreBreaks := c :: gap.moreBreaks }
  else { broken := true, firstBreak := some c }

def escaped : Gap := { broken := true }

/-- What a gap contributes to the text of a scalar. -/
def text (gap : Gap) : List Char :=
  if gap.broken then
    match gap.firstBreak with
    | some '\n' => if gap.moreBreaks.isEmpty then [' '] else gap.moreBreaks.reverse
    | some c => c :: gap.moreBreaks.reverse
    | none => gap.moreBreaks.reverse
  else gap.blanks.reverse

end Gap

example : (((({} : Gap).addBlank ' ').addBreak '\n').addBlank ' ').text = [' '] := rfl

example : ((({} : Gap).addBreak '\n').addBreak '\n').text = ['\n'] := rfl

end RackTelemetry.Yaml
