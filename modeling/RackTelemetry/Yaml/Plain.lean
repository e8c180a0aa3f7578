import RackTelemetry.Yaml.Cursor

/-!
Plain scalars, which no quotes delimit. A plain scalar ends at a colon before white space, at a
comment, at the mark of a document, at a line that is not indented enough, and between brackets also
at a bracket or a comma.
-/

namespace RackTelemetry.Yaml

/-- Brackets, braces and the comma, which structure a value in brackets. -/
def isFlowIndicator (c : Char) : Bool :=
  c = ',' || c = '[' || c = ']' || c = '\x7b' || c = '\x7d'

/-- Characters that no plain scalar begins with, whatever follows. -/
def isIndicator (c : Char) : Bool :=
  isFlowIndicator c || c ∈ ['#', '&', '*', '!', '|', '>', '\'', '"', '%', '@'] || c.toNat = 0x60

/-- Whether a plain scalar begins here. A hyphen begins one before anything but a blank; a question
mark and a colon do so outside brackets and before anything but white space. -/
def beginsPlain (inFlow : Bool) : List Char → Bool
  | [] => false
  | c :: rest =>
    if c = '-' then !rest.head?.any isBlank
    else if c = '?' || c = ':' then !inFlow && !endsWord rest
    else !(isBlank c || isBreak c || isIndicator c)

/-- A plain scalar: its text, the cursor after it and the white space behind it, and whether that
white space breaks the line. -/
structure PlainScalar where
  text : List Char
  cur : Cursor
  broken : Bool
  deriving Repr, DecidableEq, Inhabited

/-- Reads a plain scalar. `text` is what was read, reversed, and `gap` the white space after it.
Lines that go on must be indented by `indent`, and not by tabs. Between brackets a colon before a
bracket or a comma is refused. -/
def readPlain (inFlow : Bool) (indent : Nat) (pos : Position) (text : List Char) (gap : Gap) :
    List Char → Option PlainScalar
  | [] => some { text := text.reverse, cur := { pos, rest := [] }, broken := gap.broken }
  | c :: rest =>
    if isBlank c then
      if gap.broken && pos.column < indent && c = '\t' then none
      else readPlain inFlow indent (pos.skip 1) text (gap.addBlank c) rest
    else if c = '\r' then
      match rest with
      | '\n' :: rest => readPlain inFlow indent (pos.newLine 2) text (gap.addBreak '\n') rest
      | rest => readPlain inFlow indent (pos.newLine 1) text (gap.addBreak '\n') rest
    else if isBreak c then
      readPlain inFlow indent (pos.newLine 1) text (gap.addBreak (breakText c)) rest
    else
      let outside := isMark pos (c :: rest) ||
        (!gap.isEmpty && ((!inFlow && pos.column < indent) || c = '#'))
      if !outside && inFlow && c = ':' &&
          rest.head?.any fun d => isFlowIndicator d || d = '?' then none
      else if outside || (c = ':' && endsWord rest) || (inFlow && isFlowIndicator c) then
        some { text := text.reverse, cur := { pos, rest := c :: rest }, broken := gap.broken }
      else readPlain inFlow indent (pos.skip 1) (c :: (gap.text.reverse ++ text)) {} rest

end RackTelemetry.Yaml
