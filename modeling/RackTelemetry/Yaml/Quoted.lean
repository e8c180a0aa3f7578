import RackTelemetry.Json.Reader
import RackTelemetry.Yaml.Cursor

/-!
Quoted scalars. Between single quotes only a doubled quote is special. Between double quotes a
backslash begins an escape. Both may go on over several lines, whose gaps are folded.
-/

namespace RackTelemetry.Yaml

def escaped? : Char → Option Char
  | '0' => some '\x00'
  | 'a' => some '\x07'
  | '\t' => some '\t'
  | 'v' => some '\x0b'
  | 'e' => some '\x1b'
  | ' ' => some ' '
  | 'N' => some '\x85'
  | '_' => some '\xa0'
  | 'L' => some '\u2028'
  | 'P' => some '\u2029'
  | c => Json.escaped? c

def codePoint? (digits : List Char) : Option Char := do
  let n ← digits.foldlM (fun sum c => (Json.hexDigit? c).map (sum * 16 + ·)) 0
  if n < 0xd800 ∨ (0xdfff < n ∧ n < 0x110000) then some (Char.ofNat n) else none

/-- Reads a single-quoted scalar after its opening quote. `text` is what was read, reversed, and
`gap` the white space after it. -/
def readSingle (pos : Position) (text : List Char) (gap : Gap) :
    List Char → Option (List Char × Cursor)
  | [] => none
  | c :: rest =>
    if isMark pos (c :: rest) then none
    else if isBlank c then readSingle (pos.skip 1) text (gap.addBlank c) rest
    else if c = '\r' then
      match rest with
      | '\n' :: rest => readSingle (pos.newLine 2) text (gap.addBreak '\n') rest
      | rest => readSingle (pos.newLine 1) text (gap.addBreak '\n') rest
    else if isBreak c then readSingle (pos.newLine 1) text (gap.addBreak (breakText c)) rest
    else
      let text := gap.text.reverse ++ text
      if c = '\'' then
        match rest with
        | '\'' :: rest => readSingle (pos.skip 2) ('\'' :: text) {} rest
        | rest => some (text.reverse, { pos := pos.skip 1, rest })
      else readSingle (pos.skip 1) (c :: text) {} rest

/-- Reads a double-quoted scalar after its opening quote. `text` is what was read, reversed, and
`gap` the white space after it. -/
def readDouble (pos : Position) (text : List Char) (gap : Gap) :
    List Char → Option (List Char × Cursor)
  | [] => none
  | c :: rest =>
    if isMark pos (c :: rest) then none
    else if isBlank c then readDouble (pos.skip 1) text (gap.addBlank c) rest
    else if c = '\r' then
      match rest with
      | '\n' :: rest => readDouble (pos.newLine 2) text (gap.addBreak '\n') rest
      | rest => readDouble (pos.newLine 1) text (gap.addBreak '\n') rest
    else if isBreak c then readDouble (pos.newLine 1) text (gap.addBreak (breakText c)) rest
    else
      let text := gap.text.reverse ++ text
      if c = '"' then some (text.reverse, { pos := pos.skip 1, rest })
      else if c = '\\' then
        match rest with
        | '\r' :: '\n' :: rest => readDouble ((pos.skip 1).newLine 2) text .escaped rest
        | 'x' :: a :: b :: rest => do
          readDouble (pos.skip 4) ((← codePoint? [a, b]) :: text) {} rest
        | 'u' :: a :: b :: c :: d :: rest => do
          readDouble (pos.skip 6) ((← codePoint? [a, b, c, d]) :: text) {} rest
        | 'U' :: a :: b :: c :: d :: e :: f :: g :: h :: rest => do
          readDouble (pos.skip 10) ((← codePoint? [a, b, c, d, e, f, g, h]) :: text) {} rest
        | e :: rest =>
          if isBreak e then readDouble ((pos.skip 1).newLine 1) text .escaped rest
          else do readDouble (pos.skip 2) ((← escaped? e) :: text) {} rest
        | [] => none
      else readDouble (pos.skip 1) (c :: text) {} rest

end RackTelemetry.Yaml
