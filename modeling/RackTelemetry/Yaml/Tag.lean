import RackTelemetry.Json.Reader
import RackTelemetry.Yaml.Cursor

/-!
Tags and directives. A tag names the type of a value by a handle and a suffix; a directive says
which version of the language a document is in, or what a handle stands for.
-/

namespace RackTelemetry.Yaml

/-- A tag as it is written: a handle, and a suffix. A tag written in full has no handle. -/
structure Tag where
  handle : String
  suffix : String
  deriving Repr, DecidableEq, Inhabited

inductive Directive where
  | version (major minor : Nat)
  | handle (handle stem : String)
  deriving Repr, DecidableEq, Inhabited

/-- Characters of a tag. Those that structure values in brackets stand only in one written in full.
-/
def isTagChar (inFull : Bool) (c : Char) : Bool :=
  isNameChar c ||
    c ∈ [';', '/', '?', ':', '@', '&', '=', '+', '$', '.', '%', '!', '~', '*', '\'', '(', ')'] ||
    (inFull && (c = ',' || c = '[' || c = ']'))

def escapedByte? : List Char → Option (UInt8 × List Char)
  | '%' :: a :: b :: rest => (Json.hexUnit? '0' '0' a b).map fun n => (n.toUInt8, rest)
  | _ => none

/-- How many bytes a character takes that begins with this one. -/
def byteWidth? (byte : UInt8) : Option Nat :=
  if byte &&& 0x80 = 0 then some 1
  else if byte &&& 0xe0 = 0xc0 then some 2
  else if byte &&& 0xf0 = 0xe0 then some 3
  else if byte &&& 0xf8 = 0xf0 then some 4
  else none

/-- Replaces the escapes in the characters of a tag. The bytes of one character follow each other.
-/
def unescape : Nat → List Char → Option (List UInt8)
  | 0, _ => none
  | _ + 1, [] => some []
  | fuel + 1, '%' :: rest => do
    let (byte, rest) ← escapedByte? ('%' :: rest)
    let width ← byteWidth? byte
    let (more, rest) ← (List.range (width - 1)).foldlM (fun (bytes, rest) _ => do
      let (byte, rest) ← escapedByte? rest
      if byte &&& 0xc0 = 0x80 then return (bytes ++ [byte], rest) else none) ([], rest)
    return byte :: more ++ (← unescape fuel rest)
  | fuel + 1, c :: rest => do
    return (String.singleton c).toUTF8.toList ++ (← unescape fuel rest)

/-- The text that the characters of a tag write. Bytes that make no text are replaced. -/
def tagText? (cs : List Char) : Option String := do
  let bytes ← unescape (cs.length + 1) cs
  return (String.fromUTF8? ⟨bytes.toArray⟩).getD "\ufffd"

/-- Reads the characters of a tag, after those of its beginning. There must be at least one of both
together. -/
def readTagText (inFull : Bool) (beginning : List Char) (cur : Cursor) :
    Option (String × Cursor) := do
  let (cs, cur) := cur.takeWhile (isTagChar inFull)
  if beginning.isEmpty && cs.isEmpty then none
  else return (String.ofList (beginning.drop 1) ++ (← tagText? cs), cur)

/-- Reads a handle: an exclamation mark, and perhaps a name and another one. -/
def readHandle (cur : Cursor) : Option (List Char × Cursor) :=
  if cur.rest.head? = some '!' then
    let (name, cur) := (cur.skip 1).takeWhile isNameChar
    if cur.rest.head? = some '!' then some ('!' :: name ++ ['!'], cur.skip 1)
    else some ('!' :: name, cur)
  else none

def readTag (inFlow : Bool) (cur : Cursor) : Option (Tag × Cursor) := do
  let (tag, cur) ← (
    if cur.rest.take 2 = ['!', '<'] then do
      let (suffix, cur) ← readTagText true [] (cur.skip 2)
      if cur.rest.head? = some '>' then return ({ handle := "", suffix }, cur.skip 1) else none
    else do
      let (handle, after) ← readHandle cur
      if 1 < handle.length && handle.getLast? = some '!' then
        let (suffix, cur) ← readTagText false [] after
        return ({ handle := String.ofList handle, suffix }, cur)
      else
        let (suffix, cur) ← readTagText false handle after
        if suffix.isEmpty then return ({ handle := "", suffix := "!" }, cur)
        else return ({ handle := "!", suffix }, cur) : Option (Tag × Cursor))
  if (inFlow && cur.rest.head? = some ',') || endsWord cur.rest then return (tag, cur) else none

def readVersionNumber (cur : Cursor) : Option (Nat × Cursor) :=
  let (digits, cur) := cur.takeWhile Char.isDigit
  if digits.isEmpty || 9 < digits.length then none
  else some (digits.foldl (fun n c => n * 10 + (c.toNat - '0'.toNat)) 0, cur)

/-- Reads a directive after its percent sign, up to the next line. -/
def readDirective (cur : Cursor) : Option (Directive × Cursor) := do
  let (name, cur) := cur.takeWhile isNameChar
  if !endsWord cur.rest then none
  else
    let (_, cur) := cur.takeWhile isBlank
    if name = "YAML".toList then
      let (major, cur) ← readVersionNumber cur
      if cur.rest.head? != some '.' then none
      else
        let (minor, cur) ← readVersionNumber (cur.skip 1)
        return (.version major minor, ← cur.endLine?)
    else if name = "TAG".toList then
      let (handle, cur) ← readHandle cur
      if handle.length != 1 && handle.getLast? != some '!' then none
      else if !cur.rest.head?.any isBlank then none
      else
        let (_, cur) := cur.takeWhile isBlank
        let (stem, cur) ← readTagText true [] cur
        if endsWord cur.rest then return (.handle (String.ofList handle) stem, ← cur.endLine?)
        else none
    else none

end RackTelemetry.Yaml
