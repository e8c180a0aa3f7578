import RackTelemetry.Json.Reader
import RackTelemetry.Number.Real
import RackTelemetry.Text.Blank

/-!
Values of environment variables: truth values, numbers, characters between single quotes, texts
between double quotes, lists in brackets, mappings in braces, and any other words. What does not
follow these rules is a text as a whole.
-/

namespace RackTelemetry.Variable

/-- White space of ASCII between the parts of a value. The vertical tab is none. -/
def isSpace (c : Char) : Bool :=
  c = ' ' || c = '\t' || c = '\n' || c = '\r' || c = '\x0c'

/-- Commas, brackets and braces, which words do not contain. -/
def isSeparator (c : Char) : Bool := c = ',' || c = '[' || c = ']' || c = '\x7b' || c = '\x7d'

def isNameChar (c : Char) : Bool := c.isAlphanum || c = '_' || c = '-'

def skipSpace (cs : List Char) : List Char := cs.dropWhile isSpace

def codePoint? (digits : List Char) : Option Char := do
  let n ← digits.foldlM (fun sum c => (Json.hexDigit? c).map (sum * 16 + ·)) 0
  if n < 0xd800 ∨ (0xdfff < n ∧ n < 0x110000) then some (Char.ofNat n) else none

/-- A text after its opening quote, and what follows its closing quote. Of the control characters
only the tab stands for itself. -/
def readText : List Char → Option (List Char × List Char)
  | [] => none
  | '"' :: rest => some ([], rest)
  | '\\' :: 'u' :: a :: b :: c :: d :: rest => do
    let character ← codePoint? [a, b, c, d]
    let (cs, rest) ← readText rest
    return (character :: cs, rest)
  | '\\' :: 'U' :: a :: b :: c :: d :: e :: f :: g :: h :: rest => do
    let character ← codePoint? [a, b, c, d, e, f, g, h]
    let (cs, rest) ← readText rest
    return (character :: cs, rest)
  | '\\' :: c :: rest => do
    let character ← if c = '/' then none else Json.escaped? c
    let (cs, rest) ← readText rest
    return (character :: cs, rest)
  | c :: rest =>
    if (c.toNat < 0x20 && c != '\t') || c = '\x7f' then none
    else do
      let (cs, rest) ← readText rest
      return (c :: cs, rest)

/-- The value of a word: a number with a point, an integer of 64 bits, or a text. -/
def wordValue (word : String) : Json :=
  match if word.toList.contains '.' then Number.readReal word else none with
  | some x => .real x
  | none =>
    match Number.readNat word, Number.readInt word with
    | .ok n, _ => .integer n
    | _, .ok i => .integer i
    | _, _ => .text word

def readName : List Char → Option (String × List Char)
  | '"' :: rest => (readText rest).map fun (cs, rest) => (String.ofList cs, rest)
  | cs =>
    let name := cs.takeWhile isNameChar
    if name.isEmpty then none else some (String.ofList name, cs.dropWhile isNameChar)

mutual

/-- A value, and what follows it and the white space after it. -/
def readValue : Nat → List Char → Option (Json × List Char)
  | 0, _ => none
  | fuel + 1, cs => do
    let (value, rest) ← (match skipSpace cs with
      | 't' :: 'r' :: 'u' :: 'e' :: rest => some (.bool true, rest)
      | 'f' :: 'a' :: 'l' :: 's' :: 'e' :: rest => some (.bool false, rest)
      | '\x7b' :: rest => (readMembers fuel [] rest).map fun (ms, rest) => (.object ms, rest)
      | '[' :: rest => (readItems fuel rest).map fun (items, rest) => (.list items, rest)
      | '"' :: rest => (readText rest).map fun (cs, rest) => (.text (String.ofList cs), rest)
      | '\'' :: rest =>
        match rest with
        | c :: '\'' :: rest => some (.text (String.singleton c), rest)
        | _ => none
      | rest =>
        let word := rest.takeWhile fun c => !isSeparator c
        some (wordValue (Text.trim (String.ofList word)), rest.drop word.length) :
        Option (Json × List Char))
    return (value, skipSpace rest)

/-- The items of a list up to its closing bracket. A comma may stand after the last one. -/
def readItems : Nat → List Char → Option (List Json × List Char)
  | 0, _ => none
  | _ + 1, ']' :: rest => some ([], rest)
  | fuel + 1, cs => do
    let (item, rest) ← readValue fuel cs
    match rest with
    | ',' :: rest =>
      let (items, rest) ← readItems fuel rest
      return (item :: items, rest)
    | ']' :: rest => return ([item], rest)
    | _ => none

/-- The members of a mapping up to its closing brace, put after those `before`. A comma may stand
after the last one. -/
def readMembers : Nat → List (String × Json) → List Char →
    Option (List (String × Json) × List Char)
  | 0, _, _ => none
  | _ + 1, before, '\x7d' :: rest => some (before, rest)
  | fuel + 1, before, cs => do
    let (name, rest) ← readName (skipSpace cs)
    match skipSpace rest with
    | '=' :: rest =>
      let (value, rest) ← readValue fuel rest
      let members := Json.put name value before
      match rest with
      | ',' :: rest => readMembers fuel members rest
      | '\x7d' :: rest => return (members, rest)
      | _ => none
    | _ => none

end

def valueOf (written : String) : Json :=
  let cs := written.toList
  match readValue (2 * cs.length + 2) cs with
  | some (value, []) => value
  | _ => .text written

end RackTelemetry.Variable
