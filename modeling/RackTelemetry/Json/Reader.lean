import RackTelemetry.Json.Basic
import RackTelemetry.Number.Real

/-!
Reading documents, strictly by RFC 8259: no text after the document, no comments, no control
characters and no lone surrogates in strings, at most 127 containers inside each other. A name that
is repeated in an object keeps its first place and its last value.
-/

namespace RackTelemetry.Json

/-- How a document is read. A document whose value is used is read strictly. A document that is only
passed over may nest without bound, and its numbers and escapes may denote nothing. -/
inductive Reading where
  | strict
  | passing
  deriving Repr, DecidableEq, Inhabited

def skipSpace (cs : List Char) : List Char :=
  cs.dropWhile fun c => c = ' ' || c = '\t' || c = '\n' || c = '\r'

def hexDigit? (c : Char) : Option Nat :=
  if c.isDigit then some (c.toNat - '0'.toNat)
  else if 'a' ≤ c ∧ c ≤ 'f' then some (c.toNat - 'a'.toNat + 10)
  else if 'A' ≤ c ∧ c ≤ 'F' then some (c.toNat - 'A'.toNat + 10)
  else none

def hexUnit? (a b c d : Char) : Option Nat := do
  let a ← hexDigit? a
  let b ← hexDigit? b
  let c ← hexDigit? c
  let d ← hexDigit? d
  return ((a * 16 + b) * 16 + c) * 16 + d

/-- The character that a one-letter escape stands for. -/
def escaped? : Char → Option Char
  | '"' => some '"'
  | '\\' => some '\\'
  | '/' => some '/'
  | 'b' => some '\x08'
  | 'f' => some '\x0c'
  | 'n' => some '\n'
  | 'r' => some '\r'
  | 't' => some '\t'
  | _ => none

/-- A part of a string: a character, or the code unit of an escape in hexadecimal. -/
inductive StringPart where
  | char (c : Char)
  | unit (n : Nat)

/-- The parts of a string up to its closing quote, and the input after it. -/
def stringParts : List Char → Option (List StringPart × List Char)
  | [] => none
  | '"' :: rest => some ([], rest)
  | '\\' :: 'u' :: a :: b :: c :: d :: rest => do
    let n ← hexUnit? a b c d
    let (parts, rest) ← stringParts rest
    return (.unit n :: parts, rest)
  | '\\' :: c :: rest => do
    let c ← escaped? c
    let (parts, rest) ← stringParts rest
    return (.char c :: parts, rest)
  | c :: rest =>
    if c.toNat < 0x20 then none
    else do
      let (parts, rest) ← stringParts rest
      return (.char c :: parts, rest)

/-- The characters of a string. Two units of a surrogate pair make one character; a surrogate alone
makes none, and is replaced where the value is not used. -/
def joinParts (reading : Reading) : List StringPart → Option (List Char)
  | [] => some []
  | .char c :: rest => (joinParts reading rest).map (c :: ·)
  | .unit high :: .unit low :: rest =>
    if 0xd800 ≤ high ∧ high < 0xdc00 ∧ 0xdc00 ≤ low ∧ low < 0xe000 then
      (joinParts reading rest).map
        (Char.ofNat (0x10000 + (high - 0xd800) * 0x400 + (low - 0xdc00)) :: ·)
    else if 0xd800 ≤ high ∧ high < 0xe000 ∧ reading = .strict then none
    else (joinParts reading (.unit low :: rest)).map (Char.ofNat high :: ·)
  | .unit n :: rest =>
    if 0xd800 ≤ n ∧ n < 0xe000 ∧ reading = .strict then none
    else (joinParts reading rest).map (Char.ofNat n :: ·)

/-- A string after its opening quote, and the input after it. -/
def readString (reading : Reading) (cs : List Char) : Option (String × List Char) := do
  let (parts, rest) ← stringParts cs
  let chars ← joinParts reading parts
  return (String.ofList chars, rest)

/-- The number `m * 10 ^ e`, scaled in double precision; none where it overflows. -/
def scaled (m : Nat) (e : Int) : Option Float :=
  let f := (UInt64.ofNat m).toFloat
  let power (k : Nat) : Float := Number.decimal 1 k
  if 0 ≤ e then
    if e ≤ 308 then
      let x := f * power e.toNat
      if x.isInf then none else some x
    else if m = 0 then some 0
    else none
  else
    let k := (-e).toNat
    if k ≤ 308 then some (f / power k)
    else if k ≤ 616 then some (f / power 308 / power (k - 308))
    else some 0

/-- As many leading digits as a number of 64 bits holds, and the digits left over. -/
def takeWord (sum : Nat) : List Char → Nat × List Char
  | [] => (sum, [])
  | c :: cs =>
    let next := sum * 10 + (c.toNat - '0'.toNat)
    if next ≤ Number.maxWord then takeWord next cs else (sum, c :: cs)

/-- An exponent after its letter: an optional sign, one or more digits, and the input after them. -/
def readExponent (cs : List Char) : Option (Int × List Char) :=
  let (negative, cs) : Bool × List Char :=
    match cs with
    | '-' :: rest => (true, rest)
    | '+' :: rest => (false, rest)
    | rest => (false, rest)
  let digits := cs.takeWhile Char.isDigit
  let n : Nat := digits.foldl (fun sum c => sum * 10 + (c.toNat - '0'.toNat)) 0
  if digits.isEmpty then none
  else some (if negative then -(n : Int) else n, cs.dropWhile Char.isDigit)

/-- A number without point and exponent. Minus zero and numbers beyond 64 bits are double-precision.
-/
def wholeNumber (negative : Bool) (digits : List Char) : Option Json :=
  let (m, dropped) := takeWord 0 digits
  if !dropped.isEmpty then
    (scaled m dropped.length).map fun x => .real (if negative then -x else x)
  else if negative then
    if m = 0 ∨ Number.maxInt + 1 < m then some (.real (-(UInt64.ofNat m).toFloat))
    else some (.integer (-(m : Int)))
  else some (.integer m)

/-- A number, and the input after it. The digits that fit in 64 bits are read as one integer, which
is then scaled; the digits after them only count as places. -/
def readNumber (reading : Reading) (cs : List Char) : Option (Json × List Char) := do
  let (negative, cs) : Bool × List Char :=
    match cs with
    | '-' :: rest => (true, rest)
    | rest => (false, rest)
  let whole := cs.takeWhile Char.isDigit
  let rest := cs.dropWhile Char.isDigit
  if whole.isEmpty || (whole.head? = some '0' && whole.length != 1) then none
  else
    let (places, rest, isReal) ← (match rest with
      | '.' :: rest =>
        let places := rest.takeWhile Char.isDigit
        if places.isEmpty then none else some (places, rest.dropWhile Char.isDigit, true)
      | rest => some ([], rest, false) : Option (List Char × List Char × Bool))
    let (e, rest, isReal) ← (match rest with
      | c :: after =>
        if c = 'e' ∨ c = 'E' then (readExponent after).map fun (e, rest) => (e, rest, true)
        else some (0, c :: after, isReal)
      | [] => some (0, [], isReal) : Option (Int × List Char × Bool))
    if reading = .passing then return (.null, rest)
    else if !isReal then return (← wholeNumber negative whole, rest)
    else
      let (m, dropped) := takeWord 0 whole
      let (m, left) := takeWord m places
      let x ← scaled m (dropped.length - (places.length - left.length : Nat) + e)
      return (.real (if negative then -x else x), rest)

/-- How many containers may be open at once. -/
def depthLimit : Nat := 127

mutual

/-- A value, and the input after it. `depth` more containers may be opened. -/
def readValue (reading : Reading) : Nat → Nat → List Char → Option (Json × List Char)
  | 0, _, _ => none
  | fuel + 1, depth, cs =>
    match skipSpace cs with
    | 'n' :: 'u' :: 'l' :: 'l' :: rest => some (.null, rest)
    | 't' :: 'r' :: 'u' :: 'e' :: rest => some (.bool true, rest)
    | 'f' :: 'a' :: 'l' :: 's' :: 'e' :: rest => some (.bool false, rest)
    | '"' :: rest => (readString reading rest).map fun (s, rest) => (.text s, rest)
    | '[' :: rest =>
      if depth = 0 then none
      else match skipSpace rest with
        | ']' :: rest => some (.list [], rest)
        | rest => (readItems reading fuel (depth - 1) rest).map fun (xs, rest) => (.list xs, rest)
    | '\x7b' :: rest =>
      if depth = 0 then none
      else match skipSpace rest with
        | '\x7d' :: rest => some (.object [], rest)
        | rest => (readMembers reading fuel (depth - 1) [] rest).map
            fun (ms, rest) => (.object ms, rest)
    | rest => readNumber reading rest

/-- The items of a list up to its closing bracket, at least one. -/
def readItems (reading : Reading) : Nat → Nat → List Char → Option (List Json × List Char)
  | 0, _, _ => none
  | fuel + 1, depth, cs => do
    let (x, rest) ← readValue reading fuel depth cs
    match skipSpace rest with
    | ',' :: rest =>
      let (xs, rest) ← readItems reading fuel depth rest
      return (x :: xs, rest)
    | ']' :: rest => return ([x], rest)
    | _ => none

/-- The members of an object up to its closing brace, at least one, put after those `before`. -/
def readMembers (reading : Reading) : Nat → Nat → List (String × Json) → List Char →
    Option (List (String × Json) × List Char)
  | 0, _, _, _ => none
  | fuel + 1, depth, before, cs =>
    match skipSpace cs with
    | '"' :: rest => do
      let (name, rest) ← readString reading rest
      match skipSpace rest with
      | ':' :: rest =>
        let (value, rest) ← readValue reading fuel depth rest
        let members := put name value before
        match skipSpace rest with
        | ',' :: rest => readMembers reading fuel depth members rest
        | '\x7d' :: rest => return (members, rest)
        | _ => none
      | _ => none
    | _ => none

end

/-- Steps that are enough to read a value from this input: each container and each item takes one.
-/
def stepsFor (cs : List Char) : Nat := 2 * cs.length + 2

def ofChars? (cs : List Char) : Option Json :=
  match readValue .strict (stepsFor cs) depthLimit cs with
  | some (document, rest) => if (skipSpace rest).isEmpty then some document else none
  | none => none

def ofString? (s : String) : Option Json := ofChars? s.toList

/-- The document that bytes write; they must be UTF-8. -/
def ofBytes? (bytes : ByteArray) : Option Json := (String.fromUTF8? bytes).bind ofString?

end RackTelemetry.Json
