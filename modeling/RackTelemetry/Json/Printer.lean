import RackTelemetry.Json.Basic
import RackTelemetry.Number.Shortest

/-!
The written form of documents. Of the characters of a string only the quote, the backslash and
control characters are escaped. A document is written without white space.
-/

namespace RackTelemetry

namespace Json

def escapeChar (c : Char) : List Char :=
  match c with
  | '"' => ['\\', '"']
  | '\\' => ['\\', '\\']
  | '\x08' => ['\\', 'b']
  | '\x0c' => ['\\', 'f']
  | '\n' => ['\\', 'n']
  | '\r' => ['\\', 'r']
  | '\t' => ['\\', 't']
  | c =>
    if c.toNat < 0x20 then
      ['\\', 'u', '0', '0', Nat.digitChar (c.toNat / 16), Nat.digitChar (c.toNat % 16)]
    else [c]

def quote (s : String) : String :=
  String.ofList ('"' :: (s.toList.flatMap escapeChar ++ ['"']))

mutual

def chars : Json → List Char
  | .null => ['n', 'u', 'l', 'l']
  | .bool true => ['t', 'r', 'u', 'e']
  | .bool false => ['f', 'a', 'l', 's', 'e']
  | .integer i => (toString i).toList
  | .real x => Number.shortest x
  | .text s => (quote s).toList
  | .list [] => ['[', ']']
  | .list (item :: items) => '[' :: (chars item ++ charsOfItems items)
  | .object [] => ['\x7b', '\x7d']
  | .object ((name, value) :: members) =>
    '\x7b' :: ((quote name).toList ++ ':' :: (chars value ++ charsOfMembers members))

/-- The items of a list after the first one, and its closing bracket. -/
def charsOfItems : List Json → List Char
  | [] => [']']
  | item :: items => ',' :: (chars item ++ charsOfItems items)

/-- The members of an object after the first one, and its closing brace. -/
def charsOfMembers : List (String × Json) → List Char
  | [] => ['\x7d']
  | (name, value) :: members =>
    ',' :: ((quote name).toList ++ ':' :: (chars value ++ charsOfMembers members))

end

/-- The text of a document. -/
def print (document : Json) : String := String.ofList document.chars

end Json

end RackTelemetry
