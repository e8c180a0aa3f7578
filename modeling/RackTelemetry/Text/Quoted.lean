import RackTelemetry.Text.Printable

/-!
The quoted form of a text, in which error messages and log lines show a value: in double quotes, on
one line, with every character that has no glyph of its own written as an escape.
-/

namespace RackTelemetry.Text

/-- The lower-case hexadecimal digits of a number, without leading zeros. -/
def hex (n : Nat) : List Char := Nat.toDigits 16 n

/-- One character of a quoted text. An apostrophe is escaped only where `apostrophe` asks for it. -/
def quoteChar (apostrophe : Bool) (c : Char) : List Char :=
  match c with
  | '\x00' => ['\\', '0']
  | '\t' => ['\\', 't']
  | '\r' => ['\\', 'r']
  | '\n' => ['\\', 'n']
  | '\\' => ['\\', '\\']
  | '"' => ['\\', '"']
  | c =>
    if c = '\'' && apostrophe then ['\\', '\'']
    else if isPrintable c then [c]
    else ['\\', 'u', '\x7b'] ++ hex c.toNat ++ ['\x7d']

/-- The quoted form of a value in a message: apostrophes stand as they are. -/
def quote (s : String) : String :=
  String.ofList ('"' :: (s.toList.flatMap (quoteChar false) ++ ['"']))

/-- The quoted form of a file path: apostrophes are escaped too. -/
def quotePath (s : String) : String :=
  String.ofList ('"' :: (s.toList.flatMap (quoteChar true) ++ ['"']))

example : quote "a\"b\\c\n'\u200b" = "\"a\\\"b\\\\c\\n'\\u\x7b200b\x7d\"" := by decide +kernel
example : quotePath "it's" = "\"it\\'s\"" := by decide +kernel

end RackTelemetry.Text
