import RackTelemetry.Json.Printer
import RackTelemetry.Journal

/-!
The journal on a console and in a file: the level in brackets, then the wording. A console shows the
level in colour unless it is told not to. In a file an event may also stand as a JSON object.
-/

namespace RackTelemetry.Journal

def levelName : Level → String
  | .trace => "TRACE"
  | .debug => "DEBUG"
  | .info => "INFO"
  | .warn => "WARN"
  | .error => "ERROR"

/-- The colour of a level: magenta, blue, green, yellow, red. -/
def colour : Level → Nat
  | .trace => 35
  | .debug => 34
  | .info => 32
  | .warn => 33
  | .error => 31

/-- A character of a message. What a terminal would act upon is shown as an escape. -/
def shownChar (c : Char) : List Char :=
  match c with
  | '\x1b' => "\\x1b".toList
  | '\x07' => "\\x07".toList
  | '\x08' => "\\x08".toList
  | '\x0c' => "\\x0c".toList
  | '\x7f' => "\\x7f".toList
  | c =>
    if 0x80 ≤ c.toNat && c.toNat ≤ 0x9f then
      ['\\', 'u', '\x7b'] ++ Text.hex c.toNat ++ ['\x7d']
    else [c]

def shownText (event : Event) : String := String.ofList (event.text.toList.flatMap shownChar)

def line (coloured : Bool) (event : Event) : String :=
  let level := "[" ++ levelName event.level ++ "]"
  let level :=
    if coloured then "\x1b[" ++ toString (colour event.level) ++ "m" ++ level ++ "\x1b[0m"
    else level
  level ++ " " ++ shownText event

def object (time : String) (event : Event) : String :=
  "\x7b\"timestamp\":" ++ Json.quote time ++ ",\"level\":" ++ Json.quote (levelName event.level) ++
    ",\"fields\":\x7b\"message\":" ++ Json.quote event.text ++ "\x7d,\"target\":" ++
    Json.quote event.source.path ++ "\x7d"

end RackTelemetry.Journal
