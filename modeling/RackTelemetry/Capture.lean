import RackTelemetry.Engine
import RackTelemetry.Json.Printer

/-!
Captures: recorded messages, one on a line. Blank lines and lines that begin with a number sign are
passed over, and so are lines that are no records.
-/

namespace RackTelemetry

/-- A recorded message. -/
structure CaptureRecord where
  topic : String
  payload : Engine.Payload
  deriving Inhabited

namespace CaptureRecord

/-- The payload that was recorded as a document: a string is the raw text of the message, any other
document is written anew. Its numbers are then read for a second time, and a double-precision number
may come out as a neighbour of what it was. -/
def payloadOf : Json → Engine.Payload
  | .text s => .raw s.toUTF8
  | document => .raw document.print.toUTF8

/-- The members of a record up to its closing brace, and the input after it. A member may be given
once. Other members are passed over. -/
def readMembers : Nat → Option String → Option Json → List Char →
    Option (Option String × Option Json × List Char)
  | 0, _, _, _ => none
  | fuel + 1, topic, payload, cs =>
    match Json.skipSpace cs with
    | '"' :: rest => do
      let (name, rest) ← Json.readString .strict rest
      match Json.skipSpace rest with
      | ':' :: rest =>
        let value? := Json.readValue .strict (Json.stepsFor rest) (Json.depthLimit - 1) rest
        let (topic, payload, rest) ← (
          if name = "topic" then
            match topic, value? with
            | none, some (.text topic, rest) => some (some topic, payload, rest)
            | _, _ => none
          else if name = "payload" then
            match payload, value? with
            | none, some (value, rest) => some (topic, some value, rest)
            | _, _ => none
          else
            match Json.readValue .passing (Json.stepsFor rest) rest.length rest with
            | some (_, rest) => some (topic, payload, rest)
            | none => none : Option (Option String × Option Json × List Char))
        match Json.skipSpace rest with
        | ',' :: rest => readMembers fuel topic payload rest
        | '\x7d' :: rest => return (topic, payload, rest)
        | _ => none
      | _ => none
    | _ => none

/-- The record on a line: an object, or a list of the topic and the payload. -/
def ofLine? (line : String) : Option CaptureRecord :=
  match Json.skipSpace line.toList with
  | '\x7b' :: rest => do
    let (topic, payload, rest) ← readMembers (Json.stepsFor rest) none none rest
    if (Json.skipSpace rest).isEmpty then
      return { topic := ← topic, payload := payloadOf (payload.getD .null) }
    else none
  | cs =>
    match Json.ofChars? cs with
    | some (.list [.text topic]) => some { topic, payload := payloadOf .null }
    | some (.list [.text topic, payload]) => some { topic, payload := payloadOf payload }
    | _ => none

end CaptureRecord

/-- A replay so far: the engine, the account of the lines, and the events of the last step. -/
structure Replay where
  engine : Engine
  stats : ReplayStats := {}
  events : List Event := []
  deriving Inhabited

namespace Replay

/-- Nothing is recorded on blank lines and on comments. -/
def isIdle (text : String) : Bool :=
  match Text.trimChars text.toList with
  | [] => true
  | c :: _ => c == '#'

def line (engine : Engine) (stats : ReplayStats) (text : String) : Replay :=
  if isIdle text then { engine, stats }
  else
    let stats := { stats with lines := stats.lines + 1 }
    match CaptureRecord.ofLine? (Text.trim text) with
    | none =>
      { engine
        stats := { stats with invalid := stats.invalid + 1 }
        events := [.notARecord stats.lines "neither an object with a topic nor a list"] }
    | some record =>
      let response := engine.processMessage record.topic record.payload
      match response.result with
      | .ok report =>
        { engine := response.engine
          stats :=
            { stats with
              accepted := stats.accepted + if report.accepted then 1 else 0
              reconciliations :=
                stats.reconciliations + if report.reconciliation.isSome then 1 else 0 }
          events := response.events ++ [.reported record.topic report] }
      | .error e =>
        { engine := response.engine
          stats := { stats with accepted := stats.accepted + 1, rejected := stats.rejected + 1 }
          events := response.events ++ [.messageRejected e] }

/-- Replays lines. A line that is not UTF-8 ends the replay, which is told by the result. -/
def lines (engine : Engine) (stats : ReplayStats) : List (List UInt8) → Replay × Bool
  | [] => ({ engine, stats }, true)
  | bytes :: rest =>
    match String.fromUTF8? ⟨bytes.toArray⟩ with
    | none => ({ engine, stats }, false)
    | some text =>
      let step := line engine stats text
      let (replay, complete) := lines step.engine step.stats rest
      ({ replay with events := step.events ++ replay.events }, complete)

/-- The lines of a text. What stands after the last line feed is a line if it is not empty. -/
def splitLines (bytes : List UInt8) : List (List UInt8) :=
  let parts := bytes.splitOn 10
  match parts.getLast? with
  | some [] => parts.dropLast
  | _ => parts

/-- The lines of a text that a line feed ends. -/
def endedLines (bytes : List UInt8) : List (List UInt8) := (bytes.splitOn 10).dropLast

end Replay

end RackTelemetry
