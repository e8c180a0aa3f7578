import RackTelemetry.Service
import Std.Time

/-!
The program: it gathers what a run meets, runs the service, and does what the run asks for.
-/

namespace RackTelemetry

namespace Service

def readEnvironment : IO (List (String × String)) := do
  let known := ["RUST_LOG", "NM2SRV_CONFIG", "DEBUG"]
  try
    let bytes ← IO.FS.readBinFile "/proc/self/environ"
    return (bytes.toList.splitOn 0).filterMap fun entry => do
      let text ← String.fromUTF8? ⟨entry.toArray⟩
      match text.toList.dropWhile (· != '=') with
      | _ :: value => some (String.ofList (text.toList.takeWhile (· != '=')), String.ofList value)
      | [] => none
  catch _ =>
    known.filterMapM fun name => do
      return (← IO.getEnv name).map fun value => (name, value)

/-- Adds to a tree what stands at a path and on the way to it. -/
def probe (tree : FileTree) (path : String) : IO FileTree := do
  let names := (Place.namesOf path).filter (· != "")
  let start := Place.start path
  let mut tree := tree
  for count in List.range (names.length + 1) do
    let names := names.take count
    let name := (if start.absolute then "/" else "./") ++ "/".intercalate names
    let place := names.foldl Place.step start
    let file := System.mkFilePath [name]
    if ← file.isDir then tree := { tree with directories := place :: tree.directories }
    else if (← file.pathExists) && (tree.contents? place).isNone then
      tree := { tree with files := (place, ← IO.FS.readBinFile name) :: tree.files }
  return tree

/-- Gathers what a run on some words meets. Standard input is read only where records come from it.
-/
def gather (words : List String) : IO Surroundings := do
  let around : Surroundings := { words, environment := ← readEnvironment }
  match CommandLine.parse words around.environment with
  | .error _ => return around
  | .ok line =>
    let files ← probe {} (line.config.getD Settings.standardPath)
    let files ← match line.input with
      | some path => if line.readsInput then pure files else probe files path
      | none => pure files
    let around := { around with files }
    match settings line around with
    | .error _ => return around
    | .ok settings =>
      let files ← match settings.logging.dir with
        | some dir => probe files dir
        | none => pure files
      let input ←
        if line.readsInput && !line.validate then (← IO.getStdin).readBinToEnd else pure .empty
      return { around with files, input }

def now : IO Std.Time.DateTime := do
  return .ofTimestamp (← Std.Time.Timestamp.now) .UTC

/-- A time as it stands before a line of the journal. -/
def stamp (time : Std.Time.DateTime) : String := time.format "uuuu-MM-dd'T'HH:mm:ss.SSSSSS'Z'"

def writeLog (run : Run) (place : Place) : IO Unit := do
  let time ← now
  let path := (if place.absolute then "/" else "./") ++ "/".intercalate place.names ++ "." ++
    time.format "uuuu-MM-dd"
  let dir := (if place.absolute then "/" else "./") ++ "/".intercalate place.names.dropLast
  IO.FS.createDirAll dir
  IO.FS.withFile path .append fun file =>
    for event in run.noted do
      file.putStrLn
        (if run.asJson then Journal.object (stamp time) event
        else stamp time ++ " " ++ Journal.line false event)

def perform (run : Run) : IO UInt32 := do
  match run.logFile with
  | some place => writeLog run place
  | none => pure ()
  let console ← IO.getStderr
  for event in run.noted do
    console.putStrLn (stamp (← now) ++ " " ++ Journal.line run.coloured event)
  console.putStr (run.failure.getD "")
  let out ← IO.getStdout
  out.putStr run.printed
  out.flush
  return run.status.toUInt32

end Service

end RackTelemetry

def main (words : List String) : IO UInt32 := do
  let around ← RackTelemetry.Service.gather words
  RackTelemetry.Service.perform (RackTelemetry.Service.run around)
