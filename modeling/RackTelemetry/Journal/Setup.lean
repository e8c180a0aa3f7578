import RackTelemetry.Files
import RackTelemetry.Journal.Directive

/-!
Opening the journal: the directive is read, and the directory of the log file is made if one is
wanted. A log file is named for the service and the day.
-/

namespace RackTelemetry.Journal

structure Setup where
  service : String := "nm2srv"
  directive : String := "info"
  dir : Option String := none
  asJson : Bool := false
  coloured : Bool := true
  deriving Repr, DecidableEq, Inhabited

inductive Fault where
  | invalidDirective (directive detail : String)
  | noDirectory (path : String) (fault : FileFault)
  | alreadyOpen (detail : String)
  deriving Repr, DecidableEq, Inhabited

def Fault.message : Fault → String
  | .invalidDirective directive detail =>
    "Invalid log filter '" ++ directive ++ "': " ++ detail
  | .noDirectory path fault =>
    "Failed to create log directory " ++ path ++ ": " ++ fault.message
  | .alreadyOpen detail => "Logging already initialized: " ++ detail

/-- The wordings of a fault and of what is behind it. -/
def Fault.causes : Fault → List String
  | .noDirectory path fault => [(Fault.noDirectory path fault).message, fault.message]
  | fault => [fault.message]

def readDirective (directive : String) : Except Fault (List Rule) :=
  match rules? directive with
  | some rules => .ok rules
  | none => .error (.invalidDirective directive "not a list of levels and names")

def prepareDirectory (files : FileTree) (path : String) : Except Fault FileTree :=
  match files.makeDirectory path with
  | .ok files => .ok files
  | .error fault => .error (.noDirectory path fault)

/-- The journal that a run keeps. `file` is the place of the log file, without the day. -/
structure Opened where
  rules : List Rule
  file : Option Place
  event : Event

def Setup.opened (setup : Setup) (files : FileTree) : Except Fault Opened := do
  let rules ← readDirective setup.directive
  match setup.dir with
  | none => return { rules, file := none, event := .loggingToConsole setup.service }
  | some dir =>
    let _ ← prepareDirectory files dir
    return {
      rules
      file := some ((Place.ofPath dir).join (setup.service ++ ".log"))
      event := .loggingToFiles setup.service dir }

end RackTelemetry.Journal
