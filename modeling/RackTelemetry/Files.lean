/-!
The files that a run of the service meets. A tree lists the files by their places; the directories
are those on the way to a file, those made on the way to a new one, and those that are always there.
A path is walked name by name, and what it passes through must be a directory.
-/

namespace RackTelemetry

/-- What can be wrong with a path. -/
inductive FileFault where
  | notFound
  | exists
  | notADirectory
  | isADirectory
  | nameTooLong
  | nulCharacter
  deriving Repr, DecidableEq, Inhabited

def FileFault.message : FileFault → String
  | .notFound => "No such file or directory (os error 2)"
  | .exists => "File exists (os error 17)"
  | .notADirectory => "Not a directory (os error 20)"
  | .isADirectory => "Is a directory (os error 21)"
  | .nameTooLong => "File name too long (os error 36)"
  | .nulCharacter => "file name contained an unexpected NUL byte"

/-- A place: the names that lead to it from the working directory or from the root. Two points lead
up, and stand only in front of the names of a place outside the working directory. -/
structure Place where
  absolute : Bool
  names : List String
  deriving Repr, DecidableEq, Inhabited

namespace Place

/-- The place that a name leads to. -/
def step (place : Place) (name : String) : Place :=
  if name = "" ∨ name = "." then place
  else if name = ".." then
    match place.names.getLast? with
    | none => if place.absolute then place else { place with names := [".."] }
    | some last =>
      { place with
        names := if last = ".." then place.names ++ [".."] else place.names.dropLast }
  else { place with names := place.names ++ [name] }

def namesOf (path : String) : List String := (path.toList.splitOn '/').map String.ofList

def start (path : String) : Place := { absolute := path.toList.head? = some '/', names := [] }

/-- The place of a path whose directories are all there. -/
def ofPath (path : String) : Place := (namesOf path).foldl step (start path)

def join (place : Place) (path : String) : Place :=
  if path.toList.head? = some '/' then ofPath path else (namesOf path).foldl step place

/-- Whether one place is another one or lies below it. -/
def isBelow (place above : Place) : Bool :=
  place.absolute = above.absolute && above.names.isPrefixOf place.names

/-- The path from the working directory, for a place below it. -/
def localPath? (place : Place) : Option String :=
  if place.absolute || place.names.contains ".." then none else some ("/".intercalate place.names)

end Place

/-- The files, with their contents, and directories that hold no file. -/
structure FileTree where
  files : List (Place × ByteArray) := []
  directories : List Place := []
  deriving Inhabited

namespace FileTree

def nullDevice : Place := { absolute := true, names := ["dev", "null"] }

/-- Directories of every system. -/
def systemDirectories : List Place :=
  [{ absolute := true, names := ["dev"] }, { absolute := true, names := ["tmp"] }]

def contents? (tree : FileTree) (place : Place) : Option ByteArray :=
  if place = nullDevice then some .empty else tree.files.lookup place

/-- Whether a directory stands at a place. The working directory, those above it and the root are
always there. -/
def isDirectory (tree : FileTree) (place : Place) : Bool :=
  (tree.contents? place).isNone &&
    (place.names.all (· = "..") || place ∈ systemDirectories ||
      tree.files.any (fun file => file.1.isBelow place) ||
      tree.directories.any fun dir => dir.isBelow place)

/-- Why a path cannot be walked, whatever stands on the way: it is empty or too long for the system,
or has a character that no path has. -/
def pathFault? (path : String) : Option FileFault :=
  if path.contains '\x00' then some .nulCharacter
  else if path.isEmpty then some .notFound
  else if 4096 ≤ path.utf8ByteSize then some .nameTooLong
  else none

/-- Goes on from a place, which must be a directory. -/
def step (tree : FileTree) (place : Place) (name : String) : Except FileFault Place :=
  if (tree.contents? place).isSome then .error .notADirectory
  else if !tree.isDirectory place then .error .notFound
  else if 255 < name.utf8ByteSize then .error .nameTooLong
  else .ok (place.step name)

/-- The place that a path leads to, something being there or not. A slash at the end leads on into a
directory. -/
def walk (tree : FileTree) (path : String) : Except FileFault Place :=
  match pathFault? path with
  | some fault => .error fault
  | none => (Place.namesOf path).foldlM tree.step (Place.start path)

/-- Opens what a path leads to. A directory can be opened, too, but nothing is read from it. -/
def open? (tree : FileTree) (path : String) : Except FileFault (Option ByteArray) := do
  let place ← tree.walk path
  match tree.contents? place with
  | some bytes => return some bytes
  | none => if tree.isDirectory place then return none else .error .notFound

/-- Makes one directory, at the end of a way of names from a place. -/
def makeOne (tree : FileTree) (start : Place) (names : List String) :
    Except FileFault FileTree := do
  match names.getLast? with
  | none => .error .exists
  | some last =>
    let parent ← names.dropLast.foldlM tree.step start
    let place ← tree.step parent last
    if place = parent ∨ last = ".." ∨ (tree.contents? place).isSome ∨ tree.isDirectory place then
      .error .exists
    else return { tree with directories := place :: tree.directories }

/-- Makes one directory unless it is there; `above` makes those missing on the way to it. -/
def ensure (tree : FileTree) (start : Place) (names : List String)
    (above : Unit → Except FileFault FileTree) : Except FileFault FileTree :=
  let accept (tree : FileTree) : Except FileFault FileTree :=
    match tree.makeOne start names with
    | .error .exists =>
      if tree.isDirectory (names.foldl Place.step start) then .ok tree else .error .exists
    | made => made
  match tree.makeOne start names with
  | .error .notFound => do accept (← above ())
  | _ => accept tree

/-- Makes the directories on the way to a place, given by its names from the last one on. -/
def ensureAll (tree : FileTree) (start : Place) : List String → Except FileFault FileTree
  | [] => .ok tree
  | last :: above =>
    tree.ensure start (last :: above).reverse fun _ => tree.ensureAll start above

/-- Makes a directory, and those on the way to it, if they are not there. A path that goes on with a
point after a missing directory is not made. -/
def makeDirectory (tree : FileTree) (path : String) : Except FileFault FileTree :=
  match pathFault? path with
  | some .notFound => .ok tree
  | some fault => .error fault
  | none =>
    let names := (Place.namesOf path).filter (· != "")
    tree.ensure (Place.start path) names fun _ =>
      tree.ensureAll (Place.start path) ((names.filter (· != ".")).dropLast).reverse

end FileTree

end RackTelemetry
