import ScaffoldRunner.Workspace.Path

/-!
# Trees of files

A file tree is a finite map from absolute paths, given as lists of names, to files and
directories; the root is always a directory. Paths are walked name by name, as an operating system
does, and every operation fails with the error that the system would report.

A file is opened first, which empties it, and filled then. The disk may fail in between: it is
full, or broken. What it has taken by then is all that is left of the file, old or new.
-/

namespace ScaffoldRunner

/-- What the operating system reports when an operation on files fails. -/
inductive OsError where
  | notFound
  | execFormat
  | permissionDenied
  | alreadyExists
  | notDirectory
  | isDirectory
  | nameTooLong
  | noSpace
  | inputOutput
  | nulInPath
  | notText
  deriving DecidableEq, Repr

namespace OsError

/-- The text of a system error. -/
def message : OsError → String
  | notFound => "No such file or directory (os error 2)"
  | execFormat => "Exec format error (os error 8)"
  | permissionDenied => "Permission denied (os error 13)"
  | alreadyExists => "File exists (os error 17)"
  | notDirectory => "Not a directory (os error 20)"
  | isDirectory => "Is a directory (os error 21)"
  | nameTooLong => "File name too long (os error 36)"
  | noSpace => "No space left on device (os error 28)"
  | inputOutput => "Input/output error (os error 5)"
  | nulInPath => "file name contained an unexpected NUL byte"
  | notText => "stream did not contain valid UTF-8"

end OsError

/-- A file with its bytes and its permission bits, or a directory. -/
inductive Node where
  | file (bytes : ByteArray) (mode : Nat)
  | dir

namespace Node

/-- The permission bits of a file that has just been made. -/
def plainMode : Nat := 0o644

/-- The permission bits of a file that may be run as a program. -/
def programMode : Nat := 0o755

/-- The permission bits of a node. -/
def mode : Node → Nat
  | file _ mode => mode
  | dir => programMode

/-- Whether permission bits let a file be run by someone. -/
def mayRun (mode : Nat) : Bool := mode &&& 0o111 ≠ 0

end Node

/-- What goes wrong when the disk does not take all bytes of a file. -/
structure DiskFault where
  /-- How many bytes are written before. -/
  kept : Nat
  /-- Whether the disk is full; otherwise it is broken. -/
  full : Bool

/-- The error that the system reports for a fault of the disk. -/
def DiskFault.error (fault : DiskFault) : OsError := if fault.full then .noSpace else .inputOutput

/-- A tree of files below the root, on a disk that may fail. -/
structure FileTree where
  entries : List (List String × Node) := []
  /-- The fault, if there is one, that stops these bytes from being written at this place. -/
  fault? : List String → ByteArray → Option DiskFault := fun _ _ => none

/-- An operation on files that may fail, changing the tree even so. -/
abbrev FileM := EStateM OsError FileTree

namespace FileTree

/-- What lies at a place; the root is a directory. -/
def get? (tree : FileTree) (place : List String) : Option Node :=
  if place = [] then some .dir
  else (tree.entries.find? fun e => e.1 = place).map (·.2)

def insert (tree : FileTree) (place : List String) (node : Node) : FileTree :=
  { tree with entries := (place, node) :: tree.entries.filter fun e => e.1 ≠ place }

def remove (tree : FileTree) (place : List String) : FileTree :=
  { tree with entries := tree.entries.filter fun e => !place.isPrefixOf e.1 }

/-- The longest file name, in bytes. -/
def maxName : Nat := 255

/-- The longest path, in bytes. -/
def maxPath : Nat := 4095

/-- Follow names from a place. The place reached need not exist, but all on the way must. -/
def walk (tree : FileTree) : List String → List String → Except OsError (List String)
  | place, [] => .ok place
  | place, name :: names =>
      match tree.get? place with
      | none => .error .notFound
      | some (.file _ _) => .error .notDirectory
      | some .dir =>
          if name = "." then walk tree place names
          else if name = ".." then walk tree place.dropLast names
          else if maxName < name.utf8ByteSize then .error .nameTooLong
          else walk tree (place ++ [name]) names

/-- The names to walk along a path; a separator at the end asks for a directory. -/
def steps (path : String) : List String :=
  let names := (Text.split '/' path).filter (· ≠ "")
  if path.toList.getLast? = some '/' then names ++ ["."] else names

/-- The place that an absolute path leads to. -/
def locate (tree : FileTree) (path : String) : Except OsError (List String) :=
  if path.toList.contains '\x00' then .error .nulInPath
  else if path = "" then .error .notFound
  else if maxPath < path.utf8ByteSize then .error .nameTooLong
  else tree.walk [] (steps path)

/-- What lies at the end of a path. -/
def lookup (tree : FileTree) (path : String) : Except OsError Node := do
  match tree.get? (← tree.locate path) with
  | some node => return node
  | none => throw .notFound

/-- Whether a path leads to a file or directory. -/
def pathExists (tree : FileTree) (path : String) : Bool :=
  match tree.lookup path with
  | .ok _ => true
  | .error _ => false

def isFile (tree : FileTree) (path : String) : Bool :=
  match tree.lookup path with
  | .ok (.file _ _) => true
  | _ => false

/-- Whether a path leads to a directory. -/
def isDir (tree : FileTree) (path : String) : Bool :=
  match tree.lookup path with
  | .ok .dir => true
  | _ => false

def readBytes (tree : FileTree) (path : String) : Except OsError ByteArray := do
  match ← tree.lookup path with
  | .file bytes _ => return bytes
  | .dir => throw .isDirectory

def readText (tree : FileTree) (path : String) : Except OsError String := do
  match String.fromUTF8? (← tree.readBytes path) with
  | some text => return text
  | none => throw .notText

/-- The directory in which the last name of a path lies, and that name; the root has no name. -/
def parentAndName (tree : FileTree) (path : String) :
    Except OsError (List String × Option String) := do
  if path.toList.contains '\x00' then throw .nulInPath
  else if path = "" then throw .notFound
  else if maxPath < path.utf8ByteSize then throw .nameTooLong
  let names := (Text.split '/' path).filter (· ≠ "")
  let parent ← tree.walk [] names.dropLast
  match tree.get? parent with
  | some .dir => return (parent, names.getLast?)
  | some (.file _ _) => throw .notDirectory
  | none => throw .notFound

/-- The place that a new file would take. A separator at the end asks for a directory, which is
noticed after what is wrong further up. -/
def fileTarget (tree : FileTree) (path : String) : Except OsError (List String) := do
  let _ ← tree.parentAndName path
  if path.toList.getLast? = some '/' then throw .isDirectory
  tree.locate path

/-- Fill the file that was opened at a place. After a fault of the disk it holds what was written
before. -/
def fill (place : List String) (bytes : ByteArray) (mode : Nat) : FileM Unit := fun tree =>
  match tree.fault? place bytes with
  | none => .ok () (tree.insert place (.file bytes mode))
  | some fault =>
      .error fault.error (tree.insert place (.file (bytes.extract 0 fault.kept) mode))

/-- Put bytes into a file, with permission bits that depend on what lies there. -/
def writeWith (modeOf : Option Node → Nat) (path : String) (bytes : ByteArray) : FileM Unit :=
  fun tree =>
    match tree.fileTarget path with
    | .error e => .error e tree
    | .ok place =>
        match tree.get? place with
        | some .dir => .error .isDirectory tree
        | found => fill place bytes (modeOf found) tree

/-- Write a file, replacing what it held; that is lost even if the disk fails. -/
def write (path : String) (bytes : ByteArray) : FileM Unit :=
  writeWith (fun found => (found.map Node.mode).getD Node.plainMode) path bytes

/-- Write a file that may be run as a program. -/
def writeProgram (path : String) (bytes : ByteArray) : FileM Unit :=
  writeWith (fun _ => Node.programMode) path bytes

/-- Write a file that does not exist yet. -/
def createNew (path : String) (bytes : ByteArray) : FileM Unit := fun tree =>
  match tree.fileTarget path with
  | .error e => .error e tree
  | .ok place =>
      match tree.get? place with
      | some _ => .error .alreadyExists tree
      | none => fill place bytes Node.plainMode tree

/-- Make a directory in an existing one. -/
def makeDir (path : String) : FileM Unit := fun tree =>
  match tree.parentAndName path with
  | .error e => .error e tree
  | .ok (_, none) => .error .alreadyExists tree
  | .ok (parent, some name) =>
      if name = "." ∨ name = ".." then .error .alreadyExists tree
      else if maxName < name.utf8ByteSize then .error .nameTooLong tree
      else
        match tree.get? (parent ++ [name]) with
        | some _ => .error .alreadyExists tree
        | none => .ok () (tree.insert (parent ++ [name]) .dir)

/-- The path without its last name; `none` for the root and the empty path. -/
def parentPath? (path : String) : Option String :=
  let names := Path.names path
  if names.isEmpty then none
  else
    let parent := Text.join "/" names.dropLast
    some (if Path.isAbsolute path then "/" ++ parent else parent)

/-- Make a directory and those above it that are missing. -/
def makeDirs : Nat → String → FileM Unit
  | 0, _ => throw .notFound
  | fuel + 1, path => fun tree =>
      match makeDir path tree with
      | .ok () tree => .ok () tree
      | .error .notFound _ =>
          match parentPath? path with
          | none => .error .notFound tree
          | some parent =>
              match makeDirs fuel parent tree with
              | .error e tree => .error e tree
              | .ok () tree =>
                  match makeDir path tree with
                  | .ok () tree => .ok () tree
                  | .error e _ => if tree.isDir path then .ok () tree else .error e tree
      | .error e _ => if tree.isDir path then .ok () tree else .error e tree

/-- Make a directory and those above it that are missing. -/
def createDirAll (path : String) : FileM Unit :=
  if path = "" then pure () else makeDirs (path.length + 1) path

/-- The places below a directory with what lies there. -/
def below (tree : FileTree) (dir : List String) : List (List String × Node) :=
  tree.entries.filterMap fun (place, node) =>
    if dir.isPrefixOf place && place.length != dir.length then
      some (place.drop dir.length, node)
    else none

end FileTree

end ScaffoldRunner
