import ScaffoldRunner.System.Program
import ScaffoldRunner.Workspace.Path

/-!
# What programs start with

A program starts with a name, arguments, an environment and a directory. A `Loader` makes the
program that a file holds.
-/

namespace ScaffoldRunner

/-- What a program starts with. All texts are octets. -/
structure Setting where
  /-- The name that the program is called by. -/
  name : String
  args : List String := []
  environment : List (String × String) := []
  dir : String
  /-- The permission bits that new files do not get. -/
  mask : Nat := 0o022

/-- The program that the file of some path holds. -/
abbrev Loader := FileTree → Setting → String → Except OsError Program

namespace Setting

/-- The permission bits of a new file. -/
def newMode (s : Setting) : Nat := 0o666 &&& (0o777 - s.mask)

/-- A path as seen from the root. -/
def resolve (s : Setting) (path : String) : String := if path = "" then "" else Path.join s.dir path

/-- The directories in which programs are looked for when nothing is said about it. -/
def usualPath : String := "/usr/local/sbin:/usr/local/bin:/usr/sbin:/usr/bin:/sbin:/bin"

/-- The path of a name in a directory of the search path, where no directory is the present one. -/
def within (dir name : String) : String := if dir = "" then name else dir ++ "/" ++ name

/-- The paths that a command may stand for. -/
def candidates (path name : String) : List String :=
  if name.toList.contains '/' then [name]
  else (Text.split ':' path).map fun dir => within dir name

/-- The value of a variable of the environment. -/
def value? (s : Setting) (name : String) : Option String :=
  (s.environment.find? fun e => e.1 = name).map (·.2)

/-- The search path that holds when the environment has none. -/
def plainPath : String := "/bin:/usr/bin"

/-- The first program among some paths that can be loaded. A file that may not be run is passed
over, but remembered. If so asked, a file of commands that does not say what it is for is run by a
shell. -/
def loadFirst (load : Loader) (files : FileTree) (s : Setting) (scripts : Bool) :
    List String → OsError → Except OsError Program
  | [], e => .error e
  | path :: paths, e =>
      match load files s path with
      | .ok program => .ok program
      | .error .notFound | .error .notDirectory => loadFirst load files s scripts paths e
      | .error .permissionDenied => loadFirst load files s scripts paths .permissionDenied
      | .error .execFormat =>
          if scripts then load files { s with name := "/bin/sh", args := path :: s.args } "/bin/sh"
          else .error .execFormat
      | .error e => .error e

/-- The program that the name in a setting stands for. -/
def program (load : Loader) (files : FileTree) (s : Setting) (scripts : Bool) :
    Except OsError Program :=
  if s.name = "" then .error .notFound
  else
    let searchPath := (s.value? "PATH").getD plainPath
    loadFirst load files s scripts (candidates searchPath s.name) .notFound

end Setting

end ScaffoldRunner
