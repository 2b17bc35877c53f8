import ScaffoldRunner.Shell.Jobs

/-!
# Looking up commands

The name of a command stands for a function, a builtin command or a program on the search path.
-/

namespace ScaffoldRunner.Shell

/-- The builtin commands whose failures do not end the shell. -/
def plainBuiltins : List String :=
  ["[", "alias", "bg", "cd", "chdir", "command", "echo", "false", "fg", "getopts", "hash", "jobs",
    "kill", "printf", "pwd", "read", "test", "true", "type", "ulimit", "umask", "unalias", "wait"]

/-- Whether the failures of a builtin command end the shell. -/
def isSpecialBuiltin (name : String) : Bool := specialBuiltins.contains name || name = "local"

/-- Whether there is a builtin command of some name. -/
def isBuiltin (name : String) : Bool := isSpecialBuiltin name || plainBuiltins.contains name

/-- What the name of a command stands for. -/
inductive Found where
  | function (body : Command)
  | builtin
  | program (path : String)
  /-- Nothing that could be run, for some reason. -/
  | nothing (reason : Fault)

namespace Lookup

/-- What is said about a program that cannot be started. -/
def reason : Fault → String
  | .file .notFound | .file .notDirectory => "not found"
  | e => e.reason

/-- Look for a program among some paths. A file that may not be run is passed over, and so is what
is no file. -/
def search (files : FileTree) (s : State) : List String → OsError → Found
  | [], e => .nothing (.file e)
  | path :: paths, e =>
      match files.lookup (Octets.decode (s.resolve path)) with
      | .error .notFound | .error .notDirectory => search files s paths e
      | .error other => search files s paths other
      | .ok .dir => search files s paths .permissionDenied
      | .ok (.file _ mode) =>
          if Node.mayRun mode then .program path else search files s paths .permissionDenied

def searchPath (s : State) : String := (s.var? "PATH").getD ""

/-- Look for a program on the search path, or on another one. What was found on the search path is
remembered. -/
def program (name : String) (otherPath : Option String := none) : Sh Found := do
  if name.toList.contains '/' then return .program name
  let s ← get
  match otherPath, s.located.get? name with
  | none, some path => return .program path
  | _, _ => do
      let files ← Act.files
      let path := otherPath.getD (searchPath s)
      let found := search files s (Setting.candidates path name) .notFound
      if let .program path := found then
        if otherPath.isNone then set { s with located := s.located.insert name path }
      return found

/-- Look for a function or a builtin command. -/
def own? (s : State) (functions : Bool) (name : String) : Option Found :=
  match if functions then s.functions.get? name else none with
  | some body => some (.function body)
  | none => if isBuiltin name then some .builtin else none

def find (name : String) (functions : Bool := true) (otherPath : Option String := none) :
    Sh Found := do
  match own? (← get) functions name with
  | some found => return found
  | none => program name otherPath

/-- Complain about a program that cannot be started and leave. -/
def refuse (name : String) (e : OsError) : Sh Unit := do
  let isMissing := e = .notFound || e = .notDirectory || e = .nameTooLong
  Sh.complain (name ++ ": " ++ reason (.file e))
  Sh.setStatus (if isMissing then 127 else 126)
  throw .ended

/-- Become the first program among some paths that can be started. A file of commands that does
not say what it is for is run by a shell. -/
def launchFirst (ev : Evaluator) (setting : Setting) : List String → OsError → Sh Unit
  | [], e => refuse setting.name e
  | path :: paths, e => do
      let files ← Act.files
      match ev.load files setting path with
      | .ok program => Act.become fun _ => program
      | .error .notFound | .error .notDirectory => launchFirst ev setting paths e
      | .error .execFormat =>
          match ev.load files { setting with name := "/bin/sh", args := path :: setting.args }
            "/bin/sh" with
          | .ok program => Act.become fun _ => program
          | .error e => refuse setting.name e
      | .error e => launchFirst ev setting paths e

/-- Become a program that is looked for on the search path, or on another one. -/
def launch (ev : Evaluator) (argv : List String) (otherPath : Option String := none) :
    Sh Unit := do
  let s ← get
  let name := argv.headD ""
  let setting : Setting :=
    { name := name, args := argv.drop 1, environment := s.environment, dir := s.dir
      mask := s.mask }
  let known := if otherPath.isSome then [] else (s.located.get? name).toList
  let path := otherPath.getD (searchPath s)
  launchFirst ev setting (known ++ Setting.candidates path name) .notFound

end Lookup

end ScaffoldRunner.Shell
