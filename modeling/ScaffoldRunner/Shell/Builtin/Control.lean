import ScaffoldRunner.Shell.Builtin

/-!
# Builtin commands that control the flow

Leaving loops, functions and the shell, and running other texts or programs.
-/

namespace ScaffoldRunner.Shell

namespace Builtin

/-- Go on after the arguments have been looked at: as many loops as they say are left, or begun
anew. -/
def loopControl (name : String) (skip : Nat → Skip) : Builtin where
  name := name
  run _ _ args := do
    let count ← match args with
      | [] => pure 1
      | arg :: _ => do
          let n ← Sh.number arg
          if n = 0 then Sh.fail ("Illegal number: " ++ arg)
          pure n
    modify fun s =>
      let count := min count s.loops
      { s with skip := if count = 0 then s.skip else some (skip count) }
    return 0

def leaveLoops : Builtin := loopControl "break" .leaveLoops

def nextRound : Builtin := loopControl "continue" .nextRound

def leaveFunction : Builtin where
  name := "return"
  run _ _ args := do
    match args with
    | [] => do
        modify fun s => { s with skip := some (.leaveFunction false) }
        return (← get).status
    | arg :: _ => do
        let status ← Sh.number arg
        modify fun s => { s with skip := some (.leaveFunction true) }
        return status

def exit : Builtin where
  name := "exit"
  run _ _ args := do
    if let arg :: _ := args then
      let status ← Sh.number arg
      modify fun s => { s with saved := some status }
    throw .exited

/-- Run the arguments as commands. -/
def eval : Builtin where
  name := "eval"
  run ev care args := do
    if args.isEmpty then return 0
    else Script.text ev { tested := care.tested } (" ".intercalate args)

/-- The file that a name stands for: itself, or the first with that name on the search path. -/
def scriptPath (s : State) (files : FileTree) (name : String) : Option String :=
  if name.toList.contains '/' then some name
  else
    (Setting.candidates (Lookup.searchPath s) name).find? fun path =>
      files.isFile (Octets.decode (s.resolve path))

/-- Run the commands of a file. -/
def source : Builtin where
  name := "."
  run ev _ args := do
    let (_, operands) ← options "" args
    match operands with
    | [] => return 0
    | name :: _ => do
        let s ← get
        match scriptPath s (← Act.files) name with
        | none => Sh.fail (name ++ ": not found")
        | some path => do
            let descriptor ← Redirection.openFile path .reading
            let text ← Act.readAll descriptor
            Act.close descriptor
            modify fun s => { s with command := path }
            Script.file ev (text.toOption.getD "")

/-- Become another program. -/
def exec : Builtin where
  name := "exec"
  run ev _ args := do
    let (_, operands) ← options "" args
    if !operands.isEmpty then Lookup.launch ev operands
    return 0

def succeed (name : String) : Builtin := { name := name, run := fun _ _ _ => return 0 }

def fail : Builtin := { name := "false", run := fun _ _ _ => return 1 }

/-- Tell what a name stands for, at length or in the form of a command. The status tells whether it
stands for anything. -/
def describe (verbose : Bool) (otherPath : Option String) (name : String) : Sh Nat := do
  let s ← get
  let tell (long short : String) : Sh Nat := do
    Sh.say ((if verbose then name ++ long else short) ++ "\n")
    return 0
  if Token.keywords.contains name then tell " is a shell keyword" name
  else
    match s.reader.aliases.get? name with
    | some value =>
        tell (" is an alias for " ++ value) ("alias " ++ name ++ "=" ++ singleQuoted value)
    | none => do
        let isLocated := (s.located.has name) && otherPath.isNone
        let found ← Lookup.find name true otherPath
        let nothing : Sh Nat := do
          if verbose then Sh.say (name ++ ": not found\n")
          return 127
        match found with
        | .function _ => tell " is a shell function" name
        | .builtin =>
            tell (if isSpecialBuiltin name then " is a special shell builtin"
              else " is a shell builtin") name
        | .program path => do
            let files ← Act.files
            if name.toList.contains '/' && !files.pathExists (Octets.decode (s.resolve path)) then
              nothing
            else tell ((if isLocated then " is a tracked alias for " else " is ") ++ path) path
        | .nothing _ => nothing

/-- Tell what names stand for. -/
def type : Builtin where
  name := "type"
  run _ _ args := do
    let statuses ← args.mapM (describe true none)
    return statuses.foldl (· ||| ·) 0

/-- Tell what a name stands for; running commands is not its own work. -/
def command : Builtin where
  name := "command"
  run _ _ args := do
    let (given, operands) ← options "pvV" args
    let letters := given.map (·.1)
    let otherPath := if letters.contains 'p' then some Setting.usualPath else none
    match operands with
    | [] => return 0
    | name :: _ =>
        if letters.contains 'V' then describe true otherPath name
        else if letters.contains 'v' then describe false otherPath name
        else return 0

/-- Remember where programs are, or tell it. -/
def hash : Builtin where
  name := "hash"
  run _ _ args := do
    let (given, operands) ← options "r" args
    if !given.isEmpty then
      modify fun s => { s with located := [] }
      return 0
    else if operands.isEmpty then
      let located := (← get).located
      for (_, path) in located.mergeSort fun a b => State.tableRow 31 a.1 ≤ State.tableRow 31 b.1 do
        Sh.say (path ++ "\n")
      return 0
    else do
      let mut status := 0
      for name in operands do
        modify fun s => { s with located := s.located.erase name }
        if let .nothing reason ← Lookup.find name then
          Sh.complain (name ++ ": " ++ Lookup.reason reason)
          status := 1
      return status

end Builtin

end ScaffoldRunner.Shell
