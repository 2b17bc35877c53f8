import ScaffoldRunner.Shell.Reader
import ScaffoldRunner.System.Program
import ScaffoldRunner.System.Signal
import ScaffoldRunner.Text.Utf8

/-!
# The state of a shell

A shell has variables, functions and options, knows the processes it has started, and is somewhere
in a script. Its texts are octets. Whatever else it works on belongs to the system.
-/

namespace ScaffoldRunner.Shell

structure Variable where
  value : Option String := none
  exported : Bool := false
  isReadonly : Bool := false

/-- A process that was started in the background, with those that it is connected to. -/
structure Job where
  number : Nat
  /-- The processes in order, with how they have ended. -/
  processes : List (Nat × Option Ending)
  /-- Whether its end was told already. -/
  awaited : Bool := false

/-- What is passed over until loops or functions are left. -/
inductive Skip where
  | leaveLoops (count : Nat)
  | nextRound (count : Nat)
  /-- The flag tells whether a status was given. -/
  | leaveFunction (withStatus : Bool)
  deriving DecidableEq

/-- What is given back at the end of a command or a function. -/
inductive Shadow where
  | variable (name : String) (before : Option Variable)
  | options (before : List Char)

structure State where
  /-- The name that the shell goes by. -/
  name : String
  params : List String := []
  vars : Dict Variable := []
  functions : Dict Command := []
  /-- The letters of the options that are set. -/
  options : List Char := []
  status : Nat := 0
  /-- The status of the commands whose output was used last. -/
  outputStatus : Nat := 0
  /-- The status that stays what it was when an action on a signal has come to its end. -/
  saved : Option Nat := none
  /-- The line of the command being run. -/
  line : Nat := 0
  /-- The builtin command or the file being run, for complaints. -/
  command : String := ""
  /-- What builtin commands have put out and what was not written yet. -/
  unwritten : String := ""
  dir : String
  mask : Nat := 0o022
  skip : Option Skip := none
  loops : Nat := 0
  /-- How deep functions call each other. -/
  depth : Nat := 0
  /-- The variables and options that the commands being run have taken over, with what they were
  before. -/
  shadowed : List (List Shadow) := []
  /-- What to run on signals; number zero stands for the end of the shell. -/
  traps : List (Nat × String) := []
  /-- The signals that have come in and were not acted on yet. -/
  signals : List Nat := []
  /-- The signals that are ignored for good. -/
  deafTo : List Nat := []
  jobs : List Job := []
  /-- Where commands were found on the search path. -/
  located : Dict String := []
  lastBackground : Option Nat := none
  processId : Nat
  parentId : Nat
  reader : Reader
  /-- The argument in which the search for options goes on, counted from one, and where in it. -/
  optionIndex : Nat := 1
  optionOffset : Option Nat := none
  /-- Whether this is the shell that was started first, and not a copy of it. -/
  isFirst : Bool := true
  /-- Whether what is shown in front of a command is being expanded. -/
  isTracing : Bool := false

/-- What ends the commands that are being run. -/
inductive Stop where
  /-- An error, whose status is set. -/
  | failed
  /-- There is nothing more to do for this process. -/
  | ended
  /-- The shell was told to exit. -/
  | exited
  deriving DecidableEq

abbrev Sh := Act Stop State

namespace State

def has (s : State) (option : Char) : Bool := s.options.contains option

def var? (s : State) (name : String) : Option String := (s.vars.get? name).bind (·.value)

/-- The row of a table that a name belongs to. -/
def tableRow (rows : Nat) (name : String) : Nat :=
  let first := (name.toList.headD ' ').toNat * 16
  name.toList.foldl (fun n c => n + c.toNat) first % rows

/-- What programs get to see of the variables, in the order of the rows of the table. -/
def environment (s : State) : List (String × String) :=
  let found := s.vars.filterMap fun (name, v) =>
    if v.exported then v.value.map fun value => (name, value) else none
  found.mergeSort fun a b => tableRow 39 a.1 ≤ tableRow 39 b.1

/-- The path as seen from the root. -/
def resolve (s : State) (path : String) : String :=
  if path = "" then "" else Path.join s.dir path

def separators (s : State) : List Char :=
  match s.var? "IFS" with
  | some text => text.toList
  | none => [' ', '\t', '\n']

/-- The names and actions of the traps that are not empty. -/
def activeTraps (s : State) : List (Nat × String) := s.traps.filter fun e => e.2 ≠ ""

end State

namespace Sh

/-- How often things are repeated that have no bound of their own. -/
def rounds : Nat := Act.rounds

/-- Write octets to the output. -/
def put (octets : String) : Sh Unit := Act.put 1 octets

/-- Write octets to where complaints go. -/
def putError (octets : String) : Sh Unit := Act.put 2 octets

/-- Write a line about what went wrong, with the name of the shell, the line of the script and
the command being run. -/
def complain (text : String) : Sh Unit := do
  let s ← get
  let command := if s.command = "" then "" else s.command ++ ": "
  putError (s.name ++ ": " ++ toString s.line ++ ": " ++ command ++ text ++ "\n")

/-- Set the status of the last command. -/
def setStatus (status : Nat) : Sh Unit := modify fun s => { s with status := status }

/-- Hold text back until the builtin command being run has ended. -/
def say (octets : String) : Sh Unit := modify fun s => { s with unwritten := s.unwritten ++ octets }

/-- Write what was held back; the answer is the reason if it could not be written. -/
def flush : Sh (Option Fault) := do
  let s ← get
  if s.unwritten = "" then return none
  set { s with unwritten := "" }
  Act.write 1 s.unwritten

/-- Leave what is being run because of an error. -/
def fail {α : Type} (text : String) (status : Nat := 2) : Sh α := do
  complain text
  let _ ← flush
  setStatus status
  throw .failed

/-- Do something, and something after it in any case. -/
def ensuring {α : Type} (act : Sh α) (cleanUp : Sh Unit) : Sh α := do
  let a ← try act catch stop => cleanUp; throw stop
  cleanUp
  return a

def number? (text : String) : Option Nat :=
  let digits := text.toList
  if digits.isEmpty || !digits.all Char.isDigit then none
  else
    let n := digits.foldl (fun n d => n * 10 + (d.toNat - '0'.toNat)) 0
    if n ≤ 2147483647 then some n else none

/-- The number that an argument must stand for. -/
def number (text : String) : Sh Nat := do
  match number? text with
  | some n => return n
  | none => fail ("Illegal number: " ++ text)

/-- Note that a variable has got a value that the search for options depends on. -/
def optionsChanged (name value : String) : Sh Unit := do
  if name = "OPTIND" then
    match number? value with
    | some n => modify fun s => { s with optionIndex := max n 1, optionOffset := none }
    | none => if value ≠ "" then fail ("Illegal number: " ++ value)

/-- Give a variable a value. -/
def assign (name value : String) (exports : Bool := false) : Sh Unit := do
  if !isName name then fail (name ++ ": bad variable name")
  let s ← get
  let before := (s.vars.get? name).getD {}
  if before.isReadonly then fail (name ++ ": is read only")
  let exported := before.exported || exports || s.has 'a'
  set { s with
    vars := s.vars.insert name { before with value := some value, exported := exported }
    located := if name = "PATH" then [] else s.located }
  optionsChanged name value

/-- Take a variable's value away. -/
def unassign (name : String) : Sh Unit := do
  let s ← get
  match s.vars.get? name with
  | none => return
  | some v =>
      if v.isReadonly then fail (name ++ ": is read only")
      set { s with vars := s.vars.erase name }

/-- Remember something for the end of the command or function. -/
def remember (shadow : Shadow) : Sh Unit := modify fun s =>
  match s.shadowed with
  | [] => s
  | frame :: frames => { s with shadowed := (shadow :: frame) :: frames }

/-- Remember what a variable is. -/
def shadow (name : String) : Sh Unit := do
  remember (.variable name ((← get).vars.get? name))

/-- Begin to remember variables. -/
def openFrame : Sh Unit := modify fun s => { s with shadowed := [] :: s.shadowed }

/-- Give something back. -/
def restore (s : State) : Shadow → State
  | .variable name (some v) => { s with vars := s.vars.insert name v }
  | .variable name none => { s with vars := s.vars.erase name }
  | .options before => { s with options := before }

/-- Give back to variables what they were before. -/
def closeFrame : Sh Unit := modify fun s =>
  match s.shadowed with
  | [] => s
  | frame :: frames => frame.foldl restore { s with shadowed := frames }

/-- Close frames until so many are left. -/
def closeFrames (left : Nat) : Sh Unit := do
  for _ in List.range ((← get).shadowed.length - left) do closeFrame

end Sh

end ScaffoldRunner.Shell
