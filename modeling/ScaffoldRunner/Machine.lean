import ScaffoldRunner.Programs
import ScaffoldRunner.System.Kernel
import ScaffoldRunner.World

/-!
# Running programs

The programs of a run are shell scripts and the utilities that are installed. A program is found
and started in its directory, and all processes that it starts run beside it; what they have
printed and the exit code of the program are the outcome. A program that takes longer than it may
is ended.
-/

namespace ScaffoldRunner

/-- What programs find around them. -/
structure Machine where
  environment : Dict String
  /-- The directory that relative working directories are below. -/
  currentDir : String
  processId : Nat := 4211

namespace Machine

/-- The input of a program, which is empty, and its two outputs, which are collected. -/
def streams : Array System.Stream :=
  #[{ target := .nowhere }, { target := .output 0, readable := false },
    { target := .output 1, readable := false }]

def system (m : Machine) (files : FileTree) (program : Program) : System.Kernel :=
  let task : System.Task :=
    { id := m.processId
      parent := 1
      descriptors := [(0, 0, true), (1, 1, true), (2, 2, true)]
      program := program }
  { files := files
    queue := [task]
    streams := streams
    outputs := #[.empty, .empty]
    nextId := m.processId + 1
    rootId := m.processId }

/-- Why a call cannot be made at all. -/
def callFailure? (call : ProgramCall) : Option String :=
  let texts := call.program :: call.workingDir :: call.args ++ call.environment.flatMap fun e =>
    [e.1, e.2]
  if texts.any fun text => text.toList.contains '\x00' then
    some "nul byte found in provided data"
  else none

def startPlace (m : Machine) (call : ProgramCall) (files : FileTree) :
    Except OsError (List String) := do
  if call.workingDir = "" then throw .notFound
  let path := Path.join m.currentDir call.workingDir
  match ← files.lookup path with
  | .dir => files.locate path
  | .file _ _ => throw .notDirectory

def setting (m : Machine) (call : ProgramCall) (place : List String) : Setting :=
  { name := Octets.encode call.program
    args := call.args.map Octets.encode
    environment := (m.environment.overlay call.environment).map fun e =>
      (Octets.encode e.1, Octets.encode e.2)
    dir := Octets.encode ("/" ++ Text.join "/" place) }

/-- What comes of a program that was run to its end or stopped before it. -/
def outcomeOf (k : System.Kernel) : ProgramOutcome :=
  match k.isDone, k.root with
  | true, some ending =>
      let code : Int := match ending with
        | .exited status => status
        | .killed _ => -1
      .ended code (k.outputs.getD 0 .empty) (k.outputs.getD 1 .empty)
  | _, _ => .timedOut

/-- Run a program on files: the outcome, the files after it and the time that it took. -/
def execute (m : Machine) (call : ProgramCall) (files : FileTree) :
    ProgramOutcome × FileTree × Nat :=
  match callFailure? call with
  | some reason => (.notStarted reason, files, 0)
  | none =>
      let files := Programs.install files
      match m.startPlace call files with
      | .error e => (.notStarted e.message, files, 0)
      | .ok place =>
          match (m.setting call place).program Programs.load files false with
          | .error e => (.notStarted e.message, files, 0)
          | .ok program =>
              if call.timeoutMillis = 0 then (.timedOut, files, 0)
              else
                let k := (m.system files program).run (call.timeoutMillis * 1000)
                let millis := if k.isDone then k.clock / 1000 else call.timeoutMillis
                (outcomeOf k, k.files, millis)

variable {σ : Type}

def runProgram (m : Machine) (call : ProgramCall) (world : World σ) :
    Reply ProgramOutcome × World σ :=
  let (outcome, files, millis) := m.execute call world.files
  (.done outcome, { world with files := files, now := world.now.addMillis millis })

end Machine

end ScaffoldRunner
