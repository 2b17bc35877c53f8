import ScaffoldRunner.Frame.Call
import ScaffoldRunner.Instant
import ScaffoldRunner.Workspace.FileTree

/-!
# The surroundings of a run

A run works on files, looks at the clock, calls frames and starts programs. The files and the
clock are part of the `World`; whatever runs frames and programs is a `Host`, a function of the
world with a state of its own. Nothing is assumed of a host: it may change files and let time
pass, and instead of an answer it may bring the news that the run is to stop.
-/

namespace ScaffoldRunner

/-- What surrounds a run. The state belongs to the host. -/
structure World (σ : Type) where
  files : FileTree
  now : Instant
  /-- How many ids were given out. -/
  idsGiven : Nat := 0
  state : σ

/-- The answer to a call, unless the run is interrupted during it. -/
inductive Reply (α : Type) where
  | done (answer : α)
  | interrupted

structure ProgramCall where
  program : String
  args : List String
  /-- The directory that the program starts in. -/
  workingDir : String
  /-- What is added to the environment. -/
  environment : Dict String := []
  timeoutMillis : Nat

/-- What comes of starting a program. -/
inductive ProgramOutcome where
  | notStarted (reason : String)
  | timedOut
  /-- A program that was ended by a signal has the code `-1`. -/
  | ended (code : Int) (stdout stderr : ByteArray)

/-- Whatever runs frames and programs. -/
structure Host (σ : Type) where
  callFrame : FrameCall → World σ → Reply FrameOutcome × World σ
  runProgram : ProgramCall → World σ → Reply ProgramOutcome × World σ

namespace World

variable {σ : Type}

/-- The whole second of the clock. -/
def second (world : World σ) : Nat := world.now.seconds.toNat

/-- A new id, in the form of 32 hexadecimal digits in five groups, and the world after giving it
out. -/
def freshId (world : World σ) : String × World σ :=
  let digits := Nat.toDigits 16 world.idsGiven
  let tail := List.replicate (12 - digits.length) '0' ++ digits
  ("00000000-0000-4000-8000-" ++ String.ofList tail, { world with idsGiven := world.idsGiven + 1 })

def onFiles {ε α : Type} (op : EStateM ε FileTree α) : EStateM ε (World σ) α := fun world =>
  match op world.files with
  | .ok a files => .ok a { world with files := files }
  | .error e files => .error e { world with files := files }

end World

end ScaffoldRunner
