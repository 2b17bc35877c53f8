import ScaffoldRunner.Shell.Script

/-!
# Processes of a shell

A shell starts processes that are copies of itself. For most it waits at once; those that are
started in the background it remembers as jobs.
-/

namespace ScaffoldRunner.Shell

namespace Job

/-- How the job has ended: the way its last process did, once all have ended. -/
def ending? (job : Job) : Option Ending :=
  if job.processes.all fun e => e.2.isSome then (job.processes.getLast?).bind (·.2) else none

def note (job : Job) (process : Nat) (ending : Ending) : Job :=
  { job with processes := job.processes.map fun e =>
      if e.1 = process then (process, some ending) else e }

end Job

namespace Jobs

/-- The place for a new job: that of one that is over and was waited for, or else a free one. -/
def freeNumber (jobs : List Job) : Nat :=
  let isTaken (number : Nat) : Bool :=
    jobs.any fun job => job.number = number && !(job.awaited && job.ending?.isSome)
  ((List.range (jobs.length + 1)).map (· + 1)).find? (!isTaken ·) |>.getD 1

/-- Make room for a new job; the answer is its number. -/
def reserve : Sh Nat := modifyGet fun s =>
  let number := freeNumber s.jobs
  (number, { s with jobs := s.jobs.filter fun job => job.number ≠ number })

/-- Remember processes as a job in the background. -/
def add (number : Nat) (processes : List Nat) : Sh Unit := modify fun s =>
  { s with
    jobs := ⟨number, processes.map fun process => (process, none), false⟩ :: s.jobs
    lastBackground := processes.getLast? }

/-- Where a process is started. -/
inductive Ground where
  | front
  /-- The input comes from nowhere unless the process is part of a longer pipeline. -/
  | back (isFirst : Bool)
  deriving DecidableEq

/-- What changes for a shell that is a copy. -/
def becomeCopy (ground : Ground) : Sh Unit := do
  let s ← get
  for (signal, _) in s.activeTraps do
    if signal ≠ 0 then Act.ask (.onSignal signal .usual)
  set { s with
    isFirst := false
    traps := s.traps.filter fun e => e.2 = ""
    signals := []
    jobs := [] }
  match ground with
  | .front => pure ()
  | .back isFirst => do
      for signal in [2, 3] do
        Act.ask (.onSignal signal .ignore)
        modify fun s => { s with deafTo := signal :: s.deafTo }
      if isFirst then
        Act.close 0
        let _ ← Act.openFile "/dev/null" .reading

/-- Start a copy of the shell that does something and ends. -/
def spawn (ev : Evaluator) (ground : Ground) (act : Sh Unit) : Sh Nat :=
  Act.fork (Script.process ev do
    becomeCopy ground
    act)

/-- Note how a process in the background has ended. -/
def note (process : Nat) (ending : Ending) : Sh Unit := modify fun s =>
  { s with jobs := s.jobs.map (·.note process ending) }

/-- Say how a process has ended that was waited for, if that is unusual. -/
def announce : Ending → Sh Unit
  | .exited _ => pure ()
  | .killed signal =>
      if signal = Signal.interrupt || signal = Signal.pipe then pure ()
      else Sh.putError (Signal.description signal ++ "\n")

/-- Wait until all processes of a job have ended. -/
def awaitAll : Nat → Job → Sh Job
  | 0, job => return job
  | fuel + 1, job => do
      if job.ending?.isSome then return job
      match ← Act.await none .full with
      | .ended process ending => do
          if job.processes.any fun e => e.1 = process then
            announce ending
            awaitAll fuel (job.note process ending)
          else
            note process ending
            awaitAll fuel job
      | _ => return job

/-- Wait for processes; the answer is the status of the last one. -/
def awaitStatus (processes : List Nat) : Sh Nat := do
  let job ← awaitAll Sh.rounds ⟨0, processes.map fun process => (process, none), false⟩
  return ((job.ending?).map Ending.status).getD 0

/-- Note which processes have ended meanwhile. -/
def reap : Nat → Sh Unit
  | 0 => return
  | fuel + 1 => do
      match ← Act.await none .none with
      | .ended process ending => do
          note process ending
          reap fuel
      | _ => return

end Jobs

end ScaffoldRunner.Shell
