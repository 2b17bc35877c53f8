import ScaffoldRunner.Shell.Expansion
import ScaffoldRunner.Shell.Grammar

/-!
# Running scripts

A script is read one complete command at a time, and each is run before the next one is read. The
actions on signals are run between commands; the one for the end of the shell when it ends.
-/

namespace ScaffoldRunner.Shell

namespace Script

/-- Read the next complete command. -/
def next : Sh Parsed := do
  let s ← get
  match Parse.complete s.reader with
  | .ok parsed reader =>
      set { s with reader := reader }
      return parsed
  | .error fault reader =>
      set { s with reader := reader, line := fault.line }
      Sh.fail ("Syntax error: " ++ fault.text)

/-- The lines that were begun between two states of reading. -/
def linesRead (before after : Reader) : String :=
  let count := before.rest.length - after.rest.length
  let taken := before.rest.take count
  let line := if taken.getLast? = some '\n' then [] else after.rest.takeWhile (· ≠ '\n') ++ ['\n']
  String.ofList (taken ++ (if after.rest.isEmpty then [] else line))

/-- Read the next complete command and show its lines if so asked. -/
def nextShown : Sh Parsed := do
  let before ← get
  if !before.has 'v' then next
  else
    let parsed ← try next
      catch stop =>
        let s ← get
        Sh.putError (linesRead before.reader s.reader)
        throw stop
    Sh.putError (linesRead before.reader (← get).reader)
    return parsed

/-- Run the commands of the script that is being read; the answer is the status of the last
one. -/
def commands (ev : Evaluator) (care : Care) (isFile : Bool) : Nat → Nat → Sh Nat
  | 0, status => return status
  | fuel + 1, status => do
      match ← if isFile then nextShown else next with
      | .ended => return status
      | .nothing => commands ev care isFile fuel status
      | .command command => do
          let s ← get
          ev.run { care with isLast := care.isLast && s.reader.again } command
          let s ← get
          if s.skip.isSome then return s.status else commands ev care isFile fuel s.status

def reading {α : Type} (octets : String) (act : Sh α) : Sh α := do
  let outer := (← get).reader
  modify fun s => { s with reader :=
    { rest := octets.toList, documents := outer.documents, aliases := outer.aliases } }
  let goBack : Sh Unit := modify fun s => { s with reader :=
    { outer with documents := s.reader.documents, aliases := s.reader.aliases } }
  let a ← try act
    catch stop =>
      goBack
      throw stop
  goBack
  return a

/-- Run a text; the answer is the status of the last command. -/
def text (ev : Evaluator) (care : Care) (octets : String) : Sh Nat :=
  reading octets (commands ev care false Sh.rounds 0)

/-- Nothing is left to be skipped at the end of a file. -/
def endFile : Sh Unit := modify fun s =>
  match s.skip with
  | some (.leaveFunction _) => { s with skip := none }
  | _ => s

/-- Run the text of a file; the answer is the status of the last command. -/
def file (ev : Evaluator) (octets : String) : Sh Nat := do
  let status ← reading octets (commands ev {} true Sh.rounds 0)
  endFile
  return status

/-- Act on the signals that have come in. -/
def actOnSignals (ev : Evaluator) : Sh Unit := do
  let fresh ← Act.ask .pause
  if fresh.isEmpty && (← get).signals.isEmpty then return
  let before ← get
  let status := before.saved.getD before.status
  let waiting := (before.signals ++ fresh.filter fun n => !before.signals.contains n).mergeSort
  set { before with saved := some status, signals := waiting }
  for signal in waiting do
    let s ← get
    if s.skip.isNone then
      set { s with signals := s.signals.filter (· ≠ signal) }
      match s.traps.find? fun e => e.1 = signal with
      | none => pure ()
      | some (_, action) => do
          let _ ← text ev {} action
          let s ← get
          if s.skip ≠ some (.leaveFunction true) then Sh.setStatus status
  modify fun s => { s with saved := before.saved }

/-- The state in which a shell is left that has stopped. -/
def stopped (stop : Stop) (s : State) : State :=
  let keeps := stop = .exited || s.skip = some (.leaveFunction false)
  { s with
    status := if keeps then s.saved.getD s.status else s.status
    saved := none
    skip := none
    loops := 0
    unwritten := "" }

/-- End the shell with the status that it has. -/
def finish (ev : Evaluator) : Sh Unit := do
  let s ← get
  let status := s.status
  match s.traps.find? fun e => e.1 = 0 with
  | none => pure ()
  | some (_, action) => do
      set { s with
        saved := some status, skip := none, traps := s.traps.filter fun e => e.1 ≠ 0 }
      try
        let _ ← text ev {} action
        Sh.setStatus status
      catch stop => modify (stopped stop)
  Act.finish (← get).status

/-- The process of a shell that does something and then ends. -/
def process (ev : Evaluator) (act : Sh Unit) (s : State) : Program :=
  let whole : Sh Unit := do
    try act
    catch stop => modify (stopped stop)
    finish ev
  whole s (fun _ s => .ended (s.status % 256)) fun _ s => .ended (s.status % 256)

end Script

end ScaffoldRunner.Shell
