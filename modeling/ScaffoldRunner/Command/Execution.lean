import ScaffoldRunner.Command.Classification
import ScaffoldRunner.Session
import ScaffoldRunner.Text.Utf8

/-!
# Running commands

A command is a program with its arguments, without a shell in between. Whatever comes of it is a
result; every result enters the history and the metrics.
-/

namespace ScaffoldRunner

/-- Where commands run, and for how long they may. -/
structure CommandSettings where
  workingDir : String
  timeoutMillis : Nat

namespace CommandResult

variable {σ : Type}

/-- The result of what came of a program that took some seconds. -/
def ofOutcome (command : String) (timeoutMillis : Nat) (seconds : Float) :
    ProgramOutcome → CommandResult
  | .notStarted reason => .notRun command reason seconds
  | .timedOut => .timedOut command (timeoutMillis / 1000) seconds
  | .ended code stdout stderr =>
      .ofOutput command code (Text.ofBytesLossy stdout) (Text.ofBytesLossy stderr) seconds

def commandText (argv : List String) : String := Text.join " " argv

/-- Run a command without entering the result anywhere. -/
def produce (host : Host σ) (settings : CommandSettings) (argv : List String) :
    SessionM σ CommandResult :=
  match argv with
  | [] => return .notRun (commandText argv) "Empty command" (secondsOfMicros 0)
  | program :: args => do
      let began := (← get).now
      let outcome ← Session.ask (host.runProgram {
        program := program
        args := args
        workingDir := settings.workingDir
        timeoutMillis := settings.timeoutMillis })
      let micros := (← get).now.microsSince began
      return .ofOutcome (commandText argv) settings.timeoutMillis (secondsOfMicros micros) outcome

/-- Enter a result into the metrics and the history. -/
def enter (result : CommandResult) (session : Session σ) : Session σ :=
  (session.count fun m => m.commandRun result.success).addCommand result

def execute (host : Host σ) (settings : CommandSettings) (argv : List String) :
    SessionM σ CommandResult := do
  let result ← produce host settings argv
  modify (enter result)
  return result

end CommandResult

end ScaffoldRunner
